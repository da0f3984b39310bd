import Gateway.Supervisor.Error
/-!
The task supervisor: a table of task descriptors of fixed capacity, launched through a
launcher. A task keeps the index of its registration for ever, since no task is removed.
A descriptor needs a name of 1 to 16 bytes and a stack of at least 1024 bytes.
-/
namespace Gateway.Supervisor

def maxNameLength : Nat := 16

def minStackSize : Nat := 1024

def defaultStackSize : Nat := 4096

inductive TaskState where
  | registered
  | running
  | faulted
  deriving DecidableEq, Repr

def TaskState.tag : TaskState → String
  | .registered => "Registered"
  | .running => "Running"
  | .faulted => "Faulted"

structure TaskDescriptor where
  name : String
  stackSize : Nat := defaultStackSize
  priority : Nat
  deriving DecidableEq, Repr

def TaskDescriptor.validate (d : TaskDescriptor) : Except SupervisorError Unit :=
  if d.name.isEmpty || d.name.utf8ByteSize > maxNameLength || d.stackSize < minStackSize then
    .error .invalidArgument
  else .ok ()

def TaskDescriptor.network : TaskDescriptor := { name := "network", priority := 5 }

def TaskDescriptor.bridge : TaskDescriptor := { name := "mqtt", stackSize := 8192, priority := 4 }

structure Task where
  descriptor : TaskDescriptor
  state : TaskState
  deriving DecidableEq, Repr

/-- What starts tasks on a platform. -/
class Launcher (π : Type) where
  launch : π → TaskDescriptor → π × Bool
  headroom : π → TaskDescriptor → Option Nat

end Gateway.Supervisor

namespace Gateway
open Gateway.Supervisor

structure Supervisor (π : Type) where
  capacity : Nat
  tasks : List Task := []
  launcher : π

namespace Supervisor

variable {π : Type} [Launcher π]

/-- Appends a descriptor and returns its index. A malformed descriptor is refused before a
full table is. -/
def register (sv : Supervisor π) (d : TaskDescriptor) : Except SupervisorError (Nat × Supervisor π) :=
  match d.validate with
  | .error e => .error e
  | .ok () =>
    if sv.tasks.length ≥ sv.capacity then .error .full
    else .ok (sv.tasks.length, { sv with tasks := sv.tasks ++ [⟨d, .registered⟩] })

def setState (sv : Supervisor π) (i : Nat) (st : TaskState) : Supervisor π :=
  { sv with tasks := sv.tasks.modify i fun t => { t with state := st } }

def launchAt (sv : Supervisor π) (i : Nat) : Except SupervisorError Unit × Supervisor π :=
  match sv.tasks[i]? with
  | none => (.error (.unknownTask i), sv)
  | some t =>
    let (l, ok) := Launcher.launch sv.launcher t.descriptor
    let sv := { sv with launcher := l }
    if ok then (.ok (), sv.setState i .running) else (.error (.launchFailed i), sv.setState i .faulted)

/-- Launches the tasks from index `i` on that are not running, in index order, and stops at the
first that fails. -/
def startFrom (sv : Supervisor π) (i : Nat) : Nat → Except SupervisorError Unit × Supervisor π
  | 0 => (.ok (), sv)
  | n + 1 =>
    match sv.tasks[i]? with
    | none => (.ok (), sv)
    | some t =>
      if t.state = .running then sv.startFrom (i + 1) n
      else match sv.launchAt i with
        | (.ok (), sv) => sv.startFrom (i + 1) n
        | (.error e, sv) => (.error e, sv)

def startAll (sv : Supervisor π) : Except SupervisorError Unit × Supervisor π :=
  sv.startFrom 0 sv.tasks.length

def attach (sv : Supervisor π) (d : TaskDescriptor) : Except SupervisorError Nat × Supervisor π :=
  match sv.register d with
  | .error e => (.error e, sv)
  | .ok (i, sv) =>
    match sv.launchAt i with
    | (.ok (), sv) => (.ok i, sv)
    | (.error e, sv) => (.error e, sv)

def stackHeadroom (sv : Supervisor π) (i : Nat) : Except SupervisorError Nat :=
  match sv.tasks[i]? with
  | none => .error (.unknownTask i)
  | some t =>
    if t.state ≠ .running then .ok 0
    else .ok ((Launcher.headroom sv.launcher t.descriptor).getD 0)

end Supervisor

end Gateway
