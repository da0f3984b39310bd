import Gateway.Supervisor.Basic
/-!
A supervisor over a recording launcher: launching a task whose name is on a fail list fails,
every other launch is recorded, and the headroom of a task is half its stack where the
platform measures it.
-/
namespace Gateway.Scenario
open Gateway.Supervisor

structure Recorder where
  failOn : List String := []
  measure : Bool := true
  launched : List String := []

instance : Launcher Recorder where
  launch r d := if r.failOn.contains d.name then (r, false) else ({ r with launched := r.launched ++ [d.name] }, true)
  headroom r d := if r.measure then some (d.stackSize / 2) else none

inductive TaskCall where
  | register (d : TaskDescriptor)
  | attach (d : TaskDescriptor)
  | startAll
  | taskCount
  | taskName (i : Nat)
  | state (i : Nat)
  | stackHeadroom (i : Nat)
  | setFailOn (names : List String)
  | logReport

inductive TaskReply where
  | none
  | placed (d : TaskDescriptor) (r : Except SupervisorError Nat)
  | started (r : Except SupervisorError Unit)
  | count (n : Nat)
  | headroom (r : Except SupervisorError Nat)
  | name (n : Option String)
  | state (s : Option TaskState)

def TaskCall.perform (sv : Supervisor Recorder) : TaskCall → TaskReply × Supervisor Recorder
  | .register d => match sv.register d with
    | .ok (i, sv) => (.placed d (.ok i), sv)
    | .error e => (.placed d (.error e), sv)
  | .attach d => let (r, sv) := sv.attach d; (.placed d r, sv)
  | .startAll => let (r, sv) := sv.startAll; (.started r, sv)
  | .taskCount => (.count sv.tasks.length, sv)
  | .taskName i => (.name (sv.tasks[i]?.map (·.descriptor.name)), sv)
  | .state i => (.state (sv.tasks[i]?.map (·.state)), sv)
  | .stackHeadroom i => (.headroom (sv.stackHeadroom i), sv)
  | .setFailOn names => (.none, { sv with launcher := { sv.launcher with failOn := names } })
  | .logReport => (.none, sv)

end Gateway.Scenario
