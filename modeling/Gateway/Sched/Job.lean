/-!
Cooperative jobs over shared state and a virtual clock. A job runs without taking time until
it waits: for an instant (`sleep`), or for the state to let it go on, up to a deadline
(`await`). A timer never fires on the poll that arms it, so a job that waits for an instant
already passed still yields once.

`Job.poll` runs a job until it waits again. Two jobs run together (`Job.join`) in rounds:
each round polls the first and then the second; while a round moves either of them another
round follows at the same instant, and otherwise the clock jumps to the earliest deadline
they wait for.
-/
namespace Gateway.Sched

/-- A job over state `σ` that ends with a value of type `α`. -/
inductive Job (σ α : Type) where
  | done (a : α)
  | step (f : Nat → σ → σ × Job σ α)
  | sleep (deadline : Nat) (armed : Bool) (next : Job σ α)
  | await (ready : σ → Option (σ × Job σ α)) (deadline : Nat) (armed : Bool) (expired : Job σ α)

/-- A view of one part of a state. -/
structure Lens (σ τ : Type) where
  get : σ → τ
  set : σ → τ → σ

namespace Job

variable {σ α β : Type}

def now (f : σ → σ × α) (k : α → Job σ β) : Job σ β := .step fun _ s => let (s, a) := f s; (s, k a)

def pause (d : Nat) (next : Job σ α) : Job σ α := .step fun t s => (s, .sleep (t + d) false next)

def within (timeout : Nat) (ready : σ → Option (σ × Job σ α)) (expired : Job σ α) : Job σ α :=
  .step fun t s => (s, .await ready (t + timeout) false expired)

/-- Polls `j` at time `t`: runs it until it finishes or waits. The flag says whether it
moved. `fuel` bounds the steps of one poll. -/
def poll : Nat → Nat → σ → Job σ α → σ × Job σ α × Bool
  | 0, _, s, j => (s, j, false)
  | _ + 1, _, s, .done a => (s, .done a, false)
  | fuel + 1, t, s, .step f =>
    let (s, k) := f t s
    let (s, k, _) := poll fuel t s k
    (s, k, true)
  | fuel + 1, t, s, .sleep d armed next =>
    if armed && d ≤ t then
      let (s, k, _) := poll fuel t s next
      (s, k, true)
    else (s, .sleep d true next, !armed)
  | fuel + 1, t, s, .await ready d armed expired =>
    match ready s with
    | some (s, k) =>
      let (s, k, _) := poll fuel t s k
      (s, k, true)
    | none =>
      if armed && d ≤ t then
        let (s, k, _) := poll fuel t s expired
        (s, k, true)
      else (s, .await ready d true expired, !armed)

def deadline? : Job σ α → Option Nat
  | .sleep d _ _ => some d
  | .await _ d _ _ => some d
  | _ => none

def result? : Job σ α → Option α
  | .done a => some a
  | _ => none

def earliest : Option Nat → Option Nat → Option Nat
  | some a, some b => some (min a b)
  | some a, none => some a
  | none, b => b

def pollFuel : Nat := 64

/-- How two jobs that ran together ended. -/
structure Joint (σ α β : Type) where
  state : σ
  now : Nat
  first : α
  second : β

/-- Runs two jobs together in rounds, at most `rounds` of them; `none` when both wait for
nothing or the rounds ran out. -/
def joinFor : Nat → Nat → σ → Job σ α → Job σ β → Option (Joint σ α β)
  | 0, _, _, _, _ => none
  | rounds + 1, t, s, a, b =>
    let (s, a, movedA) := a.poll pollFuel t s
    let (s, b, movedB) := b.poll pollFuel t s
    match a.result?, b.result? with
    | some x, some y => some ⟨s, t, x, y⟩
    | _, _ =>
      if movedA || movedB then joinFor rounds t s a b
      else match earliest a.deadline? b.deadline? with
        | some d => joinFor rounds (max t d) s a b
        | none => none

def roundLimit : Nat := 4096

def join (t : Nat) (s : σ) (a : Job σ α) (b : Job σ β) : Option (Joint σ α β) :=
  joinFor roundLimit t s a b

def solo (t : Nat) (s : σ) (a : Job σ α) : Option (Joint σ α Unit) := join t s a (.done ())

end Job

end Gateway.Sched
