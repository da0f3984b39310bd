import Gateway.Word
/-!
Computations against a virtual clock of microseconds. A computation runs without taking time
until it waits for an instant; while it waits nothing else runs, so waiting only moves the
clock. A bounded run stops at the first wait for an instant past its limit, and keeps the
state it had reached there.
-/
namespace Gateway

structure Clock where
  now : Nat
  limit : Option Nat := none
  deriving DecidableEq, Repr

/-- Why a run stopped before it finished. -/
inductive Halt where
  | limitReached
  | panic (why : Panic)
  deriving DecidableEq, Repr

abbrev Timed (σ : Type) := EStateM Halt (σ × Clock)

namespace Timed

variable {σ τ α : Type}

def now : Timed σ Nat := fun p => .ok p.2.now p

def read : Timed σ σ := fun p => .ok p.1 p

def write (s : σ) : Timed σ Unit := fun p => .ok () (s, p.2)

def update (f : σ → σ) : Timed σ Unit := fun p => .ok () (f p.1, p.2)

def waitUntil (t : Nat) : Timed σ Unit := fun (s, c) =>
  match c.limit with
  | some l => if l < t then .error .limitReached (s, c) else .ok () (s, { c with now := max c.now t })
  | none => .ok () (s, { c with now := max c.now t })

def sleep (d : Nat) : Timed σ Unit := fun p => waitUntil (p.2.now + d) p

def halt (h : Halt) : Timed σ α := fun p => .error h p

def focus (part : σ → τ) (put : σ → τ → σ) (m : Timed τ α) : Timed σ α := fun (s, c) =>
  match m (part s, c) with
  | .ok a (t, c') => .ok a (put s t, c')
  | .error e (t, c') => .error e (put s t, c')

/-- Rounds enough to pass `span` when all rounds but one take at least `period`, and at least a
microsecond: a bounded run of that many rounds halts before it ends. -/
def roundsWithin (span period : Nat) : Nat := span / max period 1 + 2

/-- The end of a run: its value, unless it halted, and the state and clock it left. -/
structure Ending (σ α : Type) where
  value : Option α
  state : σ
  clock : Clock
  halt : Option Halt

def start (m : Timed σ α) (s : σ) (c : Clock) : Ending σ α :=
  match m (s, c) with
  | .ok a (s', c') => ⟨some a, s', c', none⟩
  | .error h (s', c') => ⟨none, s', c', some h⟩

def Ending.panic {α : Type} (e : Ending σ α) : Option Panic :=
  match e.halt with
  | some (.panic why) => some why
  | _ => none

end Timed

end Gateway
