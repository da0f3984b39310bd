/-!
Machine words of the 64-bit host, and the run-time checks the program makes on them. Cursors,
sizes and seconds are words. A sum past the largest word, or a copy inside a buffer that would end
past its end, fails its check: the call stops there (`Checked.stops`), where an error the call
returns is a value it hands back (`Checked.error`).
-/
namespace Gateway

def wordMax : Nat := 18446744073709551615

/-- The run-time checks that stop the program when they fail. -/
inductive Panic where
  | addOverflow
  | copyOutOfBounds
  deriving DecidableEq, Repr

def Panic.message : Panic → String
  | .addOverflow => "attempt to add with overflow"
  | .copyOutOfBounds => "dest is out of bounds"

/-- How a call ends that may also fail a run-time check. -/
inductive Checked (ε α : Type) where
  | ok (a : α)
  | error (e : ε)
  | stops (why : Panic)
  deriving DecidableEq, Repr

def Checked.ofExcept {ε α : Type} : Except ε α → Checked ε α
  | .ok a => .ok a
  | .error e => .error e

@[simp] theorem Checked.ofExcept_ok {ε α : Type} (a : α) : Checked.ofExcept (.ok a : Except ε α) = .ok a := rfl

@[simp] theorem Checked.ofExcept_error {ε α : Type} (e : ε) :
    Checked.ofExcept (.error e : Except ε α) = .error e := rfl

@[simp] theorem Checked.ofExcept_ne_stops {ε α : Type} (r : Except ε α) (why : Panic) :
    Checked.ofExcept r ≠ .stops why := by
  cases r <;> nofun

@[simp] theorem Checked.ofExcept_eq_ok_iff {ε α : Type} {r : Except ε α} {a : α} :
    Checked.ofExcept r = .ok a ↔ r = .ok a := by
  cases r <;> simp [Checked.ofExcept]

@[simp] theorem Checked.ofExcept_eq_error_iff {ε α : Type} {r : Except ε α} {e : ε} :
    Checked.ofExcept r = .error e ↔ r = .error e := by
  cases r <;> simp [Checked.ofExcept]

end Gateway
