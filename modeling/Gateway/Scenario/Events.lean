import Gateway.Hub.Events
/-!
Event bits driven step by step, with a wait that may run beside a task that sets bits later.
-/
namespace Gateway.Scenario
open Gateway.Hub Gateway.Sched

inductive BitsCall where
  | set (mask : EventBits)
  | clear (mask : EventBits)
  | assign (mask : EventBits) (value : Bool)
  | get
  | isSet (mask : EventBits)
  | wait (mask : EventBits) (clearOnExit requireAll : Bool) (timeout : Nat)
      (setter : Option (Nat × EventBits))
  | sleep (d : Nat)

inductive BitsReply where
  | none
  | bits (b : EventBits)
  | flag (b : Bool)
  | stuck

structure BitsRun where
  bits : EventBits
  now : Nat := 0

def selfLens {σ : Type} : Lens σ σ := ⟨id, fun _ b => b⟩

def BitsRun.step (r : BitsRun) : BitsCall → BitsReply × BitsRun
  | .set m => (.none, { r with bits := r.bits.set m })
  | .clear m => (.none, { r with bits := r.bits.clear m })
  | .assign m v => (.none, { r with bits := r.bits.assign m v })
  | .get => (.bits r.bits, r)
  | .isSet m => (.flag (r.bits.contains m), r)
  | .wait m c a t setter =>
    let other : Job EventBits Unit := match setter with
      | some (d, mask) => .pause d (.now (fun b => (b.set mask, ())) .done)
      | none => .done ()
    match Job.join r.now r.bits (waitJob selfLens m c a t .done) other with
    | some e => (.bits e.first, ⟨e.state, e.now⟩)
    | none => (.stuck, r)
  | .sleep d => (.none, { r with now := r.now + d })

end Gateway.Scenario
