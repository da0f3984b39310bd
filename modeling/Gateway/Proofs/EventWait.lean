import Mathlib
import Gateway.Proofs.BoundedJobs
import Gateway.Scenario.Events
/-!
Waiting on event bits beside other tasks. A wait checks its condition at every poll, in the same
step as it clears what it saw, so no other task runs between the check and the clear. While it
waits it is polled again right after every poll of the task beside it, and the clock jumps only
to the earliest deadline the two wait for, never past the wait's own.

Main statement (`wait_bits_answers_by_deadline`): beside any other task that ends, whatever it
sets or clears, a wait returns, and answers the bits of its mask it saw at its last poll, no later than its deadline;
it succeeds exactly when one of its polls found the condition, and then clears exactly the bits
it answers, if asked to, and nothing else; on timeout it changes nothing, answers at the
deadline, and no state the other task left before the deadline met the condition.
-/
namespace Gateway.Hub.EventBits

theorem ext_val {a b : EventBits} (same : a.val = b.val) : a = b := by
  cases a
  cases b
  simp_all

@[simp] theorem val_and (a b : EventBits) : (a &&& b).val = a.val &&& b.val := rfl

@[simp] theorem val_or (a b : EventBits) : (a ||| b).val = a.val ||| b.val := rfl

@[simp] theorem val_not (a : EventBits) : (~~~a).val = ~~~a.val := rfl

@[simp] theorem val_none : EventBits.none.val = 0 := rfl

theorem and_mask_and_mask (b mask : EventBits) : b &&& mask &&& mask = b &&& mask :=
  ext_val (by simp [UInt32.and_assoc])

theorem satisfies_and_mask (b mask : EventBits) (requireAll : Bool) :
    (b &&& mask).satisfies mask requireAll = b.satisfies mask requireAll := by
  simp only [satisfies, and_mask_and_mask]

theorem clear_seen (b mask : EventBits) :
    b.clear (b &&& mask) &&& (b &&& mask) = .none ∧ b.clear (b &&& mask) ||| (b &&& mask) = b := by
  -- Bit by bit: a bit of `b` inside the mask goes, one outside it stays.
  constructor
  · apply ext_val
    rw [← UInt32.toBitVec_inj]
    simp only [clear, val_and, val_not, val_none, UInt32.toBitVec_and, UInt32.toBitVec_not,
      UInt32.toBitVec_zero]
    ext i hi
    simp only [BitVec.getElem_and, BitVec.getElem_not, BitVec.getElem_zero]
    cases b.val.toBitVec[i] <;> cases mask.val.toBitVec[i] <;> simp
  · apply ext_val
    rw [← UInt32.toBitVec_inj]
    simp only [clear, val_and, val_or, val_not, UInt32.toBitVec_and, UInt32.toBitVec_or,
      UInt32.toBitVec_not]
    ext i hi
    simp only [BitVec.getElem_and, BitVec.getElem_or, BitVec.getElem_not]
    cases b.val.toBitVec[i] <;> cases mask.val.toBitVec[i] <;> simp

end Gateway.Hub.EventBits

namespace Gateway.Sched.Job

variable {σ α β : Type}

theorem earliest_le {d d' : Nat} {other : Option Nat} (found : earliest (some d) other = some d') : d' ≤ d := by
  cases other <;> simp only [earliest, Option.some.injEq] at found <;> omega

theorem joinFor_ended_first {k t : Nat} {s s₁ : σ} {a : Job σ α} {b : Job σ β} {x : α} {moved : Bool}
    {e : Joint σ α β} (polled : a.poll pollFuel t s = (s₁, .done x, moved))
    (joined : joinFor (k + 1) t s a b = some e) :
    e.first = x ∧ ∃ idle pb, (∀ q ∈ idle, q.Idle) ∧ Chain s (rounds (⟨t, s, s₁⟩ :: idle) pb) e.state ∧
      Lockstep t (⟨t, s, s₁⟩ :: idle) pb := by
  rcases polledB : b.poll pollFuel t s₁ with ⟨s₂, b₁, movedB⟩
  rcases joinFor_succ polled polledB joined with ⟨x', y, same, -, rfl⟩ | ⟨t', later, -, rest⟩
  · cases same
    exact ⟨rfl, [], [⟨t, s₁, s₂⟩], by simp, .round rfl rfl (.nil _), .round rfl rfl le_rfl (.nil t)⟩
  · obtain ⟨pa, pb, ranA, -, chain, timed⟩ := joinFor_timed rest
    obtain ⟨ended, idle⟩ := ranA.of_done
    exact ⟨Job.done.inj ended, pa, ⟨t, s₁, s₂⟩ :: pb, idle, .round rfl rfl chain,
      .round rfl rfl later timed⟩

section Waiting

variable {ready : σ → Option (σ × Job σ α)} {ex : Job σ α} {t : Nat} {s : σ}

/-- A wait whose continuations, ready or expired, end at once. -/
structure EndsAtOnce (ready : σ → Option (σ × Job σ α)) (ex : Job σ α) : Prop where
  ready : ∀ s s₁ k, ready s = some (s₁, k) → ∃ s₂ a, k.EndsAt s₁ s₂ a
  expired : ∀ s, ∃ s' a, ex.EndsAt s s' a

theorem await_poll_cases (once : EndsAtOnce ready ex) (d : Nat) (armed : Bool) (t : Nat) (s : σ) (m : Nat) :
    (∃ s₁ k s₂ a, ready s = some (s₁, k) ∧ k.EndsAt s₁ s₂ a ∧
      (Job.await ready d armed ex).poll (m + 2) t s = (s₂, .done a, true)) ∨
    (ready s = none ∧ armed = true ∧ d ≤ t ∧ ∃ s₂ a, ex.EndsAt s s₂ a ∧
      (Job.await ready d armed ex).poll (m + 2) t s = (s₂, .done a, true)) ∨
    (ready s = none ∧ ¬ (armed = true ∧ d ≤ t) ∧
      (Job.await ready d armed ex).poll (m + 2) t s = (s, .await ready d true ex, !armed)) := by
  cases found : ready s with
  | some got =>
    obtain ⟨s₁, k⟩ := got
    obtain ⟨s₂, a, ended⟩ := once.ready s s₁ k found
    refine .inl ⟨s₁, k, s₂, a, rfl, ended, ?_⟩
    rw [poll_await_ready found, (ended m t).1, (ended m t).2]
  | none =>
    by_cases late : armed = true ∧ d ≤ t
    · obtain ⟨s₂, a, ended⟩ := once.expired s
      refine .inr (.inl ⟨rfl, late.1, late.2, s₂, a, ended, ?_⟩)
      rw [poll_await_expired found late, (ended m t).1, (ended m t).2]
    · exact .inr (.inr ⟨rfl, late, poll_await_waits found late⟩)

theorem await_poll_fuel (once : EndsAtOnce ready ex) {d : Nat} {armed : Bool} (m m' : Nat) :
    (Job.await ready d armed ex).poll (m + 2) t s = (Job.await ready d armed ex).poll (m' + 2) t s := by
  rcases await_poll_cases once d armed t s m with ⟨s₁, k, s₂, a, found, ended, polled⟩ |
    ⟨found, late, past, s₂, a, ended, polled⟩ | ⟨found, early, polled⟩
  · rw [polled, poll_await_ready found, (ended m' t).1, (ended m' t).2]
  · rw [polled, poll_await_expired found ⟨late, past⟩, (ended m' t).1, (ended m' t).2]
  · rw [polled, poll_await_waits found early]

theorem joinFor_within (once : EndsAtOnce ready ex) (k timeout : Nat) (b : Job σ β) :
    joinFor k t s (within timeout ready ex) b = joinFor k t s (.await ready (t + timeout) false ex) b := by
  cases k with
  | zero => rfl
  | succ k =>
    have first : (within timeout ready ex).poll pollFuel t s =
        (Job.await ready (t + timeout) false ex).poll pollFuel t s := by
      show (within timeout ready ex).poll (61 + 3) t s = (Job.await ready (t + timeout) false ex).poll (62 + 2) t s
      rw [await_poll_fuel once 62 61, within, poll_step]
      -- An unarmed wait moves at its poll: it ends, or arms its timer.
      rcases await_poll_cases once (t + timeout) false t s 61 with
        ⟨_, _, _, _, _, _, polled⟩ | ⟨_, armed, _⟩ | ⟨_, _, polled⟩
      · rw [polled]
      · cases armed
      · rw [polled]
        rfl
    simp only [joinFor, first]

theorem joinFor_await_ends_by (once : EndsAtOnce ready ex) {k d : Nat} {armed : Bool} {b : Job σ β}
    {e : Joint σ α β} (joined : joinFor k t s (.await ready d armed ex) b = some e) (early : t ≤ d) :
    ∃ pa pb waited p idle, pa = waited ++ p :: idle ∧ Chain s (rounds pa pb) e.state ∧ Lockstep t pa pb ∧
      (∀ q ∈ waited, ready q.before = none ∧ q.Idle) ∧ (∀ q ∈ idle, q.Idle) ∧ p.time ≤ d ∧
      ((∃ s₁ k, ready p.before = some (s₁, k) ∧ k.EndsAt s₁ p.after e.first) ∨
        (ready p.before = none ∧ ex.EndsAt p.before p.after e.first ∧ d ≤ p.time ∧
          (armed = true ∨ waited ≠ []))) := by
  induction k generalizing t s armed b with
  | zero => cases joined
  | succ k ih =>
    rcases await_poll_cases once d armed t s 62 with ⟨s₁, K, s₂, a, found, ended, polled⟩ |
      ⟨found, late, past, s₂, a, ended, polled⟩ | ⟨found, waits, polled⟩
    · -- Ready at its first poll: the wait ends there.
      obtain ⟨rfl, idle, pb, after, chain, timed⟩ := joinFor_ended_first polled joined
      exact ⟨_, pb, [], ⟨t, s, s₂⟩, idle, rfl, chain, timed, by simp, after, early,
        .inl ⟨s₁, K, found, ended⟩⟩
    · -- Past its armed deadline at its first poll: the wait ends as `expired`.
      obtain ⟨rfl, idle, pb, after, chain, timed⟩ := joinFor_ended_first polled joined
      exact ⟨_, pb, [], ⟨t, s, s₂⟩, idle, rfl, chain, timed, by simp, after, early,
        .inr ⟨found, ended, past, .inl late⟩⟩
    · -- Not yet: the wait arms its timer, and the next round is no later than `d`.
      rcases polledB : b.poll pollFuel t s with ⟨s₂, b₁, movedB⟩
      rcases joinFor_succ polled polledB joined with ⟨x, y, stuck, -, -⟩ | ⟨t', later, next, rest⟩
      · cases stuck
      -- The clock stays, or jumps to the earliest deadline, which is no later than the wait's.
      have byDeadline : t' ≤ d := by
        rcases next with rfl | ⟨d', found', rfl⟩
        · exact early
        · exact max_le early (earliest_le found')
      obtain ⟨pa, pb, waited, p, idle, rfl, chain, timed, before, after, byD, outcome⟩ := ih rest byDeadline
      refine ⟨_, ⟨t, s, s₂⟩ :: pb, ⟨t, s, s⟩ :: waited, p, idle, rfl, .round rfl rfl chain,
        .round rfl rfl later timed, ?_, after, byD, ?_⟩
      · intro q mem
        rcases List.mem_cons.mp mem with rfl | later
        · exact ⟨found, rfl⟩
        · exact before q later
      · rcases outcome with ready | ⟨none_yet, ends, past, -⟩
        · exact .inl ready
        · exact .inr ⟨none_yet, ends, past, .inr (List.cons_ne_nil _ _)⟩

theorem joinFor_within_ends_by (once : EndsAtOnce ready ex) {k timeout : Nat} {b : Job σ β}
    {e : Joint σ α β} (joined : joinFor k t s (within timeout ready ex) b = some e) :
    ∃ pa pb waited p idle, pa = waited ++ p :: idle ∧ Chain s (rounds pa pb) e.state ∧ Lockstep t pa pb ∧
      (∀ q ∈ waited, ready q.before = none ∧ q.Idle) ∧ (∀ q ∈ idle, q.Idle) ∧ p.time ≤ t + timeout ∧
      ((∃ s₁ k, ready p.before = some (s₁, k) ∧ k.EndsAt s₁ p.after e.first) ∨
        (ready p.before = none ∧ ex.EndsAt p.before p.after e.first ∧ t + timeout ≤ p.time ∧
          waited ≠ [])) := by
  rw [joinFor_within once] at joined
  obtain ⟨pa, pb, waited, p, idle, split, chain, timed, before, after, byD, outcome⟩ :=
    joinFor_await_ends_by once joined (Nat.le_add_right t timeout)
  refine ⟨pa, pb, waited, p, idle, split, chain, timed, before, after, byD, ?_⟩
  rcases outcome with ready | ⟨none_yet, ends, past, later⟩
  · exact .inl ready
  · exact .inr ⟨none_yet, ends, past, later.resolve_left Bool.false_ne_true⟩

end Waiting

end Gateway.Sched.Job

namespace Gateway.Hub
open Gateway.Sched Gateway.Sched.Job

variable {σ β : Type} {l : Lens σ EventBits} {mask : EventBits} {clearOnExit requireAll : Bool}

theorem joinFor_waitJob {k t timeout : Nat} {s : σ} {b : Job σ β} {e : Joint σ EventBits β}
    (joined : joinFor k t s (waitJob l mask clearOnExit requireAll timeout .done) b = some e) :
    ∃ pa pb waited p idle, pa = waited ++ p :: idle ∧ Chain s (rounds pa pb) e.state ∧ Lockstep t pa pb ∧
      (∀ q ∈ waited, (l.get q.before).satisfies mask requireAll = false ∧ q.Idle) ∧ (∀ q ∈ idle, q.Idle) ∧
      p.time ≤ t + timeout ∧ e.first = l.get p.before &&& mask ∧
      ((l.get p.before).satisfies mask requireAll = true ∧
          p.after = l.set p.before (if clearOnExit then (l.get p.before).clear e.first else l.get p.before) ∨
        (l.get p.before).satisfies mask requireAll = false ∧ p.Idle ∧ t + timeout ≤ p.time) := by
  unfold waitJob at joined
  obtain ⟨pa, pb, waited, p, idle, split, chain, timed, before, after, byD, outcome⟩ :=
    joinFor_within_ends_by (by
      constructor
      · intro s s₁ k found
        simp only [Option.ite_none_right_eq_some, Option.some.injEq, Prod.mk.injEq] at found
        obtain ⟨-, -, rfl⟩ := found
        exact ⟨s₁, _, EndsAt.done s₁ _⟩
      · exact fun s => ⟨s, l.get s &&& mask, EndsAt.step fun _ => rfl⟩) joined
  refine ⟨pa, pb, waited, p, idle, split, chain, timed, fun q mem => ?_, after, byD, ?_⟩
  · obtain ⟨found, same⟩ := before q mem
    simp only [ite_eq_right_iff, reduceCtorEq, imp_false, Bool.not_eq_true] at found
    exact ⟨found, same⟩
  · rcases outcome with ⟨s₁, K, found, ended⟩ | ⟨found, ended, past, -⟩
    · -- The condition held: the poll answered and cleared in one step.
      simp only [Option.ite_none_right_eq_some, Option.some.injEq, Prod.mk.injEq] at found
      obtain ⟨holds, rfl, rfl⟩ := found
      obtain ⟨left, answer⟩ := ended.of_done
      refine ⟨answer, .inl ⟨holds, ?_⟩⟩
      rw [answer]
      exact left
    · -- The deadline passed: the poll read the bits and changed nothing.
      simp only [ite_eq_right_iff, reduceCtorEq, imp_false, Bool.not_eq_true] at found
      obtain ⟨left, answer⟩ := ended.unique (EndsAt.step fun _ => rfl)
      exact ⟨answer, .inr ⟨found, left, past⟩⟩

theorem waitJob_bounded {n : Nat} {k : EventBits → Job σ β} (ends : ∀ b, (k b).Bounded n) (l : Lens σ EventBits)
    (mask : EventBits) (clearOnExit requireAll : Bool) (timeout : Nat) :
    (waitJob l mask clearOnExit requireAll timeout k).Bounded (n + 4) := by
  refine Bounded.within (fun s s' j found => ?_) (Bounded.now ends)
  simp only [Option.ite_none_right_eq_some, Option.some.injEq, Prod.mk.injEq] at found
  obtain ⟨-, -, rfl⟩ := found
  exact (ends _).mono (Nat.le_succ n)

open Gateway.Scenario

/-- A wait for `mask` from instant `t`, beside any other task on the bits that ends, whatever that
task sets or clears and whenever, given the rounds for both: the wait returns, and answers bits of
its mask, those it saw at its last poll, which is no later than its deadline `t + timeout`, and the
polls before that one changed nothing. It succeeds, its answer meeting the condition, exactly when
one of its polls found the condition; then, in that same poll, it clears exactly the bits it
answers if asked to, and touches no bit otherwise. On timeout it changes nothing, answers at the
deadline, and no state the other task left before the deadline met the condition: it is polled
right after each poll of the other task, so a condition that task makes true in time is seen. -/
theorem wait_bits_answers_by_deadline (mask : EventBits) (clearOnExit requireAll : Bool) (timeout t : Nat)
    (bits : EventBits) {β : Type} (other : Job EventBits β) (n budget : Nat) (ends : other.Bounded n)
    (enough : 2 * (n + 4) + 2 ≤ budget) :
    ∃ e, Job.joinFor budget t bits (waitJob selfLens mask clearOnExit requireAll timeout .done) other = some e ∧
    e.first &&& mask = e.first ∧
    ∃ pa pb waited p idle, pa = waited ++ p :: idle ∧ Chain bits (rounds pa pb) e.state ∧ Lockstep t pa pb ∧
      (∀ q ∈ waited ++ idle, q.Idle) ∧ p.time ≤ t + timeout ∧ e.first = p.before &&& mask ∧
      (e.first.satisfies mask requireAll = true ↔
        ∃ q ∈ waited ++ [p], q.before.satisfies mask requireAll = true) ∧
      (e.first.satisfies mask requireAll = true →
        if clearOnExit then p.after &&& e.first = .none ∧ p.after ||| e.first = p.before
        else p.after = p.before) ∧
      (e.first.satisfies mask requireAll = false → p.after = p.before ∧ p.time = t + timeout ∧
        ∀ q ∈ pb, q.time < t + timeout → q.after.satisfies mask requireAll = false) := by
  obtain ⟨e, joined⟩ := joinFor_ends (waitJob_bounded (n := 0) (fun _ => .done) selfLens mask clearOnExit requireAll timeout)
    ends (by omega) (k := budget) (t := t) (s := bits)
  refine ⟨e, joined, ?_⟩
  obtain ⟨pa, pb, waited, p, idle, split, chain, timed, before, after, byD, answer, outcome⟩ :=
    joinFor_waitJob joined
  dsimp only [selfLens, id] at before answer outcome
  -- The answer meets the condition exactly when the bits of the last poll did.
  have met : e.first.satisfies mask requireAll = p.before.satisfies mask requireAll := by
    rw [answer]
    exact EventBits.satisfies_and_mask _ _ _
  refine ⟨by rw [answer]; exact EventBits.and_mask_and_mask _ _, pa, pb, waited, p, idle, split, chain, timed,
    fun q mem => ?_, byD, answer, ⟨fun holds => ⟨p, by simp, met ▸ holds⟩, ?_⟩, fun holds => ?_,
    fun fails => ?_⟩
  · rcases List.mem_append.mp mem with early | late
    · exact (before q early).2
    · exact after q late
  · rintro ⟨q, mem, holds⟩
    rcases List.mem_append.mp mem with early | last
    · simp [(before q early).1] at holds
    · rw [List.mem_singleton.mp last] at holds
      rwa [met]
  · -- Success: the poll that found the condition cleared what it answered, if asked to.
    rcases outcome with ⟨-, left⟩ | ⟨fails, -, -⟩
    · cases clearOnExit
      · exact left
      · rw [if_pos rfl, left, answer]
        exact EventBits.clear_seen _ _
    · rw [met, fails] at holds
      cases holds
  · -- Timeout: the last poll is at the deadline, and every poll of the wait found the condition
    -- false, so no state the other task left before it met the condition.
    rcases outcome with ⟨holds, -⟩ | ⟨found, left, late⟩
    · rw [met, holds] at fails
      cases fails
    · refine ⟨left, le_antisymm byD late, ?_⟩
      refine timed.found_left (fun b => b.satisfies mask requireAll = false) chain split (fun q mem => ?_) late
      rcases List.mem_append.mp mem with early | last
      · exact (before q early).1
      · rw [List.mem_singleton.mp last]
        exact found

def syncSetter : Job EventBits Unit := .pause 5000 (.now (fun b => (b.set .timeSynchronized, ())) .done)

theorem syncSetter_bounded : syncSetter.Bounded 4 := .pause (.now fun _ => .done)

/-- A wait for the time fact, with clear on exit, beside the task that sets it: it is woken 5 ms in,
long before its timeout, answers the fact and clears it in the poll that saw it. -/
theorem wait_bits_woken_by_setter :
    Job.join 0 .none (waitJob selfLens .timeSynchronized true true 5000000 .done) syncSetter =
        some ⟨.none, 5000, .timeSynchronized, ()⟩ ∧
      ∃ (waited : List (Poll EventBits)) (p : Poll EventBits), p.time ≤ 5000000 ∧
        (∃ q ∈ waited ++ [p], q.before.satisfies .timeSynchronized true = true) ∧
        p.after &&& .timeSynchronized = .none ∧ p.after ||| .timeSynchronized = p.before := by
  obtain ⟨e, joined, -, -, -, waited, p, -, -, -, -, -, byD, -, found, cleared, -⟩ :=
    wait_bits_answers_by_deadline .timeSynchronized true true 5000000 0 .none syncSetter 4 roundLimit
      syncSetter_bounded (by decide)
  have run : Job.join 0 .none (waitJob selfLens .timeSynchronized true true 5000000 .done) syncSetter =
      some ⟨.none, 5000, .timeSynchronized, ()⟩ := by rfl
  -- `join` runs the rounds of `roundLimit`, so its run is the one the theorem speaks of.
  have same : e = ⟨.none, 5000, .timeSynchronized, ()⟩ := Option.some.inj (joined.symm.trans run)
  subst same
  have met : EventBits.timeSynchronized.satisfies .timeSynchronized true = true := by decide
  exact ⟨run, waited, p, byD, found.mp met, cleared met⟩

end Gateway.Hub
