import Mathlib
import Gateway.Proofs.BoundedJobs
import Gateway.Proofs.QueueOrder
import Gateway.Bridge.Table
/-!
The mutex of a route. A caller takes it only when it is free and releases it in the step it took
it in, so what a step holding the mutex leaves is what its body leaves: the mutex is as free after
the step as before, and every other part of the table is as the body made it (`setLocked_release`).
No poll of a send or of a render ever ends with a mutex held, and a caller that finds the mutex
free goes on at once; only a mutex held across polls could make it wait, and `busy` is the answer
of a caller that found it held until its deadline (`withLock_polled`).
-/
namespace Gateway.Bridge.TopicTable
open Gateway.Hub Gateway.Hub.Queue Gateway.Sched Gateway.Scenario

variable {α : Type}

section Frame

variable {t : TopicTable α} {h i : Nat} {b : Bool}

theorem getElem?_setLocked (j : Nat) :
    (t.setLocked i b).topics[j]? = t.topics[j]?.map fun r => if i = j then { r with locked := b } else r := by
  simp only [setLocked, List.getElem?_modify]
  rfl

theorem setQueue_setLocked (j : Nat) (q : Queue α) :
    (t.setLocked i b).setQueue j q = (t.setQueue j q).setLocked i b := by
  simp only [setLocked, setQueue, TopicTable.mk.injEq, and_true, true_and]
  by_cases same : i = j
  · subst same
    rw [List.modify_modify_eq, List.modify_modify_eq]
    rfl
  · exact List.modify_modify_ne _ _ _ same

@[simp] theorem queueLens_get_setLocked :
    (queueLens selfLens h).get (t.setLocked i b) = (queueLens selfLens h).get t := by
  simp only [queueLens, selfLens_get, getElem?_setLocked]
  cases t.topics[h]? with
  | none => rfl
  | some r =>
    simp only [Option.map_some, Option.getD_some]
    split <;> rfl

@[simp] theorem locked_setQueue (j : Nat) (q : Queue α) : (t.setQueue j q).locked i = t.locked i := by
  simp only [locked, setQueue, List.getElem?_modify]
  cases t.topics[i]? with
  | none => rfl
  | some r =>
    simp only [Option.map_eq_map, Option.map_some, Option.getD_some]
    split <;> rfl

@[simp] theorem locked_set_queueLens (q : Queue α) : ((queueLens selfLens h).set t q).locked i = t.locked i :=
  locked_setQueue h _

/-- Taking a free mutex and releasing it leaves the table as it was. -/
theorem setLocked_release (free : t.locked h = false) : (t.setLocked h true).setLocked h false = t := by
  obtain ⟨space, capacity, depth, ioTimeout, topics, sealed⟩ := t
  simp only [setLocked, TopicTable.mk.injEq, and_true, true_and, List.modify_modify_eq]
  apply List.ext_getElem?
  intro j
  rw [List.getElem?_modify]
  by_cases here : h = j
  · subst here
    cases held : topics[h]? with
    | none => rfl
    | some r =>
      -- The route's mutex was free, so releasing it again gives the route back.
      have was : r.locked = false := by simpa [locked, held] using free
      simp only [Option.map_eq_map, Option.map_some, if_true, Function.comp_apply, Option.some.injEq]
      cases r
      simp_all
  · simp [here]

theorem set_queueLens_release (free : t.locked h = false) (q : Queue α) :
    ((queueLens selfLens h).set (t.setLocked h true) q).setLocked h false = (queueLens selfLens h).set t q := by
  simp only [queueLens, selfLens_get, selfLens_set, setQueue_setLocked]
  exact setLocked_release (by rw [locked_setQueue]; exact free)

theorem locked_encodeNext (ctx : EncodeContext) : (t.encodeNext h ctx).2.locked i = t.locked i := by
  unfold encodeNext
  split
  · rfl
  · split
    · rfl
    · split
      · rfl
      · split <;> simp

theorem encodeNext_setLocked (ctx : EncodeContext) :
    (t.setLocked i b).encodeNext h ctx = ((t.encodeNext h ctx).1, (t.encodeNext h ctx).2.setLocked i b) := by
  unfold encodeNext topic
  rw [getElem?_setLocked]
  cases held : t.topics[h]? with
  | none => rfl
  | some r =>
    -- The route seen through the mutex has the same codec and the same queue.
    have codec : (if i = h then { r with locked := b } else r).codec = r.codec := by split <;> rfl
    have queue : (if i = h then { r with locked := b } else r).queue = r.queue := by split <;> rfl
    simp only [Option.map_some, codec, queue]
    split
    · rfl
    · split
      · rfl
      · split <;> simp [setQueue_setLocked]

end Frame

section Mutex

variable {γ β : Type} {h D n : Nat} {body : TopicTable α → TopicTable α × Except TopicError γ}
  {k : Except TopicError γ → Job (TopicTable α) β} {ps : List (Poll (TopicTable α))} {r : β}

/-- How a step holding the mutex of route `h` ran among other jobs: polls that found the mutex held
and changed nothing; then one that found it free and ran `body` under it, going on in that same
poll from what `body` left with the mutex released; or one at or past the deadline that found it
still held and went on with `busy`. -/
theorem withLock_polled (ran : Job.Polled (n + 1) (withLock selfLens h D body k) ps (.done r)) :
    ∃ waited p rest, ps = waited ++ p :: rest ∧ (∀ q ∈ waited, q.before.locked h = true ∧ q.Idle) ∧
      ((p.before.locked h = false ∧
          Job.Polled n (k (body (p.before.setLocked h true)).2)
            (⟨p.time, (body (p.before.setLocked h true)).1.setLocked h false, p.after⟩ :: rest) (.done r)) ∨
        (p.before.locked h = true ∧ D ≤ p.time ∧ waited ≠ [] ∧
          Job.Polled n (k (.error .busy)) (p :: rest) (.done r))) := by
  unfold withLock at ran
  obtain ⟨waited, p, rest, split, before, outcome⟩ := Job.await_polled_on ran
  refine ⟨waited, p, rest, split, fun q mem => ?_, ?_⟩
  · obtain ⟨found, idle⟩ := before q mem
    by_cases held : q.before.locked h = true
    · exact ⟨held, idle⟩
    · simp [held] at found
  · by_cases held : p.before.locked h = true
    · rcases outcome with ⟨s₁, k', found, -⟩ | ⟨-, late, armed, expiredRan⟩
      · simp [held] at found
      · exact .inr ⟨held, late, armed.resolve_left Bool.false_ne_true, expiredRan⟩
    · rcases outcome with ⟨s₁, k', found, going⟩ | ⟨found, -, -, -⟩
      · simp only [selfLens_get, selfLens_set, held] at found
        obtain ⟨rfl, rfl⟩ := found
        exact .inl ⟨by simpa using held, going⟩
      · simp [held] at found

theorem withLock_bounded {σ : Type} {l : Lens σ (TopicTable α)} {k : Except TopicError γ → Job σ β}
    {body : σ → σ × Except TopicError γ} (ends : ∀ r, (k r).Bounded n) :
    (TopicTable.withLock l h D body k).Bounded (n + 2) := by
  refine .armAwait (.await (fun s s' j found => ?_) (ends _))
  by_cases held : (l.get s).locked h = true
  · simp [held] at found
  · simp only [held] at found
    obtain ⟨-, rfl⟩ := found
    exact ends _

end Mutex

end Gateway.Bridge.TopicTable
