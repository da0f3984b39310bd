import Mathlib
import Gateway.Proofs.RouteLocks
import Gateway.Scenario.Table
/-!
Publish routes under any interleaving. A producer's send checks the route, and while the route's
queue is full it waits for room without changing anything; the room it sees and the push that uses
it are one step, taken under the route's mutex, so nothing runs between them. The bridge's encode
takes the oldest item of the route in one step under the mutex too. So, whatever runs beside them,
each send and each encode changes only its route's queue, and by one change at most: the item put
last, or the first item taken.

Main statement (`publish_calls_drain_in_order`): every call of producers' sends and the bridge's
encodes on one publish route, alone or two together, ends, keeps the route first in first out,
never answers that the route is busy, puts a sent item last exactly once or not at all, encodes the
oldest item, and misses no room: a send that waits is polled again after every poll of the job
beside it, so room made for it before its deadline is room it takes. Over a whole run of such calls
(`TableRun.runs_drain_in_order`) the route stays a publish route with its mutex free, first in
first out.
-/
namespace Gateway.Bridge.TopicTable
open Gateway.Hub Gateway.Hub.Queue Gateway.Sched Gateway.Scenario

variable {α : Type}

section Frame

variable {t : TopicTable α} {h : Nat}

@[simp] theorem set_queueLens_get : (queueLens selfLens h).set t ((queueLens selfLens h).get t) = t := by
  simp only [queueLens, selfLens_get, selfLens_set, setQueue]
  congr 1
  apply List.ext_getElem?
  intro i
  rw [List.getElem?_modify]
  by_cases here : h = i
  · subst here
    cases t.topics[h]? <;> simp
  · cases t.topics[i]? <;> simp [here]

theorem queueLens_get_set {r : Topic α} (held : t.topics[h]? = some r) (q : Queue α) :
    (queueLens selfLens h).get ((queueLens selfLens h).set t q) = q := by
  simp [queueLens, setQueue, held]

theorem held_of_room (room : ((queueLens selfLens h).get t).items.length < ((queueLens selfLens h).get t).capacity) :
    ∃ r, t.topics[h]? = some r := by
  cases held : t.topics[h]? with
  | none => simp [queueLens, held] at room
  | some r => exact ⟨r, rfl⟩

theorem set_get_set (q : Queue α) :
    (queueLens selfLens h).set t ((queueLens selfLens h).get ((queueLens selfLens h).set t q)) =
      (queueLens selfLens h).set t q := by
  cases held : t.topics[h]? with
  | some r => rw [queueLens_get_set held]
  | none =>
    -- No route `h`: setting any queue leaves the table as it is.
    have unheld : ∀ q' : Queue α, (queueLens selfLens h).set t q' = t := by
      intro q'
      simp only [queueLens, selfLens_get, selfLens_set, setQueue]
      congr 1
      exact List.modify_eq_self (List.getElem?_eq_none_iff.mp held)
    rw [unheld, unheld]

theorem route_set_ok {r : Topic α} {h' : Nat} {dir : Direction} (q : Queue α) (found : t.route h' dir = .ok r) :
    ∃ r', ((queueLens selfLens h).set t q).route h' dir = .ok r' := by
  unfold route topic at found ⊢
  cases held : t.topics[h']? with
  | none => simp [held] at found
  | some r₀ =>
    have kept : r₀.direction = dir := by
      by_contra other
      simp [held, other] at found
    by_cases here : h = h'
    · subst here
      exact ⟨{ r₀ with queue := q }, by simp [queueLens, setQueue, held, kept]⟩
    · exact ⟨r₀, by simp [queueLens, setQueue, held, kept, here]⟩

end Frame

section Sending

variable {β : Type} {h n D : Nat} {x : α} {g : Except TopicError Unit → β} {ps : List (Poll (TopicTable α))}
  {r : β}

theorem push_of_ok {t : TopicTable α} {q' : Queue α} (sent : ((queueLens selfLens h).get t).trySend x = .ok q') :
    push selfLens h x t = ((queueLens selfLens h).set t q', .ok true) := by
  simp [push, sent]

theorem push_of_error {t : TopicTable α} {y : α} (sent : ((queueLens selfLens h).get t).trySend x = .error y) :
    push selfLens h x t = (t, .ok false) := by
  simp [push, sent]

theorem lockedPush_polled {retry : Job (TopicTable α) β}
    (ran : Job.Polled (n + 1) (withLock selfLens h D (push selfLens h x) (pushed (.done ∘ g) retry)) ps (.done r)) :
    ∃ waited p rest, ps = waited ++ p :: rest ∧ (∀ q ∈ waited, q.before.locked h = true ∧ q.Idle) ∧
      ((∃ q', ((queueLens selfLens h).get p.before).trySend x = .ok q' ∧
          p.after = (queueLens selfLens h).set p.before q' ∧ r = g (.ok ()) ∧ ∀ q ∈ rest, q.Idle) ∨
        (((queueLens selfLens h).get p.before).isFull = true ∧ Job.Polled n retry (p :: rest) (.done r)) ∨
        (p.before.locked h = true ∧ p.Idle ∧ r = g (.error .busy) ∧ ∀ q ∈ rest, q.Idle)) := by
  obtain ⟨waited, p, rest, split, held, outcome⟩ := withLock_polled ran
  refine ⟨waited, p, rest, split, held, ?_⟩
  rcases outcome with ⟨free, going⟩ | ⟨locked, -, -, expired⟩
  · cases sent : ((queueLens selfLens h).get p.before).trySend x with
    | ok q' =>
      -- The push lands, and releasing the mutex leaves the queue it set.
      rw [push_of_ok (by rwa [queueLens_get_setLocked]), set_queueLens_release free] at going
      simp only [pushed, Function.comp_apply] at going
      obtain ⟨ended, idle⟩ := going.of_done
      exact .inl ⟨q', rfl, idle _ List.mem_cons_self, Job.done.inj ended,
        fun q mem => idle q (List.mem_cons_of_mem _ mem)⟩
    | error y =>
      rw [push_of_error (by rwa [queueLens_get_setLocked]), setLocked_release free] at going
      exact .inr (.inl ⟨isFull_eq_true_iff.mpr (Queue.trySend_eq_error_iff.mp sent).1, going⟩)
  · simp only [pushed, Function.comp_apply] at expired
    obtain ⟨ended, idle⟩ := expired.of_done
    exact .inr (.inr ⟨locked, idle _ List.mem_cons_self, Job.done.inj ended,
      fun q mem => idle q (List.mem_cons_of_mem _ mem)⟩)

theorem awaitRoom_polled {p₀ : Poll (TopicTable α)}
    (ran : Job.Polled (n + 3) (awaitRoom selfLens h x D (.done ∘ g)) (p₀ :: ps) (.done r)) :
    (D ≤ p₀.time ∧ r = g (.error .queueFull) ∧ ∀ q ∈ p₀ :: ps, q.Idle) ∨
    ∃ waited p rest, p₀ :: ps = waited ++ p :: rest ∧
      (∀ q ∈ waited, ((queueLens selfLens h).get q.before).isFull = true ∧ q.Idle) ∧
      ((((queueLens selfLens h).get p.before).isFull = true ∧ D ≤ p.time ∧ r = g (.error .queueFull) ∧
          ∀ q ∈ p :: rest, q.Idle) ∨
        (((queueLens selfLens h).get p.before).isFull = false ∧
          Job.Polled n (withLock selfLens h D (push selfLens h x) (pushed (.done ∘ g) (.done (g (.error .queueFull)))))
            (p :: rest) (.done r))) := by
  have first := ran.step_first
  by_cases gone : D - p₀.time = 0
  · simp only [gone, if_true, Function.comp_apply] at first
    obtain ⟨ended, idle⟩ := first.of_done
    exact .inl ⟨by omega, Job.done.inj ended, idle⟩
  · simp only [gone, if_false] at first
    rw [spaceJob_eq] at first
    obtain ⟨waited, p, rest, split, before, outcome⟩ := Job.within_polled_on first
    refine .inr ⟨waited, p, rest, split, fun q mem => ⟨spaceReady_eq_none.mp (before q mem).1, (before q mem).2⟩, ?_⟩
    rcases outcome with ⟨s₁, k, found, going⟩ | ⟨none_yet, expiredRan, w, ws, rfl, late⟩
    · -- Room seen: the push follows in the same poll.
      obtain ⟨room, rfl, rfl⟩ := spaceReady_eq_some.mp found
      simp only [if_true] at going
      exact .inr ⟨room, going⟩
    · -- Still full at the deadline: the wait's first poll is the send's poll `p₀`.
      simp only [Bool.false_eq_true, if_false, Function.comp_apply] at expiredRan
      obtain ⟨ended, idle⟩ := expiredRan.of_done
      simp only [List.cons_append, List.cons.injEq] at split
      obtain ⟨rfl, -⟩ := split
      simp only at late
      exact .inl ⟨spaceReady_eq_none.mp none_yet, by omega, Job.done.inj ended, idle⟩


theorem sendJob_polled (ran : Job.Polled (n + 8) (sendJob selfLens h x (.done ∘ g)) ps (.done r)) :
    ∃ waited p idle, ps = waited ++ p :: idle ∧
      (∀ q ∈ waited, (((queueLens selfLens h).get q.before).isFull = true ∨ q.before.locked h = true) ∧ q.Idle) ∧
      (∀ q ∈ idle, q.Idle) ∧
      ((∃ e, waited = [] ∧ p.before.route h .publish = .error e ∧ p.Idle ∧ r = g (.error e)) ∨
        (∃ q', ((queueLens selfLens h).get p.before).trySend x = .ok q' ∧
          p.after = (queueLens selfLens h).set p.before q' ∧ r = g (.ok ())) ∨
        (p.Idle ∧
          ((r = g (.error .busy) ∧ ∃ q ∈ waited ++ [p], q.before.locked h = true) ∨
            (r = g (.error .queueFull) ∧ ((∃ q ∈ waited ++ [p], q.before.locked h = true) ∨
              ((queueLens selfLens h).get p.before).isFull = true ∧
                ∃ first, (waited ++ [p]).head? = some first ∧ first.time + first.before.ioTimeout ≤ p.time))))) := by
  obtain ⟨p₀, ps, rfl⟩ := List.exists_cons_of_ne_nil (ran.ne_nil fun _ => nofun)
  have first := ran.step_first
  cases routed : p₀.before.route h .publish with
  | error e =>
    simp only [selfLens_get, routed, Function.comp_apply] at first
    obtain ⟨ended, idle⟩ := first.of_done
    exact ⟨[], p₀, ps, rfl, by simp, fun q mem => idle q (List.mem_cons_of_mem _ mem),
      .inl ⟨e, rfl, routed, idle _ List.mem_cons_self, Job.done.inj ended⟩⟩
  | ok route =>
    simp only [selfLens_get, routed] at first
    -- The send's first poll heads the polls up to its last, however the phases below split them.
    have heads : ∀ w (p : Poll (TopicTable α)) rest, p₀ :: ps = w ++ p :: rest → (w ++ [p]).head? = some p₀ := by
      intro w p rest split
      cases w <;> simp_all
    obtain ⟨w₁, p₁, rest₁, split₁, held₁, outcome₁⟩ := lockedPush_polled first
    have waited₁ : ∀ q ∈ w₁, (((queueLens selfLens h).get q.before).isFull = true ∨ q.before.locked h = true) ∧
        q.Idle := fun q mem => ⟨.inr (held₁ q mem).1, (held₁ q mem).2⟩
    rcases outcome₁ with ⟨q', sent, left, rfl, idle⟩ | ⟨full₁, waiting⟩ | ⟨locked₁, same, rfl, idle⟩
    · -- The first push landed.
      exact ⟨w₁, p₁, rest₁, split₁, waited₁, idle, .inr (.inl ⟨q', sent, left, rfl⟩)⟩
    · -- The queue was full: the send waits for room.
      rcases awaitRoom_polled waiting with ⟨late, rfl, idle⟩ | ⟨w₂, p₂, rest₂, split₂, full₂, outcome₂⟩
      · exact ⟨w₁, p₁, rest₁, split₁, waited₁, fun q mem => idle q (List.mem_cons_of_mem _ mem),
          .inr (.inr ⟨idle _ List.mem_cons_self, .inr ⟨rfl, .inr ⟨full₁, p₀, heads _ _ _ split₁, late⟩⟩⟩)⟩
      have split : p₀ :: ps = (w₁ ++ w₂) ++ p₂ :: rest₂ := by rw [split₁, split₂, List.append_assoc]
      have waited₂ : ∀ q ∈ w₁ ++ w₂, (((queueLens selfLens h).get q.before).isFull = true ∨
          q.before.locked h = true) ∧ q.Idle :=
        List.forall_mem_append.mpr ⟨waited₁, fun q mem => ⟨.inl (full₂ q mem).1, (full₂ q mem).2⟩⟩
      rcases outcome₂ with ⟨full, late, rfl, idle⟩ | ⟨room, pushing⟩
      · exact ⟨w₁ ++ w₂, p₂, rest₂, split, waited₂, fun q mem => idle q (List.mem_cons_of_mem _ mem),
          .inr (.inr ⟨idle _ List.mem_cons_self, .inr ⟨rfl, .inr ⟨full, p₀, heads _ _ _ split, late⟩⟩⟩)⟩
      -- Room seen: the send pushes again, holding the mutex.
      obtain ⟨w₃, p₃, rest₃, split₃, held₃, outcome₃⟩ := lockedPush_polled pushing
      have split' : p₀ :: ps = (w₁ ++ w₂ ++ w₃) ++ p₃ :: rest₃ := by rw [split, split₃]; simp
      have waited₃ : ∀ q ∈ w₁ ++ w₂ ++ w₃, (((queueLens selfLens h).get q.before).isFull = true ∨
          q.before.locked h = true) ∧ q.Idle :=
        List.forall_mem_append.mpr ⟨waited₂, fun q mem => ⟨.inr (held₃ q mem).1, (held₃ q mem).2⟩⟩
      rcases outcome₃ with ⟨q', sent, left, rfl, idle⟩ | ⟨full₃, ended⟩ | ⟨locked₃, same, rfl, idle⟩
      · exact ⟨_, p₃, rest₃, split', waited₃, idle, .inr (.inl ⟨q', sent, left, rfl⟩)⟩
      · -- Full again: the push waited for the mutex, which some poll found held.
        obtain ⟨ended, idle⟩ := ended.of_done
        obtain ⟨w, ws, rfl⟩ : ∃ w ws, w₃ = w :: ws := by
          cases w₃ with
          | nil =>
            simp only [List.nil_append, List.cons.injEq] at split₃
            rw [← split₃.1, room] at full₃
            cases full₃
          | cons w ws => exact ⟨w, ws, rfl⟩
        exact ⟨_, p₃, rest₃, split', waited₃, fun q mem => idle q (List.mem_cons_of_mem _ mem),
          .inr (.inr ⟨idle _ List.mem_cons_self, .inr ⟨Job.done.inj ended,
            .inl ⟨w, by simp, (held₃ w List.mem_cons_self).1⟩⟩⟩)⟩
      · exact ⟨_, p₃, rest₃, split', waited₃, idle, .inr (.inr ⟨same, .inl ⟨rfl, p₃, by simp, locked₃⟩⟩)⟩
    · -- The mutex stayed held up to the deadline.
      exact ⟨w₁, p₁, rest₁, split₁, waited₁, idle, .inr (.inr ⟨same, .inl ⟨rfl, p₁, by simp, locked₁⟩⟩)⟩

theorem not_locked_of_free {waited idle : List (Poll (TopicTable α))} {p : Poll (TopicTable α)}
    (free : ∀ q ∈ waited ++ p :: idle, q.before.locked h = false) :
    ¬ ∃ q ∈ waited ++ [p], q.before.locked h = true := by
  rintro ⟨q, mem, held⟩
  have polled : q ∈ waited ++ p :: idle := by
    rcases List.mem_append.mp mem with early | last
    · exact List.mem_append_left _ early
    · exact List.mem_append_right _ (by simp [List.mem_singleton.mp last])
  rw [free q polled] at held
  cases held

/-- A send that gave up on a full queue, none of whose polls found the mutex held, found the
queue full at every poll. -/
theorem isFull_of_not_locked {waited : List (Poll (TopicTable α))} {p : Poll (TopicTable α)}
    (before : ∀ q ∈ waited, (((queueLens selfLens h).get q.before).isFull = true ∨ q.before.locked h = true) ∧ q.Idle)
    (full : ((queueLens selfLens h).get p.before).isFull = true)
    (calm : ¬ ∃ q ∈ waited ++ [p], q.before.locked h = true) :
    ∀ q ∈ waited ++ [p], ((queueLens selfLens h).get q.before).isFull = true := by
  intro q mem
  rcases List.mem_append.mp mem with early | last
  · rcases (before q early).1 with fullQ | lockedQ
    · exact fullQ
    · exact absurd ⟨q, mem, lockedQ⟩ calm
  · rw [List.mem_singleton.mp last]
    exact full

end Sending

section Encoding

variable (t : TopicTable α) (h : Nat) (ctx : EncodeContext)

def encoderOf : Option (Encoder α) :=
  match t.topic h with
  | .ok r =>
    match r.codec with
    | .encoder f => some f
    | .decoder _ => none
  | .error _ => none

theorem route_error {e : TopicError} {dir : Direction} (refused : t.route h dir = .error e) :
    e = .unknownTopic ∨ e = .invalidArgument := by
  unfold route topic at refused
  cases held : t.topics[h]? with
  | none =>
    simp only [held, Except.error.injEq] at refused
    exact .inl refused.symm
  | some r =>
    by_cases same : r.direction = dir
    · simp [held, same] at refused
    · simp only [held, same, if_false, Except.error.injEq] at refused
      exact .inr refused.symm

theorem held_of_encoder {f : Encoder α} (coded : t.encoderOf h = some f) : ∃ r, t.topics[h]? = some r := by
  unfold encoderOf topic at coded
  cases held : t.topics[h]? with
  | none => simp [held] at coded
  | some r => exact ⟨r, rfl⟩

theorem encodeNext_ne_busy : (t.encodeNext h ctx).1 ≠ .error .busy := by
  unfold encodeNext topic
  -- No arm answers busy: the errors are an unknown route, a mismatch and the encoder's own.
  cases t.topics[h]? with
  | none => simp
  | some r =>
    dsimp only
    split
    · simp
    split
    · simp
    split <;> simp

theorem encodeNext_eq :
    t.encoderOf h = none ∧ (t.encodeNext h ctx).2 = t ∨
      ∃ f, t.encoderOf h = some f ∧
        (((queueLens selfLens h).get t).items = [] ∧ t.encodeNext h ctx = (.ok none, t) ∨
          ∃ x rest, ((queueLens selfLens h).get t).items = x :: rest ∧
            t.encodeNext h ctx = (((f x ctx).mapError .codec).map some,
              (queueLens selfLens h).set t { (queueLens selfLens h).get t with items := rest })) := by
  unfold encodeNext encoderOf
  cases held : t.topic h with
  | error e => exact .inl ⟨rfl, rfl⟩
  | ok r =>
    have at_h : t.topics[h]? = some r := by
      unfold topic at held
      split at held <;> simp_all
    dsimp only
    cases coded : r.codec with
    | decoder _ => exact .inl ⟨rfl, rfl⟩
    | encoder f =>
      dsimp only
      refine .inr ⟨f, rfl, ?_⟩
      simp only [queueLens, selfLens_get, selfLens_set, at_h, Option.map_some, Option.getD_some,
        Queue.tryReceive]
      cases r.queue.items with
      | nil => exact .inl ⟨rfl, rfl⟩
      | cons x rest =>
        refine .inr ⟨x, rest, rfl, ?_⟩
        dsimp only
        cases f x ctx <;> rfl

end Encoding

section Rendering

variable {β : Type} {h n : Nat} {ctx : EncodeContext} {g : Except TopicError (Option String) → β}
  {ps : List (Poll (TopicTable α))} {r : β}

theorem encodeNext_of_topic_error {t : TopicTable α} {e : TopicError} (missing : t.topic h = .error e) :
    t.encodeNext h ctx = (.error e, t) := by
  unfold encodeNext
  rw [missing]

theorem locked_of_topic_error {t : TopicTable α} {e : TopicError} (missing : t.topic h = .error e) :
    t.locked h = false := by
  unfold topic at missing
  cases held : t.topics[h]? with
  | none => simp [locked, held]
  | some r => simp [held] at missing

theorem encodeJob_polled (ran : Job.Polled (n + 2) (encodeJob selfLens h ctx (.done ∘ g)) ps (.done r)) :
    ∃ waited p idle, ps = waited ++ p :: idle ∧ (∀ q ∈ waited, q.before.locked h = true ∧ q.Idle) ∧
      (∀ q ∈ idle, q.Idle) ∧
      ((p.before.locked h = false ∧ p.after = (p.before.encodeNext h ctx).2 ∧ r = g (p.before.encodeNext h ctx).1) ∨
        (p.before.locked h = true ∧ p.Idle ∧ r = g (.error .busy))) := by
  obtain ⟨p₀, ps, rfl⟩ := List.exists_cons_of_ne_nil (ran.ne_nil fun _ => nofun)
  have first := ran.step_first
  cases found : p₀.before.topic h with
  | error e =>
    -- No route: the render answers so at once, as `encodeNext` does.
    simp only [selfLens_get, found, Function.comp_apply] at first
    obtain ⟨ended, idle⟩ := first.of_done
    refine ⟨[], p₀, ps, rfl, by simp, fun q mem => idle q (List.mem_cons_of_mem _ mem),
      .inl ⟨locked_of_topic_error found, ?_, ?_⟩⟩
    · rw [encodeNext_of_topic_error found]
      exact idle _ List.mem_cons_self
    · rw [encodeNext_of_topic_error found]
      exact Job.done.inj ended
  | ok route =>
    simp only [selfLens_get, found] at first
    obtain ⟨waited, p, rest, split, held, outcome⟩ := withLock_polled first
    refine ⟨waited, p, rest, split, held, ?_⟩
    rcases outcome with ⟨free, going⟩ | ⟨locked, -, -, expired⟩
    · -- Rendering holding the mutex, then releasing it, leaves what rendering leaves.
      have released : ((p.before.encodeNext h ctx).2.setLocked h true).setLocked h false =
          (p.before.encodeNext h ctx).2 := setLocked_release (by rw [locked_encodeNext]; exact free)
      simp only [selfLens_set, encodeNext_setLocked, released, Function.comp_apply] at going
      obtain ⟨ended, idle⟩ := going.of_done
      exact ⟨fun q mem => idle q (List.mem_cons_of_mem _ mem),
        .inl ⟨free, idle _ List.mem_cons_self, Job.done.inj ended⟩⟩
    · simp only [Function.comp_apply] at expired
      obtain ⟨ended, idle⟩ := expired.of_done
      exact ⟨fun q mem => idle q (List.mem_cons_of_mem _ mem),
        .inr ⟨locked, idle _ List.mem_cons_self, Job.done.inj ended⟩⟩

end Rendering

section Ending

variable {σ β : Type} {l : Lens σ (TopicTable α)} {h D : Nat} {x : α}

theorem awaitRoom_bounded {f : Except TopicError Unit → β} : (awaitRoom l h x D (.done ∘ f)).Bounded 6 := by
  refine .step fun now s => ?_
  split
  · exact .done
  · -- The wait for room ends at its deadline, or pushes once more holding the mutex.
    dsimp only
    refine Job.Bounded.within (fun s s' j found => ?_) .done
    obtain ⟨-, -, rfl⟩ := spaceReady_eq_some.mp found
    simp only [if_true]
    refine withLock_bounded fun pushedOk => ?_
    rcases pushedOk with e | _ | _ <;> exact .done

theorem sendJob_bounded {f : Except TopicError Unit → β} : (sendJob l h x (.done ∘ f)).Bounded 9 := by
  refine .step fun now s => ?_
  dsimp only
  split
  · exact .done
  · dsimp only
    refine withLock_bounded fun pushedOk => ?_
    rcases pushedOk with e | _ | _
    · exact .done
    · exact awaitRoom_bounded
    · exact .done

theorem encodeJob_bounded {ctx : EncodeContext} {f : Except TopicError (Option String) → β} :
    (encodeJob l h ctx (.done ∘ f)).Bounded 3 := by
  refine .step fun now s => ?_
  dsimp only
  split
  · exact .done
  · dsimp only
    exact withLock_bounded fun _ => .done

end Ending

end Gateway.Bridge.TopicTable

namespace Gateway.Scenario
open Gateway.Bridge Gateway.Bridge.TopicTable Gateway.Hub Gateway.Hub.Queue Gateway.Sched

/-- The operations of producers and of the bridge on route `h`. -/
inductive TopicOp.OnRoute (h : Nat) : TopicOp → Prop
  | send (x : UInt32) : TopicOp.OnRoute h (.send h x)
  | encodeNext (timestamp : Nat) (device : Option DeviceId) (prefill : String) :
      TopicOp.OnRoute h (.encodeNext h timestamp device prefill)

def OnlyQueue (h : Nat) (p : Poll Readings) : Prop :=
  (queueLens selfLens h).set p.before ((queueLens selfLens h).get p.after) = p.after

theorem OnlyQueue.of_idle {h : Nat} {p : Poll Readings} (idle : p.Idle) : OnlyQueue h p := by
  unfold OnlyQueue
  rw [show p.after = p.before from idle, set_queueLens_get]

theorem OnlyQueue.of_set {h : Nat} {p : Poll Readings} {q : Queue UInt32}
    (left : p.after = (queueLens selfLens h).set p.before q) : OnlyQueue h p := by
  unfold OnlyQueue
  rw [left, set_get_set]

theorem OnlyQueue.locked_eq {h i : Nat} {p : Poll Readings} (only : OnlyQueue h p) :
    p.after.locked i = p.before.locked i := by
  unfold OnlyQueue at only
  rw [← only, locked_set_queueLens]

theorem unlocked_of_chain {h i : Nat} {s s' : Readings} {ps : List (Poll Readings)} (chain : Chain s ps s')
    (only : ∀ p ∈ ps, OnlyQueue h p) (free : s.locked i = false) :
    ∀ p ∈ ps, p.before.locked i = false ∧ p.after.locked i = false := by
  induction chain with
  | nil => simp
  | @cons p ps s' _ ih =>
    have kept : p.after.locked i = false := by rw [(only p List.mem_cons_self).locked_eq, free]
    intro q mem
    rcases List.mem_cons.mp mem with rfl | later
    · exact ⟨free, kept⟩
    · exact ih (fun q mem => only q (List.mem_cons_of_mem _ mem)) kept q later

theorem mem_rounds_left {σ : Type} {pa pb : List (Poll σ)} {p : Poll σ} (mem : p ∈ pa) (same : pa.length = pb.length) :
    p ∈ rounds pa pb := by
  induction pa generalizing pb with
  | nil => cases mem
  | cons a as ih =>
    cases pb with
    | nil => cases same
    | cons b bs =>
      rcases List.mem_cons.mp mem with rfl | later
      · exact List.mem_cons_self
      · exact List.mem_cons_of_mem _ (List.mem_cons_of_mem _ (ih later (by simpa using same)))

theorem mem_rounds_right {σ : Type} {pa pb : List (Poll σ)} {p : Poll σ} (mem : p ∈ pb) (same : pa.length = pb.length) :
    p ∈ rounds pa pb := by
  induction pb generalizing pa with
  | nil => cases mem
  | cons b bs ih =>
    cases pa with
    | nil => cases same
    | cons a as =>
      rcases List.mem_cons.mp mem with rfl | later
      · exact List.mem_cons_of_mem _ List.mem_cons_self
      · exact List.mem_cons_of_mem _ (List.mem_cons_of_mem _ (ih later (by simpa using same)))

/-- What a send or an encode on route `h` gets, from what the polls `ran` at which it ran found,
and the changes `cs` it made to the route's queue. A send puts its item last and answers ok, or
changes nothing and answers an error; it answers busy only if a poll found the route's mutex held,
and gives up for want of room only if a poll found the mutex held or every poll found the queue
full. An encode waits while the mutex is held, and answers busy if its last poll still found it
held; a poll that finds it free runs it, and when the route has an encoder it takes the oldest
item and renders it with that encoder. -/
def TopicOp.Answers (device : DeviceId) :
    TopicOp → List (Poll Readings) → TopicReply → List (Change UInt32) → Prop
  | .send h x, ran, reply, cs => (reply = .failed .busy → ∃ p ∈ ran, p.before.locked h = true) ∧
      (reply = .ok ∧ cs = [.accepted x] ∨
        cs = [] ∧ ∃ e, reply = .failed e ∧
          (e = .queueFull → (∃ p ∈ ran, p.before.locked h = true) ∨
            ∀ p ∈ ran, ((queueLens selfLens h).get p.before).isFull = true))
  | .encodeNext h timestamp dev _, ran, reply, cs => ∃ waited p, ran = waited ++ [p] ∧
      (∀ q ∈ waited, q.before.locked h = true) ∧
      (p.before.locked h = true → reply = .failed .busy ∧ cs = []) ∧
      (p.before.locked h = false → reply ≠ .failed .busy ∧ (p.before.encoderOf h = none → cs = []) ∧
        ∀ f, p.before.encoderOf h = some f →
          cs = ((queueLens selfLens h).get p.before).items.head?.toList.map .taken ∧
            ∀ x, ((queueLens selfLens h).get p.before).items.head? = some x →
              reply = .ofExcept (.encoded true) ((f x ⟨dev.getD device, timestamp⟩).mapError .codec))
  | _, _, _, _ => False

/-- One job of a call on route `h` as it ran among others: at every poll it changed at most the
route's queue, by the changes `cs` in all, and it answered as `Answers` says from the polls at
which it ran. -/
def TopicOp.Ran (h : Nat) (device : DeviceId) (op : TopicOp) (polls : List (Poll Readings))
    (reply : TopicReply) (cs : List (Change UInt32)) : Prop :=
  Queue.Ran (queueLens selfLens h) (op.Answers device) polls reply cs ∧ ∀ p ∈ polls, OnlyQueue h p

theorem TopicReply.ofExcept_ne_busy {β : Type} {f : β → TopicReply} {r : Except TopicError β}
    (calm : r ≠ .error .busy) (plain : ∀ b, f b ≠ .failed .busy) : TopicReply.ofExcept f r ≠ .failed .busy := by
  cases r with
  | error e =>
    intro same
    exact calm (congrArg Except.error (TopicReply.failed.inj same))
  | ok b => exact plain b

namespace TopicOp

variable {h n : Nat} {device : DeviceId} {ps : List (Poll Readings)} {reply : TopicReply}

theorem encodeNext_ran {timestamp : Nat} {dev : Option DeviceId} {prefill : String}
    (ran : Job.Polled (n + 2) ((TopicOp.encodeNext h timestamp dev prefill).job device) ps (.done reply)) :
    ∃ cs, (TopicOp.encodeNext h timestamp dev prefill).Ran h device ps reply cs := by
  obtain ⟨waited, p, idle, rfl, held, after, outcome⟩ := encodeJob_polled ran
  have quietW : ∀ q ∈ waited, q.Idle := fun q mem => (held q mem).2
  have lockedW : ∀ q ∈ waited, q.before.locked h = true := fun q mem => (held q mem).1
  -- Every poll but the one that ran the render changed nothing.
  have frame : OnlyQueue h p → ∀ q ∈ waited ++ p :: idle, OnlyQueue h q := fun last =>
    List.forall_mem_append.mpr ⟨fun q mem => .of_idle (quietW q mem),
      List.forall_mem_cons.mpr ⟨last, fun q mem => .of_idle (after q mem)⟩⟩
  rcases outcome with ⟨free, left, answered⟩ | ⟨locked, same, rfl⟩
  · -- Rendering never answers busy, and the reply renders what rendering answered.
    have calm : reply ≠ .failed .busy := by
      rw [answered]
      exact TopicReply.ofExcept_ne_busy (encodeNext_ne_busy _ _ _) fun o => by cases o <;> simp
    subst answered
    rcases encodeNext_eq p.before h ⟨dev.getD device, timestamp⟩ with
      ⟨unencoded, kept⟩ | ⟨f, coded, ⟨empty, rendered⟩ | ⟨x, rest', first, rendered⟩⟩
    · -- No encoder on the route: nothing changes.
      have same : p.Idle := left.trans kept
      refine ⟨[], .waited (.of_idle quietW (.idle same .nil)) ⟨waited, p, rfl, lockedW, ?_, fun _ => ?_⟩ after,
        frame (.of_idle same)⟩
      · rw [free]
        exact fun held => absurd held Bool.false_ne_true
      · refine ⟨calm, fun _ => rfl, fun f coded => ?_⟩
        rw [unencoded] at coded
        cases coded
    · -- Nothing queued: nothing changes and nothing is taken.
      have same : p.Idle := by
        rw [rendered] at left
        exact left
      refine ⟨[], .waited (.of_idle quietW (.idle same .nil)) ⟨waited, p, rfl, lockedW, ?_, fun _ => ?_⟩ after,
        frame (.of_idle same)⟩
      · rw [free]
        exact fun held => absurd held Bool.false_ne_true
      · refine ⟨calm, fun _ => rfl, fun f' _ => ⟨by simp [empty], fun x hx => ?_⟩⟩
        simp [empty] at hx
    · -- The oldest item leaves the queue and is rendered with the route's encoder.
      rw [rendered] at left calm ⊢
      obtain ⟨r, held⟩ := held_of_encoder _ _ coded
      have took : Step ((queueLens selfLens h).get p.before) (.taken x) ((queueLens selfLens h).get p.after) := by
        rw [left, queueLens_get_set held]
        exact .take first
      refine ⟨_, .waited (.of_idle quietW (.step took .nil)) ⟨waited, p, rfl, lockedW, ?_, fun _ => ?_⟩ after,
        frame (.of_set left)⟩
      · rw [free]
        exact fun held => absurd held Bool.false_ne_true
      refine ⟨calm, fun unencoded => ?_, fun f' coded' => ?_⟩
      · rw [coded] at unencoded
        cases unencoded
      · rw [coded] at coded'
        cases coded'
        refine ⟨by simp [first], fun y hy => ?_⟩
        simp only [first, List.head?_cons, Option.some.injEq] at hy
        subst hy
        cases f x ⟨dev.getD device, timestamp⟩ <;> rfl
  · -- The mutex stayed held to the deadline: nothing changes, and the answer is busy.
    refine ⟨[], .waited (.of_idle quietW (.idle same .nil)) ⟨waited, p, rfl, lockedW, fun _ => ⟨rfl, rfl⟩,
      fun free => ?_⟩ after, frame (.of_idle same)⟩
    rw [locked] at free
    cases free

theorem send_ran {x : UInt32} (ran : Job.Polled (n + 8) ((TopicOp.send h x).job device) ps (.done reply)) :
    ∃ cs, (TopicOp.send h x).Ran h device ps reply cs := by
  obtain ⟨waited, p, idle, rfl, before, after, outcome⟩ := sendJob_polled ran
  have quietW : ∀ q ∈ waited, q.Idle := fun q mem => (before q mem).2
  -- Every poll but the one that ended the send changed nothing.
  have frame : OnlyQueue h p → ∀ q ∈ waited ++ p :: idle, OnlyQueue h q := fun last =>
    List.forall_mem_append.mpr ⟨fun q mem => .of_idle (quietW q mem),
      List.forall_mem_cons.mpr ⟨last, fun q mem => .of_idle (after q mem)⟩⟩
  rcases outcome with ⟨e, rfl, refused, same, rfl⟩ | ⟨q', sent, left, rfl⟩ | ⟨same, gaveUp⟩
  · -- The route is refused: nothing changes, and the error is neither busy nor full.
    refine ⟨[], .waited (.idle same .nil) ?_ after, frame (.of_idle same)⟩
    have known := route_error _ _ refused
    refine ⟨fun busy => ?_, .inr ⟨rfl, e, rfl, fun full => ?_⟩⟩
    · cases busy
      rcases known with known | known <;> cases known
    · subst full
      rcases known with known | known <;> cases known
  · -- The poll that found room put the item last.
    obtain ⟨room, rfl⟩ := Queue.trySend_eq_ok_iff.mp sent
    obtain ⟨r, held⟩ := held_of_room room
    have put : Step ((queueLens selfLens h).get p.before) (.accepted x) ((queueLens selfLens h).get p.after) := by
      rw [left, queueLens_get_set held]
      exact .accept room
    refine ⟨_, .waited (.of_idle quietW (.step put .nil)) ?_ after, frame (.of_set left)⟩
    exact ⟨nofun, .inl ⟨rfl, rfl⟩⟩
  · -- The send gave up: a poll found the mutex held, or every poll found the queue full.
    refine ⟨[], .waited (.of_idle quietW (.idle same .nil)) ?_ after, frame (.of_idle same)⟩
    rcases gaveUp with ⟨rfl, locked⟩ | ⟨rfl, gaveUp⟩
    · exact ⟨fun _ => locked, .inr ⟨rfl, _, rfl, nofun⟩⟩
    by_cases someLocked : ∃ q ∈ waited ++ [p], q.before.locked h = true
    · exact ⟨nofun, .inr ⟨rfl, _, rfl, fun _ => .inl someLocked⟩⟩
    · rcases gaveUp with locked | ⟨full, -⟩
      · exact absurd locked someLocked
      exact ⟨nofun, .inr ⟨rfl, _, rfl, fun _ => .inr (isFull_of_not_locked before full someLocked)⟩⟩

theorem job_ran {op : TopicOp} (on : op.OnRoute h) (ran : Job.Polled (n + 8) (op.job device) ps (.done reply)) :
    ∃ cs, op.Ran h device ps reply cs := by
  cases on with
  | send x => exact send_ran ran
  | encodeNext timestamp dev prefill => exact encodeNext_ran (n := n + 6) ran

theorem paused_ran {d : Nat} {op : TopicOp} (on : op.OnRoute h)
    (ran : Job.Polled (n + 10) (Job.pause d (op.job device)) ps (.done reply)) : ∃ cs, op.Ran h device ps reply cs := by
  obtain ⟨slept, rest, rfl, idle, woken⟩ := Job.pause_polled ran
  obtain ⟨cs, answered, frame⟩ := job_ran on woken
  exact ⟨cs, answered.slept idle, List.forall_mem_append.mpr ⟨fun p mem => .of_idle (idle p mem), frame⟩⟩

theorem job_bounded {op : TopicOp} (on : op.OnRoute h) : (op.job device).Bounded 9 := by
  cases on with
  | send x => exact sendJob_bounded
  | encodeNext timestamp dev prefill => exact encodeJob_bounded.mono (by omega)

theorem Ran.calm {op : TopicOp} {cs : List (Change UInt32)} (on : op.OnRoute h) (ran : op.Ran h device ps reply cs)
    (free : ∀ p ∈ ps, p.before.locked h = false) : reply ≠ .failed .busy := by
  obtain ⟨⟨slept, polls, idle, rfl, -, -, answered⟩, -⟩ := ran
  have freeRan : ∀ p ∈ polls, p.before.locked h = false := fun p mem => free p (by simp [mem])
  cases on with
  | send x =>
    intro busy
    obtain ⟨p, mem, locked⟩ := answered.1 busy
    rw [freeRan p mem] at locked
    cases locked
  | encodeNext timestamp dev prefill =>
    obtain ⟨waited, p, rfl, -, -, running⟩ := answered
    exact (running (freeRan p (by simp))).1

section Unmissed

variable {x : UInt32} {t t' : Readings} {route : Topic UInt32} {pa pb : List (Poll Readings)}

theorem send_first_unmissed {now : Nat} {ra : TopicReply} (publish : t.route h .publish = .ok route)
    (ranA : Job.Polled (n + 8) ((TopicOp.send h x).job device) pa (.done ra))
    (free : ∀ q ∈ pa, q.before.locked h = false)
    (chain : Chain t (rounds pa pb) t') (timed : Lockstep now pa pb) :
    ∀ q ∈ pb, q.time < now + t.ioTimeout → ((queueLens selfLens h).get q.after).isFull = false → ra = .ok := by
  intro q mem early room
  obtain ⟨waited, p, idle, split, before, -, outcome⟩ := sendJob_polled ranA
  -- The send's first poll is the call's first: at `now`, and it found `t`.
  have heads : (waited ++ [p]).head? = pa.head? := by
    rw [split]
    cases waited <;> rfl
  obtain ⟨first, hfirst⟩ : ∃ first, (waited ++ [p]).head? = some first := by
    cases waited <;> exact ⟨_, rfl⟩
  have start : first.before = t := chain.rounds_head timed.length_eq (heads ▸ hfirst)
  have at_now : first.time = now := timed.head_time (by rw [← List.head?_eq_getElem?, ← heads, hfirst])
  -- No poll of the send found the mutex held.
  have calm := not_locked_of_free fun q mem => free q (split ▸ mem)
  rcases outcome with ⟨e, rfl, refused, -, -⟩ | ⟨-, -, -, rfl⟩ |
    ⟨-, ⟨-, locked⟩ | ⟨-, locked | ⟨full, first', listed, late⟩⟩⟩
  · -- The route was checked at that first poll, and it is a publish route.
    cases hfirst
    rw [start, publish] at refused
    cases refused
  · rfl
  · exact absurd locked calm
  · exact absurd locked calm
  · -- Given up: every poll of the send found the queue full, up to the deadline.
    rw [hfirst] at listed
    cases listed
    rw [start, at_now] at late
    have full' := timed.found_left (fun s => ((queueLens selfLens h).get s).isFull = true) chain split
      (isFull_of_not_locked before full calm) late q mem early
    rw [room] at full'
    cases full'

theorem send_after_encode_unmissed {m d timestamp : Nat} {dev : Option DeviceId} {prefill : String}
    {ra rb : TopicReply} (publish : t.route h .publish = .ok route)
    (ranA : Job.Polled (m + 2) ((TopicOp.encodeNext h timestamp dev prefill).job device) pa (.done ra))
    (onlyA : ∀ p ∈ pa, OnlyQueue h p) (freeA : ∀ p ∈ pa, p.before.locked h = false)
    (ranB : Job.Polled (n + 10) (Job.pause d ((TopicOp.send h x).job device)) pb (.done rb))
    (freeB : ∀ p ∈ pb, p.before.locked h = false)
    (chain : Chain t (rounds pa pb) t') (same : pa.length = pb.length) :
    ∀ p, pa.head? = some p → ((queueLens selfLens h).get p.after).isFull = false → rb = .ok := by
  intro p hp room
  have start : p.before = t := chain.rounds_head same hp
  obtain ⟨waitedA, pA, idleA, rfl, heldA, afterA, -⟩ := encodeJob_polled ranA
  -- The encode's first poll found the mutex free, so it ran there.
  obtain rfl : waitedA = [] := by
    cases waitedA with
    | nil => rfl
    | cons w ws =>
      have held := (heldA w List.mem_cons_self).1
      rw [freeA w List.mem_cons_self] at held
      cases held
  simp only [List.nil_append, List.head?_cons, Option.some.injEq] at hp
  subst hp
  obtain ⟨slept, more, rfl, idleB, woken⟩ := Job.pause_polled ranB
  obtain ⟨waited, q, idle, rfl, before, -, outcome⟩ := sendJob_polled woken
  -- The send's first poll finds what the encode left.
  obtain ⟨first, hfirst⟩ : ∃ first, (waited ++ q :: idle).head? = some first := by
    cases waited <;> exact ⟨_, rfl⟩
  have starts : (slept ++ (waited ++ q :: idle))[slept.length]? = some first := by
    rw [List.getElem?_append_right le_rfl, Nat.sub_self, ← List.head?_eq_getElem?, hfirst]
  have settled : first.before = pA.after := by
    refine chain.rounds_settled same rfl afterA (fun j q' lt found => ?_) starts
    rw [List.getElem?_append_left lt] at found
    exact idleB q' (List.mem_of_getElem? found)
  -- Every poll of the send found the mutex free.
  have calm := not_locked_of_free fun q' mem' => freeB q' (List.mem_append_right _ mem')
  rcases outcome with ⟨e, rfl, refused, -, -⟩ | ⟨-, -, -, rfl⟩ | ⟨-, ⟨-, locked⟩ | ⟨-, locked | ⟨full, -⟩⟩⟩
  · -- The encode changed at most the route's queue, so the route is still a publish route.
    cases hfirst
    have kept := onlyA pA List.mem_cons_self
    unfold OnlyQueue at kept
    obtain ⟨r', routed⟩ := route_set_ok ((queueLens selfLens h).get pA.after) publish
    rw [settled, ← kept, start, routed] at refused
    cases refused
  · rfl
  · exact absurd locked calm
  · exact absurd locked calm
  · -- Given up: the send's first poll found the queue full, and so the encode left it full.
    have polled : first ∈ waited ++ [q] := by
      cases waited with
      | nil =>
        cases hfirst
        exact List.mem_singleton_self _
      | cons w ws =>
        cases hfirst
        exact List.mem_cons_self
    have full' := isFull_of_not_locked before full calm first polled
    rw [settled, room] at full'
    cases full'

end Unmissed

section Rounds

variable {m : Nat} {pa pb : List (Poll Readings)}

theorem solo_ends {op : TopicOp} (on : op.OnRoute h) {t : Nat} {s : Readings} :
    ∃ e, Job.solo t s (op.job device) = some e :=
  Job.joinFor_ends (job_bounded on) (Job.Bounded.done (n := 0)) (by decide)

theorem join_ends {a b : TopicOp} (onA : a.OnRoute h) (onB : b.OnRoute h) {d t : Nat} {s : Readings} :
    ∃ e, Job.join t s (a.job device) (.pause d (b.job device)) = some e :=
  Job.joinFor_ends (job_bounded onA) (Job.Bounded.pause (job_bounded onB)) (by decide)

theorem solo_rounds {op : TopicOp} {u v : Unit} (on : op.OnRoute h)
    (ranA : Job.Polled (n + 8) (op.job device) pa (.done reply)) (ranB : Job.Polled m (Job.done u) pb (.done v))
    (same : pa.length = pb.length) :
    ∃ cs, op.Ran h device pa reply cs ∧ (∀ p ∈ pb, p.Idle) ∧ (∀ p ∈ rounds pa pb, OnlyQueue h p) ∧
      Changed (queueLens selfLens h) (rounds pa pb) cs := by
  obtain ⟨cs, answered, frame⟩ := job_ran on ranA
  -- The second job has already ended: it changes nothing.
  have idleB := (Job.Polled.of_done ranB).2
  exact ⟨cs, ⟨answered, frame⟩, idleB,
    fun p mem => (mem_rounds mem).elim (frame p) fun second => .of_idle (idleB p second),
    answered.changed.rounds_idle idleB same⟩

theorem joint_rounds {a b : TopicOp} {d : Nat} {ra rb : TopicReply} (onA : a.OnRoute h) (onB : b.OnRoute h)
    (ranA : Job.Polled (n + 8) (a.job device) pa (.done ra))
    (ranB : Job.Polled (m + 10) (Job.pause d (b.job device)) pb (.done rb)) (same : pa.length = pb.length) :
    ∃ ca cb cs, a.Ran h device pa ra ca ∧ b.Ran h device pb rb cb ∧ cs.Perm (ca ++ cb) ∧
      (∀ p ∈ rounds pa pb, OnlyQueue h p) ∧ Changed (queueLens selfLens h) (rounds pa pb) cs := by
  obtain ⟨ca, answeredA, frameA⟩ := job_ran onA ranA
  obtain ⟨cb, answeredB, frameB⟩ := paused_ran onB ranB
  obtain ⟨cs, changed, perm⟩ := Changed.rounds answeredA.changed answeredB.changed same
  exact ⟨ca, cb, cs, ⟨answeredA, frameA⟩, ⟨answeredB, frameB⟩, perm,
    fun p mem => (mem_rounds mem).elim (frameA p) (frameB p), changed⟩

end Rounds

end TopicOp

def TopicCall.OnRoute (h : Nat) : TopicCall → Prop
  | .single op => op.OnRoute h
  | .join a b _ => a.OnRoute h ∧ b.OnRoute h
  | .register _ => False

/-- What one call on route `h` did, its first job polled at `pa` and its second at `pb`, with the
changes `cs` it made in order, called at `now` on a table whose timeout is `timeout`. Each job
answers from what it found, neither answers that the route is busy, and a send misses no room: run
first, it takes room the other job leaves before its deadline; run second beside an encode, the
room the encode left. -/
def TopicCall.Ran (h : Nat) (device : DeviceId) (now timeout : Nat) :
    TopicCall → List (Poll Readings) → List (Poll Readings) → TopicReply → List (Change UInt32) → Prop
  | .single op, pa, pb, reply, cs => op.Ran h device pa reply cs ∧ (∀ p ∈ pb, p.Idle) ∧ reply ≠ .failed .busy
  | .join a b _, pa, pb, reply, cs => ∃ ra rb ca cb, reply = .both ra rb ∧ a.Ran h device pa ra ca ∧
      b.Ran h device pb rb cb ∧ cs.Perm (ca ++ cb) ∧ ra ≠ .failed .busy ∧ rb ≠ .failed .busy ∧
      (∀ x, a = .send h x → ∀ q ∈ pb, q.time < now + timeout →
        ((queueLens selfLens h).get q.after).isFull = false → ra = .ok) ∧
      (∀ x, b = .send h x → (∃ timestamp dev prefill, a = .encodeNext h timestamp dev prefill) →
        ∀ p, pa.head? = some p → ((queueLens selfLens h).get p.after).isFull = false → rb = .ok)
  | .register _, _, _, _, _ => False

/-- How a call on route `h` ran from table `t` to `t'`: its jobs polled in rounds, each poll from
the state the one before left and changing at most the route's queue; no poll finding the route's
mutex held or leaving it held; first in first out on that queue, the items sent being those
encoded, in order, and then those it holds; and each job's reply what it found. -/
structure TopicCall.Trace (h : Nat) (device : DeviceId) (now : Nat) (c : TopicCall) (t : Readings)
    (reply : TopicReply) (t' : Readings) (pa pb : List (Poll Readings)) (cs : List (Change UInt32)) : Prop where
  chain : Chain t (rounds pa pb) t'
  only : ∀ p ∈ rounds pa pb, OnlyQueue h p
  unlocked : ∀ p ∈ rounds pa pb, p.before.locked h = false ∧ p.after.locked h = false
  changed : Changed (queueLens selfLens h) (rounds pa pb) cs
  fifo : ((queueLens selfLens h).get t).items ++ cs.flatMap Change.entered =
    cs.flatMap Change.left ++ ((queueLens selfLens h).get t').items
  replies : c.Ran h device now t.ioTimeout pa pb reply cs

/-- Every call of producers' sends and the bridge's encodes on a publish route whose mutex is free,
one alone or two run together, ends, and: every poll changes at most the route's queue and leaves
the route's mutex free, since each job holds it only within a step, so a producer that waits for
room holds no mutex; the route stays first in first out, every item a send put last leaving only as
the oldest, taken by an encode; no send or encode answers that the route is busy; a send puts its
item last once and answers ok, or puts nothing and gives up for want of room only if it found the
queue full at every poll; and a send misses no room made for it before its deadline. -/
theorem publish_calls_drain_in_order {r : TableRun} {h : Nat} {route : Topic UInt32}
    (publish : r.table.route h .publish = .ok route) (free : r.table.locked h = false) (c : TopicCall)
    (on : c.OnRoute h) :
    ∃ pa pb cs, c.Trace h r.device r.now r.table (r.step c).1 (r.step c).2.table pa pb cs := by
  cases c with
  | register d => exact on.elim
  | single op =>
    -- The operation ends within its bound, so the run does not run out of rounds.
    obtain ⟨e, solo⟩ : ∃ e, Job.solo r.now r.table (op.job r.device) = some e := TopicOp.solo_ends on
    obtain ⟨pa, pb, ranA, ranB, chain, timed⟩ := Job.joinFor_timed solo
    obtain ⟨ca, answered, idleB, only, changed⟩ := TopicOp.solo_rounds on ranA ranB timed.length_eq
    have unlocked := unlocked_of_chain chain only free
    have calm := TopicOp.Ran.calm on answered fun p mem => (unlocked p (mem_rounds_left mem timed.length_eq)).1
    refine ⟨pa, pb, ca, ?_⟩
    simp only [TableRun.step, solo]
    exact ⟨chain, only, unlocked, changed, changed.ledger chain, answered, idleB, calm⟩
  | join a b delay =>
    obtain ⟨onA, onB⟩ := on
    -- Both operations end within their bounds, so the run does not run out of rounds.
    obtain ⟨e, joined⟩ : ∃ e, Job.join r.now r.table (a.job r.device) (.pause delay (b.job r.device)) = some e :=
      TopicOp.join_ends onA onB
    obtain ⟨pa, pb, ranA, ranB, chain, timed⟩ := Job.joinFor_timed joined
    have same := timed.length_eq
    obtain ⟨ca, cb, cs, answeredA, answeredB, perm, only, changed⟩ := TopicOp.joint_rounds onA onB ranA ranB same
    have unlocked := unlocked_of_chain chain only free
    have freeA : ∀ p ∈ pa, p.before.locked h = false := fun p mem => (unlocked p (mem_rounds_left mem same)).1
    have freeB : ∀ p ∈ pb, p.before.locked h = false := fun p mem => (unlocked p (mem_rounds_right mem same)).1
    refine ⟨pa, pb, cs, ?_⟩
    simp only [TableRun.step, joined]
    refine ⟨chain, only, unlocked, changed, changed.ledger chain,
      ⟨_, _, ca, cb, rfl, answeredA, answeredB, perm,
        TopicOp.Ran.calm onA answeredA freeA, TopicOp.Ran.calm onB answeredB freeB, ?_, ?_⟩⟩
    · rintro x rfl
      exact TopicOp.send_first_unmissed publish ranA freeA chain timed
    · rintro x rfl ⟨timestamp, dev, prefill, rfl⟩
      exact TopicOp.send_after_encode_unmissed publish ranA answeredA.2 freeA ranB freeB chain same

def heldReading : Topic UInt32 :=
  { suffix := "reading", direction := .publish, qos := .atMostOnce, codec := .encoder EncoderKind.value.encoder,
    queue := { capacity := 1, items := [1] } }

def fullRoute : TableRun :=
  ⟨{ space := ⟨"/titanium/A1B2C3D4E5F6/"⟩, capacity := 1, depth := 1, ioTimeout := 200000, topics := [heldReading] },
    ⟨"A1B2C3D4E5F6"⟩, 0⟩

def sendBesideEncode : TopicCall := .join (.send 0 2) (.encodeNext 0 0 none "") 5000

theorem publish_calls_drain_in_order_for_send_beside_encode :
    fullRoute.table.route 0 .publish = .ok heldReading ∧ fullRoute.table.locked 0 = false ∧
      sendBesideEncode.OnRoute 0 ∧
      ∃ pa pb cs, sendBesideEncode.Trace 0 fullRoute.device fullRoute.now fullRoute.table
        (fullRoute.step sendBesideEncode).1 (fullRoute.step sendBesideEncode).2.table pa pb cs :=
  ⟨rfl, rfl, ⟨.send 2, .encodeNext 0 none ""⟩,
    publish_calls_drain_in_order rfl rfl sendBesideEncode ⟨.send 2, .encodeNext 0 none ""⟩⟩

-- The producer waits without holding anything; the bridge takes the oldest reading, and the
-- producer, polled next, puts its own in the slot that freed.
example : (fullRoute.step sendBesideEncode).1 = TopicReply.both .ok (.encoded true "\x7b\"value\": 1\x7d") := by rfl

/-! Runs of calls on one route. -/

namespace TableRun

variable {r : TableRun} {h : Nat}

theorem step_moves {c : TopicCall} (on : c.OnRoute h) :
    ∃ ps cs, Chain r.table ps (r.step c).2.table ∧ (∀ p ∈ ps, OnlyQueue h p) ∧
      Changed (queueLens selfLens h) ps cs := by
  cases c with
  | register d => exact on.elim
  | single op =>
    obtain ⟨e, solo⟩ : ∃ e, Job.solo r.now r.table (op.job r.device) = some e := TopicOp.solo_ends on
    obtain ⟨pa, pb, ranA, ranB, chain, timed⟩ := Job.joinFor_timed solo
    obtain ⟨ca, -, -, only, changed⟩ := TopicOp.solo_rounds on ranA ranB timed.length_eq
    refine ⟨rounds pa pb, ca, ?_, only, changed⟩
    simp only [TableRun.step, solo]
    exact chain
  | join a b delay =>
    obtain ⟨onA, onB⟩ := on
    obtain ⟨e, joined⟩ : ∃ e, Job.join r.now r.table (a.job r.device) (.pause delay (b.job r.device)) = some e :=
      TopicOp.join_ends onA onB
    obtain ⟨pa, pb, ranA, ranB, chain, timed⟩ := Job.joinFor_timed joined
    obtain ⟨-, -, cs, -, -, -, only, changed⟩ := TopicOp.joint_rounds onA onB ranA ranB timed.length_eq
    refine ⟨rounds pa pb, cs, ?_, only, changed⟩
    simp only [TableRun.step, joined]
    exact chain

theorem foldl_step_moves {calls : List TopicCall} (on : ∀ c ∈ calls, c.OnRoute h) :
    ∃ ps cs, Chain r.table ps (calls.foldl (fun r c => (r.step c).2) r).table ∧ (∀ p ∈ ps, OnlyQueue h p) ∧
      Changed (queueLens selfLens h) ps cs := by
  -- On the calls, each one's polls followed by the rest of the run.
  induction calls generalizing r with
  | nil => exact ⟨[], [], .nil _, by simp, .nil⟩
  | cons c calls ih =>
    obtain ⟨ps, cs, chain, only, changed⟩ := step_moves (r := r) (on c List.mem_cons_self)
    obtain ⟨ps', cs', rest, only', changed'⟩ := ih (r := (r.step c).2) fun c' mem => on c' (List.mem_cons_of_mem _ mem)
    exact ⟨ps ++ ps', cs ++ cs', chain.append rest, List.forall_mem_append.mpr ⟨only, only'⟩,
      changed.append changed'⟩

/-- Over any run of producers' sends and the bridge's encodes on a publish route whose mutex is
free, the route stays a publish route whose mutex no poll finds held, and first in first out: the
items sent, in order, are those encoded followed by those the route holds at the end. -/
theorem runs_drain_in_order {route : Topic UInt32} (publish : r.table.route h .publish = .ok route)
    (free : r.table.locked h = false) {calls : List TopicCall} (on : ∀ c ∈ calls, c.OnRoute h) :
    (∃ route', (calls.foldl (fun r c => (r.step c).2) r).table.route h .publish = .ok route') ∧
      (calls.foldl (fun r c => (r.step c).2) r).table.locked h = false ∧
      ∃ (ps : List (Poll Readings)) (cs : List (Change UInt32)),
        Chain r.table ps (calls.foldl (fun r c => (r.step c).2) r).table ∧ (∀ p ∈ ps, p.before.locked h = false) ∧
        ((queueLens selfLens h).get r.table).items ++ cs.flatMap Change.entered =
          cs.flatMap Change.left ++ ((queueLens selfLens h).get (calls.foldl (fun r c => (r.step c).2) r).table).items := by
  obtain ⟨ps, cs, chain, only, changed⟩ := foldl_step_moves (r := r) on
  -- A poll that sets at most the route's queue keeps the route and its mutex.
  have routed := chain.holds (P := fun t => ∃ route', t.route h .publish = .ok route') (fun p mem found => by
    obtain ⟨route', found⟩ := found
    rw [← only p mem]
    exact route_set_ok _ found) ⟨route, publish⟩
  have stillFree := (chain.keeps (g := fun t => t.locked h) fun p mem => (only p mem).locked_eq).trans free
  exact ⟨routed, stillFree, ps, cs, chain, fun p mem => (unlocked_of_chain chain only free p mem).1, changed.ledger chain⟩

end TableRun

end Gateway.Scenario
