import Mathlib
import Gateway.Proofs.BoundedJobs
import Gateway.Proofs.Routing
import Gateway.Scenario.Queue
/-!
Bounded queues under any interleaving. Every operation of a queue changes it in one poll, by
one change at most: an item put last where there is room, the first item taken, or every item
dropped. So whatever runs between the polls of a job, the items that entered a queue are, in
order, those that left it followed by those it holds (`Changed.ledger`), and a queue within its
capacity stays within it.

Each operation answers from what it found at the polls at which it ran: a timed send that gives
up found the queue full each time and changed nothing, a timed receive that gives up found it
empty each time, and a wait for room answers yes exactly when some poll found room.

Main statement (`queue_calls_keep_fifo_order`): every call of the queue driver, one operation
alone or two run together, ends, keeps the queue within capacity at every state it passes through
and first in first out, and each operation's reply is what it found; and so does every run of
calls (`QueueRun.runs_keep_fifo_order`).
-/
namespace Gateway.Hub.Queue
open Gateway.Sched

variable {α σ : Type}

/-- What one operation does to a queue's items. -/
inductive Change (α : Type) where
  | accepted (x : α)
  | taken (x : α)
  | dropped (xs : List α)

namespace Change

def entered : Change α → List α
  | .accepted x => [x]
  | _ => []

def left : Change α → List α
  | .taken x => [x]
  | .dropped xs => xs
  | .accepted _ => []

end Change

/-- `q` becomes `q'` by change `c` as the queue's operations make it: an item put last where
there is room, the first item taken, or every item dropped. -/
inductive Step : Queue α → Change α → Queue α → Prop
  | accept {q : Queue α} {x : α} : q.items.length < q.capacity →
      Step q (.accepted x) { q with items := q.items ++ [x] }
  | take {q : Queue α} {x : α} {rest : List α} : q.items = x :: rest → Step q (.taken x) { q with items := rest }
  | drop {q : Queue α} : Step q (.dropped q.items) q.clear

namespace Step

variable {q q' : Queue α} {c : Change α}

/-- What a change puts in comes after what the queue held; what it takes out comes first. -/
theorem ledger (step : Step q c q') : q.items ++ c.entered = c.left ++ q'.items := by
  cases step with
  | accept _ => simp [Change.entered, Change.left]
  | take first => simp [Change.entered, Change.left, first]
  | drop => simp [Change.entered, Change.left, clear]

theorem capacity (step : Step q c q') : q'.capacity = q.capacity := by
  cases step <;> rfl

theorem bounded (step : Step q c q') (within : q.items.length ≤ q.capacity) :
    q'.items.length ≤ q'.capacity := by
  cases step with
  | accept room => simp; omega
  | take first => simp [first] at within ⊢; omega
  | drop => simp [clear]

end Step

/-- The polls `ps` changed the queue that `l` views by `cs`, in order: each poll left the state
as it found it, or changed that queue by one change. -/
inductive Changed (l : Lens σ (Queue α)) : List (Poll σ) → List (Change α) → Prop
  | nil : Changed l [] []
  | idle {p : Poll σ} {ps : List (Poll σ)} {cs : List (Change α)} : p.Idle → Changed l ps cs →
      Changed l (p :: ps) cs
  | step {p : Poll σ} {ps : List (Poll σ)} {c : Change α} {cs : List (Change α)} :
      Step (l.get p.before) c (l.get p.after) → Changed l ps cs → Changed l (p :: ps) (c :: cs)

namespace Changed

variable {l : Lens σ (Queue α)} {ps : List (Poll σ)} {cs : List (Change α)}

theorem append {qs : List (Poll σ)} {ds : List (Change α)} (first : Changed l ps cs) (second : Changed l qs ds) :
    Changed l (ps ++ qs) (cs ++ ds) := by
  induction first with
  | nil => exact second
  | idle same _ ih => exact .idle same ih
  | step step _ ih => exact .step step ih

theorem of_idle {ws : List (Poll σ)} (idle : ∀ p ∈ ws, p.Idle) (rest : Changed l ps cs) :
    Changed l (ws ++ ps) cs := by
  induction ws with
  | nil => exact rest
  | cons w ws ih =>
    exact .idle (idle w List.mem_cons_self) (ih fun p mem => idle p (List.mem_cons_of_mem _ mem))

theorem append_idle {ws : List (Poll σ)} (rest : Changed l ps cs) (idle : ∀ p ∈ ws, p.Idle) :
    Changed l (ps ++ ws) cs := by
  induction rest with
  | nil => simpa using of_idle idle nil
  | idle first _ ih => exact .idle first ih
  | step first _ ih => exact .step first ih

/-- Over a chain of polls, the items that entered the viewed queue are, in order, those that left
it followed by those it holds at the end. -/
theorem ledger {s s' : σ} (chain : Chain s ps s') (changed : Changed l ps cs) :
    (l.get s).items ++ cs.flatMap Change.entered = cs.flatMap Change.left ++ (l.get s').items := by
  induction chain generalizing cs with
  | nil => cases changed; simp
  | @cons p ps s' _ ih =>
    cases changed with
    | idle same rest =>
      rw [← show p.after = p.before from same]
      exact ih rest
    | @step _ _ c cs step rest =>
      rw [List.flatMap_cons, List.flatMap_cons, ← List.append_assoc, step.ledger, List.append_assoc, ih rest,
        List.append_assoc]

theorem bounded {s s' : σ} (chain : Chain s ps s') (changed : Changed l ps cs)
    (within : (l.get s).items.length ≤ (l.get s).capacity) :
    (∀ p ∈ ps, (l.get p.after).items.length ≤ (l.get p.after).capacity) ∧
      (l.get s').items.length ≤ (l.get s').capacity := by
  induction chain generalizing cs with
  | nil => exact ⟨by simp, within⟩
  | @cons p ps s' _ ih =>
    -- The state a poll leaves is within capacity, and the rest of the chain starts from it.
    obtain ⟨next, cs', rest⟩ :
        (l.get p.after).items.length ≤ (l.get p.after).capacity ∧ ∃ cs', Changed l ps cs' := by
      cases changed with
      | idle same rest => exact ⟨by rw [show p.after = p.before from same]; exact within, _, rest⟩
      | step step rest => exact ⟨step.bounded within, _, rest⟩
    obtain ⟨later, last⟩ := ih rest next
    exact ⟨fun q mem => (List.mem_cons.mp mem).elim (fun same => same ▸ next) (later q), last⟩

theorem rounds {pa pb : List (Poll σ)} {ca cb : List (Change α)} (changedA : Changed l pa ca)
    (changedB : Changed l pb cb) (same : pa.length = pb.length) :
    ∃ cs, Changed l (Gateway.Sched.rounds pa pb) cs ∧ cs.Perm (ca ++ cb) := by
  induction changedA generalizing pb cb with
  | nil =>
    cases changedB with
    | nil => exact ⟨[], .nil, by simp⟩
    | idle _ _ => simp at same
    | step _ _ => simp at same
  | @idle p ps ca first _ ih =>
    cases changedB with
    | nil => simp at same
    | @idle q qs _ second rest =>
      obtain ⟨cs, changed, perm⟩ := ih rest (by simpa using same)
      exact ⟨cs, .idle first (.idle second changed), perm⟩
    | @step q qs c cb second rest =>
      obtain ⟨cs, changed, perm⟩ := ih rest (by simpa using same)
      exact ⟨c :: cs, .idle first (.step second changed), (perm.cons c).trans List.perm_middle.symm⟩
  | @step p ps c ca first _ ih =>
    cases changedB with
    | nil => simp at same
    | @idle q qs _ second rest =>
      obtain ⟨cs, changed, perm⟩ := ih rest (by simpa using same)
      exact ⟨c :: cs, .step first (.idle second changed), perm.cons c⟩
    | @step q qs c' cb second rest =>
      obtain ⟨cs, changed, perm⟩ := ih rest (by simpa using same)
      refine ⟨c :: c' :: cs, .step first (.step second changed), ?_⟩
      exact ((perm.cons c').trans List.perm_middle.symm).cons c

theorem rounds_idle {pa pb : List (Poll σ)} {ca : List (Change α)} (changedA : Changed l pa ca)
    (idleB : ∀ p ∈ pb, p.Idle) (same : pa.length = pb.length) :
    Changed l (Gateway.Sched.rounds pa pb) ca := by
  induction changedA generalizing pb with
  | nil => cases pb <;> exact .nil
  | idle first _ ih =>
    cases pb with
    | nil => simp at same
    | cons q qs =>
      exact .idle first (.idle (idleB q List.mem_cons_self)
        (ih (fun p mem => idleB p (List.mem_cons_of_mem _ mem)) (by simpa using same)))
  | step first _ ih =>
    cases pb with
    | nil => simp at same
    | cons q qs =>
      exact .step first (.idle (idleB q List.mem_cons_self)
        (ih (fun p mem => idleB p (List.mem_cons_of_mem _ mem)) (by simpa using same)))

end Changed

/-- A job as it ran among others on the queue that `l` views: the polls before it started and after
it ended change nothing, and the polls `ran` in between make its changes `cs` and its reply as
`answers` says of them. -/
def Ran {β : Type} (l : Lens σ (Queue α)) (answers : List (Poll σ) → β → List (Change α) → Prop)
    (polls : List (Poll σ)) (reply : β) (cs : List (Change α)) : Prop :=
  ∃ slept ran idle, polls = slept ++ ran ++ idle ∧ (∀ p ∈ slept ++ idle, p.Idle) ∧ Changed l ran cs ∧
    answers ran reply cs

namespace Ran

variable {β : Type} {l : Lens σ (Queue α)} {answers : List (Poll σ) → β → List (Change α) → Prop}
  {ps : List (Poll σ)} {reply : β} {cs : List (Change α)}

theorem once {p : Poll σ} (changed : Changed l [p] cs) (answered : answers [p] reply cs) {rest : List (Poll σ)}
    (idle : ∀ q ∈ rest, q.Idle) : Ran l answers (p :: rest) reply cs :=
  ⟨[], [p], rest, rfl, by simpa using idle, changed, answered⟩

theorem waited {waited idle : List (Poll σ)} {p : Poll σ} (changed : Changed l (waited ++ [p]) cs)
    (answered : answers (waited ++ [p]) reply cs) (after : ∀ q ∈ idle, q.Idle) :
    Ran l answers (waited ++ p :: idle) reply cs :=
  ⟨[], waited ++ [p], idle, by simp, by simpa using after, changed, answered⟩

theorem slept {slept : List (Poll σ)} (idle : ∀ q ∈ slept, q.Idle) (ran : Ran l answers ps reply cs) :
    Ran l answers (slept ++ ps) reply cs := by
  obtain ⟨slept', ran, after, rfl, idle', changed, answered⟩ := ran
  refine ⟨slept ++ slept', ran, after, by simp, fun q mem => ?_, changed, answered⟩
  simp only [List.mem_append] at mem idle'
  rcases mem with (first | second) | third
  · exact idle q first
  · exact idle' q (.inl second)
  · exact idle' q (.inr third)

theorem changed (ran : Ran l answers ps reply cs) : Changed l ps cs := by
  obtain ⟨slept, ran, idle, rfl, quiet, changed, -⟩ := ran
  rw [List.append_assoc]
  exact .of_idle (fun q mem => quiet q (List.mem_append_left _ mem))
    (changed.append_idle fun q mem => quiet q (List.mem_append_right _ mem))

end Ran

section Jobs

variable {β : Type} {l : Lens σ (Queue α)} {timeout n : Nat} {ps : List (Poll σ)} {r : β}

theorem isFull_eq_true_iff {q : Queue α} : q.isFull = true ↔ q.capacity ≤ q.items.length := by
  simp [isFull]

def sendReady (l : Lens σ (Queue α)) (x : α) (k : Job σ β) (s : σ) : Option (σ × Job σ β) :=
  match (l.get s).trySend x with
  | .ok q => some (l.set s q, k)
  | .error _ => none

theorem sendJob_eq (x : α) (k : Bool → Job σ β) :
    sendJob l x timeout k = Job.within timeout (sendReady l x (k true)) (k false) := rfl

theorem sendReady_eq_none {x : α} {k : Job σ β} {s : σ} :
    sendReady l x k s = none ↔ (l.get s).isFull = true := by
  unfold sendReady
  split
  · next q sent => simp [isFull_eq_true_iff, (trySend_eq_ok_iff.mp sent).1]
  · next y sent => simp [isFull_eq_true_iff, (trySend_eq_error_iff.mp sent).1]

theorem sendReady_eq_some {x : α} {k k₁ : Job σ β} {s s₁ : σ} :
    sendReady l x k s = some (s₁, k₁) ↔ ∃ q, (l.get s).trySend x = .ok q ∧ s₁ = l.set s q ∧ k₁ = k := by
  unfold sendReady
  split
  · next q sent => simp [sent, eq_comm]
  · next y sent => simp [sent]

theorem sendJob_polled {x : α} {f : Bool → β}
    (ran : Job.Polled (n + 3) (sendJob l x timeout (.done ∘ f)) ps (.done r)) :
    ∃ waited p idle, ps = waited ++ p :: idle ∧ (∀ q ∈ waited, (l.get q.before).isFull = true ∧ q.Idle) ∧
      (∀ q ∈ idle, q.Idle) ∧
      ((∃ q', (l.get p.before).trySend x = .ok q' ∧ p.after = l.set p.before q' ∧ r = f true) ∨
        ((l.get p.before).isFull = true ∧ p.Idle ∧ r = f false ∧
          ∃ first rest, waited = first :: rest ∧ first.time + timeout ≤ p.time)) := by
  rw [sendJob_eq] at ran
  have ends : ∀ s s₁ (k : Job σ β), sendReady l x (.done (f true)) s = some (s₁, k) → ∃ s₂ a, k.EndsAt s₁ s₂ a :=
    Job.ends_of_done fun s s₁ k found => by
      obtain ⟨q, -, -, rfl⟩ := sendReady_eq_some.mp found
      exact ⟨f true, rfl⟩
  obtain ⟨waited, p, idle, rfl, before, after, outcome⟩ := Job.within_polled ends ran
  refine ⟨waited, p, idle, rfl, fun q mem => ⟨sendReady_eq_none.mp (before q mem).1, (before q mem).2⟩, after, ?_⟩
  rcases outcome with ⟨s₁, k, found, ended⟩ | ⟨none_yet, same, rfl, late⟩
  · obtain ⟨q', sent, rfl, rfl⟩ := sendReady_eq_some.mp found
    obtain ⟨left, rfl⟩ := Job.EndsAt.of_done ended
    exact .inl ⟨q', sent, left, rfl⟩
  · exact .inr ⟨sendReady_eq_none.mp none_yet, same, rfl, late⟩

def receiveReady (l : Lens σ (Queue α)) (k : Option α → Job σ β) (s : σ) : Option (σ × Job σ β) :=
  (l.get s).tryReceive.map fun (x, q) => (l.set s q, k (some x))

theorem receiveJob_eq (k : Option α → Job σ β) :
    receiveJob l timeout k = Job.within timeout (receiveReady l k) (k none) := rfl

theorem receiveReady_eq_none {k : Option α → Job σ β} {s : σ} :
    receiveReady l k s = none ↔ (l.get s).items = [] := by
  unfold receiveReady tryReceive
  split <;> simp_all

theorem receiveReady_eq_some {k : Option α → Job σ β} {k₁ : Job σ β} {s s₁ : σ} :
    receiveReady l k s = some (s₁, k₁) ↔
      ∃ x rest, (l.get s).items = x :: rest ∧ s₁ = l.set s { l.get s with items := rest } ∧ k₁ = k (some x) := by
  unfold receiveReady tryReceive
  split
  · next none_left => simp [none_left]
  · next x rest first => simp [first, eq_comm]

theorem receiveJob_polled {f : Option α → β}
    (ran : Job.Polled (n + 3) (receiveJob l timeout (.done ∘ f)) ps (.done r)) :
    ∃ waited p idle, ps = waited ++ p :: idle ∧ (∀ q ∈ waited, (l.get q.before).items = [] ∧ q.Idle) ∧
      (∀ q ∈ idle, q.Idle) ∧
      ((∃ x rest, (l.get p.before).items = x :: rest ∧
          p.after = l.set p.before { l.get p.before with items := rest } ∧ r = f (some x)) ∨
        ((l.get p.before).items = [] ∧ p.Idle ∧ r = f none ∧
          ∃ first rest, waited = first :: rest ∧ first.time + timeout ≤ p.time)) := by
  rw [receiveJob_eq] at ran
  have ends : ∀ s s₁ (k : Job σ β), receiveReady l (.done ∘ f) s = some (s₁, k) → ∃ s₂ a, k.EndsAt s₁ s₂ a :=
    Job.ends_of_done fun s s₁ k found => by
      obtain ⟨x, -, -, -, rfl⟩ := receiveReady_eq_some.mp found
      exact ⟨f (some x), rfl⟩
  obtain ⟨waited, p, idle, rfl, before, after, outcome⟩ := Job.within_polled ends ran
  refine ⟨waited, p, idle, rfl, fun q mem => ⟨receiveReady_eq_none.mp (before q mem).1, (before q mem).2⟩,
    after, ?_⟩
  rcases outcome with ⟨s₁, k, found, ended⟩ | ⟨none_yet, same, rfl, late⟩
  · obtain ⟨x, rest, first, rfl, rfl⟩ := receiveReady_eq_some.mp found
    obtain ⟨left, rfl⟩ := Job.EndsAt.of_done ended
    exact .inl ⟨x, rest, first, left, rfl⟩
  · exact .inr ⟨receiveReady_eq_none.mp none_yet, same, rfl, late⟩

def spaceReady (l : Lens σ (Queue α)) (k : Job σ β) (s : σ) : Option (σ × Job σ β) :=
  if (l.get s).isFull then none else some (s, k)

theorem spaceJob_eq (k : Bool → Job σ β) :
    spaceJob l timeout k = Job.within timeout (spaceReady l (k true)) (k false) := rfl

theorem spaceReady_eq_none {k : Job σ β} {s : σ} : spaceReady l k s = none ↔ (l.get s).isFull = true := by
  unfold spaceReady
  split <;> simp_all

theorem spaceReady_eq_some {k k₁ : Job σ β} {s s₁ : σ} :
    spaceReady l k s = some (s₁, k₁) ↔ (l.get s).isFull = false ∧ s₁ = s ∧ k₁ = k := by
  unfold spaceReady
  cases full : (l.get s).isFull
  · simp [eq_comm]
  · simp

theorem spaceJob_polled {f : Bool → β}
    (ran : Job.Polled (n + 3) (spaceJob l timeout (.done ∘ f)) ps (.done r)) :
    ∃ waited p idle, ps = waited ++ p :: idle ∧ (∀ q ∈ waited, (l.get q.before).isFull = true ∧ q.Idle) ∧
      (∀ q ∈ idle, q.Idle) ∧ p.Idle ∧
      ((l.get p.before).isFull = false ∧ r = f true ∨
        ((l.get p.before).isFull = true ∧ r = f false ∧
          ∃ first rest, waited = first :: rest ∧ first.time + timeout ≤ p.time)) := by
  rw [spaceJob_eq] at ran
  have ends : ∀ s s₁ (k : Job σ β), spaceReady l (.done (f true)) s = some (s₁, k) → ∃ s₂ a, k.EndsAt s₁ s₂ a :=
    Job.ends_of_done fun s s₁ k found => by
      obtain ⟨-, -, rfl⟩ := spaceReady_eq_some.mp found
      exact ⟨f true, rfl⟩
  obtain ⟨waited, p, idle, rfl, before, after, outcome⟩ := Job.within_polled ends ran
  refine ⟨waited, p, idle, rfl, fun q mem => ⟨spaceReady_eq_none.mp (before q mem).1, (before q mem).2⟩,
    after, ?_⟩
  rcases outcome with ⟨s₁, k, found, ended⟩ | ⟨none_yet, same, rfl, late⟩
  · obtain ⟨room, rfl, rfl⟩ := spaceReady_eq_some.mp found
    obtain ⟨left, rfl⟩ := Job.EndsAt.of_done ended
    exact ⟨left, .inl ⟨room, rfl⟩⟩
  · exact ⟨same, .inr ⟨spaceReady_eq_none.mp none_yet, rfl, late⟩⟩

theorem sendJob_bounded {x : α} {f : Bool → β} : (sendJob l x timeout (.done ∘ f)).Bounded 3 := by
  rw [sendJob_eq]
  refine .within (fun s s₁ k found => ?_) .done
  obtain ⟨-, -, -, rfl⟩ := sendReady_eq_some.mp found
  exact .done

theorem receiveJob_bounded {f : Option α → β} : (receiveJob l timeout (.done ∘ f)).Bounded 3 := by
  rw [receiveJob_eq]
  refine .within (fun s s₁ k found => ?_) .done
  obtain ⟨-, -, -, -, rfl⟩ := receiveReady_eq_some.mp found
  exact .done

theorem spaceJob_bounded {f : Bool → β} : (spaceJob l timeout (.done ∘ f)).Bounded 3 := by
  rw [spaceJob_eq]
  refine .within (fun s s₁ k found => ?_) .done
  obtain ⟨-, -, rfl⟩ := spaceReady_eq_some.mp found
  exact .done

end Jobs

end Gateway.Hub.Queue

namespace Gateway.Scenario
open Gateway.Hub Gateway.Sched Gateway.Hub.Queue

@[simp] theorem selfLens_get {σ : Type} (s : σ) : (selfLens : Lens σ σ).get s = s := rfl

@[simp] theorem selfLens_set {σ : Type} (s s' : σ) : (selfLens : Lens σ σ).set s s' = s' := rfl

def Expired {σ : Type} (timeout : Nat) (ran : List (Poll σ)) : Prop :=
  ∃ first last, ran.head? = some first ∧ ran.getLast? = some last ∧ first.time + timeout ≤ last.time

theorem expired_of_waited {σ : Type} {timeout : Nat} {first p : Poll σ} {rest : List (Poll σ)}
    (late : first.time + timeout ≤ p.time) : Expired timeout (first :: rest ++ [p]) :=
  ⟨first, p, rfl, List.getLast?_concat, late⟩

/-- What a caller of `op` gets, from what the polls `ran` at which it ran found, and the changes
`cs` it made to the queue. -/
def QueueOp.Answers : QueueOp → List (Poll (Queue Nat)) → QueueReply → List (Change Nat) → Prop
  | .send x timeout, ran, reply, cs => ∃ sent : Bool, reply = .flag sent ∧
      cs = (if sent then [.accepted x] else []) ∧
      (sent = false → Expired timeout ran ∧ ∀ p ∈ ran, p.before.isFull = true)
  | .trySend x, ran, reply, cs => ∃ p, ran = [p] ∧
      (p.before.isFull = false ∧ reply = .offer (.ok ()) ∧ cs = [.accepted x] ∨
        p.before.isFull = true ∧ reply = .offer (.error x) ∧ cs = [])
  | .receive timeout, ran, reply, cs => ∃ got : Option Nat, reply = .item got ∧
      cs = got.toList.map .taken ∧ (got = none → Expired timeout ran ∧ ∀ p ∈ ran, p.before.items = [])
  | .tryReceive, ran, reply, cs => ∃ p, ran = [p] ∧ reply = .item p.before.items.head? ∧
      cs = p.before.items.head?.toList.map .taken
  | .len, ran, reply, cs => ∃ p, ran = [p] ∧ reply = .count p.before.len ∧ cs = []
  | .isEmpty, ran, reply, cs => ∃ p, ran = [p] ∧ reply = .flag p.before.items.isEmpty ∧ cs = []
  | .capacity, ran, reply, cs => ∃ p, ran = [p] ∧ reply = .count p.before.capacity ∧ cs = []
  | .clear, ran, reply, cs => ∃ p, ran = [p] ∧ reply = .none ∧ cs = [.dropped p.before.items]
  | .waitForSpace timeout, ran, reply, cs => ∃ room : Bool, reply = .flag room ∧ cs = [] ∧
      (room = true ↔ ∃ p ∈ ran, p.before.isFull = false) ∧ (room = false → Expired timeout ran)
  | .sleep _, _, reply, cs => reply = .none ∧ cs = []
  | .refused why, ran, reply, cs => ran = [] ∧ reply = .refused why ∧ cs = []

/-- One job of a call as it ran among others: the polls before it started and after it ended
change nothing, and the polls `ran` in between make its changes and its reply. -/
def QueueOp.Ran (op : QueueOp) (polls : List (Poll (Queue Nat))) (reply : QueueReply)
    (cs : List (Change Nat)) : Prop :=
  ∃ slept ran idle, polls = slept ++ ran ++ idle ∧ (∀ p ∈ slept ++ idle, p.Idle) ∧
    Changed selfLens ran cs ∧ op.Answers ran reply cs

namespace QueueOp

variable {op : QueueOp} {ps : List (Poll (Queue Nat))} {reply : QueueReply} {cs : List (Change Nat)}

theorem Ran.once {p : Poll (Queue Nat)} (changed : Changed selfLens [p] cs) (answers : op.Answers [p] reply cs)
    {rest : List (Poll (Queue Nat))} (idle : ∀ q ∈ rest, q.Idle) : op.Ran (p :: rest) reply cs :=
  Queue.Ran.once changed answers idle

theorem Ran.waited {waited idle : List (Poll (Queue Nat))} {p : Poll (Queue Nat)}
    (changed : Changed selfLens (waited ++ [p]) cs) (answers : op.Answers (waited ++ [p]) reply cs)
    (after : ∀ q ∈ idle, q.Idle) : op.Ran (waited ++ p :: idle) reply cs :=
  Queue.Ran.waited changed answers after

theorem Ran.slept {slept : List (Poll (Queue Nat))} (idle : ∀ q ∈ slept, q.Idle) (ran : op.Ran ps reply cs) :
    op.Ran (slept ++ ps) reply cs :=
  Queue.Ran.slept idle (ran : Queue.Ran selfLens op.Answers ps reply cs)

theorem Ran.changed (ran : op.Ran ps reply cs) : Changed selfLens ps cs :=
  Queue.Ran.changed (ran : Queue.Ran selfLens op.Answers ps reply cs)

theorem Ran.of_read {n : Nat} {f : Queue Nat → QueueReply}
    (ran : Job.Polled (n + 1) (.now (fun q => (q, f q)) .done) ps (.done reply))
    (answers : ∀ p : Poll (Queue Nat), op.Answers [p] (f p.before) []) : op.Ran ps reply [] := by
  obtain ⟨p, rest, rfl, acted, idle⟩ := Job.now_polled ran
  simp only [Prod.mk.injEq] at acted
  obtain ⟨same, rfl⟩ := acted
  exact .once (.idle same.symm .nil) (answers p) idle

theorem send_ran {n x timeout : Nat} (ran : Job.Polled (n + 3) (QueueOp.job (.send x timeout)) ps (.done reply)) :
    ∃ cs, (QueueOp.send x timeout).Ran ps reply cs := by
  obtain ⟨waited, p, idle, rfl, before, after, outcome⟩ := sendJob_polled ran
  have waitedIdle : ∀ q ∈ waited, q.Idle := fun q mem => (before q mem).2
  rcases outcome with ⟨q', sent, left, rfl⟩ | ⟨full, same, rfl, first, rest, rfl, late⟩
  · -- The poll that found room put the item last.
    obtain ⟨room, rfl⟩ := trySend_eq_ok_iff.mp sent
    have put : Step p.before (.accepted x) p.after := by
      rw [show p.after = _ from left]
      exact .accept room
    exact ⟨_, .waited (.of_idle waitedIdle (.step put .nil)) ⟨true, rfl, rfl, nofun⟩ after⟩
  · -- Every poll found the queue full, the last one past the deadline.
    have full' : ∀ q ∈ first :: rest ++ [p], q.before.isFull = true :=
      List.forall_mem_append.mpr ⟨fun q mem => (before q mem).1, List.forall_mem_singleton.mpr full⟩
    exact ⟨[], .waited (.of_idle waitedIdle (.idle same .nil))
      ⟨false, rfl, rfl, fun _ => ⟨expired_of_waited late, full'⟩⟩ after⟩

theorem trySend_ran {n x : Nat} (ran : Job.Polled (n + 1) (QueueOp.job (.trySend x)) ps (.done reply)) :
    ∃ cs, (QueueOp.trySend x).Ran ps reply cs := by
  unfold QueueOp.job at ran
  obtain ⟨p, rest, rfl, acted, idle⟩ := Job.now_polled ran
  cases sent : p.before.trySend x with
  | ok q' =>
    simp only [sent, Prod.mk.injEq] at acted
    obtain ⟨left, rfl⟩ := acted
    obtain ⟨room, rfl⟩ := trySend_eq_ok_iff.mp sent
    have put : Step p.before (.accepted x) p.after := by
      rw [← left]
      exact .accept room
    refine ⟨_, .once (.step put .nil) ?_ idle⟩
    exact ⟨p, rfl, .inl ⟨by simp [isFull]; omega, rfl, rfl⟩⟩
  | error y =>
    simp only [sent, Prod.mk.injEq] at acted
    obtain ⟨same, rfl⟩ := acted
    obtain ⟨full, rfl⟩ := trySend_eq_error_iff.mp sent
    refine ⟨[], .once (.idle same.symm .nil) ?_ idle⟩
    exact ⟨p, rfl, .inr ⟨isFull_eq_true_iff.mpr full, rfl, rfl⟩⟩

theorem receive_ran {n timeout : Nat} (ran : Job.Polled (n + 3) (QueueOp.job (.receive timeout)) ps (.done reply)) :
    ∃ cs, (QueueOp.receive timeout).Ran ps reply cs := by
  obtain ⟨waited, p, idle, rfl, before, after, outcome⟩ := receiveJob_polled ran
  have waitedIdle : ∀ q ∈ waited, q.Idle := fun q mem => (before q mem).2
  rcases outcome with ⟨x, rest, first, left, rfl⟩ | ⟨empty, same, rfl, w, ws, rfl, late⟩
  · -- The poll that found an item took the first.
    have took : Step p.before (.taken x) p.after := by
      rw [show p.after = _ from left]
      exact .take first
    exact ⟨_, .waited (.of_idle waitedIdle (.step took .nil)) ⟨some x, rfl, rfl, nofun⟩ after⟩
  · have empty' : ∀ q ∈ w :: ws ++ [p], q.before.items = [] :=
      List.forall_mem_append.mpr ⟨fun q mem => (before q mem).1, List.forall_mem_singleton.mpr empty⟩
    exact ⟨[], .waited (.of_idle waitedIdle (.idle same .nil))
      ⟨none, rfl, rfl, fun _ => ⟨expired_of_waited late, empty'⟩⟩ after⟩

theorem tryReceive_ran {n : Nat} (ran : Job.Polled (n + 1) (QueueOp.job .tryReceive) ps (.done reply)) :
    ∃ cs, QueueOp.tryReceive.Ran ps reply cs := by
  unfold QueueOp.job at ran
  obtain ⟨p, rest, rfl, acted, idle⟩ := Job.now_polled ran
  cases first : p.before.items with
  | nil =>
    simp only [Queue.tryReceive, first, Prod.mk.injEq] at acted
    obtain ⟨same, rfl⟩ := acted
    refine ⟨[], .once (.idle same.symm .nil) ?_ idle⟩
    exact ⟨p, rfl, by simp [first], by simp [first]⟩
  | cons x rest' =>
    simp only [Queue.tryReceive, first, Prod.mk.injEq] at acted
    obtain ⟨left, rfl⟩ := acted
    have took : Step p.before (.taken x) p.after := by
      rw [← left]
      exact .take first
    refine ⟨_, .once (.step took .nil) ?_ idle⟩
    exact ⟨p, rfl, by simp [first], by simp [first]⟩

theorem clear_ran {n : Nat} (ran : Job.Polled (n + 1) (QueueOp.job .clear) ps (.done reply)) :
    ∃ cs, QueueOp.clear.Ran ps reply cs := by
  unfold QueueOp.job at ran
  obtain ⟨p, rest, rfl, acted, idle⟩ := Job.now_polled ran
  simp only [Prod.mk.injEq] at acted
  have dropped : Step p.before (.dropped p.before.items) p.after := by
    rw [← acted.1]
    exact .drop
  refine ⟨_, .once (.step dropped .nil) ?_ idle⟩
  exact ⟨p, rfl, acted.2.symm, rfl⟩

theorem waitForSpace_ran {n timeout : Nat}
    (ran : Job.Polled (n + 3) (QueueOp.job (.waitForSpace timeout)) ps (.done reply)) :
    ∃ cs, (QueueOp.waitForSpace timeout).Ran ps reply cs := by
  obtain ⟨waited, p, idle, rfl, before, after, same, outcome⟩ := spaceJob_polled ran
  have waitedIdle : ∀ q ∈ waited, q.Idle := fun q mem => (before q mem).2
  have changed : Changed selfLens (waited ++ [p]) [] := .of_idle waitedIdle (.idle same .nil)
  rcases outcome with ⟨room, rfl⟩ | ⟨full, rfl, w, ws, rfl, late⟩
  · refine ⟨[], .waited changed ⟨true, rfl, rfl, ⟨fun _ => ⟨p, by simp, room⟩, fun _ => rfl⟩, nofun⟩ after⟩
  · -- No poll found room: the waits before found the queue full, and so did the last.
    have full' : ∀ q ∈ w :: ws ++ [p], q.before.isFull = true :=
      List.forall_mem_append.mpr ⟨fun q mem => (before q mem).1, List.forall_mem_singleton.mpr full⟩
    refine ⟨[], .waited changed ⟨false, rfl, rfl, ⟨nofun, fun ⟨q, mem, room⟩ => ?_⟩,
      fun _ => expired_of_waited late⟩ after⟩
    rw [full' q mem] at room
    cases room

theorem job_ran {n : Nat} (op : QueueOp) (ran : Job.Polled (n + 3) op.job ps (.done reply)) :
    ∃ cs, op.Ran ps reply cs := by
  cases op with
  | send x timeout => exact send_ran ran
  | trySend x => exact trySend_ran ran
  | receive timeout => exact receive_ran ran
  | tryReceive => exact tryReceive_ran ran
  | len => exact ⟨[], .of_read ran fun p => ⟨p, rfl, rfl, rfl⟩⟩
  | isEmpty => exact ⟨[], .of_read ran fun p => ⟨p, rfl, rfl, rfl⟩⟩
  | capacity => exact ⟨[], .of_read ran fun p => ⟨p, rfl, rfl, rfl⟩⟩
  | clear => exact clear_ran ran
  | waitForSpace timeout => exact waitForSpace_ran ran
  | sleep d =>
    obtain ⟨slept, rest, rfl, idle, woken⟩ := Job.pause_polled (ran.mono (Nat.le_succ _))
    obtain ⟨ended, idle'⟩ := woken.of_done
    cases ended
    refine ⟨[], slept ++ rest, [], [], by simp, fun q mem => ?_, .nil, rfl, rfl⟩
    simp only [List.append_nil, List.mem_append] at mem
    exact mem.elim (idle q) (idle' q)
  | refused why =>
    obtain ⟨ended, idle⟩ := Job.Polled.of_done ran
    cases ended
    exact ⟨[], [], [], ps, by simp, by simpa using idle, .nil, rfl, rfl, rfl⟩

theorem paused_ran {n d : Nat} (op : QueueOp) (ran : Job.Polled (n + 5) (Job.pause d op.job) ps (.done reply)) :
    ∃ cs, op.Ran ps reply cs := by
  obtain ⟨slept, rest, rfl, idle, woken⟩ := Job.pause_polled ran
  obtain ⟨cs, answered⟩ := job_ran op woken
  exact ⟨cs, answered.slept idle⟩

theorem job_bounded (op : QueueOp) : op.job.Bounded 3 := by
  cases op with
  | send x timeout => exact sendJob_bounded
  | receive timeout => exact receiveJob_bounded
  | waitForSpace timeout => exact spaceJob_bounded
  | sleep d => exact .pause .done
  | refused why => exact .done
  -- The rest act at their one poll.
  | _ =>
    unfold QueueOp.job
    exact Job.Bounded.now (n := 2) fun _ => .done

end QueueOp

/-- What one call did, its first job polled at `pa` and its second at `pb`, with the changes `cs`
it made in order: one operation alone, beside a job that does nothing, or two operations run
together, each answering from what it found. -/
def QueueCall.Ran : QueueCall → List (Poll (Queue Nat)) → List (Poll (Queue Nat)) → QueueReply →
    List (Change Nat) → Prop
  | .single op, pa, pb, reply, cs => op.Ran pa reply cs ∧ ∀ p ∈ pb, p.Idle
  | .join a b _, pa, pb, reply, cs => ∃ ra rb ca cb, reply = .both ra rb ∧ a.Ran pa ra ca ∧ b.Ran pb rb cb ∧
      cs.Perm (ca ++ cb)

/-- How a call ran from queue `q` to `q'`: its jobs polled in rounds, each poll from the state the
one before left; every state within capacity; first in first out, the items that entered being
those that left, in order, and then those the queue holds; and each job's reply what it found. -/
structure QueueCall.Trace (c : QueueCall) (q : Queue Nat) (reply : QueueReply) (q' : Queue Nat)
    (pa pb : List (Poll (Queue Nat))) (cs : List (Change Nat)) : Prop where
  chain : Chain q (rounds pa pb) q'
  changed : Changed selfLens (rounds pa pb) cs
  bounded : ∀ p ∈ rounds pa pb, p.after.items.length ≤ p.after.capacity
  fifo : q.items ++ cs.flatMap Change.entered = cs.flatMap Change.left ++ q'.items
  replies : c.Ran pa pb reply cs

theorem QueueRun.step_ran (r : QueueRun) (c : QueueCall) :
    ∃ pa pb cs, Chain r.queue (rounds pa pb) (r.step c).2.queue ∧ Changed selfLens (rounds pa pb) cs ∧
      c.Ran pa pb (r.step c).1 cs := by
  cases c with
  | single op =>
    obtain ⟨e, solo⟩ : ∃ e, Job.solo r.now r.queue op.job = some e :=
      Job.joinFor_ends (QueueOp.job_bounded op) (Job.Bounded.done (n := 0)) (by decide)
    obtain ⟨pa, pb, same, ranA, ranB, chain⟩ := Job.joinFor_polled solo
    obtain ⟨ca, answered⟩ := QueueOp.job_ran op ranA
    -- The second job has already ended: it changes nothing.
    have idleB := (Job.Polled.of_done ranB).2
    refine ⟨pa, pb, ca, ?_⟩
    simp only [QueueRun.step, solo]
    exact ⟨chain, answered.changed.rounds_idle idleB same, answered, idleB⟩
  | join a b delay =>
    obtain ⟨e, joined⟩ : ∃ e, Job.join r.now r.queue a.job (.pause delay b.job) = some e :=
      Job.joinFor_ends (QueueOp.job_bounded a) (Job.Bounded.pause (QueueOp.job_bounded b)) (by decide)
    obtain ⟨pa, pb, same, ranA, ranB, chain⟩ := Job.joinFor_polled joined
    obtain ⟨ca, answeredA⟩ := QueueOp.job_ran a ranA
    obtain ⟨cb, answeredB⟩ := QueueOp.paused_ran b ranB
    obtain ⟨cs, changed, perm⟩ := Changed.rounds answeredA.changed answeredB.changed same
    refine ⟨pa, pb, cs, ?_⟩
    simp only [QueueRun.step, joined]
    exact ⟨chain, changed, _, _, ca, cb, rfl, answeredA, answeredB, perm⟩

/-- Every call of the queue driver, one operation alone or two run together, from a queue within
capacity, ends; it keeps the queue within capacity at every state it passes through and first in
first out, every item that entered leaving once, taken by one receive or dropped by a clear, or
staying; and each operation answers from what it found at the polls at which it ran. -/
theorem queue_calls_keep_fifo_order {r : QueueRun} (within : r.queue.items.length ≤ r.queue.capacity)
    (c : QueueCall) : ∃ pa pb cs, c.Trace r.queue (r.step c).1 (r.step c).2.queue pa pb cs := by
  obtain ⟨pa, pb, cs, chain, changed, answered⟩ := r.step_ran c
  exact ⟨pa, pb, cs, chain, changed, (changed.bounded chain within).1, changed.ledger chain, answered⟩

theorem QueueRun.foldl_step_ran (r : QueueRun) (calls : List QueueCall) :
    ∃ ps cs, Chain r.queue ps (calls.foldl (fun r c => (r.step c).2) r).queue ∧ Changed selfLens ps cs := by
  -- On the calls, each one's rounds followed by the rest of the run.
  induction calls generalizing r with
  | nil => exact ⟨[], [], .nil _, .nil⟩
  | cons c calls ih =>
    obtain ⟨pa, pb, cs, chain, changed, -⟩ := r.step_ran c
    obtain ⟨ps, cs', rest, changedRest⟩ := ih (r.step c).2
    exact ⟨rounds pa pb ++ ps, cs ++ cs', chain.append rest, changed.append changedRest⟩

/-- Over any run of calls from a queue within capacity, the queue stays within capacity at every
state, and first in first out: the items that entered it, in order, are those that left it
followed by those it holds at the end. -/
theorem QueueRun.runs_keep_fifo_order {r : QueueRun} (within : r.queue.items.length ≤ r.queue.capacity)
    (calls : List QueueCall) :
    ∃ (ps : List (Poll (Queue Nat))) (cs : List (Change Nat)), Chain r.queue ps (calls.foldl (fun r c => (r.step c).2) r).queue ∧
      (∀ p ∈ ps, p.after.items.length ≤ p.after.capacity) ∧
      r.queue.items ++ cs.flatMap Change.entered =
        cs.flatMap Change.left ++ (calls.foldl (fun r c => (r.step c).2) r).queue.items := by
  obtain ⟨ps, cs, chain, changed⟩ := r.foldl_step_ran calls
  exact ⟨ps, cs, chain, (changed.bounded chain within).1, changed.ledger chain⟩

def fullQueue : QueueRun := ⟨{ capacity := 1, items := [1] }, 0⟩

def sendBesideReceive : QueueCall := .join (.send 2 1000) (.receive 1000) 5

theorem queue_calls_keep_fifo_order_for_send_beside_receive :
    fullQueue.queue.items.length ≤ fullQueue.queue.capacity ∧
      ∃ pa pb cs, sendBesideReceive.Trace fullQueue.queue (fullQueue.step sendBesideReceive).1
        (fullQueue.step sendBesideReceive).2.queue pa pb cs :=
  ⟨by decide, queue_calls_keep_fifo_order (by decide) sendBesideReceive⟩

-- The receive frees the slot at its first poll, and the send, polled next, takes it.
example : (fullQueue.step sendBesideReceive).1 = .both (.flag true) (.item (some 1)) := by rfl

end Gateway.Scenario
