import Mathlib
import Gateway.Sched.Job
/-!
Jobs among other jobs. A job moves only when it is polled, and between two of its polls the
others may change the state in any way. `Job.Polled` is that view of one job: the list of its
polls, each with the instant, the state it found and the state it left. A statement about the
polls of a job holds whatever the other jobs did, and so for every interleaving.

The shapes of this library's jobs each get one lemma: a job that does one thing at once
(`now_polled`), one that waits for the state up to a timeout (`within_polled`), and one that
sleeps before it starts (`pause_polled`). Two jobs run together (`joinFor_polled`) are two such
lists of polls, taken in rounds, each poll starting from the state the one before it left.
-/
namespace Gateway.Sched

/-- One poll of a job: at instant `time` it found the state `before` and left `after`. -/
structure Poll (σ : Type) where
  time : Nat
  before : σ
  after : σ

def Poll.Idle {σ : Type} (p : Poll σ) : Prop := p.after = p.before

/-- Each poll starts from the state the one before it left, from `s` to `s'`. -/
inductive Chain {σ : Type} : σ → List (Poll σ) → σ → Prop
  | nil (s : σ) : Chain s [] s
  | cons {p : Poll σ} {ps : List (Poll σ)} {s' : σ} : Chain p.after ps s' → Chain p.before (p :: ps) s'

def rounds {σ : Type} : List (Poll σ) → List (Poll σ) → List (Poll σ)
  | p :: ps, q :: qs => p :: q :: rounds ps qs
  | _, _ => []

theorem Chain.round {σ : Type} {p q : Poll σ} {ps qs : List (Poll σ)} {s s' : σ} (start : p.before = s)
    (meet : q.before = p.after) (rest : Chain q.after (rounds ps qs) s') : Chain s (rounds (p :: ps) (q :: qs)) s' := by
  show Chain s (p :: q :: rounds ps qs) s'
  rw [← start]
  refine .cons ?_
  rw [← meet]
  exact .cons rest

theorem Chain.first {σ : Type} {p : Poll σ} {ps : List (Poll σ)} {s s' : σ} (chain : Chain s (p :: ps) s') :
    p.before = s ∧ Chain p.after ps s' := by
  cases chain with
  | cons rest => exact ⟨rfl, rest⟩

theorem Chain.append {σ : Type} {ps qs : List (Poll σ)} {s s' s'' : σ} (first : Chain s ps s')
    (second : Chain s' qs s'') : Chain s (ps ++ qs) s'' := by
  induction first with
  | nil => exact second
  | cons _ ih => exact .cons (ih second)

theorem Chain.keeps {σ β : Type} {g : σ → β} {s s' : σ} {ps : List (Poll σ)} (chain : Chain s ps s')
    (kept : ∀ p ∈ ps, g p.after = g p.before) : g s' = g s := by
  induction chain with
  | nil => rfl
  | @cons p ps s' _ ih =>
    rw [ih fun q mem => kept q (List.mem_cons_of_mem _ mem)]
    exact kept p List.mem_cons_self

theorem Chain.holds {σ : Type} {P : σ → Prop} {s s' : σ} {ps : List (Poll σ)} (chain : Chain s ps s')
    (carried : ∀ p ∈ ps, P p.before → P p.after) (start : P s) : P s' := by
  induction chain with
  | nil => exact start
  | @cons p ps s' _ ih => exact ih (fun q mem => carried q (List.mem_cons_of_mem _ mem)) (carried p List.mem_cons_self start)

theorem mem_rounds {σ : Type} {pa pb : List (Poll σ)} {p : Poll σ} (mem : p ∈ rounds pa pb) : p ∈ pa ∨ p ∈ pb := by
  induction pa generalizing pb with
  | nil => simp [rounds] at mem
  | cons a as ih =>
    cases pb with
    | nil => simp [rounds] at mem
    | cons b bs =>
      simp only [rounds, List.mem_cons] at mem
      rcases mem with rfl | rfl | later
      · exact .inl List.mem_cons_self
      · exact .inr List.mem_cons_self
      · rcases ih later with left | right
        · exact .inl (List.mem_cons_of_mem _ left)
        · exact .inr (List.mem_cons_of_mem _ right)

theorem Chain.rounds_head {σ : Type} {pa pb : List (Poll σ)} {s s' : σ} {p : Poll σ}
    (chain : Chain s (rounds pa pb) s') (same : pa.length = pb.length) (hp : pa.head? = some p) : p.before = s := by
  cases pa with
  | nil => cases hp
  | cons a as =>
    cases hp
    cases pb with
    | nil => cases same
    | cons b bs => exact (Chain.first chain).1

theorem Chain.rounds_meet {σ : Type} {pa pb : List (Poll σ)} {s s' : σ} (chain : Chain s (rounds pa pb) s')
    (same : pa.length = pb.length) :
    (∀ (i : Nat) (p q : Poll σ), pa[i]? = some p → pb[i]? = some q → q.before = p.after) ∧
      (∀ (i : Nat) (q p : Poll σ), pb[i]? = some q → pa[i + 1]? = some p → p.before = q.after) := by
  induction pa generalizing pb s with
  | nil => exact ⟨by simp, by simp⟩
  | cons p ps ih =>
    cases pb with
    | nil => cases same
    | cons q qs =>
      obtain ⟨-, second⟩ := Chain.first chain
      obtain ⟨meet, rest⟩ := Chain.first second
      have same' : ps.length = qs.length := by simpa using same
      obtain ⟨within, across⟩ := ih rest same'
      refine ⟨fun i p' q' hp hq => ?_, fun i q' p' hq hp => ?_⟩
      · cases i with
        | zero =>
          cases hp
          cases hq
          exact meet
        | succ i => exact within i p' q' hp hq
      · cases i with
        | zero =>
          cases hq
          -- The first job's next poll heads the rest of the rounds, which start where `q` ended.
          cases ps with
          | nil => cases hp
          | cons p'' ps =>
            cases hp
            cases qs with
            | nil => cases same'
            | cons _ _ => exact (Chain.first rest).1
        | succ i => exact across i q' p' hq hp

/-- The polls of two jobs in rounds from instant `t`: both polls of a round at one instant, the
first round at `t` and each one after it no earlier than the one before. -/
inductive Lockstep {σ : Type} : Nat → List (Poll σ) → List (Poll σ) → Prop
  | nil (t : Nat) : Lockstep t [] []
  | round {t t' : Nat} {p q : Poll σ} {ps qs : List (Poll σ)} : p.time = t → q.time = t → t ≤ t' →
      Lockstep t' ps qs → Lockstep t (p :: ps) (q :: qs)

namespace Lockstep

variable {σ : Type} {t : Nat} {pa pb : List (Poll σ)}

theorem length_eq (timed : Lockstep t pa pb) : pa.length = pb.length := by
  induction timed with
  | nil => rfl
  | round _ _ _ _ ih => simp [ih]

theorem le_time (timed : Lockstep t pa pb) : ∀ p ∈ pa, t ≤ p.time := by
  induction timed with
  | nil => simp
  | round first _ later _ ih =>
    intro p mem
    rcases List.mem_cons.mp mem with rfl | rest
    · omega
    · exact later.trans (ih p rest)

theorem head_time {p : Poll σ} (timed : Lockstep t pa pb) (hp : pa[0]? = some p) : p.time = t := by
  cases timed with
  | nil => cases hp
  | round first _ _ _ =>
    cases hp
    exact first

theorem same_time (timed : Lockstep t pa pb) {i : Nat} {p q : Poll σ} (hp : pa[i]? = some p)
    (hq : pb[i]? = some q) : q.time = p.time := by
  induction timed generalizing i with
  | nil => cases hp
  | round first second _ _ ih =>
    cases i with
    | zero =>
      cases hp
      cases hq
      omega
    | succ i => exact ih hp hq

theorem time_mono (timed : Lockstep t pa pb) {i j : Nat} {p p' : Poll σ} (le : i ≤ j) (hp : pa[i]? = some p)
    (hp' : pa[j]? = some p') : p.time ≤ p'.time := by
  induction timed generalizing i j with
  | nil => cases hp
  | round first _ later rest ih =>
    cases i with
    | zero =>
      cases hp
      cases j with
      | zero =>
        cases hp'
        exact le_rfl
      | succ j => exact first ▸ later.trans (rest.le_time p' (List.mem_of_getElem? hp'))
    | succ i =>
      cases j with
      | zero => omega
      | succ j => exact ih (by omega) hp hp'

theorem found_left (P : σ → Prop) {s s' : σ} {deadline : Nat} {waited rest : List (Poll σ)} {p : Poll σ}
    (timed : Lockstep t pa pb) (chain : Chain s (rounds pa pb) s') (split : pa = waited ++ p :: rest)
    (found : ∀ q ∈ waited ++ [p], P q.before) (late : deadline ≤ p.time) :
    ∀ q ∈ pb, q.time < deadline → P q.after := by
  intro q mem early
  obtain ⟨i, hq⟩ := List.mem_iff_getElem?.mp mem
  have same := timed.length_eq
  have bound : i < pb.length := (List.getElem?_eq_some_iff.mp hq).1
  have hp : pa[waited.length]? = some p := by simp [split]
  have long : waited.length < pa.length := (List.getElem?_eq_some_iff.mp hp).1
  cases hpi : pa[i]? with
  | none =>
    have := List.getElem?_eq_none_iff.mp hpi
    omega
  | some pi =>
    have at_once := timed.same_time hpi hq
    by_cases ended : waited.length ≤ i
    · -- At or after its last poll the job's instant is past the deadline, and so is `q`'s.
      have := timed.time_mono ended hp hpi
      omega
    · -- The job's next poll is one of those that found `P`, and it starts where `q` ended.
      cases hnext : pa[i + 1]? with
      | none =>
        have := List.getElem?_eq_none_iff.mp hnext
        omega
      | some p' =>
        have starts := (chain.rounds_meet same).2 i q p' hq hnext
        have listed : (waited ++ [p])[i + 1]? = some p' := by
          rw [split, show waited ++ p :: rest = waited ++ [p] ++ rest by simp,
            List.getElem?_append_left (by simp; omega)] at hnext
          exact hnext
        rw [← starts]
        exact found p' (List.mem_of_getElem? listed)

end Lockstep

theorem Chain.rounds_settled {σ : Type} {pa pb : List (Poll σ)} {s s' : σ} (chain : Chain s (rounds pa pb) s')
    (same : pa.length = pb.length) {p₀ : Poll σ} {rest : List (Poll σ)} (split : pa = p₀ :: rest)
    (quietA : ∀ q ∈ rest, q.Idle) {i : Nat} (quietB : ∀ j q, j < i → pb[j]? = some q → q.Idle) {q : Poll σ}
    (hq : pb[i]? = some q) : q.before = p₀.after := by
  obtain ⟨within, across⟩ := chain.rounds_meet same
  induction i generalizing q with
  | zero => exact within 0 p₀ q (by simp [split]) hq
  | succ i ih =>
    have bound : i + 1 < pb.length := (List.getElem?_eq_some_iff.mp hq).1
    obtain ⟨q', hq'⟩ : ∃ q', pb[i]? = some q' := ⟨pb[i], List.getElem?_eq_getElem (by omega)⟩
    obtain ⟨p', hp'⟩ : ∃ p', pa[i + 1]? = some p' := ⟨pa[i + 1], List.getElem?_eq_getElem (by omega)⟩
    have quiet : p'.Idle := quietA p' (List.mem_of_getElem? (by simpa [split] using hp'))
    -- Round `i + 1` starts where round `i` ended, and neither poll between changed anything.
    calc q.before = p'.after := within (i + 1) p' q hp' hq
      _ = p'.before := quiet
      _ = q'.after := across i q' p' hq' hp'
      _ = q'.before := quietB i q' (by omega) hq'
      _ = p₀.after := ih (fun j q'' lt found => quietB j q'' (by omega) found) hq'

namespace Job

variable {σ α β : Type}

section Equations

variable {ready : σ → Option (σ × Job σ α)} {d : Nat} {armed : Bool} {fuel t : Nat} {s : σ}

theorem poll_step (f : Nat → σ → σ × Job σ α) :
    poll (fuel + 1) t s (.step f) =
      (((f t s).2.poll fuel t (f t s).1).1, ((f t s).2.poll fuel t (f t s).1).2.1, true) := rfl

theorem poll_done (a : α) : poll fuel t s (.done a) = (s, .done a, false) := by
  cases fuel <;> rfl

theorem poll_await_ready {expired : Job σ α} {s' : σ} {k : Job σ α} (found : ready s = some (s', k)) :
    poll (fuel + 1) t s (.await ready d armed expired) = ((k.poll fuel t s').1, (k.poll fuel t s').2.1, true) := by
  simp [poll, found]

theorem poll_await_expired {expired : Job σ α} (none_yet : ready s = none) (late : armed = true ∧ d ≤ t) :
    poll (fuel + 1) t s (.await ready d armed expired) =
      ((expired.poll fuel t s).1, (expired.poll fuel t s).2.1, true) := by
  simp [poll, none_yet, late]

theorem poll_await_waits {expired : Job σ α} (none_yet : ready s = none) (early : ¬ (armed = true ∧ d ≤ t)) :
    poll (fuel + 1) t s (.await ready d armed expired) = (s, .await ready d true expired, !armed) := by
  simp only [not_and, not_le] at early
  cases armed <;> simp_all [poll]

theorem poll_sleep_wakes {next : Job σ α} (late : armed = true ∧ d ≤ t) :
    poll (fuel + 1) t s (.sleep d armed next) = ((next.poll fuel t s).1, (next.poll fuel t s).2.1, true) := by
  simp [poll, late]

theorem poll_sleep_waits {next : Job σ α} (early : ¬ (armed = true ∧ d ≤ t)) :
    poll (fuel + 1) t s (.sleep d armed next) = (s, .sleep d true next, !armed) := by
  simp only [not_and, not_le] at early
  cases armed <;> simp_all [poll]

theorem result?_eq_some {j : Job σ α} {a : α} : j.result? = some a ↔ j = .done a := by
  cases j <;> simp [result?]

end Equations

/-- The polls of a job among others, from `j` to `j'`, each of at least `n` steps: between two
polls the state may have changed in any way. The scheduler of this library gives every poll
`pollFuel` steps, more than any of its jobs takes before it waits or ends. -/
inductive Polled (n : Nat) : Job σ α → List (Poll σ) → Job σ α → Prop
  | nil (j : Job σ α) : Polled n j [] j
  | poll {j j' : Job σ α} {ps : List (Poll σ)} (fuel t : Nat) (s : σ) : n ≤ fuel →
      Polled n (j.poll fuel t s).2.1 ps j' → Polled n j (⟨t, s, (j.poll fuel t s).1⟩ :: ps) j'

variable {n : Nat} {j j' : Job σ α} {ps : List (Poll σ)}

theorem Polled.mono {m : Nat} (le : m ≤ n) (ran : Polled n j ps j') : Polled m j ps j' := by
  induction ran with
  | nil j => exact .nil j
  | poll fuel t s enough _ ih => exact .poll fuel t s (le.trans enough) ih

theorem Polled.of_done {a : α} (ran : Polled n (.done a) ps j') : j' = .done a ∧ ∀ p ∈ ps, p.Idle := by
  induction ps with
  | nil =>
    cases ran
    exact ⟨rfl, by simp⟩
  | cons p ps ih =>
    cases ran with
    | poll fuel t s _ rest =>
      rw [poll_done] at rest
      obtain ⟨ended, idle⟩ := ih rest
      refine ⟨ended, fun q mem => ?_⟩
      rcases List.mem_cons.mp mem with rfl | later
      · show (Job.poll fuel t s (.done a)).1 = s
        rw [poll_done]
      · exact idle q later

theorem Polled.ne_nil {a : α} (ran : Polled n j ps (.done a)) (running : ∀ b, j ≠ .done b) : ps ≠ [] := by
  rintro rfl
  cases ran
  exact running a rfl

theorem Polled.first {fuel t : Nat} {s s₁ : σ} {j₁ : Job σ α} {moved : Bool}
    (polled : j.poll fuel t s = (s₁, j₁, moved)) (enough : n ≤ fuel) (rest : Polled n j₁ ps j') :
    Polled n j (⟨t, s, s₁⟩ :: ps) j' := by
  have first := Polled.poll fuel t s enough (show Polled n (j.poll fuel t s).2.1 ps j' by rw [polled]; exact rest)
  rwa [polled] at first

theorem Polled.step_first {f : Nat → σ → σ × Job σ α} {p : Poll σ}
    (ran : Polled (n + 1) (.step f) (p :: ps) j') :
    Polled n (f p.time p.before).2 (⟨p.time, (f p.time p.before).1, p.after⟩ :: ps) j' := by
  cases ran with
  | poll fuel t s enough rest =>
    obtain ⟨m, rfl⟩ : ∃ m, fuel = m + 1 := ⟨fuel - 1, by omega⟩
    exact .poll m t _ (by omega) (rest.mono (Nat.le_succ n))

/-- A job that does one thing at once does it at its first poll, and nothing after. -/
theorem now_polled {f : σ → σ × α} {r : α} (ran : Polled (n + 1) (.now f .done) ps (.done r)) :
    ∃ p rest, ps = p :: rest ∧ f p.before = (p.after, r) ∧ ∀ q ∈ rest, q.Idle := by
  obtain ⟨p, rest, rfl⟩ := List.exists_cons_of_ne_nil (ran.ne_nil fun _ => nofun)
  obtain ⟨ended, idle⟩ := ran.step_first.of_done
  have first := idle _ List.mem_cons_self
  refine ⟨p, rest, rfl, ?_, fun q mem => idle q (List.mem_cons_of_mem _ mem)⟩
  simp only [Poll.Idle] at first
  rw [first, Job.done.inj ended]

/-- `k`, polled from `s`, ends in that poll whatever its instant and however many steps the
poll has: it leaves `s'` and gives `a`. -/
def EndsAt (k : Job σ α) (s s' : σ) (a : α) : Prop :=
  ∀ fuel t, (k.poll (fuel + 1) t s).1 = s' ∧ (k.poll (fuel + 1) t s).2.1 = .done a

theorem EndsAt.done (s : σ) (a : α) : (Job.done a).EndsAt s s a := fun _ _ => ⟨rfl, rfl⟩

theorem EndsAt.step {f : Nat → σ → σ × Job σ α} {s s' : σ} {a : α} (ends : ∀ t, f t s = (s', .done a)) :
    (Job.step f).EndsAt s s' a := by
  intro fuel t
  simp [poll_step, ends, poll_done]

theorem EndsAt.unique {k : Job σ α} {s s₁ s₂ : σ} {a b : α} (one : k.EndsAt s s₁ a) (two : k.EndsAt s s₂ b) :
    s₁ = s₂ ∧ a = b := by
  obtain ⟨left₁, ended₁⟩ := one 0 0
  obtain ⟨left₂, ended₂⟩ := two 0 0
  exact ⟨left₁.symm.trans left₂, Job.done.inj (ended₁.symm.trans ended₂)⟩

theorem EndsAt.of_done {a r : α} {s s' : σ} (ends : (Job.done a).EndsAt s s' r) : s' = s ∧ r = a :=
  ends.unique (EndsAt.done s a)

/-- Polled among other jobs, a job that ends at its first poll leaves there what `EndsAt` says,
and the polls after it change nothing. -/
theorem EndsAt.polled {k : Job σ α} {s₁ s₂ s' : σ} {a r : α} {t : Nat} (ends : k.EndsAt s₁ s₂ a)
    (ran : Polled (n + 1) k (⟨t, s₁, s'⟩ :: ps) (.done r)) : s' = s₂ ∧ r = a ∧ ∀ q ∈ ps, q.Idle := by
  cases ran with
  | poll fuel t s enough rest =>
    obtain ⟨m, rfl⟩ : ∃ m, fuel = m + 1 := ⟨fuel - 1, by omega⟩
    obtain ⟨left, ended⟩ := ends m t
    rw [ended] at rest
    obtain ⟨same, idle⟩ := rest.of_done
    exact ⟨left, Job.done.inj same, idle⟩

theorem ends_of_done {ready : σ → Option (σ × Job σ α)}
    (done : ∀ s s₁ k, ready s = some (s₁, k) → ∃ a, k = .done a) :
    ∀ s s₁ k, ready s = some (s₁, k) → ∃ s₂ a, k.EndsAt s₁ s₂ a := by
  intro s s₁ k found
  obtain ⟨a, rfl⟩ := done s s₁ k found
  exact ⟨s₁, a, EndsAt.done s₁ a⟩

section Waiting

variable {ready : σ → Option (σ × Job σ α)} {e r : α}

theorem await_polled_on {d : Nat} {armed : Bool} {expired : Job σ α}
    (ran : Polled (n + 1) (.await ready d armed expired) ps (.done r)) :
    ∃ waited p rest, ps = waited ++ p :: rest ∧ (∀ q ∈ waited, ready q.before = none ∧ q.Idle) ∧
      ((∃ s₁ k, ready p.before = some (s₁, k) ∧ Polled n k (⟨p.time, s₁, p.after⟩ :: rest) (.done r)) ∨
        (ready p.before = none ∧ d ≤ p.time ∧ (armed = true ∨ waited ≠ []) ∧
          Polled n expired (p :: rest) (.done r))) := by
  induction ps generalizing armed with
  | nil => cases ran
  | cons p ps ih =>
    cases ran with
    | poll fuel t s enough rest =>
      obtain ⟨m, rfl⟩ : ∃ m, fuel = m + 1 := ⟨fuel - 1, by omega⟩
      cases found : ready s with
      | some got =>
        -- Ready: the job goes on as `ready` says, in this same poll.
        obtain ⟨s₁, k⟩ := got
        simp only [poll_await_ready found] at rest ⊢
        exact ⟨[], _, ps, rfl, by simp, .inl ⟨s₁, k, found, .poll m t s₁ (by omega) (rest.mono (Nat.le_succ n))⟩⟩
      | none =>
        by_cases late : armed = true ∧ d ≤ t
        · -- Past the deadline: the job goes on as `expired`, in this same poll.
          simp only [poll_await_expired found late] at rest ⊢
          exact ⟨[], _, ps, rfl, by simp,
            .inr ⟨found, late.2, .inl late.1, .poll m t s (by omega) (rest.mono (Nat.le_succ n))⟩⟩
        · -- Still early: the poll arms the timer and the wait goes on.
          simp only [poll_await_waits found late] at rest ⊢
          obtain ⟨waited, q, more, rfl, before, outcome⟩ := ih rest
          refine ⟨⟨t, s, s⟩ :: waited, q, more, rfl, ?_, ?_⟩
          · intro q' mem
            rcases List.mem_cons.mp mem with rfl | later
            · exact ⟨found, rfl⟩
            · exact before q' later
          · rcases outcome with ready | ⟨none_yet, past, -, expiredRan⟩
            · exact .inl ready
            · exact .inr ⟨none_yet, past, .inr (List.cons_ne_nil _ _), expiredRan⟩

theorem within_polled_on {timeout : Nat} {expired : Job σ α}
    (ran : Polled (n + 2) (within timeout ready expired) ps (.done r)) :
    ∃ waited p rest, ps = waited ++ p :: rest ∧ (∀ q ∈ waited, ready q.before = none ∧ q.Idle) ∧
      ((∃ s₁ k, ready p.before = some (s₁, k) ∧ Polled n k (⟨p.time, s₁, p.after⟩ :: rest) (.done r)) ∨
        (ready p.before = none ∧ Polled n expired (p :: rest) (.done r) ∧
          ∃ first others, waited = first :: others ∧ first.time + timeout ≤ p.time)) := by
  obtain ⟨first, ps, rfl⟩ := List.exists_cons_of_ne_nil (ran.ne_nil fun _ => nofun)
  -- The first poll only sets the deadline, then waits as `await` does, from the same state.
  have waiting : Polled (n + 1) (.await ready (first.time + timeout) false expired) (first :: ps) (.done r) :=
    ran.step_first
  obtain ⟨waited, p, rest, split, before, outcome⟩ := await_polled_on waiting
  refine ⟨waited, p, rest, split, before, ?_⟩
  rcases outcome with ready | ⟨none_yet, past, armed, expiredRan⟩
  · exact .inl ready
  · -- The wait expired at a later poll: the first one heads the polls that waited.
    obtain ⟨w, ws, rfl⟩ := List.exists_cons_of_ne_nil (armed.resolve_left Bool.false_ne_true)
    simp only [List.cons_append, List.cons.injEq] at split
    obtain ⟨rfl, -⟩ := split
    exact .inr ⟨none_yet, expiredRan, _, ws, rfl, past⟩

theorem await_polled {d : Nat} {armed : Bool}
    (ends : ∀ s s₁ k, ready s = some (s₁, k) → ∃ s₂ a, k.EndsAt s₁ s₂ a)
    (ran : Polled (n + 2) (.await ready d armed (.done e)) ps (.done r)) :
    ∃ waited p idle, ps = waited ++ p :: idle ∧ (∀ q ∈ waited, ready q.before = none ∧ q.Idle) ∧
      (∀ q ∈ idle, q.Idle) ∧
      ((∃ s₁ k, ready p.before = some (s₁, k) ∧ k.EndsAt s₁ p.after r) ∨
        (ready p.before = none ∧ p.Idle ∧ r = e ∧ d ≤ p.time ∧ (armed = true ∨ waited ≠ []))) := by
  obtain ⟨waited, p, rest, split, before, outcome⟩ := await_polled_on ran
  rcases outcome with ⟨s₁, k, found, going⟩ | ⟨none_yet, past, armed, expiredRan⟩
  · -- Ready: the job `ready` hands on ends in this same poll.
    obtain ⟨s₂, a, ended⟩ := ends _ s₁ k found
    obtain ⟨rfl, rfl, idle⟩ := ended.polled going
    exact ⟨waited, p, rest, split, before, idle, .inl ⟨s₁, k, found, ended⟩⟩
  · -- Expired: the job is done with `e`, and from this poll on nothing changes.
    obtain ⟨same, idle⟩ := expiredRan.of_done
    exact ⟨waited, p, rest, split, before, fun q mem => idle q (List.mem_cons_of_mem _ mem),
      .inr ⟨none_yet, idle p List.mem_cons_self, Job.done.inj same, past, armed⟩⟩

/-- How a job that waits up to `timeout` for `ready` ran: as `await_polled` says, with the
deadline `timeout` after its first poll; it expires only at a later poll. -/
theorem within_polled {timeout : Nat}
    (ends : ∀ s s₁ k, ready s = some (s₁, k) → ∃ s₂ a, k.EndsAt s₁ s₂ a)
    (ran : Polled (n + 3) (within timeout ready (.done e)) ps (.done r)) :
    ∃ waited p idle, ps = waited ++ p :: idle ∧ (∀ q ∈ waited, ready q.before = none ∧ q.Idle) ∧
      (∀ q ∈ idle, q.Idle) ∧
      ((∃ s₁ k, ready p.before = some (s₁, k) ∧ k.EndsAt s₁ p.after r) ∨
        (ready p.before = none ∧ p.Idle ∧ r = e ∧
          ∃ first rest, waited = first :: rest ∧ first.time + timeout ≤ p.time)) := by
  obtain ⟨first, ps, rfl⟩ := List.exists_cons_of_ne_nil (ran.ne_nil fun _ => nofun)
  -- The first poll only sets the deadline, then waits as `await` does, from the same state.
  have waiting : Polled (n + 2) (.await ready (first.time + timeout) false (.done e)) (first :: ps) (.done r) :=
    ran.step_first
  obtain ⟨waited, p, idle, split, before, after, outcome⟩ := await_polled ends waiting
  refine ⟨waited, p, idle, split, before, after, ?_⟩
  rcases outcome with ready | ⟨none_yet, same, rfl, past, armed⟩
  · exact .inl ready
  · -- The wait expired at a later poll: the first one heads the polls that waited.
    obtain ⟨w, ws, rfl⟩ := List.exists_cons_of_ne_nil (armed.resolve_left Bool.false_ne_true)
    simp only [List.cons_append, List.cons.injEq] at split
    obtain ⟨rfl, -⟩ := split
    exact .inr ⟨none_yet, same, rfl, _, ws, rfl, past⟩

end Waiting

section Sleeping

variable {next : Job σ α} {r : α}

theorem sleep_polled {d : Nat} {armed : Bool} (ran : Polled (n + 1) (.sleep d armed next) ps (.done r)) :
    ∃ slept rest, ps = slept ++ rest ∧ (∀ q ∈ slept, q.Idle) ∧ Polled n next rest (.done r) := by
  induction ps generalizing armed with
  | nil => cases ran
  | cons p ps ih =>
    cases ran with
    | poll fuel t s enough rest =>
      obtain ⟨m, rfl⟩ : ∃ m, fuel = m + 1 := ⟨fuel - 1, by omega⟩
      by_cases late : armed = true ∧ d ≤ t
      · simp only [poll_sleep_wakes late] at rest ⊢
        exact ⟨[], _, rfl, by simp, .poll m t s (by omega) (rest.mono (Nat.le_succ n))⟩
      · simp only [poll_sleep_waits late] at rest ⊢
        obtain ⟨slept, rest', rfl, idle, woken⟩ := ih rest
        refine ⟨⟨t, s, s⟩ :: slept, rest', rfl, fun q mem => ?_, woken⟩
        rcases List.mem_cons.mp mem with rfl | later
        · rfl
        · exact idle q later

/-- A job that sleeps `d` before it starts changes nothing until it starts. -/
theorem pause_polled {d : Nat} (ran : Polled (n + 2) (pause d next) ps (.done r)) :
    ∃ slept rest, ps = slept ++ rest ∧ (∀ q ∈ slept, q.Idle) ∧ Polled n next rest (.done r) := by
  obtain ⟨first, ps, rfl⟩ := List.exists_cons_of_ne_nil (ran.ne_nil fun _ => nofun)
  have sleeping : Polled (n + 1) (.sleep (first.time + d) false next) (first :: ps) (.done r) :=
    ran.step_first
  exact sleep_polled sleeping

end Sleeping

theorem joinFor_succ {k t : Nat} {s s₁ s₂ : σ} {a a₁ : Job σ α} {b b₁ : Job σ β} {movedA movedB : Bool}
    {e : Joint σ α β} (polledA : a.poll pollFuel t s = (s₁, a₁, movedA))
    (polledB : b.poll pollFuel t s₁ = (s₂, b₁, movedB)) (joined : joinFor (k + 1) t s a b = some e) :
    (∃ x y, a₁ = .done x ∧ b₁ = .done y ∧ e = ⟨s₂, t, x, y⟩) ∨
      ∃ t', t ≤ t' ∧ (t' = t ∨ ∃ d, earliest a₁.deadline? b₁.deadline? = some d ∧ t' = max t d) ∧
        joinFor k t' s₂ a₁ b₁ = some e := by
  simp only [joinFor, polledA, polledB] at joined
  split at joined
  · next x y endedA endedB =>
    exact .inl ⟨x, y, result?_eq_some.mp endedA, result?_eq_some.mp endedB, (Option.some.inj joined).symm⟩
  · split at joined
    · exact .inr ⟨t, le_rfl, .inl rfl, joined⟩
    · split at joined
      · next d found => exact .inr ⟨_, le_max_left t d, .inr ⟨d, found, rfl⟩, joined⟩
      · cases joined

theorem joinFor_timed {k t : Nat} {s : σ} {a : Job σ α} {b : Job σ β} {e : Joint σ α β}
    (joined : joinFor k t s a b = some e) :
    ∃ pa pb, Polled pollFuel a pa (.done e.first) ∧ Polled pollFuel b pb (.done e.second) ∧
      Chain s (rounds pa pb) e.state ∧ Lockstep t pa pb := by
  induction k generalizing t s a b with
  | zero => cases joined
  | succ k ih =>
    rcases polledA : a.poll pollFuel t s with ⟨s₁, a₁, movedA⟩
    rcases polledB : b.poll pollFuel t s₁ with ⟨s₂, b₁, movedB⟩
    rcases joinFor_succ polledA polledB joined with ⟨x, y, rfl, rfl, rfl⟩ | ⟨t', later, -, again⟩
    · -- Both ended in this round.
      exact ⟨[⟨t, s, s₁⟩], [⟨t, s₁, s₂⟩], .first polledA le_rfl (.nil _), .first polledB le_rfl (.nil _),
        .round rfl rfl (.nil _), .round rfl rfl le_rfl (.nil t)⟩
    · -- Another round follows, at the same instant or at the earliest deadline, never earlier.
      obtain ⟨pa, pb, ranA, ranB, chain, timed⟩ := ih again
      exact ⟨⟨t, s, s₁⟩ :: pa, ⟨t, s₁, s₂⟩ :: pb, .first polledA le_rfl ranA,
        .first polledB le_rfl ranB, .round rfl rfl chain, .round rfl rfl later timed⟩

/-- Two jobs run together are each polled once a round, the first before the second, each poll
starting from the state the one before it left. -/
theorem joinFor_polled {k t : Nat} {s : σ} {a : Job σ α} {b : Job σ β} {e : Joint σ α β}
    (joined : joinFor k t s a b = some e) :
    ∃ pa pb, pa.length = pb.length ∧ Polled pollFuel a pa (.done e.first) ∧
      Polled pollFuel b pb (.done e.second) ∧ Chain s (rounds pa pb) e.state := by
  obtain ⟨pa, pb, ranA, ranB, chain, timed⟩ := joinFor_timed joined
  exact ⟨pa, pb, timed.length_eq, ranA, ranB, chain⟩

end Job

end Gateway.Sched
