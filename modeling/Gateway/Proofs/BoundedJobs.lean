import Mathlib
import Gateway.Proofs.Polling
/-!
Jobs that end. A job is `Bounded n` when it ends within `n` moves whatever the clock and the state
do: a step counts one, and so do arming a timer and its firing. A poll that moves a job lowers
its bound, and a poll that does not leaves the state and the job as they were, which happens only
to a job that ended or waits, armed, for an instant still to come.

Two such jobs run together end within twice the sum of their bounds and two rounds more
(`joinFor_ends`): a round that moves neither is followed by one at the earliest deadline, which
moves the job that waits for it. The scheduler polls both jobs at every round, so a job whose
wait the other job ended is polled at the next round; that stands for the wakers the program
registers on each event it waits for.
-/
namespace Gateway.Sched.Job

variable {σ α β : Type}

/-- `j` ends within `n` moves, whatever the clock and the state. -/
inductive Bounded : Nat → Job σ α → Prop
  | done {n : Nat} {a : α} : Bounded n (.done a)
  | step {n : Nat} {f : Nat → σ → σ × Job σ α} : (∀ t s, Bounded n (f t s).2) → Bounded (n + 1) (.step f)
  | sleep {n d : Nat} {next : Job σ α} : Bounded n next → Bounded (n + 1) (.sleep d true next)
  | armSleep {n d : Nat} {next : Job σ α} : Bounded n (.sleep d true next) → Bounded (n + 1) (.sleep d false next)
  | await {n d : Nat} {ready : σ → Option (σ × Job σ α)} {expired : Job σ α} :
      (∀ s s' k, ready s = some (s', k) → Bounded n k) → Bounded n expired →
      Bounded (n + 1) (.await ready d true expired)
  | armAwait {n d : Nat} {ready : σ → Option (σ × Job σ α)} {expired : Job σ α} :
      Bounded n (.await ready d true expired) → Bounded (n + 1) (.await ready d false expired)

/-- A job that a poll at `t` moves whatever the state: it has not ended, and the instant it waits
for, if any, has come. -/
def Due (t : Nat) (j : Job σ α) : Prop := (∀ a, j ≠ .done a) ∧ ∀ d, j.deadline? = some d → d ≤ t

section Shapes

variable {n : Nat}

theorem Bounded.now {f : σ → σ × α} {k : α → Job σ β} (ends : ∀ a, (k a).Bounded n) : (now f k).Bounded (n + 1) :=
  .step fun _ s => ends (f s).2

theorem Bounded.pause {d : Nat} {next : Job σ α} (ends : next.Bounded n) : (pause d next).Bounded (n + 3) :=
  .step fun _ _ => .armSleep (.sleep ends)

theorem Bounded.within {timeout : Nat} {ready : σ → Option (σ × Job σ α)} {expired : Job σ α}
    (readyEnds : ∀ s s' k, ready s = some (s', k) → k.Bounded n) (expiredEnds : expired.Bounded n) :
    (within timeout ready expired).Bounded (n + 3) :=
  .step fun _ _ => .armAwait (.await readyEnds expiredEnds)

theorem Bounded.mono {n m : Nat} {j : Job σ α} (bounded : j.Bounded n) (le : n ≤ m) : j.Bounded m := by
  induction bounded generalizing m with
  | done => exact .done
  | step _ ih =>
    obtain ⟨m, rfl⟩ : ∃ m', m = m' + 1 := ⟨m - 1, by omega⟩
    exact .step fun t s => ih t s (by omega)
  | sleep _ ih =>
    obtain ⟨m, rfl⟩ : ∃ m', m = m' + 1 := ⟨m - 1, by omega⟩
    exact .sleep (ih (by omega))
  | armSleep _ ih =>
    obtain ⟨m, rfl⟩ : ∃ m', m = m' + 1 := ⟨m - 1, by omega⟩
    exact .armSleep (ih (by omega))
  | await _ _ ihReady ihExpired =>
    obtain ⟨m, rfl⟩ : ∃ m', m = m' + 1 := ⟨m - 1, by omega⟩
    exact .await (fun s s' k found => ihReady s s' k found (by omega)) (ihExpired (by omega))
  | armAwait _ ih =>
    obtain ⟨m, rfl⟩ : ∃ m', m = m' + 1 := ⟨m - 1, by omega⟩
    exact .armAwait (ih (by omega))

end Shapes

section Polls

variable {fuel t : Nat} {s : σ} {j : Job σ α}

theorem poll_zero : j.poll 0 t s = (s, j, false) := rfl

theorem Bounded.poll {n : Nat} (bounded : j.Bounded n) (fuel t : Nat) (s : σ) :
    ∃ m, (j.poll fuel t s).2.1.Bounded m ∧ m + (j.poll fuel t s).2.2.toNat ≤ n := by
  -- On the fuel, which `poll` recurses on; the continuation a poll goes on with is one move in.
  induction fuel generalizing n j s with
  | zero => exact ⟨n, bounded, by simp [poll_zero]⟩
  | succ fuel ih =>
    cases bounded with
    | @done n a => exact ⟨n, by rw [poll_done]; exact .done, by simp [poll_done]⟩
    | @step n f rest =>
      obtain ⟨m, ends, le⟩ := ih (rest t s) (f t s).1
      rw [poll_step]
      exact ⟨m, ends, by simp only [Bool.toNat_true]; omega⟩
    | @sleep n d next rest =>
      by_cases due : d ≤ t
      · obtain ⟨m, ends, le⟩ := ih rest (s := s)
        rw [poll_sleep_wakes ⟨rfl, due⟩]
        exact ⟨m, ends, by simp only [Bool.toNat_true]; omega⟩
      · rw [poll_sleep_waits (by simp [due])]
        exact ⟨n + 1, .sleep rest, by simp⟩
    | armSleep rest =>
      rw [poll_sleep_waits (by simp)]
      exact ⟨_, rest, by simp⟩
    | @await n d ready expired readyEnds expiredEnds =>
      cases found : ready s with
      | some got =>
        obtain ⟨s', k⟩ := got
        obtain ⟨m, ends, le⟩ := ih (readyEnds s s' k found) (s := s')
        rw [poll_await_ready found]
        exact ⟨m, ends, by simp only [Bool.toNat_true]; omega⟩
      | none =>
        by_cases due : d ≤ t
        · obtain ⟨m, ends, le⟩ := ih expiredEnds (s := s)
          rw [poll_await_expired found ⟨rfl, due⟩]
          exact ⟨m, ends, by simp only [Bool.toNat_true]; omega⟩
        · rw [poll_await_waits found (by simp [due])]
          exact ⟨n + 1, .await readyEnds expiredEnds, by simp⟩
    | @armAwait n d ready expired rest =>
      cases found : ready s with
      | some got =>
        -- Found ready, the wait goes on as the armed one would.
        obtain ⟨s', k⟩ := got
        cases rest with
        | @await m _ _ _ readyEnds _ =>
          obtain ⟨m', ends, le⟩ := ih (readyEnds s s' k found) (s := s')
          rw [poll_await_ready found]
          exact ⟨m', ends, by simp only [Bool.toNat_true]; omega⟩
      | none =>
        rw [poll_await_waits found (by simp)]
        exact ⟨_, rest, by simp⟩

theorem poll_of_still (still : (j.poll fuel t s).2.2 = false) : j.poll fuel t s = (s, j, false) := by
  cases fuel with
  | zero => rfl
  | succ fuel =>
    cases j with
    | done a => exact poll_done a
    | step f => simp [poll_step] at still
    | sleep d armed next =>
      by_cases due : armed = true ∧ d ≤ t
      · simp [poll_sleep_wakes due] at still
      · rw [poll_sleep_waits due] at still ⊢
        simp only [Bool.not_eq_false'] at still
        rw [still]
        rfl
    | await ready d armed expired =>
      cases found : ready s with
      | some got => simp [poll_await_ready found] at still
      | none =>
        by_cases due : armed = true ∧ d ≤ t
        · simp [poll_await_expired found due] at still
        · rw [poll_await_waits found due] at still ⊢
          simp only [Bool.not_eq_false'] at still
          rw [still]
          rfl

theorem poll_moves_of_due (fuel : Nat) (due : j.Due t) : (j.poll (fuel + 1) t s).2.2 = true := by
  cases j with
  | done a => exact absurd rfl (due.1 a)
  | step f => rfl
  | sleep d armed next =>
    cases armed with
    | false => rw [poll_sleep_waits (by simp)]; rfl
    | true => rw [poll_sleep_wakes ⟨rfl, due.2 d rfl⟩]
  | await ready d armed expired =>
    cases found : ready s with
    | some got => rw [poll_await_ready found]
    | none =>
      cases armed with
      | false => rw [poll_await_waits found (by simp)]; rfl
      | true => rw [poll_await_expired found ⟨rfl, due.2 d rfl⟩]

theorem eq_of_poll_still {s' : σ} {j' : Job σ α} (polled : j.poll fuel t s = (s', j', false)) :
    s = s' ∧ j = j' := by
  have same := polled.symm.trans (poll_of_still (by rw [polled]))
  simp only [Prod.mk.injEq] at same
  exact ⟨same.1.symm, same.2.1.symm⟩

theorem not_due_of_still (still : (j.poll pollFuel t s).2.2 = false) : ¬ j.Due t := by
  intro due
  have moves : (j.poll pollFuel t s).2.2 = true := poll_moves_of_due 63 due
  rw [still] at moves
  cases moves

theorem deadline_of_still (still : (j.poll (fuel + 1) t s).2.2 = false) (unended : ∀ a, j ≠ .done a) :
    ∃ d, j.deadline? = some d := by
  cases j with
  | done a => exact absurd rfl (unended a)
  | step f => simp [poll_step] at still
  | sleep d _ _ => exact ⟨d, rfl⟩
  | await _ d _ _ => exact ⟨d, rfl⟩

theorem due_of_deadline {d : Nat} (found : j.deadline? = some d) (reached : d ≤ t) : j.Due t := by
  refine ⟨fun a ended => ?_, fun d' found' => ?_⟩
  · rw [ended] at found
    cases found
  · rw [found] at found'
    cases found'
    exact reached

end Polls

theorem earliest_eq_some {x y : Option Nat} {d : Nat} (found : earliest x y = some d) : x = some d ∨ y = some d := by
  rcases x with _ | a <;> rcases y with _ | b <;>
    simp only [earliest, Option.some.injEq, reduceCtorEq, false_or, or_false] at found ⊢ <;> omega

theorem earliest_of_some {x y : Option Nat} (present : x.isSome ∨ y.isSome) : ∃ d, earliest x y = some d := by
  rcases x with _ | a <;> rcases y with _ | b <;> simp_all [earliest]

section Rounds

variable {k t : Nat} {s s₁ s₂ : σ} {a a₁ : Job σ α} {b b₁ : Job σ β} {movedA movedB : Bool}

theorem joinFor_of_ended {x : α} {y : β} (polledA : a.poll pollFuel t s = (s₁, .done x, movedA))
    (polledB : b.poll pollFuel t s₁ = (s₂, .done y, movedB)) :
    joinFor (k + 1) t s a b = some ⟨s₂, t, x, y⟩ := by
  simp [joinFor, polledA, polledB, result?]

theorem joinFor_of_moved (polledA : a.poll pollFuel t s = (s₁, a₁, movedA))
    (polledB : b.poll pollFuel t s₁ = (s₂, b₁, movedB)) (moved : (movedA || movedB) = true)
    (unended : ¬ ∃ x y, a₁ = .done x ∧ b₁ = .done y) :
    joinFor (k + 1) t s a b = joinFor k t s₂ a₁ b₁ := by
  simp only [joinFor, polledA, polledB, moved, if_true]
  split
  · next x y endedA endedB => exact absurd ⟨x, y, result?_eq_some.mp endedA, result?_eq_some.mp endedB⟩ unended
  · rfl

theorem joinFor_of_still (stillA : (a.poll pollFuel t s).2.2 = false) (stillB : (b.poll pollFuel t s).2.2 = false)
    (unended : ¬ ∃ x y, a = .done x ∧ b = .done y) :
    ∃ d, (a.Due (max t d) ∨ b.Due (max t d)) ∧ joinFor (k + 1) t s a b = joinFor k (max t d) s a b := by
  -- One of them has not ended, and a job that does not move and has not ended waits for an instant.
  have waits : a.deadline?.isSome ∨ b.deadline?.isSome := by
    by_cases endedA : ∃ x, a = .done x
    · obtain ⟨x, rfl⟩ := endedA
      have unendedB : ∀ y, b ≠ .done y := fun y endedB => unended ⟨x, y, rfl, endedB⟩
      obtain ⟨d, found⟩ := deadline_of_still stillB unendedB
      exact .inr (by simp [found])
    · obtain ⟨d, found⟩ := deadline_of_still stillA (fun x endedA' => endedA ⟨x, endedA'⟩)
      exact .inl (by simp [found])
  obtain ⟨d, found⟩ := earliest_of_some waits
  refine ⟨d, ?_, ?_⟩
  · rcases earliest_eq_some found with fromA | fromB
    · exact .inl (due_of_deadline fromA (le_max_right t d))
    · exact .inr (due_of_deadline fromB (le_max_right t d))
  · have samePollA := poll_of_still stillA
    have samePollB := poll_of_still stillB
    simp only [joinFor, samePollA, samePollB, Bool.or_false, Bool.false_eq_true, if_false, found]
    split
    · next x y endedA endedB => exact absurd ⟨x, y, result?_eq_some.mp endedA, result?_eq_some.mp endedB⟩ unended
    · rfl

theorem joinFor_ends_of_due {na nb : Nat} (endsA : a.Bounded na) (endsB : b.Bounded nb)
    (enough : 2 * (na + nb) + 2 ≤ k ∨ ((a.Due t ∨ b.Due t) ∧ 2 * (na + nb) + 1 ≤ k)) :
    ∃ e, joinFor k t s a b = some e := by
  -- On the rounds: a round that moves a job lowers the sum of the bounds by one and spends two
  -- rounds of the budget, and a round that moves neither is followed by one that moves a job.
  induction k generalizing t s a b na nb with
  | zero => omega
  | succ k ih =>
    rcases polledA : a.poll pollFuel t s with ⟨s₁, a₁, movedA⟩
    rcases polledB : b.poll pollFuel t s₁ with ⟨s₂, b₁, movedB⟩
    by_cases ended : ∃ x y, a₁ = .done x ∧ b₁ = .done y
    · obtain ⟨x, y, rfl, rfl⟩ := ended
      exact ⟨_, joinFor_of_ended polledA polledB⟩
    cases moved : movedA || movedB with
    | true =>
      obtain ⟨ma, endsA₁, dropA⟩ := endsA.poll pollFuel t s
      obtain ⟨mb, endsB₁, dropB⟩ := endsB.poll pollFuel t s₁
      rw [polledA] at endsA₁ dropA
      rw [polledB] at endsB₁ dropB
      rw [joinFor_of_moved polledA polledB moved ended]
      refine ih endsA₁ endsB₁ (.inl ?_)
      cases movedA <;> cases movedB <;> simp at moved dropA dropB <;> omega
    | false =>
      simp only [Bool.or_eq_false_iff] at moved
      obtain ⟨rfl, rfl⟩ := moved
      -- The first poll left the state as it was, so the second found it too.
      obtain ⟨rfl, rfl⟩ := eq_of_poll_still polledA
      obtain ⟨rfl, rfl⟩ := eq_of_poll_still polledB
      have stillA : (a.poll pollFuel t s).2.2 = false := by rw [polledA]
      have stillB : (b.poll pollFuel t s).2.2 = false := by rw [polledB]
      -- Neither was due, or it would have moved: the budget has its two rounds to spare.
      have spare : 2 * (na + nb) + 2 ≤ k + 1 := by
        rcases enough with spare | ⟨due, -⟩
        · exact spare
        · exact absurd due (not_or.mpr ⟨not_due_of_still stillA, not_due_of_still stillB⟩)
      obtain ⟨d, due, next⟩ := joinFor_of_still stillA stillB ended
      rw [next]
      exact ih endsA endsB (.inr ⟨due, by omega⟩)

/-- Two jobs that end within `na` and `nb` moves, run together with twice the sum of their bounds
and two rounds more, end. -/
theorem joinFor_ends {na nb : Nat} (endsA : a.Bounded na) (endsB : b.Bounded nb)
    (enough : 2 * (na + nb) + 2 ≤ k) : ∃ e, joinFor k t s a b = some e :=
  joinFor_ends_of_due endsA endsB (.inl enough)

end Rounds

end Gateway.Sched.Job
