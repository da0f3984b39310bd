import Gateway.Proofs.FlowRun

/-!
# Triples over session flows

`Triple P m Q` says that every run of the flow `m` from a session meeting `P` that returns, with a
value or with a session error, leaves a session meeting `Q` of that result. A run that halts at the
limit of a bounded clock ends no call, so it is left unconstrained. The rules follow the monad's
operations: a flow is proved by one rule per step, and a loop by induction on its fuel.
-/

namespace Gateway.Mqtt

open Gateway.Mqtt.Flow

def Triple {α : Type} (P : Session → Prop) (m : Flow α)
    (Q : Except SessionError α → Session → Prop) : Prop :=
  ∀ ⦃s : Session⦄ ⦃c : Clock⦄ ⦃r : Except SessionError α⦄ ⦃t : Session⦄ ⦃c' : Clock⦄,
    P s → m.run (s, c) = .ok r (t, c') → Q r t

namespace Triple
variable {α β : Type} {P P' : Session → Prop} {Q Q' : Except SessionError α → Session → Prop}
  {m : Flow α}

theorem mono (triple : Triple P m Q) (pre : ∀ s, P' s → P s) (post : ∀ r t, Q r t → Q' r t) :
    Triple P' m Q' :=
  fun _ _ _ _ _ start run => post _ _ (triple (pre _ start) run)

theorem of_each (each : ∀ u, P u → Triple (· = u) m Q) : Triple P m Q :=
  fun _ _ _ _ _ start run => each _ start rfl run

theorem at_start {u : Session} (triple : Triple P m Q) (start : P u) : Triple (· = u) m Q :=
  fun _ _ _ _ _ same run => triple (same ▸ start) run

theorem of_pure {a : α} (post : ∀ s, P s → Q (.ok a) s) : Triple P (pure a) Q := by
  intro s c r t c' start run
  rw [run_pure] at run
  cases run
  exact post s start

theorem of_throw {e : SessionError} (post : ∀ s, P s → Q (.error e) s) :
    Triple P (throw e : Flow α) Q := by
  intro s c r t c' start run
  rw [run_throw] at run
  cases run
  exact post s start

theorem of_put {s' : Session} {Q : Except SessionError Unit → Session → Prop}
    (post : ∀ s, P s → Q (.ok ()) s') : Triple P (put s') Q := by
  intro s c r t c' start run
  rw [run_put] at run
  cases run
  exact post s start

theorem of_put_bind {s' : Session} {f : Unit → Flow α} (next : Triple (· = s') (f ()) Q) :
    Triple P (put s' >>= f) Q := by
  intro s c r t c' _ run
  rw [run_bind_ok (run_put s' (s, c))] at run
  exact next rfl run

theorem of_waitUntil {deadline : Nat} {Q : Except SessionError Unit → Session → Prop}
    (post : ∀ s, P s → Q (.ok ()) s) : Triple P (waitUntil deadline) Q := by
  intro s c r t c' start run
  rw [run_waitUntil] at run
  -- Waiting moves only the clock, or halts the run.
  cases limit : c.limit with
  | none =>
    simp only [Timed.waitUntil, limit] at run
    cases run
    exact post s start
  | some l =>
    by_cases late : l < deadline
    · simp only [Timed.waitUntil, limit, late, if_true] at run
      cases run
    · simp only [Timed.waitUntil, limit, late, if_false] at run
      cases run
      exact post s start

theorem of_bind {R : Except SessionError α → Session → Prop} {f : α → Flow β}
    {Q : Except SessionError β → Session → Prop} (first : Triple P m R)
    (next : ∀ a, Triple (R (.ok a)) (f a) Q) (fail : ∀ e s, R (.error e) s → Q (.error e) s) :
    Triple P (m >>= f) Q := by
  intro s c r t c' start run
  rw [run_bind] at run
  cases firstRun : m.run (s, c) with
  | ok r' p =>
    rw [firstRun] at run
    obtain ⟨u, d⟩ := p
    cases r' with
    | ok a => exact next a (first start firstRun) run
    | error e =>
      cases run
      exact fail e t (first start firstRun)
  | error h p =>
    rw [firstRun] at run
    cases run

theorem of_state {f : Session → Flow α} (next : ∀ s, P s → Triple (· = s) (f s) Q) :
    Triple P (state >>= f) Q := by
  intro s c r t c' start run
  rw [run_bind_ok (run_state (s, c))] at run
  exact next s start rfl run

theorem of_clock {f : Nat → Flow α} (next : ∀ n, Triple P (f n) Q) : Triple P (clock >>= f) Q := by
  intro s c r t c' start run
  rw [run_bind_ok (run_clock (s, c))] at run
  exact next c.now start run

theorem of_tryCatch {R : Except SessionError α → Session → Prop} {handle : SessionError → Flow α}
    (first : Triple P m R) (done : ∀ a s, R (.ok a) s → Q (.ok a) s)
    (caught : ∀ e, Triple (R (.error e)) (handle e) Q) : Triple P (tryCatch m handle) Q := by
  intro s c r t c' start run
  rw [run_tryCatch] at run
  cases firstRun : m.run (s, c) with
  | ok r' p =>
    rw [firstRun] at run
    obtain ⟨u, d⟩ := p
    cases r' with
    | ok a =>
      cases run
      exact done a t (first start firstRun)
    | error e => exact caught e (first start firstRun) run
  | error h p =>
    rw [firstRun] at run
    cases run

end Triple

end Gateway.Mqtt
