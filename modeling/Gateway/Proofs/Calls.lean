import Gateway.Proofs.Buffers

/-!
# Every call leaves a sound session

Between two calls of its public interface a session is `Sound`: both buffers fit the capacity, a
publish that `poll` handed out is one whole PUBLISH frame where `held` says it is, and a session
that is down holds no byte. Every call keeps this whatever the link does, so it holds of every
session a program reaches (`Session.Reachable`).

A call that finds the session up and fails keeps it up exactly through the two errors that leave
the byte stream where it was, `bufferTooSmall` and `rejected`, and then it wrote only whole packets
and consumed only whole frames; any other error drops the session with empty buffers and closes the
link once (`Session.Failed`). A connect that fails leaves the session down and closes the link only
if it had opened it, and a request on a session that is down fails with `notConnected` and touches
nothing.
-/

namespace Gateway.Mqtt

open Gateway.Mqtt.Flow

/-- A call of the session's public interface. -/
inductive Call where
  | connect
  | disconnect
  | subscribe (topic : String) (qos : QoS)
  | publish (topic : String) (payload : List UInt8) (qos : QoS)
  | poll (timeout : Nat)

def Call.perform : Call → Flow (Option Publish)
  | .connect => do Mqtt.connect; pure none
  | .disconnect => do Mqtt.disconnect; pure none
  | .subscribe topic qos => do Mqtt.subscribe topic qos; pure none
  | .publish topic payload qos => do Mqtt.publish topic payload qos; pure none
  | .poll timeout => Mqtt.poll timeout

namespace Session

/-- The session between two calls. -/
structure Sound (s : Session) : Prop where
  tidy : s.Tidy
  heldRx : ∀ n, s.held = .rx n → n ≤ s.rx.length ∧ IsPublishFrame (s.rx.take n)
  heldStash : s.held = .stash → s.stash ≠ []
  down : s.connected = false → s.rx = [] ∧ s.stash = []

/-- The sessions a program reaches: a new session over any link, then calls that returned, with
the link free to change between calls. A call that never returns ends no call. -/
inductive Reachable : Session → Prop
  | fresh (options : SessionOptions) (capacity : Nat) (link : Link) :
      Reachable { options, capacity, link }
  | relink {s : Session} (link : Link) : Reachable s → Reachable { s with link }
  | call {s t : Session} (call : Call) {c c' : Clock} {r : Except SessionError (Option Publish)} :
      Reachable s → call.perform.run (s, c) = .ok r (t, c') → Reachable t

/-- Where an error `e` of a call that found `s` up leaves the session `t`. -/
structure Failed (s : Session) (e : SessionError) (t : Session) : Prop where
  connected : t.connected = true ↔ e = .bufferTooSmall ∨ e = .rejected
  kept : t.connected = true → s.Accounts t
  dropped : t.connected = false →
    t.rx = [] ∧ t.stash = [] ∧ t.held = .nothing ∧ t.link.closes = s.link.closes + 1

/-- Where a failed connect from `s` leaves the session `t`; the link opens exactly when no open is
left to fail. -/
structure FailedConnect (s t : Session) : Prop where
  down : t.connected = false
  empty : t.rx = [] ∧ t.stash = [] ∧ t.held = .nothing
  closes : t.link.closes = if s.link.failOpen = 0 then s.link.closes + 1 else s.link.closes

/-- What a call from the sound session `s` may leave: a sound session, and after an error of a call
that found `s` up, the session `Failed` describes. -/
def Outcome {α : Type} (s : Session) (r : Except SessionError α) (t : Session) : Prop :=
  t.Sound ∧ (s.connected = true → ∀ e, r = .error e → s.Failed e t)

end Session

theorem VarInt.IsFrame.ne_nil {F : List UInt8} (frame : VarInt.IsFrame F) : F ≠ [] := by
  rintro rfl
  obtain ⟨w, r, -, total, -⟩ := VarInt.frameLength_some frame
  simp only [List.length_nil] at total
  omega

theorem SessionError.keepsLink_iff {e : SessionError} :
    e.keepsLink = true ↔ e = .bufferTooSmall ∨ e = .rejected := by
  cases e <;> simp [SessionError.keepsLink]

namespace Session

section Sound
variable {s₀ s t u : Session}

theorem Tidy.of_empty (rx : s.rx = []) (stash : s.stash = []) : s.Tidy :=
  ⟨by simp [rx], by simp [stash], fun parked => absurd stash parked⟩

theorem Sound.of_idle (tidy : s.Tidy) (idle : s.held = .nothing)
    (down : s.connected = false → s.rx = [] ∧ s.stash = []) : s.Sound :=
  ⟨tidy, fun _ held => (by rw [idle] at held; cases held),
    fun held => (by rw [idle] at held; cases held), down⟩

theorem Sound.of_kept (kept : s₀.Kept t) (up : t.connected = true) : t.Sound :=
  .of_idle kept.tidy kept.idle fun down => by rw [up] at down; cases down

theorem Sound.resetBuffers (s : Session) : s.resetBuffers.Sound :=
  .of_idle (.of_empty rfl rfl) rfl fun _ => ⟨rfl, rfl⟩

theorem Sound.dropped (s : Session) : s.dropped.Sound := Sound.resetBuffers _

theorem Sound.release_of_down (sound : s.Sound) (down : s.connected = false) : s.release = s := by
  obtain ⟨rx, stash⟩ := sound.down down
  cases held : s.held with
  | nothing => simp [release, held]
  | rx n =>
    obtain ⟨-, frame, -⟩ := sound.heldRx n held
    rw [rx] at frame
    exact absurd (List.take_nil) frame.ne_nil
  | stash => exact absurd stash (sound.heldStash held)

theorem Kept.aside (tidy : t.Tidy) (idle : t.held = .nothing) (rx : t.rx = s.rx)
    (link : t.link = s.link) (capacity : t.capacity = s.capacity)
    (connected : t.connected = s.connected) : s.Kept t :=
  ⟨tidy, idle, capacity, connected, by rw [link], by rw [link], [], [], by simp [link], by simp,
    by simp, by simp [unread, rx, link]⟩

theorem Sound.kept_release (sound : s.Sound) : s.Kept s.release := by
  cases held : s.held with
  | nothing =>
    simp only [release, held]
    exact Kept.start sound.tidy held
  | rx n =>
    obtain ⟨within, frame, -⟩ := sound.heldRx n held
    have whole : VarInt.frameLength s.rx = .ok (some n) := by
      have front := frame.append (s.rx.drop n)
      rwa [List.take_append_drop, List.length_take_of_le within] at front
    have idle : s.Kept { s with held := .nothing } :=
      Kept.aside (sound.tidy.of_eq rfl rfl rfl) rfl rfl rfl rfl rfl
    simp only [release, held]
    exact idle.consume whole
  | stash =>
    simp only [release, held]
    exact Kept.aside ⟨sound.tidy.fits, by simp, fun parked => absurd rfl parked⟩
      rfl rfl rfl rfl rfl

theorem Kept.failed {α : Type} (kept : s.Kept u) (up : s.connected = true) (e : SessionError) :
    s.Failed e (u.settled (.error e : Except SessionError α)) := by
  cases keeps : e.keepsLink with
  | false =>
    have down : (u.settled (.error e : Except SessionError α)).connected = false := by
      simp [settled, keeps, dropped, resetBuffers]
    refine ⟨?_, fun stays => (by rw [down] at stays; cases stays), fun _ => ?_⟩
    · rw [down, ← SessionError.keepsLink_iff, keeps]
    · simp [settled, keeps, dropped, resetBuffers, Link.close, kept.closes]
  | true =>
    have same : u.settled (.error e : Except SessionError α) = u := by simp [settled, keeps]
    rw [same]
    refine ⟨?_, fun _ => kept.accounts, fun down => ?_⟩
    · rw [kept.connected, up, ← SessionError.keepsLink_iff, keeps]
    · rw [kept.connected, up] at down
      cases down

theorem Kept.settled_outcome {α : Type} (kept : s.Kept u) (up : s.connected = true)
    (r : Except SessionError α) : s.Outcome r (u.settled r) := by
  refine ⟨?_, fun _ e failed => failed ▸ kept.failed up e⟩
  cases r with
  | ok a => exact Sound.of_kept kept (kept.connected.trans up)
  | error e =>
    by_cases keeps : e.keepsLink
    · simpa [settled, keeps] using Sound.of_kept kept (kept.connected.trans up)
    · simpa [settled, keeps] using Sound.dropped u

end Sound

end Session

theorem Triple.settle {α : Type} {P : Session → Prop} {m : Flow α} {s₀ : Session}
    {Q : Except SessionError α → Session → Prop}
    (flow : Triple P m (fun r t => s₀.Kept t ∧ Q r t)) :
    Triple P (settle m) (fun r t => ∃ u, s₀.Kept u ∧ Q r u ∧ t = u.settled r) := by
  intro s c r t c' start run
  cases first : m.run (s, c) with
  | ok r' p =>
    obtain ⟨u, d⟩ := p
    rw [settle_run_of_run first] at run
    cases run
    obtain ⟨kept, post⟩ := flow start first
    exact ⟨u, kept, post, rfl⟩
  | error h p =>
    rw [settle_run, first] at run
    cases run

theorem request_run {α : Type} {s : Session} (sound : s.Sound) (k : Flow α) (c : Clock) :
    (releaseHeld >>= fun _ => requireConnected >>= fun _ => k).run (s, c) =
      if s.connected then k.run (s.release, c) else .ok (.error .notConnected) (s, c) := by
  cases up : s.connected with
  | true => exact release_then_connected up k c
  | false =>
    have same := sound.release_of_down up
    rw [run_bind_ok (releaseHeld_run s c),
      run_bind_error (requireConnected_run_of_down (by simpa using up) c), same]
    rfl

theorem request_outcome {α : Type} {m : Flow α} {s : Session} (sound : s.Sound)
    (flow : Triple s.Kept m (fun _ t => s.Kept t)) :
    Triple (· = s) (releaseHeld >>= fun _ => requireConnected >>= fun _ => settle m)
      s.Outcome := by
  intro s' c r t c' same run
  subst same
  rw [request_run sound] at run
  cases up : s'.connected with
  | false =>
    simp only [up, Bool.false_eq_true, if_false] at run
    cases run
    exact ⟨sound, fun up' => by rw [up] at up'; cases up'⟩
  | true =>
    simp only [up, if_true] at run
    have settled := Triple.settle (Q := fun _ _ => True)
      (flow.mono (fun _ start => start) (fun _ _ kept => ⟨kept, trivial⟩))
    obtain ⟨u, kept, -, rfl⟩ := settled sound.kept_release run
    exact kept.settled_outcome up r

theorem connect_outcome {s : Session} (sound : s.Sound) :
    Triple (· = s) connect (fun r t => t.Sound ∧ (s.connected = true → r = .ok ()) ∧
      ∀ e, r = .error e → s.FailedConnect t) := by
  rw [connect]
  refine Triple.of_state fun s' same => ?_
  subst same
  cases up : s'.connected with
  | true =>
    simp only [if_true]
    exact Triple.of_pure fun _ same =>
      ⟨same ▸ sound, fun _ => rfl, fun _ failed => by cases failed⟩
  | false =>
    simp only [Bool.false_eq_true, if_false]
    have kept : s'.resetBuffers.link = s'.link := rfl
    by_cases opening : s'.link.failOpen = 0
    · simp only [kept, Link.establish_of_ready opening]
      refine Triple.of_put_bind (Triple.of_each fun u₀ same => ?_)
      obtain ⟨rx, stash, idle, down, closes⟩ : u₀.rx = [] ∧ u₀.stash = [] ∧
          u₀.held = .nothing ∧ u₀.connected = false ∧ u₀.link.closes = s'.link.closes := by
        subst same
        exact ⟨rfl, rfl, rfl, up, rfl⟩
      -- The handshake runs on the session just opened, whose buffers are empty.
      have start : u₀.Kept u₀ := Session.Kept.start (.of_empty rx stash) idle
      refine Triple.of_tryCatch (R := fun r t =>
        Except.casesOn (motive := fun _ => Prop) r (fun _ => u₀.Kept t) (fun _ => t.Sound)) ?_ ?_ ?_
      · refine Triple.of_bind (Triple.at_start handshake_keeps start) (fun _ => ?_)
          (fun _ _ kept => kept)
        exact Triple.of_state fun v kept => Triple.of_put fun _ _ =>
          .of_idle (kept.tidy.of_eq rfl rfl rfl) kept.idle fun up' => by cases up'
      · intro a t sound'
        exact ⟨sound', fun up' => up'.elim, fun _ failed => by cases failed⟩
      · intro e
        refine Triple.of_state fun v kept => Triple.of_put_bind (Triple.of_throw fun t same => ?_)
        subst same
        refine ⟨Session.Sound.resetBuffers _, fun up' => up'.elim,
          fun _ _ => ⟨?_, ⟨rfl, rfl, rfl⟩, ?_⟩⟩
        · simp [Session.resetBuffers, kept.connected, down]
        · simp [Session.resetBuffers, Link.close, kept.closes, closes, opening]
    · simp only [kept, Link.establish_of_refusing opening]
      refine Triple.of_put_bind (Triple.of_throw fun t same => ?_)
      subst same
      refine ⟨.of_idle (.of_empty rfl rfl) rfl fun _ => ⟨rfl, rfl⟩, fun up' => up'.elim,
        fun _ _ => ⟨up, ⟨rfl, rfl, rfl⟩, ?_⟩⟩
      simp [opening]

theorem dropLink_sound {P : Session → Prop} :
    Triple P dropLink (fun r t => r = .ok () ∧ t.Sound) := by
  rw [dropLink]
  exact Triple.of_state fun v _ => Triple.of_put fun _ _ => ⟨rfl, Session.Sound.dropped v⟩

theorem disconnect_outcome {P : Session → Prop} :
    Triple P disconnect (fun r t => r = .ok () ∧ t.Sound) := by
  rw [disconnect]
  refine Triple.of_bind (R := fun r _ => r = .ok ()) ?_ (fun _ => ?_)
    (fun _ _ failed => by cases failed)
  · rw [releaseHeld]
    exact Triple.of_state fun v _ => Triple.of_put fun _ _ => rfl
  refine Triple.of_state fun v _ => ?_
  dsimp only
  split
  · -- A DISCONNECT the link refuses is forgotten.
    refine Triple.of_bind (R := fun r _ => r = .ok ()) ?_ (fun _ => dropLink_sound)
      (fun _ _ failed => by cases failed)
    exact Triple.of_tryCatch (R := fun _ _ => True) (fun _ _ _ _ _ _ _ => trivial)
      (fun _ _ _ => rfl) (fun _ => Triple.of_pure fun _ _ => rfl)
  · exact dropLink_sound

theorem decodeHeld_publish {F : List UInt8} {u : Session} (publish : IsPublishFrame F) :
    Triple (· = u) (decodeHeld F) (fun r t => t = u ∧ ∃ p, r = .ok p ∧ Publish.decode F = .ok p) := by
  intro s c r t c' same run
  obtain ⟨-, q, id, read⟩ := publish
  obtain ⟨p, decoded, -, -⟩ := classify_publish read
  rw [decodeHeld_run, decoded] at run
  cases run
  exact ⟨same, p, rfl, decoded⟩

theorem handOut_publish {F : List UInt8} {v : Session} {P : Session → Prop}
    {Q : Except SessionError (Option Publish) → Session → Prop} (publish : IsPublishFrame F)
    (post : ∀ p, Publish.decode F = .ok p → Q (.ok (some p)) v) :
    Triple P (do put v; return some (← decodeHeld F)) Q := by
  refine Triple.of_put_bind (Triple.of_bind (decodeHeld_publish publish)
    (fun p => Triple.of_pure fun t got => ?_) (fun _ _ failed => by simp at failed))
  obtain ⟨rfl, q, same, decoded⟩ := got
  cases same
  exact post p decoded

theorem poll_outcome {s : Session} (sound : s.Sound) (timeout : Nat) :
    Triple (· = s) (poll timeout) s.Outcome := by
  intro s' c r t c' same run
  subst same
  rw [poll, request_run sound] at run
  cases up : s'.connected with
  | false =>
    simp only [up, Bool.false_eq_true, if_false] at run
    cases run
    exact ⟨sound, fun up' => by rw [up] at up'; cases up'⟩
  | true =>
    simp only [up, if_true] at run
    refine (show Triple s'.Kept _ s'.Outcome from ?_) sound.kept_release run
    refine Triple.of_state fun u kept => ?_
    split
    · -- A parked publish is handed out first; it is one whole PUBLISH frame.
      rename_i parked
      refine handOut_publish (kept.tidy.stashed (by simpa using parked)) fun p _ => ?_
      refine ⟨⟨kept.tidy.of_eq rfl rfl rfl, fun _ held => (by cases held),
        fun _ => (by simpa using parked),
        fun down => (by rw [kept.connected, up] at down; cases down)⟩,
        fun _ _ failed => (by cases failed)⟩
    · refine Triple.of_clock fun now => ?_
      refine Triple.of_bind
        (Triple.at_start (Triple.settle (nextPublish_keeps (now + timeout))) kept)
        (fun found => ?_) (fun e t ⟨v, kept', _, settled⟩ =>
          settled ▸ kept'.settled_outcome up _)
      cases found with
      | none =>
        exact Triple.of_pure fun t ⟨v, kept', _, settled⟩ =>
          settled ▸ kept'.settled_outcome up _
      | some len =>
        -- The publish found stays at the front of the buffer, handed out.
        refine Triple.of_each fun w ⟨v, kept', seek, settled⟩ =>
          Triple.of_state fun x same => ?_
        have same : x = v := same.trans settled
        subst same
        obtain ⟨within, framed⟩ := seek len rfl
        refine handOut_publish framed fun p _ => ?_
        refine ⟨⟨kept'.tidy.of_eq rfl rfl rfl, fun n held => ?_, fun held => (by cases held),
          fun down => (by rw [kept'.connected, up] at down; cases down)⟩,
          fun _ _ failed => (by cases failed)⟩
        cases held
        exact ⟨within, framed⟩

theorem Call.perform_outcome (call : Call) {s : Session} (sound : s.Sound) :
    Triple (· = s) call.perform s.Outcome := by
  -- Every call but `poll` returns nothing once its flow returned, and fails as its flow failed.
  have finished : ∀ {m : Flow Unit}, Triple (· = s) m s.Outcome →
      Triple (· = s) (m >>= fun _ => (pure none : Flow (Option Publish))) s.Outcome := fun flow =>
    Triple.of_bind flow
      (fun _ => Triple.of_pure fun t outcome => ⟨outcome.1, fun _ _ failed => by cases failed⟩)
      (fun e t outcome => ⟨outcome.1, fun up e' failed => outcome.2 up e' (by cases failed; rfl)⟩)
  cases call with
  | connect =>
    refine finished ((connect_outcome sound).mono (fun _ same => same) fun r t post =>
      ⟨post.1, fun up e failed => ?_⟩)
    rw [post.2.1 up] at failed
    cases failed
  | disconnect =>
    exact finished (disconnect_outcome.mono (fun _ same => same) fun r t post =>
      ⟨post.2, fun _ e failed => by rw [post.1] at failed; cases failed⟩)
  | subscribe topic qos => exact finished (request_outcome sound (subscribeFlow_keeps topic qos))
  | publish topic payload qos =>
    exact finished (request_outcome sound (publishFlow_keeps topic payload qos))
  | poll timeout => exact poll_outcome sound timeout

theorem Session.Reachable.sound {s : Session} (reached : s.Reachable) : s.Sound := by
  induction reached with
  | fresh options capacity link => exact .of_idle (.of_empty rfl rfl) rfl fun _ => ⟨rfl, rfl⟩
  | relink link _ sound =>
    exact ⟨sound.tidy.of_eq rfl rfl rfl, sound.heldRx, sound.heldStash, sound.down⟩
  | call call _ run sound => exact (call.perform_outcome sound rfl run).1

theorem calls_keep_session_sound {s : Session} (reached : s.Reachable) :
    s.Sound ∧
      (∀ (call : Call) (c c' : Clock) (e : SessionError) (t : Session), s.connected = true →
        call.perform.run (s, c) = .ok (.error e) (t, c') → s.Failed e t) ∧
      (∀ (c c' : Clock) (e : SessionError) (t : Session),
        connect.run (s, c) = .ok (.error e) (t, c') → s.FailedConnect t) ∧
      (s.connected = false → ∀ c : Clock,
        (∀ topic qos, (subscribe topic qos).run (s, c) = .ok (.error .notConnected) (s, c)) ∧
        (∀ topic payload qos,
          (publish topic payload qos).run (s, c) = .ok (.error .notConnected) (s, c)) ∧
        (∀ timeout, (poll timeout).run (s, c) = .ok (.error .notConnected) (s, c))) := by
  have sound := reached.sound
  refine ⟨sound, fun call c c' e t up run => (call.perform_outcome sound rfl run).2 up e rfl,
    fun c c' e t run => (connect_outcome sound rfl run).2.2 e rfl, fun down c => ?_⟩
  refine ⟨fun topic qos => ?_, fun topic payload qos => ?_, fun timeout => ?_⟩
  · rw [subscribe, request_run sound, down]
    rfl
  · rw [publish, request_run sound, down]
    rfl
  · rw [poll, request_run sound, down]
    rfl

theorem calls_keep_session_sound_when_open_fails :
    Session.Reachable
        { options := {}, capacity := 64, link := { incoming := [], failOpen := 1 } } ∧
      ∀ c c' e t,
        connect.run
            ({ options := {}, capacity := 64, link := { incoming := [], failOpen := 1 } }, c) =
          .ok (.error e) (t, c') → t.connected = false ∧ t.link.closes = 0 := by
  refine ⟨.fresh _ _ _, fun c c' e t run => ?_⟩
  have failed := (calls_keep_session_sound (.fresh _ _ _)).2.2.1 c c' e t run
  exact ⟨failed.down, by simpa using failed.closes⟩

end Gateway.Mqtt
