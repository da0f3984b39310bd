import Gateway.Proofs.Termination
import Gateway.Proofs.Routing
/-!
# A session hands out finitely many messages

The relay's inbound service takes one message a round, with the session's budget as its fuel, so
it ends by one of its own exits once the session hands out no more messages than its budget
counts (`Bridge.Drains`). What a session can still hand out, `Session.handOut`, is what it has
left to read once it released the message it handed out last, and one for a parked publish. A
`poll` that returns a message lowers it: the message is the parked publish, now gone, or a whole
PUBLISH of at least four bytes taken from the buffer, while the search for it wrote replies,
which the broker never answers, and at most one ping, whose answer has two bytes.

Main statement (`reading_loops_end`): every round of each reading loop of a session ends the loop
or leaves less to read, the budget outlasts the rounds, and the inbound service over a session
runs as `Serves` says.
-/
namespace Gateway.Mqtt
open Gateway.Mqtt.Flow

namespace Session

def Within (u : Session) (n : Nat) (t : Session) : Prop :=
  t.stash = u.stash ∧ t.unread.length ≤ u.unread.length + n

theorem Within.refl (u : Session) (n : Nat) : u.Within n u := ⟨rfl, by omega⟩

theorem Within.trans {u v t : Session} {n m : Nat} (first : u.Within n v) (second : v.Within m t) :
    u.Within (n + m) t := by
  obtain ⟨stash, fewer⟩ := first
  obtain ⟨stash', fewer'⟩ := second
  exact ⟨stash'.trans stash, by omega⟩

theorem Grown.within {u t : Session} {n : Nat} (grown : u.Grown n t) : u.Within n t :=
  ⟨grown.2.1, grown.unread⟩

theorem Pulled.within {u t : Session} (pulled : u.Pulled t) : u.Within 0 t := by
  have same := pulled.unread
  obtain ⟨incoming, bs, rfl, -, -⟩ := pulled
  exact ⟨rfl, by rw [same]; omega⟩

theorem within_consume (u : Session) (len : Nat) : u.Within 0 (u.consume len) := by
  refine ⟨rfl, ?_⟩
  simp only [unread_length, consume_rx, consume_link, List.length_drop]
  omega

/-- What a session can still hand out once it released what it handed out last: the bytes left to
read, and one for a parked publish. -/
def handOut (s : Session) : Nat := s.release.unread.length + if s.release.stash = [] then 0 else 1

theorem release_unread_le (s : Session) : s.release.unread.length ≤ s.unread.length := by
  rw [unread_length, unread_length]
  unfold release
  split <;> simp

theorem handOut_le_budget (s : Session) : s.handOut ≤ s.budget := by
  have released := s.release_unread_le
  have below := s.unread_lt_budget
  unfold handOut
  split <;> omega

end Session

theorem keepAlive_grown {u : Session} : Triple (· = u) keepAlive (fun _ t => u.Grown 2 t) := by
  rw [keepAlive]
  refine Triple.of_state fun s same => ?_
  subst same
  split
  · refine Triple.of_clock fun now => ?_
    split
    · exact sendPacket_grown _ fun _ => Broker.queued_ping _
    · exact Triple.of_pure fun _ same => same ▸ .refl _ _
  · exact Triple.of_pure fun _ same => same ▸ .refl _ _

theorem seekPublish_within (deadline : Nat) :
    ∀ fuel (u : Session), Triple (· = u) (seekPublish deadline fuel) (fun _ t => u.Within 0 t) := by
  intro fuel u
  -- A read only pulls, and a frame taken in is consumed and answered or acknowledged: no step
  -- adds to what there is to read.
  refine (SeekKeeps.seekPublish (I := u.Within 0) (Q := fun _ t => u.Within 0 t)
    { stops := fun _ _ within => within
      quiet := fun _ within => within
      pulled := fun _ _ within pulled => within.trans pulled.within
      publish := fun _ _ q id within _ _ _ => (acknowledge_grown q id).mono (fun _ same => same)
        fun _ _ grown => .of_both (within.trans grown.within) fun _ => within.trans grown.within
      answered := fun v len f within _ _ _ _ => (answer_grown f).mono (fun _ same => same)
        fun _ _ grown =>
          have past := within.trans ((Session.within_consume v len).trans grown.within)
          .of_both past fun _ => past }
    deadline fuel).mono (fun _ same => ?_) fun _ _ post => post
  subst same
  exact .refl _ 0

theorem nextPublish_within (deadline : Nat) {u : Session} :
    Triple (· = u) (nextPublish deadline) (fun _ t => u.Within 2 t) := by
  rw [nextPublish]
  refine Triple.of_bind keepAlive_grown (fun _ => ?_) (fun _ _ grown => grown.within)
  refine Triple.of_each fun v grown => Triple.of_state fun w same => ?_
  subst same
  exact (seekPublish_within deadline w.budget w).mono (fun _ same => same)
    fun _ _ post => grown.within.trans post

theorem settle_keeps_ok {α : Type} {P : Session → Prop} {m : Flow α}
    {Q : Except SessionError α → Session → Prop} (flow : Triple P m Q) :
    Triple P (settle m) (fun r t => ∀ a, r = .ok a → Q r t) := by
  intro s c r t c' start run
  rw [settle_run] at run
  cases first : m.run (s, c) with
  | ok r' p =>
    obtain ⟨u, d⟩ := p
    cases r' with
    | ok a =>
      rw [first] at run
      cases run
      exact fun _ _ => flow start first
    | error e =>
      rw [first] at run
      simp only at run
      split at run <;> (cases run; exact fun _ wrong => by cases wrong)
  | error h p =>
    rw [first] at run
    cases run

theorem decodeHeld_keeps (bs : List UInt8) {u : Session} :
    Triple (· = u) (decodeHeld bs) (fun r t => t = u ∧ ∀ p, r = .ok p → Publish.decode bs = .ok p) := by
  intro s c r t c' same run
  rw [decodeHeld_run] at run
  cases run
  refine ⟨same, fun p handed => ?_⟩
  cases decoded : Publish.decode bs with
  | ok p' =>
    rw [decoded] at handed
    cases handed
    rfl
  | error e =>
    rw [decoded] at handed
    cases handed

theorem Session.handOut_parked (v : Session) :
    ({ v with held := .stash } : Session).handOut = v.unread.length := by
  simp [Session.handOut, Session.release, Session.unread]

theorem Session.handOut_handed (x : Session) (len : Nat) :
    ({ x with held := .rx len } : Session).handOut =
      (x.consume len).unread.length + if x.stash = [] then 0 else 1 := rfl

theorem Session.handOut_handed_lt {v x : Session} {len : Nat} (free : v.stash = [])
    (within : v.Within 2 x) (long : 4 ≤ (x.rx.take len).length) :
    ({ x with held := .rx len } : Session).handOut < v.unread.length := by
  obtain ⟨stash, grown⟩ := within
  rw [handOut_handed, stash, if_pos free]
  simp only [List.length_take] at long
  simp only [unread_length, consume_rx, consume_link, List.length_drop] at grown ⊢
  omega

theorem poll_handOut (timeout : Nat) {s : Session} :
    Triple (· = s) (poll timeout) (fun r t => ∀ m, r = .ok (some m) → t.handOut < s.handOut) := by
  intro s' c r t c' same run
  subst same
  cases up : s'.connected with
  | false =>
    rw [poll, run_bind_ok (releaseHeld_run s' c),
      run_bind_error (requireConnected_run_of_down (by simpa using up) c)] at run
    cases run
    exact fun _ wrong => by cases wrong
  | true =>
    rw [poll, release_then_connected up] at run
    have start : s'.handOut = s'.release.unread.length + if s'.release.stash = [] then 0 else 1 :=
      rfl
    rw [start]
    generalize s'.release = u at run ⊢
    refine (show Triple (· = u) _ (fun r t => ∀ m, r = .ok (some m) →
      t.handOut < u.unread.length + if u.stash = [] then 0 else 1) from ?_) rfl run
    refine Triple.of_state fun v same => ?_
    subst same
    split
    · -- The parked publish is handed out.
      rename_i parked
      have held : v.stash ≠ [] := by simpa using parked
      refine Triple.of_put_bind (Triple.of_bind (decodeHeld_keeps _)
        (fun p => Triple.of_pure fun t post => ?_) (fun _ _ _ _ wrong => by cases wrong))
      obtain ⟨rfl, -⟩ := post
      intro _ _
      rw [Session.handOut_parked, if_neg held]
      omega
    · -- A publish found at the front of the buffer is handed out.
      rename_i free
      have empty : v.stash = [] := by simpa using free
      refine Triple.of_clock fun now => ?_
      refine Triple.of_bind (settle_keeps_ok (nextPublish_within (now + timeout))) (fun found => ?_)
        (fun _ _ _ _ wrong => by cases wrong)
      cases found with
      | none => exact Triple.of_pure fun _ _ _ wrong => by cases wrong
      | some len =>
        refine Triple.of_each fun w within => Triple.of_state fun x same => ?_
        subst same
        refine Triple.of_put_bind (Triple.of_bind (decodeHeld_keeps _)
          (fun p => Triple.of_pure fun t post => ?_) (fun _ _ _ _ wrong => by cases wrong))
        obtain ⟨rfl, decoded⟩ := post
        intro _ _
        rw [if_pos empty, Nat.add_zero]
        exact Session.handOut_handed_lt empty (within (some len) rfl)
          (Publish.decode_length (decoded p rfl))
theorem poll_of_polled {d : Nat} {k k' : Session} {b b' : Hub.EventBits} {c c' : Clock}
    {m : Publish} (polled : Bridge.BrokerClient.poll d ((k, b), c) = .ok (some m) ((k', b'), c')) :
    (poll d).run (k, c) = .ok (.ok (some m)) (k', c') := by
  simp only [Bridge.BrokerClient.poll, Bridge.Flow.beside, Timed.focus, bind, EStateM.bind] at polled
  rcases ran : (poll d).run (k, c) with ⟨r, k'', c''⟩ | ⟨h, k'', c''⟩
  · rw [ran] at polled
    cases r with
    | ok found =>
      simp only [pure, EStateM.pure, EStateM.Result.ok.injEq, Prod.mk.injEq] at polled
      obtain ⟨rfl, ⟨rfl, -⟩, rfl⟩ := polled
      rfl
    | error e => simp [pure, EStateM.pure] at polled
  · rw [ran] at polled
    cases polled

theorem Session.drains : Bridge.Drains Session :=
  ⟨Session.handOut, Session.handOut_le_budget,
    fun d _ _ _ m _ _ _ polled => poll_handOut d rfl (poll_of_polled polled) m rfl⟩

/-- The reading loops of a session and the inbound service of a relay end by their own exits.
Each round of `readFrame`, `waitFor` and `seekPublish` ends the loop whatever would follow it,
or goes on with less left to read; given the session's budget, the rounds end each loop before
its fuel runs out, whatever its fuel would do once spent. The session hands out fewer messages
than its budget, and the inbound service over it runs as `Serves` says: to the end of the
session, the deadline, a quiet poll or the limit of a bounded run. -/
theorem reading_loops_end (deadline : Nat) (want : Frame → Bool) :
    (∀ p, Progress (readRound deadline) (fun p p' => p'.1.toRead < p.1.toRead) p) ∧
      (∀ p, Progress (waitRound deadline want) (fun p p' => p'.1.toRead < p.1.toRead) p) ∧
      (∀ p, Progress (seekRound deadline) (fun p p' => p'.1.toRead < p.1.toRead) p) ∧
      (∀ s c more, ((readRound deadline)^[s.budget] more).run (s, c) =
        (readFrame deadline s.budget).run (s, c)) ∧
      (∀ s c more, ((waitRound deadline want)^[s.budget] more).run (s, c) =
        (awaitFrame deadline want).run (s, c)) ∧
      (∀ s c more, ((seekRound deadline)^[s.budget] more).run (s, c) =
        (seekPublish deadline s.budget).run (s, c)) ∧
      Bridge.Drains Session ∧
      ∀ {α : Type} (endAt : Nat) (r : Bridge.Relay Session α) (c : Clock), r.table.WellFormed →
        ∃ ms stop fin, Bridge.Relay.Serves endAt r c ms stop fin ∧
          (Bridge.Relay.serviceInbound endAt).run (r, c) = stop.result fin := by
  refine ⟨fun p => (readRound_progress deadline p).mono fun _ pulled =>
      Session.toRead_lt_of_pulled pulled.1 pulled.2,
    fun p => (waitRound_progress deadline want p).mono fun _ took => took.toRead_lt,
    fun p => (seekRound_progress deadline p).mono fun _ took => took.toRead_lt,
    readFrame_ends deadline, awaitFrame_ends deadline want, seekPublish_ends deadline,
    Session.drains, ?_⟩
  intro α endAt r c wf
  -- The service's fuel is one more than the budget, which bounds what the session hands out.
  have start : (Bridge.Relay.serviceInbound endAt).run (r, c) =
      (Bridge.Relay.serviceFor endAt (r.client.budget + 1)).run (r, c) := rfl
  rw [start]
  exact Bridge.Relay.serviceFor_serves
    (fun d _ _ _ m _ _ _ polled => poll_handOut d rfl (poll_of_polled polled) m rfl) _ r c wf
    (Nat.lt_succ_of_le r.client.handOut_le_budget)

end Gateway.Mqtt

namespace Gateway.Scenario
open Gateway.Bridge Gateway.Mqtt

def sessionRelay : Relay Session UInt32 where
  client :=
    { options := {}
      capacity := 64
      connected := true
      link :=
        { incoming :=
            [.data ([0x30, 32, 0, 29] ++ "/titanium/A1B2C3D4E5F6/config".toUTF8.toList ++ [0x37])] } }
  table := configTable
  hub := {}
  device := ⟨"A1B2C3D4E5F6"⟩
  tick := 50000

theorem reading_loops_end_over_config_session :
    configTable.WellFormed ∧
      ∃ ms stop fin, Relay.Serves 50000 sessionRelay ⟨0, none⟩ ms stop fin ∧
        (Relay.serviceInbound 50000).run (sessionRelay, ⟨0, none⟩) = stop.result fin :=
  ⟨configTable_wellFormed, (reading_loops_end 0 fun _ => true).2.2.2.2.2.2.2 50000 sessionRelay
    ⟨0, none⟩ configTable_wellFormed⟩

end Gateway.Scenario
