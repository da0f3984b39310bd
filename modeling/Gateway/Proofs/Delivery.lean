import Gateway.Proofs.Booking
import Gateway.Proofs.Contracts
/-!
# Every inbound frame is accounted for

Between two calls a session is `Balanced`: one log since the new session accounts for every packet
it wrote and every byte it took in, and hands out exactly the publishes `poll` returned. Every call
keeps it, so it holds after any sequence of calls (`Served`), and the log tells where each inbound
publish went: handed out once and in order, lost to a wait that met it while the slot was taken or
to the buffers being emptied, or still owed by the slot.
-/
namespace Gateway.Mqtt
open Gateway.Mqtt.Flow

/-- A session between two calls, as its ledger since `s₀` has it: a log that hands out `P` and
leaves the slot where the session has it. -/
def Balanced (s₀ : Session) (P : List Publish) (t : Session) : Prop :=
  ∃ E, Logged s₀ E t t.slot ∧ E.filterMap Event.handed? = P

def Call.handed : Except SessionError (Option Publish) → List Publish
  | .ok (some p) => [p]
  | _ => []

theorem Logged.start (s₀ : Session) : Logged s₀ [] s₀ s₀.slot :=
  ⟨rfl, rfl, by simp, by simp [Slot.rest_of_settled s₀.slot_settled], .nil⟩

theorem Session.release_held (s : Session) : s.release.held = .nothing := by
  cases held : s.held <;> simp [Session.release, held]

theorem Session.slot_of_free {t : Session} (free : t.stash = []) : t.slot = .free := by
  simp [Session.slot, free]

theorem Session.slot_of_handed {t : Session} (handed : t.held = .stash) : t.slot = .free := by
  simp [Session.slot, handed]

section Calls
variable {s₀ u t : Session} {P : List Publish} {m : Slot}

theorem Booked.balanced (booked : Booked s₀ P t.slot t) : Balanced s₀ P t :=
  let ⟨_, E, log, handed⟩ := booked
  ⟨E, log, handed⟩

theorem Balanced.release (balanced : Balanced s₀ P u) (sound : u.Sound) :
    Booked s₀ P u.release.slot u.release :=
  let ⟨E, log, handed⟩ := balanced
  ⟨u.release_held, E, log.release sound, handed⟩

theorem Booked.cleared (booked : Booked s₀ P m u) (pending : m.rest u = u.pending)
    (rx : t.rx = []) (stash : t.stash = []) (held : t.held = .nothing)
    (capacity : t.capacity = u.capacity) (broker : t.link.broker = u.link.broker)
    (sent : t.link.sent = u.link.sent) (stream : t.link.stream = u.link.stream) :
    Balanced s₀ P t := by
  obtain ⟨idle, E, log, handed⟩ := booked
  refine ⟨E ++ [.cleared u.rx m.owed], ?_, by simp [handed, Event.handed?]⟩
  rw [Session.slot_of_free stash]
  exact log.cleared pending idle rx held capacity broker sent stream

theorem Booked.dropped (booked : Booked s₀ P m u) (pending : m.rest u = u.pending) :
    Balanced s₀ P u.dropped :=
  booked.cleared pending rfl rfl rfl rfl rfl rfl rfl

theorem Settles.settled {α : Type} {r : Except SessionError α} (settles : Settles s₀ P r u) :
    Balanced s₀ P (u.settled r) := by
  cases r with
  | ok a => exact settles.of_ok.balanced
  | error e =>
    by_cases keeps : e.keepsLink
    · rcases settles with booked | ⟨e', same, drops, -⟩
      · simpa [Session.settled, keeps] using booked.balanced
      · cases same
        rw [keeps] at drops
        cases drops
    · have dropped : Balanced s₀ P u.dropped := by
        rcases settles with booked | ⟨e', -, -, cut⟩
        · exact booked.dropped (Slot.rest_of_settled u.slot_settled u)
        · exact cut.dropped rfl
      simpa [Session.settled, keeps] using dropped

theorem Triple.of_settle {α : Type} {P' : Session → Prop} {flow : Flow α}
    {Q : Except SessionError α → Session → Prop} (triple : Triple P' flow Q) :
    Triple P' (Mqtt.settle flow) (fun r t => ∃ v, Q r v ∧ t = v.settled r) := by
  intro s c r t c' start run
  cases first : flow.run (s, c) with
  | ok r' p =>
    obtain ⟨v, d⟩ := p
    rw [settle_run_of_run first] at run
    cases run
    exact ⟨v, triple start first, rfl⟩
  | error h p =>
    rw [settle_run, first] at run
    cases run

theorem request_balanced {flow : Flow Unit} (sound : u.Sound) (balanced : Balanced s₀ P u)
    (triple : Triple (fun t => Booked s₀ P t.slot t) flow (Settles s₀ P)) :
    Triple (· = u) (releaseHeld >>= fun _ => requireConnected >>= fun _ => settle flow)
      (fun _ t => Balanced s₀ P t) := by
  intro s c r t c' same run
  subst same
  rw [request_run sound] at run
  cases up : s.connected with
  | false =>
    simp only [up, Bool.false_eq_true, if_false] at run
    cases run
    exact balanced
  | true =>
    simp only [up, if_true] at run
    obtain ⟨v, settles, rfl⟩ := Triple.of_settle triple (balanced.release sound) run
    exact settles.settled

theorem dropLink_balanced :
    Triple (fun t => Booked s₀ P t.slot t) dropLink (fun _ t => Balanced s₀ P t) := by
  rw [dropLink]
  exact Triple.of_state fun v booked => Triple.of_put fun _ _ =>
    booked.dropped (Slot.rest_of_settled v.slot_settled v)

theorem disconnect_balanced (sound : u.Sound) (balanced : Balanced s₀ P u) :
    Triple (· = u) disconnect (fun _ t => Balanced s₀ P t) := by
  rw [disconnect]
  refine Triple.of_bind (R := fun _ t => Booked s₀ P t.slot t) ?_ (fun _ => ?_)
    (fun _ _ booked => booked.balanced)
  · rw [releaseHeld]
    exact Triple.of_state fun v same => Triple.of_put fun _ _ => by
      subst same
      exact balanced.release sound
  refine Triple.of_state fun v booked => ?_
  dsimp only
  split
  · -- A DISCONNECT the link refuses is forgotten.
    refine Triple.of_bind (R := fun _ t => Booked s₀ P t.slot t) ?_ (fun _ => dropLink_balanced)
      (fun _ _ booked => booked.balanced)
    exact Triple.of_tryCatch (Triple.at_start (sent_booked rfl) booked) (fun _ _ booked => booked)
      (fun _ => Triple.of_pure fun _ booked => booked)
  · exact Triple.at_start dropLink_balanced booked

theorem connect_balanced (sound : u.Sound) (balanced : Balanced s₀ P u) :
    Triple (· = u) connect (fun _ t => Balanced s₀ P t) := by
  rw [connect]
  refine Triple.of_state fun s same => ?_
  subst same
  cases up : s.connected with
  | true =>
    simp only [if_true]
    exact Triple.of_pure fun _ same => same ▸ balanced
  | false =>
    simp only [Bool.false_eq_true, if_false]
    obtain ⟨rx, stash⟩ := sound.down up
    have idle : Booked s₀ P s.slot s := by
      simpa [sound.release_of_down up] using balanced.release sound
    -- Opening the link changes no byte of the stream and no packet written.
    have opened : ∀ link : Link, link.sent = s.link.sent → link.broker = s.link.broker →
        link.incoming = s.link.incoming →
        Booked s₀ P ({ s.resetBuffers with link } : Session).slot { s.resetBuffers with link } :=
      fun link sent broker incoming => idle.congr rfl rfl broker sent
        (by simp [Session.unread, Session.resetBuffers, rx, Link.stream, incoming])
        (by simp [Session.resetBuffers, stash])
    have kept : s.resetBuffers.link = s.link := rfl
    by_cases opening : s.link.failOpen = 0
    · simp only [kept, Link.establish_of_ready opening]
      refine Triple.of_put_bind (Triple.of_tryCatch (R := Settles s₀ P) ?_
        (fun _ _ settles => settles.of_ok.balanced) fun e => ?_)
      · refine Triple.of_bind
          (Triple.at_start handshake_booked (opened { s.link with opens := s.link.opens + 1 } rfl rfl rfl))
          (fun _ => ?_) (fun _ _ settles => settles)
        refine Triple.of_state fun v settles => Triple.of_put fun _ _ => .inl ?_
        exact settles.of_ok.congr settles.of_ok.1 rfl rfl rfl rfl rfl
      · -- The handshake failed: the link is closed and the buffers emptied.
        refine Triple.of_state fun v settles => Triple.of_put_bind (Triple.of_throw fun t same => ?_)
        subst same
        rcases settles with booked | ⟨e', -, -, cut⟩
        · exact booked.cleared (Slot.rest_of_settled v.slot_settled v) rfl rfl rfl rfl rfl rfl rfl
        · exact cut.cleared rfl rfl rfl rfl rfl rfl rfl rfl
    · simp only [kept, Link.establish_of_refusing opening]
      exact Triple.of_put_bind (Triple.of_throw fun _ same => same ▸ (opened
        { s.link with opens := s.link.opens + 1, failOpen := s.link.failOpen - 1 } rfl rfl rfl).balanced)

theorem poll_balanced (sound : u.Sound) (balanced : Balanced s₀ P u) (timeout : Nat) :
    Triple (· = u) (poll timeout) (fun r t => Balanced s₀ (P ++ Call.handed r) t) := by
  intro s c r t c' same run
  subst same
  rw [poll, request_run sound] at run
  cases up : s.connected with
  | false =>
    simp only [up, Bool.false_eq_true, if_false] at run
    cases run
    simpa [Call.handed] using balanced
  | true =>
    simp only [up, if_true] at run
    refine (show Triple (· = s.release) _ (fun r t => Balanced s₀ (P ++ Call.handed r) t) from ?_)
      rfl run
    have kept := sound.kept_release
    refine Triple.of_state fun v same => ?_
    subst same
    have booked := balanced.release sound
    split
    · rename_i parked
      refine handOut_publish (kept.tidy.stashed (by simpa using parked)) fun p decoded => ?_
      obtain ⟨idle, E, log, handed⟩ := booked
      refine ⟨E ++ [.handed p], ?_, by simp [handed, Event.handed?, Call.handed]⟩
      rw [Session.slot_of_handed rfl]
      exact log.handParked idle (by simpa using parked) decoded
    · rename_i empty
      have free : s.release.stash = [] := by simpa using empty
      refine Triple.of_clock fun now => ?_
      refine Triple.of_bind (Triple.of_settle (Triple.at_start (nextPublish_booked _) ⟨booked, free⟩))
        (fun found => ?_) (fun e t post => ?_)
      · cases found with
        | none =>
          refine Triple.of_pure fun t post => ?_
          obtain ⟨w, settles, settled⟩ := post
          simpa [Call.handed, settled] using (settles : Settles s₀ P _ w).settled
        | some len =>
          refine Triple.of_each fun w post => ?_
          obtain ⟨x, sought, settled⟩ := post
          refine Triple.of_state fun y same => ?_
          have same : y = x := same.trans settled
          subst same
          obtain ⟨free, within, framed, idle, E, log, handed⟩ := sought
          refine handOut_publish framed fun p decoded => ?_
          refine ⟨E ++ [.handed p], ?_,
            by simp [handed, Event.handed?, Call.handed]⟩
          rw [Session.slot_of_free (show ({ y with held := .rx len } : Session).stash = [] from free)]
          have whole := log.handFound decoded
          rwa [List.length_take, Nat.min_eq_left within] at whole
      · obtain ⟨w, sought, settled⟩ := post
        simpa [Call.handed, settled] using (sought : Settles s₀ P _ w).settled

theorem Call.perform_balanced (call : Call) (sound : u.Sound) (balanced : Balanced s₀ P u) :
    Triple (· = u) call.perform (fun r t => Balanced s₀ (P ++ Call.handed r) t) := by
  -- Every call but `poll` hands out nothing.
  have finished : ∀ {flow : Flow Unit}, Triple (· = u) flow (fun _ t => Balanced s₀ P t) →
      Triple (· = u) (flow >>= fun _ => (pure none : Flow (Option Publish)))
        (fun r t => Balanced s₀ (P ++ Call.handed r) t) := fun triple =>
    Triple.of_bind triple
      (fun _ => Triple.of_pure fun t balanced => by simpa [Call.handed] using balanced)
      (fun e t balanced => by simpa [Call.handed] using balanced)
  cases call with
  | connect => exact finished (connect_balanced sound balanced)
  | disconnect => exact finished (disconnect_balanced sound balanced)
  | subscribe topic qos =>
    exact finished (request_balanced sound balanced (subscribeFlow_booked topic qos))
  | publish topic payload qos =>
    exact finished (request_balanced sound balanced (publishFlow_booked topic payload qos))
  | poll timeout => exact poll_balanced sound balanced timeout

end Calls

/-- The sessions a program reaches from the session `s₀` by calls that returned, over one link,
with the publishes `poll` handed out on the way, in order. -/
inductive Served (s₀ : Session) : List Publish → Session → Prop
  | start : Served s₀ [] s₀
  | call {P : List Publish} {s t : Session} (call : Call) {c c' : Clock}
      {r : Except SessionError (Option Publish)} :
      Served s₀ P s → call.perform.run (s, c) = .ok r (t, c') → Served s₀ (P ++ Call.handed r) t

section Served
variable {options : SessionOptions} {capacity : Nat} {link : Link} {P : List Publish} {t : Session}

theorem Served.reachable (served : Served { options, capacity, link } P t) : t.Reachable := by
  induction served with
  | start => exact .fresh options capacity link
  | call call _ run reached => exact .call call reached run

theorem Logged.inbound {E : List Event} (log : Logged { options, capacity, link } E t t.slot) :
    link.stream ++ (E.flatMap Event.writes).flatMap link.broker.queued = E.flatMap Event.bytes ++ t.pending := by
  have read := log.read
  rw [Slot.rest_of_settled t.slot_settled] at read
  simpa [Session.pending, Session.unread] using read

theorem Served.balanced (served : Served { options, capacity, link } P t) :
    Balanced { options, capacity, link } P t := by
  induction served with
  | start => exact ⟨[], Logged.start _, rfl⟩
  | call call before run balanced =>
    exact Call.perform_balanced call before.reachable.sound balanced rfl run

/-- Over any inbound stream, cut into chunks anyhow, and any sequence of calls from a new session,
one log of events accounts for all the session did. The packets it wrote are those of the log, in
order: its own, and at each frame it took in the reply that frame calls for. The bytes it took in
are the stream, with the broker's answers to what it wrote, up to what is still pending. The log
is a path of the one-slot stash from a free slot to the slot the session has now. `poll` handed
out the publishes of the log, in order, each from a frame taken in before; with what the slot still
owes they are drawn in order from the publishes taken in, and every publish taken in was handed
out, lost (dropped by a wait while the slot was taken, or owed when the buffers were emptied), or
is still owed. A reply the link refused is followed by the buffers emptied. -/
theorem calls_account_for_every_inbound_frame (served : Served { options, capacity, link } P t) :
    ∃ E : List Event,
      t.link.sent = (E.flatMap Event.writes).reverse ++ link.sent ∧
      link.stream ++ (E.flatMap Event.writes).flatMap link.broker.queued =
        E.flatMap Event.bytes ++ t.pending ∧
      Slot.Path .free E t.slot ∧
      E.filterMap Event.handed? = P ∧
      List.Sublist (P ++ t.slot.owed) (E.filterMap Event.publish?) ∧
      List.Perm (P ++ E.flatMap Event.lost ++ t.slot.owed) (E.filterMap Event.publish?) ∧
      ∀ E₁ E₂ F, E = E₁ ++ .took F .unanswered :: E₂ → ∃ gone lost E₃, E₂ = .cleared gone lost :: E₃ := by
  obtain ⟨E, log, handed⟩ := served.balanced
  have path : Slot.Path .free E t.slot := log.path
  refine ⟨E, log.sent, log.inbound, path, handed, ?_, ?_, ?_⟩
  · simpa [handed, Slot.owed] using path.handed_sublist
  · simpa [handed, Slot.owed] using path.accounts
  · intro E₁ E₂ F split
    rw [split] at path
    exact path.unanswered_cleared t.slot_settled

end Served

theorem Call.connect_run {s t : Session} {c c' : Clock} {r : Except SessionError Unit}
    (run : Mqtt.connect.run (s, c) = .ok r (t, c')) :
    ∃ r', Call.connect.perform.run (s, c) = .ok r' (t, c') ∧ Call.handed r' = [] := by
  cases r with
  | ok u => exact ⟨.ok none, by rw [Call.perform, run_bind_ok run]; rfl, rfl⟩
  | error e => exact ⟨.error e, by rw [Call.perform, run_bind_error run], rfl⟩

/-- A broker that sends a publish of QoS 1 ahead of the CONNACK: connecting parks it and
acknowledges it. -/
theorem calls_account_for_every_inbound_frame_when_publish_precedes_connack :
    ∃ t, Served
        { options := {}, capacity := 64,
          link := { incoming := [.data [0x32, 6, 0, 1, 97, 0, 1, 1, 0x20, 2, 0, 0]] } } [] t ∧
      ∃ E : List Event,
        t.link.sent = (E.flatMap Event.writes).reverse ∧
        [0x32, 6, 0, 1, 97, 0, 1, 1, 0x20, 2, 0, 0] = E.flatMap Event.bytes ++ t.pending ∧
        Slot.Path .free E t.slot ∧
        E.filterMap Event.handed? = [] ∧
        List.Sublist t.slot.owed (E.filterMap Event.publish?) ∧
        List.Perm (E.flatMap Event.lost ++ t.slot.owed) (E.filterMap Event.publish?) ∧
        ∀ E₁ E₂ F, E = E₁ ++ .took F .unanswered :: E₂ →
          ∃ gone lost E₃, E₂ = .cleared gone lost :: E₃ := by
  have steady : Link.Steady { incoming := [.data [0x32, 6, 0, 1, 97, 0, 1, 1, 0x20, 2, 0, 0]] } := by
    simp [Link.Steady]
  have encoded : (Session.connectPacket
      { options := {}, capacity := 64,
        link := { incoming := [.data [0x32, 6, 0, 1, 97, 0, 1, 1, 0x20, 2, 0, 0]] } }).encode 64 =
      .ok [16, 15, 0, 4, 77, 81, 84, 84, 4, 2, 0, 60, 0, 3, 100, 101, 118] := by
    decide +kernel
  obtain ⟨t, c', r, run, -⟩ := connect_meets_contract
    (s :=
      { options := {}, capacity := 64,
        link := { incoming := [.data [0x32, 6, 0, 1, 97, 0, 1, 1, 0x20, 2, 0, 0]] } })
    (c := ⟨0, none⟩) rfl rfl steady rfl rfl encoded rfl
  obtain ⟨r', performed, quiet⟩ := Call.connect_run run
  have served := Served.call .connect .start performed
  rw [quiet] at served
  obtain ⟨E, sent, read, path, handed, sublist, perm, unanswered⟩ :=
    calls_account_for_every_inbound_frame served
  refine ⟨t, served, E, by simpa using sent, ?_, path, handed, by simpa using sublist,
    by simpa using perm, unanswered⟩
  -- This broker answers nothing.
  have quiet : (E.flatMap Event.writes).flatMap ({} : Broker).queued = [] :=
    List.flatMap_eq_nil_iff.mpr fun _ _ => rfl
  simpa [Link.stream, Chunk.bytes, quiet] using read

end Gateway.Mqtt
