import Gateway.Proofs.Waiting
/-!
The request flows of a session: a SUBSCRIBE waits for the SUBACK with its packet id, a PUBLISH
of QoS 1 for the PUBACK and one of QoS 2 for the PUBREC and then, after the PUBREL, for the
PUBCOMP, and a CONNECT for the first CONNACK, each before one deadline set when the request
was written. Each flow is stated by the wait's run lemma over the frames the session can take
once the request is written, so what the broker queued before or in answer to it is read the
same way; the packets written are the request and the replies to the frames read on the way.
-/
namespace Gateway.Mqtt
open Gateway.Mqtt.Flow

def replies (Fs : List (List UInt8)) : List (List UInt8) :=
  Fs.flatMap fun F => (replyOf F).toList.map Ack.bytes

@[simp] theorem replies_nil : replies [] = [] := rfl

@[simp] theorem replies_append (Fs Gs : List (List UInt8)) :
    replies (Fs ++ Gs) = replies Fs ++ replies Gs := by
  simp [replies]

def Broker.queued (b : Broker) (pkt : List UInt8) : List UInt8 :=
  match b.auto, b.answer pkt with
  | true, some answer => answer
  | _, _ => []

theorem Link.send_stream {l : Link} (ready : l.failSend = 0) (pkt : List UInt8) :
    (l.send pkt).1.stream = l.stream ++ l.broker.queued pkt := by
  unfold Link.send Broker.queued
  simp only [ready, Nat.lt_irrefl, if_false]
  split <;> simp [Link.stream, Chunk.bytes, *]

@[simp] theorem Link.send_broker (l : Link) (pkt : List UInt8) : (l.send pkt).1.broker = l.broker := by
  unfold Link.send
  split <;> rfl

theorem Link.establish_of_ready {l : Link} (ready : l.failOpen = 0) :
    l.establish = ({ l with opens := l.opens + 1 }, .ok ()) := by
  simp [Link.establish, ready]

theorem Link.establish_of_refusing {l : Link} (refusing : l.failOpen ≠ 0) :
    l.establish = ({ l with opens := l.opens + 1, failOpen := l.failOpen - 1 }, .error .reset) := by
  simp [Link.establish]
  omega

namespace Session

theorem pass_sent {s : Session} (ready : s.link.failSend = 0) (now : Nat) (F : List UInt8) :
    (s.pass now F).link.sent = (replyOf F).toList.map Ack.bytes ++ s.link.sent := by
  rw [pass_link, answered_sent ready]

theorem foldl_pass_sent {s : Session} (ready : s.link.failSend = 0) (now : Nat)
    (Fs : List (List UInt8)) :
    (Fs.foldl (pass now) s).link.sent = (replies Fs).reverse ++ s.link.sent := by
  induction Fs generalizing s with
  | nil => simp
  | cons F Fs ih =>
    have ready' : (s.pass now F).link.failSend = 0 := by
      rw [pass_link]
      exact answered_failSend ready now F
    rw [List.foldl_cons, ih ready', pass_sent ready]
    -- A frame calls for at most one reply, so its replies read the same either way round.
    cases reply : replyOf F <;> simp [replies, reply]

end Session

namespace Session

def tookId (s : Session) : Session := { s with nextPacketId := nextId s.nextPacketId }

@[simp] theorem tookId_options (s : Session) : s.tookId.options = s.options := rfl

@[simp] theorem tookId_capacity (s : Session) : s.tookId.capacity = s.capacity := rfl

theorem Ready.tookId {s : Session} (ready : s.Ready) : s.tookId.Ready :=
  ⟨⟨ready.reading.fits, ready.reading.steady⟩, ready.writable, ready.room⟩

theorem Ready.wrote {s : Session} (ready : s.Ready) (now : Nat) (bytes : List UInt8) :
    (s.wrote now bytes).Ready :=
  ⟨⟨ready.reading.fits, Link.send_steady ready.reading.steady _⟩,
    by simp [Session.wrote, Link.send_failSend, ready.writable], ready.room⟩

@[simp] theorem answered_broker (s : Session) (now : Nat) (F : List UInt8) :
    (s.answered now F).link.broker = s.link.broker := by
  unfold answered
  split <;> simp

theorem foldl_pass_broker (s : Session) (now : Nat) (Fs : List (List UInt8)) :
    (Fs.foldl (pass now) s).link.broker = s.link.broker := by
  induction Fs generalizing s with
  | nil => rfl
  | cons F Fs ih => rw [List.foldl_cons, ih, pass_link, answered_broker]

theorem waited_broker (s : Session) (now : Nat) (want : Frame → Bool) (Fs : List (List UInt8)) :
    (s.waited now want Fs).link.broker = s.link.broker := by
  unfold waited
  split
  · split <;> simp [consume, foldl_pass_broker]
  · exact foldl_pass_broker s now _

theorem visible_wrote {s : Session} (ready : s.link.failSend = 0) (now now' deadline : Nat)
    (bytes : List UInt8) :
    (s.wrote now bytes).visible now' deadline =
      s.visible now' deadline ++ if now' < deadline then s.link.broker.queued bytes else [] := by
  unfold visible unread
  split
  · simp [wrote, Link.send_stream ready]
  · simp [wrote]

theorem norm_wrote (s : Session) (now : Nat) (bytes : List UInt8) :
    (s.wrote now bytes).norm = (s.norm.wrote now bytes).norm := by
  by_cases failing : 0 < s.link.failSend
  · simp [norm, wrote, unread, Link.send, failing, Link.stream]
  · have ready : s.link.failSend = 0 := by omega
    simp only [norm, wrote, unread, Link.send_stream ready, List.append_assoc]
    simp only [Link.send, failing, if_false, Session.mk.injEq, true_and]
    -- On an empty queue the broker's answer is all that is queued.
    unfold Broker.queued Link.stream
    cases auto : s.link.broker.auto <;> cases answer : s.link.broker.answer bytes <;>
      simp [Chunk.bytes]

@[simp] theorem norm_capacity (s : Session) : s.norm.capacity = s.capacity := rfl

@[simp] theorem norm_broker (s : Session) : s.norm.link.broker = s.link.broker := rfl

@[simp] theorem norm_sent (s : Session) : s.norm.link.sent = s.link.sent := rfl

@[simp] theorem waited_capacity (s : Session) (now : Nat) (want : Frame → Bool)
    (Fs : List (List UInt8)) : (s.waited now want Fs).capacity = s.capacity := by
  have folded : ∀ (u : Session) (Gs : List (List UInt8)),
      (Gs.foldl (pass now) u).capacity = u.capacity := by
    intro u Gs
    induction Gs generalizing u with
    | nil => rfl
    | cons G Gs ih => rw [List.foldl_cons, ih, pass_capacity]
  unfold waited
  split
  · split <;> simp [consume, folded]
  · exact folded s _

theorem waited_failSend {s : Session} (ready : s.link.failSend = 0) (now : Nat)
    (want : Frame → Bool) (Fs : List (List UInt8)) : (s.waited now want Fs).link.failSend = 0 := by
  have folded : ∀ (u : Session) (Gs : List (List UInt8)), u.link.failSend = 0 →
      (Gs.foldl (pass now) u).link.failSend = 0 := by
    intro u Gs
    induction Gs generalizing u with
    | nil => exact id
    | cons G Gs ih =>
      intro writable
      rw [List.foldl_cons]
      exact ih _ (by rw [pass_link]; exact answered_failSend writable now G)
  unfold waited
  split
  · split
    · exact folded s _ ready
    · exact folded s _ ready
  · exact folded s _ ready

theorem waited_sent {s : Session} (ready : s.link.failSend = 0) (now : Nat)
    (want : Frame → Bool) (Fs : List (List UInt8)) :
    (s.waited now want Fs).link.sent =
      (replies (Fs.takeWhile (passesWait want))).reverse ++ s.link.sent := by
  unfold waited
  split
  · split <;> simp [consume, foldl_pass_sent ready]
  · exact foldl_pass_sent ready now _

end Session

theorem takeId_run (s : Session) (c : Clock) :
    takeId.run (s, c) = .ok (.ok s.nextPacketId) (s.tookId, c) := rfl

def isSubAckFor (id : UInt16) : Frame → Bool
  | .subAck i _ => i == id
  | _ => false

def subscribeResult : Except SessionError Frame → Except SessionError Unit
  | .ok (.subAck _ true) => .error .rejected
  | .ok _ => .ok ()
  | .error e => .error e

section Subscribe
variable {s : Session} {c : Clock} {topic : String} {qos : QoS} {bytes : List UInt8}
  {Fs : List (List UInt8)} {tail : StreamEnd}

theorem subscribeFlow_run (ready : s.Ready) (free : c.limit = none)
    (encoded : (Outbound.subscribe ⟨s.nextPacketId, [(topic, qos)]⟩).encode s.capacity = .ok bytes)
    (split : splitFrames s.capacity ((s.tookId.wrote c.now bytes).visible c.now
      (c.now + s.options.ackTimeout)) = (Fs, tail)) :
    ∃ t, (subscribeFlow topic qos).run (s, c) =
        .ok (subscribeResult (waitOutcome (isSubAckFor s.nextPacketId) Fs tail))
          (t, c.after (c.now + s.options.ackTimeout) (stopFrame (isSubAckFor s.nextPacketId) Fs)
            tail) ∧
      t.norm = (s.tookId.wrote c.now bytes).norm.waited c.now (isSubAckFor s.nextPacketId) Fs ∧
      t.Ready := by
  obtain ⟨t, wait, moved, ready', -⟩ :=
    awaitFrame_run (isSubAckFor s.nextPacketId) (ready.tookId.wrote c.now bytes) free split
  refine ⟨t, ?_, moved, ready'⟩
  rw [subscribeFlow, run_bind_ok (takeId_run s c),
    run_bind_ok (sendPacket_run_of_written (s := s.tookId) encoded ready.writable c)]
  simp only [run_bind, run_clock, run_state, Session.wrote_options, Session.tookId_options]
  -- The wait's predicate is the flow's own closure, equal to `isSubAckFor` by unfolding.
  erw [wait]
  cases waitOutcome (isSubAckFor s.nextPacketId) Fs tail with
  | error e => rfl
  | ok f =>
    cases f with
    | subAck id rejected => cases rejected <;> rfl
    | _ => rfl

end Subscribe

section Publish
variable {s : Session} {c : Clock} {topic : String} {payload : List UInt8} {bytes : List UInt8}
  {Fs Gs : List (List UInt8)} {tail tail' : StreamEnd}

theorem publishFlow_run_atMostOnce (writable : s.link.failSend = 0)
    (encoded : (Outbound.publish ⟨topic, .atMostOnce, payload, none⟩).encode s.capacity = .ok bytes) :
    (publishFlow topic payload .atMostOnce).run (s, c) = .ok (.ok ()) (s.wrote c.now bytes, c) := by
  simp [publishFlow, sendPacket_run_of_written encoded writable c]

theorem publishFlow_run_atLeastOnce (ready : s.Ready) (free : c.limit = none)
    (encoded : (Outbound.publish ⟨topic, .atLeastOnce, payload, some s.nextPacketId⟩).encode
      s.capacity = .ok bytes)
    (split : splitFrames s.capacity ((s.tookId.wrote c.now bytes).visible c.now
      (c.now + s.options.ackTimeout)) = (Fs, tail)) :
    ∃ t, (publishFlow topic payload .atLeastOnce).run (s, c) =
        .ok ((waitOutcome (isAck .pubAck s.nextPacketId) Fs tail).map fun _ => ())
          (t, c.after (c.now + s.options.ackTimeout) (stopFrame (isAck .pubAck s.nextPacketId) Fs)
            tail) ∧
      t.norm = (s.tookId.wrote c.now bytes).norm.waited c.now (isAck .pubAck s.nextPacketId) Fs ∧
      t.Ready := by
  obtain ⟨t, wait, moved, ready', -⟩ :=
    awaitFrame_run (isAck .pubAck s.nextPacketId) (ready.tookId.wrote c.now bytes) free split
  refine ⟨t, ?_, moved, ready'⟩
  have taken : (some <$> takeId : Flow (Option UInt16)).run (s, c) =
      .ok (.ok (some s.nextPacketId)) (s.tookId, c) := rfl
  rw [publishFlow]
  dsimp only
  rw [run_bind_ok taken, run_bind_ok (sendPacket_run_of_written (s := s.tookId) encoded ready.writable c)]
  simp only [run_bind, run_clock, run_state, Session.wrote_options, Session.tookId_options, wait]
  · cases waitOutcome (isAck .pubAck s.nextPacketId) Fs tail <;> rfl
  -- The QoS 1 arm of the flow is its catch-all arm.
  · exact fun same => by cases same

theorem waitOutcome_stop {want : Frame → Bool} {f : Frame}
    (found : waitOutcome want Fs tail = .ok f) :
    ∃ F, stopFrame want Fs = some F ∧ classify F = .ok f := by
  unfold waitOutcome at found
  cases stop : stopFrame want Fs with
  | none =>
    rw [stop] at found
    cases found
  | some F =>
    rw [stop] at found
    exact ⟨F, rfl, found⟩

theorem publishFlow_run_exactlyOnce (ready : s.Ready) (free : c.limit = none)
    (encoded : (Outbound.publish ⟨topic, .exactlyOnce, payload, some s.nextPacketId⟩).encode
      s.capacity = .ok bytes)
    (split : splitFrames s.capacity ((s.tookId.wrote c.now bytes).visible c.now
      (c.now + s.options.ackTimeout)) = (Fs, tail))
    (split' : splitFrames s.capacity
      (((s.tookId.wrote c.now bytes).visible c.now (c.now + s.options.ackTimeout)).drop
          (Fs.take ((Fs.takeWhile (passesWait (isAck .pubRec s.nextPacketId))).length + 1)).flatten.length ++
        if 0 < s.options.ackTimeout then s.link.broker.queued (Ack.bytes ⟨.pubRel, s.nextPacketId⟩)
        else []) = (Gs, tail')) :
    ∃ t c', (publishFlow topic payload .exactlyOnce).run (s, c) =
        .ok ((waitOutcome (isAck .pubRec s.nextPacketId) Fs tail).bind fun _ =>
          (waitOutcome (isAck .pubComp s.nextPacketId) Gs tail').map fun _ => ()) (t, c') ∧
      t.Ready ∧
      t.norm = match waitOutcome (isAck .pubRec s.nextPacketId) Fs tail with
        | .ok _ => ((((s.tookId.wrote c.now bytes).norm.waited c.now (isAck .pubRec s.nextPacketId)
            Fs).wrote c.now (Ack.bytes ⟨.pubRel, s.nextPacketId⟩)).norm.waited c.now
              (isAck .pubComp s.nextPacketId) Gs)
        | .error _ =>
          (s.tookId.wrote c.now bytes).norm.waited c.now (isAck .pubRec s.nextPacketId) Fs := by
  obtain ⟨t, wait, moved, ready', rest⟩ :=
    awaitFrame_run (isAck .pubRec s.nextPacketId) (ready.tookId.wrote c.now bytes) free split
  have taken : (some <$> takeId : Flow (Option UInt16)).run (s, c) =
      .ok (.ok (some s.nextPacketId)) (s.tookId, c) := rfl
  rw [publishFlow]
  dsimp only
  rw [run_bind_ok taken, run_bind_ok (sendPacket_run_of_written (s := s.tookId) encoded ready.writable c)]
  simp only [run_bind, run_clock, run_state, Session.wrote_options, Session.tookId_options, wait]
  cases outcome : waitOutcome (isAck .pubRec s.nextPacketId) Fs tail with
  | error e => exact ⟨t, _, rfl, ready', moved⟩
  | ok f =>
    obtain ⟨F, stop, -⟩ := waitOutcome_stop outcome
    obtain ⟨past, -⟩ := rest (by simp [outcome, Except.isOk, Except.toBool])
    have clock : c.after (c.now + s.options.ackTimeout)
        (stopFrame (isAck .pubRec s.nextPacketId) Fs) tail = c := by
      rw [stop]
      rfl
    -- The wait keeps the buffer size and the broker, so the PUBREL is answered as it would be
    -- on the session before.
    have capacity : t.capacity = s.capacity := by
      rw [← Session.norm_capacity, moved, Session.waited_capacity]
      rfl
    have broker : t.link.broker = s.link.broker := by
      rw [← Session.norm_broker, moved, Session.waited_broker]
      simp [Session.wrote, Session.tookId, Session.norm]
    have split₂ : splitFrames t.capacity ((t.wrote c.now (Ack.bytes ⟨.pubRel, s.nextPacketId⟩)).visible
        c.now (c.now + s.options.ackTimeout)) = (Gs, tail') := by
      rw [Session.visible_wrote ready'.writable, past, broker, capacity]
      simpa using split'
    obtain ⟨t₂, wait₂, moved₂, ready₂, -⟩ :=
      awaitFrame_run (isAck .pubComp s.nextPacketId) (ready'.wrote c.now _) free split₂
    rw [clock]
    simp only
    rw [sendPacket_run_of_written (Ack.encode_of_room _ ready'.room) ready'.writable c]
    simp only
    rw [wait₂]
    refine ⟨t₂, c.after (c.now + s.options.ackTimeout) (stopFrame (isAck .pubComp s.nextPacketId) Gs)
      tail', ?_, ready₂, ?_⟩
    · cases waitOutcome (isAck .pubComp s.nextPacketId) Gs tail' <;> rfl
    · rw [moved₂, Session.norm_wrote, moved]
  -- The QoS 2 arm of the flow's first match is its catch-all arm.
  · exact fun same => by cases same

end Publish

def isConnAck : Frame → Bool
  | .connAck _ => true
  | _ => false

def connectResult : Except SessionError Frame → Except SessionError Unit
  | .ok (.connAck 0) => .ok ()
  | .ok (.connAck code) => .error (.connectionRefused (.ofCode code.toNat))
  | .ok _ => .error (.protocol .invalidResponse)
  | .error e => .error e

def Session.opened (s : Session) : Session :=
  { s.resetBuffers with link := { s.link with opens := s.link.opens + 1 } }

section Connect
variable {s : Session} {c : Clock} {bytes : List UInt8} {Fs : List (List UInt8)}
  {tail : StreamEnd}

theorem handshake_run (ready : s.Ready) (free : c.limit = none)
    (encoded : s.connectPacket.encode s.capacity = .ok bytes)
    (split : splitFrames s.capacity ((s.wrote c.now bytes).visible c.now
      (c.now + s.options.ackTimeout)) = (Fs, tail)) :
    ∃ t, handshake.run (s, c) =
        .ok (connectResult (waitOutcome isConnAck Fs tail))
          (t, c.after (c.now + s.options.ackTimeout) (stopFrame isConnAck Fs) tail) ∧
      t.norm = (s.wrote c.now bytes).norm.waited c.now isConnAck Fs ∧ t.Ready := by
  obtain ⟨t, wait, moved, ready', -⟩ :=
    awaitFrame_run isConnAck (ready.wrote c.now bytes) free split
  refine ⟨t, ?_, moved, ready'⟩
  rw [handshake, run_bind_ok (run_state _), run_bind_ok (sendPacket_run_of_written encoded
    ready.writable c)]
  simp only [run_bind, run_clock, run_state, Session.wrote_options]
  -- The wait's predicate is the handshake's own closure, equal to `isConnAck` by unfolding.
  erw [wait]
  cases waitOutcome isConnAck Fs tail with
  | error e => rfl
  | ok f =>
    cases f with
    | connAck code => by_cases accepted : code = 0 <;> simp [connectResult, accepted]
    | _ => rfl

theorem Session.opened_ready (steady : s.link.Steady) (writable : s.link.failSend = 0)
    (room : 4 ≤ s.capacity) : s.opened.Ready :=
  ⟨⟨by simp [Session.opened, Session.resetBuffers], steady⟩, writable, room⟩

theorem connect_run (down : s.connected = false) (opening : s.link.failOpen = 0)
    (ready : s.opened.Ready) (free : c.limit = none)
    (encoded : s.connectPacket.encode s.capacity = .ok bytes)
    (split : splitFrames s.capacity ((s.opened.wrote c.now bytes).visible c.now
      (c.now + s.options.ackTimeout)) = (Fs, tail)) :
    ∃ (t u : Session) (c' : Clock),
      connect.run (s, c) = .ok (connectResult (waitOutcome isConnAck Fs tail)) (t, c') ∧
      u.norm = (s.opened.wrote c.now bytes).norm.waited c.now isConnAck Fs ∧ u.Ready ∧
      t = if (connectResult (waitOutcome isConnAck Fs tail)).isOk then { u with connected := true }
        else ({ u with link := u.link.close }).resetBuffers := by
  obtain ⟨u, shake, moved, ready'⟩ := handshake_run (s := s.opened) ready free encoded split
  refine ⟨_, u, c.after (c.now + s.options.ackTimeout) (stopFrame isConnAck Fs) tail, ?_, moved,
    ready', rfl⟩
  have kept : s.resetBuffers.link = s.link := rfl
  simp only [connect, run_bind, run_state, down, Bool.false_eq_true, if_false, kept,
    Link.establish_of_ready opening, run_put, run_tryCatch]
  -- The handshake runs on the session just opened.
  erw [shake]
  cases connectResult (waitOutcome isConnAck Fs tail) <;> rfl

end Connect

namespace Session

def dropped (t : Session) : Session := ({ t with connected := false, link := t.link.close }).resetBuffers

def settled {α : Type} (r : Except SessionError α) (t : Session) : Session :=
  match r with
  | .error e => if e.keepsLink then t else t.dropped
  | .ok _ => t

@[simp] theorem release_nextPacketId (s : Session) : s.release.nextPacketId = s.nextPacketId := by
  unfold release
  split <;> rfl

@[simp] theorem release_capacity (s : Session) : s.release.capacity = s.capacity := by
  unfold release
  split <;> rfl

@[simp] theorem release_options (s : Session) : s.release.options = s.options := by
  unfold release
  split <;> rfl

@[simp] theorem release_link (s : Session) : s.release.link = s.link := by
  unfold release
  split <;> rfl

@[simp] theorem release_connected (s : Session) : s.release.connected = s.connected := by
  unfold release
  split <;> rfl

theorem Ready.release {s : Session} (ready : s.Ready) : s.release.Ready := by
  unfold Session.release
  split
  · exact ready
  · exact ⟨⟨by simp [Session.consume]; have := ready.reading.fits; omega, ready.reading.steady⟩,
      ready.writable, ready.room⟩
  · exact ⟨⟨ready.reading.fits, ready.reading.steady⟩, ready.writable, ready.room⟩

@[simp] theorem settled_sent {α : Type} (r : Except SessionError α) (t : Session) :
    (t.settled r).link.sent = t.link.sent := by
  unfold settled dropped
  split
  · split <;> rfl
  · rfl

end Session

theorem settle_run_of_run {α : Type} {m : Flow α} {s t : Session} {c c' : Clock}
    {r : Except SessionError α} (run : m.run (s, c) = .ok r (t, c')) :
    (settle m).run (s, c) = .ok r (t.settled r, c') := by
  rw [settle_run, run]
  cases r with
  | error e => by_cases keeps : e.keepsLink <;> simp [Session.settled, Session.dropped, keeps]
  | ok a => rfl

theorem release_then_connected {s : Session} (up : s.connected = true) {α : Type} (m : Flow α)
    (c : Clock) :
    (releaseHeld >>= fun _ => requireConnected >>= fun _ => m).run (s, c) = m.run (s.release, c) := by
  rw [run_bind_ok (releaseHeld_run s c),
    run_bind_ok (requireConnected_run_of_connected (by simpa using up) c)]

section Calls
variable {s : Session} {c : Clock} {topic : String} {qos : QoS} {payload bytes : List UInt8}
  {Fs Gs : List (List UInt8)} {tail tail' : StreamEnd}

theorem waited_sent_after_write {u : Session} (ready : u.link.failSend = 0) (now : Nat)
    (want : Frame → Bool) :
    ((u.wrote now bytes).norm.waited now want Fs).link.sent =
      (replies (Fs.takeWhile (passesWait want))).reverse ++ bytes :: u.link.sent := by
  have writable : (u.wrote now bytes).norm.link.failSend = 0 := by
    simp [Session.norm, Session.wrote, Link.send_failSend, ready]
  rw [Session.waited_sent writable]
  simp [Session.norm, Session.wrote, Link.send_sent ready]

theorem subscribe_run (up : s.connected = true) (ready : s.Ready) (free : c.limit = none)
    (encoded : (Outbound.subscribe ⟨s.nextPacketId, [(topic, qos)]⟩).encode s.capacity = .ok bytes)
    (split : splitFrames s.capacity ((s.release.tookId.wrote c.now bytes).visible c.now
      (c.now + s.options.ackTimeout)) = (Fs, tail)) :
    ∃ t c', (subscribe topic qos).run (s, c) =
        .ok (subscribeResult (waitOutcome (isSubAckFor s.nextPacketId) Fs tail)) (t, c') ∧
      t.link.sent =
        (replies (Fs.takeWhile (passesWait (isSubAckFor s.nextPacketId)))).reverse ++
          bytes :: s.link.sent := by
  obtain ⟨t, run, moved, -⟩ :=
    subscribeFlow_run (s := s.release) ready.release free (by simpa using encoded)
      (by simpa using split)
  simp only [Session.release_nextPacketId, Session.release_options] at run moved
  have settled := settle_run_of_run run
  rw [← release_then_connected up] at settled
  refine ⟨_, _, settled, ?_⟩
  rw [Session.settled_sent, ← Session.norm_sent, moved, waited_sent_after_write ready.release.tookId.writable]
  simp [Session.tookId]

theorem publish_run_atMostOnce (up : s.connected = true) (writable : s.link.failSend = 0)
    (encoded : (Outbound.publish ⟨topic, .atMostOnce, payload, none⟩).encode s.capacity = .ok bytes) :
    (publish topic payload .atMostOnce).run (s, c) = .ok (.ok ()) (s.release.wrote c.now bytes, c) ∧
      (s.release.wrote c.now bytes).link.sent = bytes :: s.link.sent := by
  have run := publishFlow_run_atMostOnce (s := s.release) (c := c) (by simpa using writable)
    (by simpa using encoded)
  refine ⟨?_, ?_⟩
  · rw [publish, release_then_connected up, settle_run_of_run run]
    rfl
  · simp [Session.wrote, Link.send_sent writable]

theorem publish_run_atLeastOnce (up : s.connected = true) (ready : s.Ready) (free : c.limit = none)
    (encoded : (Outbound.publish ⟨topic, .atLeastOnce, payload, some s.nextPacketId⟩).encode
      s.capacity = .ok bytes)
    (split : splitFrames s.capacity ((s.release.tookId.wrote c.now bytes).visible c.now
      (c.now + s.options.ackTimeout)) = (Fs, tail)) :
    ∃ t c', (publish topic payload .atLeastOnce).run (s, c) =
        .ok ((waitOutcome (isAck .pubAck s.nextPacketId) Fs tail).map fun _ => ()) (t, c') ∧
      t.link.sent =
        (replies (Fs.takeWhile (passesWait (isAck .pubAck s.nextPacketId)))).reverse ++
          bytes :: s.link.sent := by
  obtain ⟨t, run, moved, -⟩ :=
    publishFlow_run_atLeastOnce (s := s.release) ready.release free (by simpa using encoded)
      (by simpa using split)
  simp only [Session.release_nextPacketId, Session.release_options] at run moved
  have settled := settle_run_of_run run
  rw [← release_then_connected up] at settled
  refine ⟨_, _, settled, ?_⟩
  rw [Session.settled_sent, ← Session.norm_sent, moved, waited_sent_after_write ready.release.tookId.writable]
  simp [Session.tookId]

theorem publish_run_exactlyOnce (up : s.connected = true) (ready : s.Ready) (free : c.limit = none)
    (encoded : (Outbound.publish ⟨topic, .exactlyOnce, payload, some s.nextPacketId⟩).encode
      s.capacity = .ok bytes)
    (split : splitFrames s.capacity ((s.release.tookId.wrote c.now bytes).visible c.now
      (c.now + s.options.ackTimeout)) = (Fs, tail))
    (split' : splitFrames s.capacity
      (((s.release.tookId.wrote c.now bytes).visible c.now (c.now + s.options.ackTimeout)).drop
          (Fs.take ((Fs.takeWhile (passesWait (isAck .pubRec s.nextPacketId))).length + 1)).flatten.length ++
        if 0 < s.options.ackTimeout then s.link.broker.queued (Ack.bytes ⟨.pubRel, s.nextPacketId⟩)
        else []) = (Gs, tail')) :
    ∃ t c', (publish topic payload .exactlyOnce).run (s, c) =
        .ok ((waitOutcome (isAck .pubRec s.nextPacketId) Fs tail).bind fun _ =>
          (waitOutcome (isAck .pubComp s.nextPacketId) Gs tail').map fun _ => ()) (t, c') ∧
      t.link.sent = match waitOutcome (isAck .pubRec s.nextPacketId) Fs tail with
        | .ok _ => (replies (Gs.takeWhile (passesWait (isAck .pubComp s.nextPacketId)))).reverse ++
            Ack.bytes ⟨.pubRel, s.nextPacketId⟩ ::
              (replies (Fs.takeWhile (passesWait (isAck .pubRec s.nextPacketId)))).reverse ++
                bytes :: s.link.sent
        | .error _ => (replies (Fs.takeWhile (passesWait (isAck .pubRec s.nextPacketId)))).reverse ++
            bytes :: s.link.sent := by
  obtain ⟨t, c', run, -, moved⟩ :=
    publishFlow_run_exactlyOnce (s := s.release) ready.release free (by simpa using encoded)
      (by simpa using split) (by simpa using split')
  simp only [Session.release_nextPacketId] at run moved
  have settled := settle_run_of_run run
  rw [← release_then_connected up] at settled
  refine ⟨_, _, settled, ?_⟩
  have writable : (s.release.tookId.wrote c.now bytes).norm.link.failSend = 0 := by
    simp [Session.norm, Session.wrote, Link.send_failSend, Session.tookId, ready.writable]
  rw [Session.settled_sent, ← Session.norm_sent, moved]
  cases waitOutcome (isAck .pubRec s.nextPacketId) Fs tail with
  | ok f =>
    simp only
    rw [waited_sent_after_write (Session.waited_failSend writable _ _ _),
      waited_sent_after_write ready.release.tookId.writable]
    simp [Session.tookId]
  | error e =>
    simp only
    rw [waited_sent_after_write ready.release.tookId.writable]
    simp [Session.tookId]

end Calls

end Gateway.Mqtt
