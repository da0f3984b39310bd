import Gateway.Proofs.Framing
/-!
What a session writes back for the frames it reads. A publish of QoS 1 or 2 is acknowledged by
a PUBACK or a PUBREC with its own packet id, a PUBREL is completed by a PUBCOMP, and no other
frame is answered. `Session.pass` is the step a reading loop takes past one frame that it does
not stop at: the reply written, the frame consumed, and a publish parked when the slot is free.
The scripted broker never answers a reply, so writing one leaves the inbound stream as it was.
-/
namespace Gateway.Mqtt
open Gateway.Mqtt.Flow

/-! Reading a publish. -/

theorem map_eq_ok_some {α : Type} {x : Except PacketError α} {g : α → Inbound} {i : Inbound}
    (h : x.map (some ∘ g) = .ok (some i)) : ∃ a, x = .ok a ∧ g a = i := by
  cases x with
  | error e => cases h
  | ok a =>
    simp only [Except.map, Except.ok.injEq, Function.comp_apply, Option.some.injEq] at h
    exact ⟨a, rfl, h⟩

theorem Inbound.decode_eq_publish {F : List UInt8} {p : Publish}
    (decoded : Inbound.decode F = .ok (some (.publish p))) : Publish.decode F = .ok p := by
  -- Only the reader picked by type 3 builds a publish.
  unfold Inbound.decode at decoded
  rcases F with _ | ⟨first, rest⟩
  · cases decoded
  · simp only at decoded
    split at decoded
    · obtain ⟨a, -, wrong⟩ := map_eq_ok_some decoded
      cases wrong
    · obtain ⟨a, read, same⟩ := map_eq_ok_some decoded
      cases same
      exact read
    -- The four acknowledgement types share one reader.
    iterate 4
      · obtain ⟨a, -, wrong⟩ := map_eq_ok_some decoded
        cases wrong
    · obtain ⟨a, -, wrong⟩ := map_eq_ok_some decoded
      cases wrong
    · cases decoded
    · cases decoded

theorem classify_publish {F : List UInt8} {q : QoS} {id : Option UInt16}
    (read : classify F = .ok (.publish q id)) :
    ∃ p, Publish.decode F = .ok p ∧ p.qos = q ∧ p.packetId = id := by
  unfold classify at read
  cases decoded : Inbound.decode F with
  | error e => simp [decoded] at read
  | ok found =>
    rw [decoded] at read
    cases found with
    | none => simp at read
    | some p =>
      simp only [Except.ok.injEq] at read
      cases p with
      | publish p =>
        simp only [Frame.ofInbound, Frame.publish.injEq] at read
        exact ⟨p, Inbound.decode_eq_publish decoded, read.1, read.2⟩
      | connAck _ => simp [Frame.ofInbound] at read
      | ack _ => simp [Frame.ofInbound] at read
      | subAck _ => simp [Frame.ofInbound] at read
      | pingResp => simp [Frame.ofInbound] at read

theorem Publish.decode_packetId {F : List UInt8} {p : Publish} (decoded : Publish.decode F = .ok p) :
    p.packetId = none ↔ p.qos = .atMostOnce := by
  unfold Publish.decode at decoded
  simp only [bind, Except.bind, pure, Except.pure] at decoded
  repeat' split at decoded
  all_goals simp only [reduceCtorEq, Except.ok.injEq] at decoded
  all_goals
    subst decoded
    simp_all

/-! Replies and the link. -/

def Ack.bytes (a : Ack) : List UInt8 := a.kind.header :: 0x02 :: Field.u16 a.packetId

theorem Ack.encode_of_room (a : Ack) {n : Nat} (room : 4 ≤ n) :
    (Outbound.ack a).encode n = .ok a.bytes := by
  simp [Outbound.encode, Ack.encode, writeInPlace, Ack.bytes, Field.u16]
  omega

def Frame.reply : Frame → Option Ack
  | .publish .atLeastOnce (some id) => some ⟨.pubAck, id⟩
  | .publish .exactlyOnce (some id) => some ⟨.pubRec, id⟩
  | .ack ⟨.pubRel, id⟩ => some ⟨.pubComp, id⟩
  | _ => none

theorem Frame.reply_kind {f : Frame} {a : Ack} (h : f.reply = some a) : a.kind ≠ .pubRel := by
  unfold Frame.reply at h
  split at h <;> simp at h <;> subst h <;> simp

theorem Broker.answer_reply (b : Broker) {a : Ack} (kind : a.kind ≠ .pubRel) :
    b.answer a.bytes = none := by
  rcases a with ⟨kind', id⟩
  unfold Broker.answer
  split
  · rename_i first tail start stop shape _
    simp only [Ack.bytes, List.cons.injEq] at shape
    obtain ⟨rfl, -⟩ := shape
    cases kind' <;> simp_all [AckKind.header]
  · rfl

theorem Link.send_incoming_of_reply (l : Link) {a : Ack} (kind : a.kind ≠ .pubRel) :
    (l.send a.bytes).1.incoming = l.incoming := by
  unfold Link.send
  split
  · rfl
  · simp [Broker.answer_reply _ kind]

theorem Link.send_failSend (l : Link) (pkt : List UInt8) :
    (l.send pkt).1.failSend = l.failSend - 1 := by
  unfold Link.send
  split
  · rfl
  · simp only
    omega

theorem Link.send_sent {l : Link} (ready : l.failSend = 0) (pkt : List UInt8) :
    (l.send pkt).1.sent = pkt :: l.sent := by
  simp [Link.send, ready]

theorem Broker.answer_ne_nil {b : Broker} {pkt reply : List UInt8} (answered : b.answer pkt = some reply) :
    reply ≠ [] := by
  unfold Broker.answer at answered
  split at answered
  · repeat' split at answered
    all_goals simp only [Option.some.injEq, reduceCtorEq] at answered
    all_goals
      subst answered
      simp
  · cases answered

theorem Link.send_steady {l : Link} (steady : l.Steady) (pkt : List UInt8) : (l.send pkt).1.Steady := by
  unfold Link.send
  split
  · exact steady
  · intro c member
    simp only at member
    split at member
    · rename_i reply _ answered
      rcases List.mem_append.mp member with old | new
      · exact steady c old
      · simp only [List.mem_singleton] at new
        exact ⟨reply, new, Broker.answer_ne_nil answered⟩
    · exact steady c member

/-! The reply a frame calls for, and a loop's step past a frame. -/

def replyOf (F : List UInt8) : Option Ack :=
  match classify F with
  | .ok f => f.reply
  | .error _ => none

def Frame.isPublish : Frame → Bool
  | .publish _ _ => true
  | _ => false

theorem Frame.isPublish_iff {f : Frame} : f.isPublish = true ↔ ∃ q id, f = .publish q id := by
  cases f <;> simp [Frame.isPublish]

def isPublish (F : List UInt8) : Bool :=
  match classify F with
  | .ok f => f.isPublish
  | .error _ => false

theorem replyOf_kind {F : List UInt8} {a : Ack} (h : replyOf F = some a) : a.kind ≠ .pubRel := by
  unfold replyOf at h
  split at h
  · exact Frame.reply_kind h
  · simp at h

namespace Session

def answered (now : Nat) (s : Session) (F : List UInt8) : Session :=
  match replyOf F with
  | some a => { s with link := (s.link.send a.bytes).1, lastTx := now }
  | none => s

/-- The session past the frame `F` at the front of its buffer, as a reading loop leaves it: the
reply written, the frame consumed, and parked when it is a publish and the slot is free. -/
def pass (now : Nat) (s : Session) (F : List UInt8) : Session :=
  if isPublish F then (s.answered now F).stashFrame F.length
  else (s.answered now F).consume F.length

@[simp] theorem answered_rx (s : Session) (now : Nat) (F : List UInt8) :
    (s.answered now F).rx = s.rx := by
  unfold answered
  split <;> rfl

@[simp] theorem answered_capacity (s : Session) (now : Nat) (F : List UInt8) :
    (s.answered now F).capacity = s.capacity := by
  unfold answered
  split <;> rfl

theorem answered_incoming (s : Session) (now : Nat) (F : List UInt8) :
    (s.answered now F).link.incoming = s.link.incoming := by
  unfold answered
  split
  · rename_i a reply
    exact Link.send_incoming_of_reply _ (replyOf_kind reply)
  · rfl

theorem answered_failSend {s : Session} (ready : s.link.failSend = 0) (now : Nat) (F : List UInt8) :
    (s.answered now F).link.failSend = 0 := by
  unfold answered
  split
  · simp [Link.send_failSend, ready]
  · exact ready

theorem answered_sent {s : Session} (ready : s.link.failSend = 0) (now : Nat) (F : List UInt8) :
    (s.answered now F).link.sent = (replyOf F).toList.map Ack.bytes ++ s.link.sent := by
  unfold answered
  split
  · rename_i a reply
    simp [reply, Link.send_sent ready]
  · rename_i none_
    simp [none_]

theorem answered_consume (s : Session) (now n : Nat) (F : List UInt8) :
    (s.consume n).answered now F = (s.answered now F).consume n := by
  unfold answered consume
  split <;> rfl

theorem norm_consume {s : Session} {n : Nat} (held : n ≤ s.rx.length) :
    (s.consume n).norm = s.norm.consume n := by
  simp [norm, consume, unread, List.drop_append_of_le_length held]

theorem norm_stashFrame {s : Session} {n : Nat} (held : n ≤ s.rx.length) :
    (s.stashFrame n).norm = s.norm.stashFrame n := by
  have front : (s.rx ++ s.link.stream).take n = s.rx.take n := List.take_append_of_le_length held
  by_cases empty : s.stash = []
  · simp [stashFrame, norm, consume, unread, empty, List.drop_append_of_le_length held, front]
  · simp [stashFrame, norm, consume, unread, empty, List.drop_append_of_le_length held]

theorem norm_answered (s : Session) (now : Nat) (F : List UInt8) :
    (s.answered now F).norm = s.norm.answered now F := by
  unfold answered
  split
  · rename_i a reply
    have kind := replyOf_kind reply
    simp only [norm, unread, Link.stream, Link.send_incoming_of_reply _ kind]
    unfold Link.send
    split <;> simp_all [Broker.answer_reply _ kind]
  · rfl

@[simp] theorem pass_rx (s : Session) (now : Nat) (F : List UInt8) :
    (s.pass now F).rx = s.rx.drop F.length := by
  unfold pass stashFrame consume
  split
  · split <;> simp
  · simp

@[simp] theorem pass_link (s : Session) (now : Nat) (F : List UInt8) :
    (s.pass now F).link = (s.answered now F).link := by
  unfold pass stashFrame consume
  split
  · split <;> rfl
  · rfl

@[simp] theorem pass_capacity (s : Session) (now : Nat) (F : List UInt8) :
    (s.pass now F).capacity = s.capacity := by
  unfold pass stashFrame consume
  split
  · split <;> simp
  · simp

theorem norm_pass {s : Session} {F : List UInt8} (held : F.length ≤ s.rx.length) (now : Nat) :
    (s.pass now F).norm = s.norm.pass now F := by
  have held' : F.length ≤ (s.answered now F).rx.length := by simpa using held
  unfold pass
  split
  · rw [norm_stashFrame held', norm_answered]
  · rw [norm_consume held', norm_answered]

theorem visible_drop {s t : Session} {n now deadline : Nat} (held : n ≤ s.rx.length)
    (rx : t.rx = s.rx.drop n) (stream : t.link.stream = s.link.stream) :
    t.visible now deadline = (s.visible now deadline).drop n := by
  unfold visible unread
  split
  · rw [rx, stream, List.drop_append_of_le_length held]
  · exact rx

theorem visible_pass {s : Session} {F : List UInt8} (held : F.length ≤ s.rx.length)
    (now now' deadline : Nat) :
    (s.pass now F).visible now' deadline = (s.visible now' deadline).drop F.length := by
  apply visible_drop held (pass_rx s now F)
  simp [Link.stream, answered_incoming]

/-- What a reading loop needs of a session to read on: a buffer within its capacity fed by a
steady peer, a link that takes writes, and room for a reply of four bytes. -/
structure Ready (s : Session) : Prop where
  reading : s.Reading
  writable : s.link.failSend = 0
  room : 4 ≤ s.capacity

theorem Ready.pass {s : Session} (ready : s.Ready) (now : Nat) (F : List UInt8) :
    (s.pass now F).Ready where
  reading := by
    refine ⟨?_, ?_⟩
    · have := ready.reading.fits
      simp
      omega
    · intro c member
      simp only [pass_link, answered_incoming] at member
      exact ready.reading.steady c member
  writable := by simpa using answered_failSend ready.writable now F
  room := by simpa using ready.room

theorem Ready.of_norm {s t : Session} (ready : s.Ready) (same : t.norm = s.norm)
    (reading : t.Reading) : t.Ready where
  reading := reading
  writable := by
    have := congrArg (fun u : Session => u.link.failSend) same
    simpa [Session.norm, ready.writable] using this
  room := capacity_eq_of_norm same ▸ ready.room

theorem Ready.consume {s : Session} (ready : s.Ready) (n : Nat) : (s.consume n).Ready where
  reading := ⟨by simp [Session.consume]; have := ready.reading.fits; omega, ready.reading.steady⟩
  writable := ready.writable
  room := ready.room

theorem Ready.answered {s : Session} (ready : s.Ready) (now : Nat) (F : List UInt8) :
    (s.answered now F).Ready where
  reading := ⟨by simpa using ready.reading.fits,
    fun c member => ready.reading.steady c (by rwa [answered_incoming] at member)⟩
  writable := answered_failSend ready.writable now F
  room := by simpa using ready.room

theorem visible_answered (s : Session) (now now' deadline : Nat) (F : List UInt8) :
    (s.answered now F).visible now' deadline = s.visible now' deadline := by
  simp [visible, unread, Link.stream, answered_incoming]

end Session

section Replies
variable {F : List UInt8} {t : Session}

theorem acknowledge_run_frame {q : QoS} {id : Option UInt16} (read : classify F = .ok (.publish q id))
    (ready : t.link.failSend = 0) (room : 4 ≤ t.capacity) (c : Clock) :
    (acknowledge q id).run (t, c) = .ok (.ok ()) (t.answered c.now F, c) := by
  obtain ⟨p, decoded, rfl, rfl⟩ := classify_publish read
  have carried := Publish.decode_packetId decoded
  have reply : replyOf F = (Frame.publish p.qos p.packetId).reply := by simp [replyOf, read]
  cases qos : p.qos with
  | atMostOnce =>
    simp only [Session.answered, reply, qos, Frame.reply]
    exact acknowledge_run_atMostOnce _ _
  | atLeastOnce =>
    have present : p.packetId ≠ none := fun absent => by simp [carried.mp absent] at qos
    obtain ⟨i, carriedId⟩ := Option.ne_none_iff_exists'.mp present
    simp only [Session.answered, reply, qos, carriedId, Frame.reply]
    rw [acknowledge_run_atLeastOnce]
    exact sendPacket_run_of_written (Ack.encode_of_room _ room) ready c
  | exactlyOnce =>
    have present : p.packetId ≠ none := fun absent => by simp [carried.mp absent] at qos
    obtain ⟨i, carriedId⟩ := Option.ne_none_iff_exists'.mp present
    simp only [Session.answered, reply, qos, carriedId, Frame.reply]
    rw [acknowledge_run_exactlyOnce]
    exact sendPacket_run_of_written (Ack.encode_of_room _ room) ready c

theorem answer_run_frame {f : Frame} (read : classify F = .ok f) (other : isPublish F = false)
    (ready : t.link.failSend = 0) (room : 4 ≤ t.capacity) (c : Clock) :
    (answer f).run (t, c) = .ok (.ok ()) (t.answered c.now F, c) := by
  have reply : replyOf F = f.reply := by simp [replyOf, read]
  simp only [Session.answered, reply]
  cases f with
  | publish q id => simp [isPublish, read, Frame.isPublish] at other
  | ack a =>
    rcases a with ⟨kind, id⟩
    cases kind with
    | pubRel =>
      rw [answer_run_pubRel]
      exact sendPacket_run_of_written (Ack.encode_of_room _ room) ready c
    | pubAck => rfl
    | pubRec => rfl
    | pubComp => rfl
  | connAck code => rfl
  | subAck id rejected => rfl
  | pingResp => rfl

end Replies

/-! A reply fits wherever the frame that calls for it fit. -/

theorem frameBody_bounds {bs : List UInt8} {start stop : Nat}
    (body : frameBody bs = .ok (start, stop)) : 2 ≤ start ∧ stop ≤ bs.length := by
  unfold frameBody at body
  cases read : VarInt.readAt bs 1 with
  | error e => simp [read] at body
  | ok pair =>
    obtain ⟨len, start'⟩ := pair
    simp only [read] at body
    split at body
    · simp only [Except.ok.injEq, Prod.mk.injEq] at body
      obtain ⟨rfl, rfl⟩ := body
      unfold VarInt.readAt at read
      split at read
      · rename_i v w scanned
        simp only [Except.ok.injEq, Prod.mk.injEq] at read
        obtain ⟨rfl, rfl⟩ := read
        have wide := (VarInt.scanWithin_width scanned).1
        omega
      · cases read
    · cases body

theorem Field.readU16_bounds {bs : List UInt8} {cursor next : Nat} {n : UInt16}
    (read : Field.readU16 bs cursor = .ok (n, next)) : next = cursor + 2 ∧ cursor + 2 ≤ bs.length := by
  unfold Field.readU16 at read
  split at read
  · rename_i hi lo rest split
    simp only [Except.ok.injEq, Prod.mk.injEq] at read
    have size := congrArg List.length split
    simp only [List.length_drop, List.length_cons] at size
    omega
  · cases read

theorem Field.readUtf8_bounds {bs : List UInt8} {cursor next : Nat} {text : String}
    (read : Field.readUtf8 bs cursor = .ok (text, next)) : cursor + 2 ≤ bs.length := by
  unfold Field.readUtf8 at read
  cases lengthField : Field.readU16 bs cursor with
  | error e => simp [lengthField] at read
  | ok pair => exact (Field.readU16_bounds lengthField).2

theorem Ack.decode_length {bs : List UInt8} {a : Ack} (decoded : Ack.decode bs = .ok a) :
    4 ≤ bs.length := by
  rcases bs with _ | ⟨b, tail⟩
  · simp only [Ack.decode, bind, Except.bind, throw, throwThe, MonadExceptOf.throw, reduceCtorEq]
      at decoded
  cases kind : AckKind.ofType? (b >>> 4).toNat with
  | none =>
    simp only [Ack.decode, kind, bind, Except.bind, pure, Except.pure, throw, throwThe,
      MonadExceptOf.throw, reduceCtorEq] at decoded
  | some k =>
    cases body : frameBody (b :: tail) with
    | error e =>
      simp only [Ack.decode, kind, body, bind, Except.bind, pure, Except.pure, reduceCtorEq]
        at decoded
    | ok range =>
      obtain ⟨start, stop⟩ := range
      cases read : Field.readU16 ((b :: tail).take stop) start with
      | error e =>
        simp only [Ack.decode, kind, body, read, bind, Except.bind, pure, Except.pure, reduceCtorEq]
          at decoded
      | ok pair =>
        obtain ⟨id, next⟩ := pair
        have bounds := frameBody_bounds body
        have field := (Field.readU16_bounds read).2
        simp only [List.length_take] at field
        omega

theorem Publish.decode_length {bs : List UInt8} {p : Publish} (decoded : Publish.decode bs = .ok p) :
    4 ≤ bs.length := by
  rcases bs with _ | ⟨b, tail⟩
  · simp only [Publish.decode, bind, Except.bind, throw, throwThe, MonadExceptOf.throw,
      reduceCtorEq] at decoded
  cases qos : QoS.ofBits? ((b >>> 1) &&& 3) with
  | none =>
    simp only [Publish.decode, qos, bind, Except.bind, pure, Except.pure, throw, throwThe,
      MonadExceptOf.throw, reduceCtorEq] at decoded
  | some q =>
    cases body : frameBody (b :: tail) with
    | error e =>
      simp only [Publish.decode, qos, body, bind, Except.bind, pure, Except.pure, reduceCtorEq]
        at decoded
    | ok range =>
      obtain ⟨start, stop⟩ := range
      cases topic : Field.readUtf8 ((b :: tail).take stop) start with
      | error e =>
        simp only [Publish.decode, qos, body, topic, bind, Except.bind, pure, Except.pure,
          reduceCtorEq] at decoded
      | ok pair =>
        have bounds := frameBody_bounds body
        have field := Field.readUtf8_bounds topic
        simp only [List.length_take] at field
        omega

theorem Inbound.decode_eq_ack {F : List UInt8} {a : Ack}
    (decoded : Inbound.decode F = .ok (some (.ack a))) : Ack.decode F = .ok a := by
  unfold Inbound.decode at decoded
  rcases F with _ | ⟨first, rest⟩
  · cases decoded
  · simp only at decoded
    split at decoded
    · obtain ⟨a, -, wrong⟩ := map_eq_ok_some decoded
      cases wrong
    · obtain ⟨a, -, wrong⟩ := map_eq_ok_some decoded
      cases wrong
    -- The four acknowledgement types share one reader.
    iterate 4
      · obtain ⟨a', read, same⟩ := map_eq_ok_some decoded
        cases same
        exact read
    · obtain ⟨a, -, wrong⟩ := map_eq_ok_some decoded
      cases wrong
    · cases decoded
    · cases decoded

theorem classify_ack {F : List UInt8} {a : Ack} (read : classify F = .ok (.ack a)) :
    Ack.decode F = .ok a := by
  unfold classify at read
  cases decoded : Inbound.decode F with
  | error e => simp [decoded] at read
  | ok found =>
    rw [decoded] at read
    cases found with
    | none => simp at read
    | some p =>
      simp only [Except.ok.injEq] at read
      cases p with
      | ack a' =>
        simp only [Frame.ofInbound, Frame.ack.injEq] at read
        subst read
        exact Inbound.decode_eq_ack decoded
      | connAck _ => simp [Frame.ofInbound] at read
      | publish _ => simp [Frame.ofInbound] at read
      | subAck _ => simp [Frame.ofInbound] at read
      | pingResp => simp [Frame.ofInbound] at read

theorem replyOf_length {F : List UInt8} {a : Ack} (reply : replyOf F = some a) : 4 ≤ F.length := by
  unfold replyOf at reply
  split at reply
  · rename_i f read
    cases f with
    | publish q id =>
      obtain ⟨p, decoded, -, -⟩ := classify_publish read
      exact Publish.decode_length decoded
    | ack a' => exact Ack.decode_length (classify_ack read)
    | connAck _ => simp [Frame.reply] at reply
    | subAck _ _ => simp [Frame.reply] at reply
    | pingResp => simp [Frame.reply] at reply
  · cases reply

end Gateway.Mqtt
