import Gateway.Proofs.WireFields
/-!
What the reader of broker packets accepts, byte for byte. A frame is a type byte, a
remaining-length field of one to four bytes that holds `r`, and `r` bytes of body that all lie
inside the bytes given (`Framed`). The high nibble of the type byte picks the packet; each body
then has one layout (`Inbound.Layout`): a CONNACK is two bytes, a PUBLISH is a text field for the
topic, a packet id exactly when its QoS bits ask for one, and the payload; an acknowledgement is a
packet id and whatever follows it in the body; a SUBACK is a packet id and at most eight return
codes. A PINGRESP is taken from its type byte alone.

Main statement (`frames_decode_by_layout`): no bytes read as no packet; an unknown type is
refused by its number; for every known type the reader succeeds exactly on a frame whose body
has that type's layout, and then returns the packet the layout spells; no byte after the frame
changes the answer; and a refusal is malformed unless the topic bytes of a PUBLISH are not UTF-8
or a SUBACK brings more than eight return codes.
-/
namespace Gateway.Mqtt
open VarInt

/-- `b` opens with a frame whose remaining-length field takes `w` bytes, at most four, and holds
`r`, and whose `r` bytes of body all lie inside `b`. -/
structure Framed (b : List UInt8) (w r : Nat) : Prop where
  form : Form ((b.drop 1).take w)
  width : w ≤ 4
  holds : value ((b.drop 1).take w) = r
  inside : 1 + w + r ≤ b.length

def bodyOf (b : List UInt8) (w r : Nat) : List UInt8 := (b.drop (1 + w)).take r

section Frames

variable {b : List UInt8} {w r : Nat}

theorem frameBody_eq_ok_iff {start stop : Nat} :
    frameBody b = .ok (start, stop) ↔ ∃ w r, Framed b w r ∧ start = 1 + w ∧ stop = 1 + w + r := by
  unfold frameBody
  constructor
  · intro found
    split at found
    · cases found
    · rename_i len start' read
      split at found
      · rename_i inside
        simp only [Except.ok.injEq, Prod.mk.injEq] at found
        obtain ⟨rfl, rfl⟩ := found
        obtain ⟨f, rest, at_one, form, fits, rfl, rfl⟩ := readAt_eq_ok_iff.mp read
        have field : (b.drop 1).take f.length = f := by rw [at_one, List.take_left]
        have form' : Form ((b.drop 1).take f.length) := by rw [field]; exact form
        refine ⟨f.length, value f, ⟨form', fits, by rw [field], by omega⟩, rfl, by omega⟩
      · cases found
  · rintro ⟨w, r, framed, rfl, rfl⟩
    have size : ((b.drop 1).take w).length = w := by
      have := framed.inside
      simp only [List.length_take, List.length_drop]
      omega
    have read : readAt b 1 = .ok (r, 1 + w) := by
      refine readAt_eq_ok_iff.mpr ⟨(b.drop 1).take w, (b.drop 1).drop w, (List.take_append_drop w _).symm,
        framed.form, by rw [size]; exact framed.width, framed.holds.symm, by rw [size]⟩
    simp only [read, if_pos framed.inside]

theorem Framed.frameBody (framed : Framed b w r) : frameBody b = .ok (1 + w, 1 + w + r) :=
  frameBody_eq_ok_iff.mpr ⟨w, r, framed, rfl, rfl⟩

theorem Framed.unique {w' r' : Nat} (one : Framed b w r) (two : Framed b w' r') : w = w' ∧ r = r' := by
  have same := one.frameBody.symm.trans two.frameBody
  simp only [Except.ok.injEq, Prod.mk.injEq] at same
  omega

theorem frameBody_error {e : PacketError} (refused : frameBody b = .error e) : e = .malformed := by
  unfold frameBody at refused
  split at refused
  · rename_i e' read
    simp only [Except.error.injEq] at refused
    exact refused ▸ readAt_eq_error read
  · split at refused
    · cases refused
    · simp_all

theorem Framed.take (framed : Framed b w r) : Framed (b.take (1 + w + r)) w r := by
  have inside := framed.inside
  have field : ((b.take (1 + w + r)).drop 1).take w = (b.drop 1).take w := by
    rw [List.drop_take, List.take_take]
    congr 1
    omega
  exact ⟨field ▸ framed.form, framed.width, field ▸ framed.holds, by simp; omega⟩

theorem bodyOf_take : bodyOf (b.take (1 + w + r)) w r = bodyOf b w r := by
  unfold bodyOf
  rw [List.drop_take, List.take_take]
  congr 1
  omega

theorem drop_take_frame : (b.take (1 + w + r)).drop (1 + w) = bodyOf b w r := by
  rw [List.drop_take, bodyOf]
  congr 1
  omega

theorem length_bodyOf (framed : Framed b w r) : (bodyOf b w r).length = r := by
  have := framed.inside
  simp only [bodyOf, List.length_take, List.length_drop]
  omega

theorem Framed.cons (framed : Framed b w r) : ∃ first rest, b = first :: rest := by
  have inside := framed.inside
  rcases b with _ | ⟨first, rest⟩
  · simp at inside
  · exact ⟨first, rest, rfl⟩

theorem drop_frame (k : Nat) : (b.take (1 + w + r)).drop (1 + w + k) = (bodyOf b w r).drop k := by
  rw [← List.drop_drop, drop_take_frame]

theorem drop_frame_of_body {c : Nat} {head more : List UInt8} (body : bodyOf b w r = head ++ more)
    (at_c : 1 + w + head.length = c) : (b.take (1 + w + r)).drop c = more := by
  rw [← at_c, drop_frame, body, List.drop_left]

theorem Framed.append (framed : Framed b w r) (extra : List UInt8) : Framed (b ++ extra) w r := by
  have inside := framed.inside
  have field : ((b ++ extra).drop 1).take w = (b.drop 1).take w := by
    rw [List.drop_append_of_le_length (by omega), List.take_append_of_le_length (by simp; omega)]
  exact ⟨field ▸ framed.form, framed.width, field ▸ framed.holds, by simp; omega⟩

theorem bodyOf_append (framed : Framed b w r) (extra : List UInt8) :
    bodyOf (b ++ extra) w r = bodyOf b w r := by
  have inside := framed.inside
  unfold bodyOf
  rw [List.drop_append_of_le_length (by omega), List.take_append_of_le_length (by simp; omega)]

theorem exists_framed_extend (framed : Framed b w r) (extra : List UInt8)
    (P : Nat → List UInt8 → Prop) :
    (∃ w' r', Framed (b.take (1 + w + r) ++ extra) w' r' ∧
        P r' (bodyOf (b.take (1 + w + r) ++ extra) w' r')) ↔
      ∃ w' r', Framed b w' r' ∧ P r' (bodyOf b w' r') := by
  have cut := framed.take.append extra
  have body : bodyOf (b.take (1 + w + r) ++ extra) w r = bodyOf b w r := by
    rw [bodyOf_append framed.take, bodyOf_take]
  constructor
  · rintro ⟨w', r', framed', holds⟩
    obtain ⟨rfl, rfl⟩ := cut.unique framed'
    exact ⟨w, r, framed, by rwa [← body]⟩
  · rintro ⟨w', r', framed', holds⟩
    obtain ⟨rfl, rfl⟩ := framed.unique framed'
    exact ⟨w, r, cut, by rwa [body]⟩

theorem readU16_frame_eq_ok_iff {id : UInt16} {c : Nat} :
    Field.readU16 (b.take (1 + w + r)) (1 + w) = .ok (id, c) ↔
      ∃ more, bodyOf b w r = Field.u16 id ++ more ∧ c = 1 + w + 2 := by
  rw [Field.readU16_eq_ok_iff_u16, drop_take_frame]

theorem readU16_frame_eq_error_iff (framed : Framed b w r) {e : PacketError} :
    Field.readU16 (b.take (1 + w + r)) (1 + w) = .error e ↔ r < 2 ∧ e = .malformed := by
  rw [Field.readU16_eq_error_iff, List.length_take, Nat.min_eq_left framed.inside]
  constructor <;> rintro ⟨short, rfl⟩ <;> exact ⟨by omega, rfl⟩

theorem Framed.packetId (framed : Framed b w r) (two : 2 ≤ r) :
    ∃ id more, bodyOf b w r = Field.u16 id ++ more := by
  have size := length_bodyOf framed
  rcases body : bodyOf b w r with _ | ⟨hi, _ | ⟨lo, more⟩⟩ <;>
    simp only [body, List.length_cons, List.length_nil] at size
  · omega
  · omega
  · refine ⟨hi.toUInt16 <<< 8 ||| lo.toUInt16, more, ?_⟩
    rw [Field.u16_eq_of_toNat (Field.join_toNat hi lo)]
    rfl

theorem readUtf8_frame_eq_ok_iff {s : String} {c : Nat} :
    Field.readUtf8 (b.take (1 + w + r)) (1 + w) = .ok (s, c) ↔
      ∃ more, bodyOf b w r = Field.u16 s.toUTF8.toList.length.toUInt16 ++ s.toUTF8.toList ++ more ∧
        s.utf8ByteSize ≤ Field.maxPrefixed ∧ c = 1 + w + 2 + s.utf8ByteSize := by
  rw [Field.readUtf8_eq_ok_iff, drop_take_frame, Field.length_toUTF8]

theorem drop_behind_topic {s : String} {more : List UInt8}
    (body : bodyOf b w r = Field.u16 s.toUTF8.toList.length.toUInt16 ++ s.toUTF8.toList ++ more) :
    (b.take (1 + w + r)).drop (1 + w + 2 + s.utf8ByteSize) = more :=
  drop_frame_of_body body (by rw [List.length_append, Field.length_u16, Field.length_toUTF8]; omega)

theorem drop_behind_packetId {s : String} {id : UInt16} {more : List UInt8}
    (body : bodyOf b w r =
      Field.u16 s.toUTF8.toList.length.toUInt16 ++ s.toUTF8.toList ++ (Field.u16 id ++ more)) :
    (b.take (1 + w + r)).drop (1 + w + 2 + s.utf8ByteSize + 2) = more := by
  rw [← List.drop_drop, drop_behind_topic body, List.drop_left' (Field.length_u16 id)]

end Frames

/-! CONNACK. -/

section ConnAck

variable {b : List UInt8}

theorem ConnAck.decode_eq_ok_iff {a : ConnAck} :
    ConnAck.decode b = .ok a ↔
      ∃ w flags code, Framed b w 2 ∧ bodyOf b w 2 = [flags, code] ∧ a = ⟨flags &&& 1 ≠ 0, code⟩ := by
  constructor
  · intro decoded
    obtain ⟨⟨start, stop⟩, body, rest⟩ := bind_eq_ok.mp decoded
    obtain ⟨w, r, framed, rfl, rfl⟩ := frameBody_eq_ok_iff.mp body
    have two : r = 2 := by
      by_contra other
      simp [other, throw, throwThe, MonadExceptOf.throw, bind, Except.bind] at rest
    subst two
    simp only [show 1 + w + 2 - (1 + w) = 2 by omega, ne_eq, not_true_eq_false, if_false, pure,
      Except.pure, bind, Except.bind] at rest
    split at rest
    · rename_i flags code more at_body
      simp only [Except.ok.injEq] at rest
      refine ⟨w, flags, code, framed, ?_, rest.symm⟩
      rw [bodyOf, at_body]
      rfl
    · cases rest
  · rintro ⟨w, flags, code, framed, body, rfl⟩
    obtain ⟨tail, at_body⟩ : ∃ tail, b.drop (1 + w) = flags :: code :: tail := by
      refine ⟨(b.drop (1 + w)).drop 2, ?_⟩
      rw [← List.take_append_drop 2 (b.drop (1 + w))]
      simp only [bodyOf] at body
      rw [body]
      simp
    simp only [ConnAck.decode, framed.frameBody, bind, Except.bind, pure, Except.pure,
      show 1 + w + 2 - (1 + w) = 2 by omega, ne_eq, not_true_eq_false, if_false, at_body]

theorem ConnAck.decode_error {e : PacketError} (refused : ConnAck.decode b = .error e) :
    e = .malformed := by
  unfold ConnAck.decode at refused
  simp only [bind, Except.bind, pure, Except.pure] at refused
  split at refused
  · rename_i e' body
    simp only [Except.error.injEq] at refused
    exact refused ▸ frameBody_error body
  · split at refused
    · simp_all [throw, throwThe, MonadExceptOf.throw]
    · split at refused
      · cases refused
      · simp_all [throw, throwThe, MonadExceptOf.throw]

end ConnAck

/-! SUBACK. -/

section SubAck

variable {b : List UInt8}

theorem SubAck.decode_eq_ok_iff {a : SubAck} :
    SubAck.decode b = .ok a ↔
      ∃ w r, Framed b w r ∧ bodyOf b w r = Field.u16 a.packetId ++ a.reasonCodes ∧
        a.reasonCodes.length ≤ maxReturnCodes := by
  constructor
  · intro decoded
    obtain ⟨⟨start, stop⟩, body, decoded⟩ := bind_eq_ok.mp decoded
    obtain ⟨w, r, framed, rfl, rfl⟩ := frameBody_eq_ok_iff.mp body
    obtain ⟨⟨id, cursor⟩, idRead, decoded⟩ := bind_eq_ok.mp decoded
    obtain ⟨codes, body, rfl⟩ := readU16_frame_eq_ok_iff.mp idRead
    have after : (b.take (1 + w + r)).drop (1 + w + 2) = codes := drop_frame_of_body body rfl
    simp only [after] at decoded
    split at decoded
    · cases decoded
    · rename_i few
      simp only [pure, Except.pure, Except.ok.injEq] at decoded
      subst decoded
      exact ⟨w, r, framed, body, by simpa using few⟩
  · rintro ⟨w, r, framed, body, few⟩
    have idRead := readU16_frame_eq_ok_iff.mpr ⟨a.reasonCodes, body, rfl⟩
    have after : (b.take (1 + w + r)).drop (1 + w + 2) = a.reasonCodes := drop_frame_of_body body rfl
    have notMany : ¬ a.reasonCodes.length > maxReturnCodes := by omega
    simp only [SubAck.decode, framed.frameBody, idRead, after, notMany, bind, Except.bind, pure, Except.pure, if_false]

theorem SubAck.decode_eq_tooLarge_iff :
    SubAck.decode b = .error (.protocol .payloadTooLarge) ↔
      ∃ w r, Framed b w r ∧ 2 + maxReturnCodes < r := by
  constructor
  · intro refused
    cases body : frameBody b with
    | error e =>
      simp only [SubAck.decode, body, bind, Except.bind, Except.error.injEq] at refused
      exact absurd (frameBody_error (refused ▸ body)) (by decide)
    | ok range =>
      obtain ⟨start, stop⟩ := range
      obtain ⟨w, r, framed, rfl, rfl⟩ := frameBody_eq_ok_iff.mp body
      cases idRead : Field.readU16 (b.take (1 + w + r)) (1 + w) with
      | error e =>
        simp only [SubAck.decode, body, idRead, bind, Except.bind, Except.error.injEq] at refused
        exact absurd ((readU16_frame_eq_error_iff framed).mp (refused ▸ idRead)).2 (by decide)
      | ok pair =>
        obtain ⟨id, cursor⟩ := pair
        obtain ⟨codes, at_body, rfl⟩ := readU16_frame_eq_ok_iff.mp idRead
        have size := congrArg List.length at_body
        rw [length_bodyOf framed, List.length_append, Field.length_u16] at size
        have after : (b.take (1 + w + r)).drop (1 + w + 2) = codes := drop_frame_of_body at_body rfl
        simp only [SubAck.decode, body, idRead, after, bind, Except.bind, pure, Except.pure] at refused
        split at refused
        · exact ⟨w, r, framed, by omega⟩
        · cases refused
  · rintro ⟨w, r, framed, many⟩
    obtain ⟨id, codes, body⟩ := framed.packetId (by omega)
    have size := congrArg List.length body
    rw [length_bodyOf framed, List.length_append, Field.length_u16] at size
    have idRead := readU16_frame_eq_ok_iff.mpr ⟨codes, body, rfl⟩
    have after : (b.take (1 + w + r)).drop (1 + w + 2) = codes := drop_frame_of_body body rfl
    have tooMany : codes.length > maxReturnCodes := by omega
    simp only [SubAck.decode, framed.frameBody, idRead, after, tooMany, bind, Except.bind, if_true, throw, throwThe, MonadExceptOf.throw]

theorem SubAck.decode_error {e : PacketError} (refused : SubAck.decode b = .error e) :
    e = .malformed ∨ e = .protocol .payloadTooLarge := by
  unfold SubAck.decode at refused
  simp only [bind, Except.bind, pure, Except.pure] at refused
  split at refused
  · rename_i e' body
    simp only [Except.error.injEq] at refused
    exact .inl (refused ▸ frameBody_error body)
  · split at refused
    · rename_i e' idRead
      simp only [Except.error.injEq] at refused
      exact .inl (refused ▸ (Field.readU16_eq_error_iff.mp idRead).2)
    · split at refused
      · simp_all [throw, throwThe, MonadExceptOf.throw]
      · cases refused

end SubAck

/-! The four acknowledgements. -/

section Ack

variable {b : List UInt8}

theorem Ack.decode_eq_ok_iff {a : Ack} :
    Ack.decode b = .ok a ↔
      ∃ first rest, b = first :: rest ∧ AckKind.ofType? (first >>> 4).toNat = some a.kind ∧
        ∃ w r, Framed b w r ∧ ∃ more, bodyOf b w r = Field.u16 a.packetId ++ more := by
  constructor
  · intro decoded
    rcases b with _ | ⟨first, rest⟩
    · simp [Ack.decode, bind, Except.bind, throw, throwThe, MonadExceptOf.throw] at decoded
    cases typed : AckKind.ofType? (first >>> 4).toNat with
    | none =>
      simp only [Ack.decode, typed, bind, Except.bind, pure, Except.pure, throw, throwThe,
        MonadExceptOf.throw, reduceCtorEq] at decoded
    | some kind =>
      simp only [Ack.decode, typed, pure_bind] at decoded
      obtain ⟨⟨start, stop⟩, body, decoded⟩ := bind_eq_ok.mp decoded
      obtain ⟨w, r, framed, rfl, rfl⟩ := frameBody_eq_ok_iff.mp body
      obtain ⟨⟨id, cursor⟩, idRead, decoded⟩ := bind_eq_ok.mp decoded
      obtain ⟨more, body, -⟩ := readU16_frame_eq_ok_iff.mp idRead
      simp only [pure, Except.pure, Except.ok.injEq] at decoded
      subst decoded
      exact ⟨first, rest, rfl, typed, w, r, framed, more, body⟩
  · rintro ⟨first, rest, rfl, typed, w, r, framed, more, body⟩
    have idRead := readU16_frame_eq_ok_iff.mpr ⟨more, body, rfl⟩
    simp only [Ack.decode, typed, framed.frameBody, idRead, bind, Except.bind, pure, Except.pure]

theorem Ack.decode_error {first : UInt8} {rest : List UInt8} {e : PacketError}
    (kind : (AckKind.ofType? (first >>> 4).toNat).isSome)
    (refused : Ack.decode (first :: rest) = .error e) : e = .malformed := by
  obtain ⟨k, typed⟩ := Option.isSome_iff_exists.mp kind
  simp only [Ack.decode, typed, bind, Except.bind, pure, Except.pure] at refused
  split at refused
  · rename_i e' body
    simp only [Except.error.injEq] at refused
    exact refused ▸ frameBody_error body
  · split at refused
    · rename_i e' idRead
      simp only [Except.error.injEq] at refused
      exact refused ▸ (Field.readU16_eq_error_iff.mp idRead).2
    · cases refused

end Ack

/-! PUBLISH. -/

section Publish

variable {b : List UInt8}

theorem Publish.decode_eq_ok_iff {p : Publish} :
    Publish.decode b = .ok p ↔
      ∃ first rest, b = first :: rest ∧ QoS.ofBits? ((first >>> 1) &&& 3) = some p.qos ∧
        ∃ w r, Framed b w r ∧ bodyOf b w r = p.body ∧ p.topic.utf8ByteSize ≤ Field.maxPrefixed ∧
          (p.packetId = none ↔ p.qos = .atMostOnce) := by
  constructor
  · intro decoded
    rcases b with _ | ⟨first, rest⟩
    · simp [Publish.decode, bind, Except.bind, throw, throwThe, MonadExceptOf.throw] at decoded
    cases qosBits : QoS.ofBits? ((first >>> 1) &&& 3) with
    | none =>
      simp only [Publish.decode, qosBits, bind, Except.bind, pure, Except.pure, throw, throwThe,
        MonadExceptOf.throw, reduceCtorEq] at decoded
    | some qos =>
      simp only [Publish.decode, qosBits, pure_bind] at decoded
      obtain ⟨⟨start, stop⟩, body, decoded⟩ := bind_eq_ok.mp decoded
      obtain ⟨w, r, framed, rfl, rfl⟩ := frameBody_eq_ok_iff.mp body
      obtain ⟨⟨topic, cursor⟩, topicRead, decoded⟩ := bind_eq_ok.mp decoded
      obtain ⟨more, at_topic, fits, rfl⟩ := readUtf8_frame_eq_ok_iff.mp topicRead
      have afterTopic := drop_behind_topic at_topic
      dsimp only at decoded
      split at decoded
      · -- QoS 0: the payload follows the topic
        simp only [pure, Except.pure, Except.ok.injEq] at decoded
        subst decoded
        refine ⟨first, rest, rfl, qosBits, w, r, framed, ?_, fits, by simp⟩
        rw [Publish.body_of_plain rfl, at_topic, afterTopic]
      · rename_i numbered
        obtain ⟨⟨id, next⟩, idRead, decoded⟩ := bind_eq_ok.mp decoded
        simp only [pure, Except.pure, Except.ok.injEq] at decoded
        subst decoded
        obtain ⟨payload, at_id, rfl⟩ := Field.readU16_eq_ok_iff_u16.mp idRead
        rw [afterTopic] at at_id
        rw [at_id] at at_topic
        refine ⟨first, rest, rfl, qosBits, w, r, framed, ?_, fits, by simpa using numbered⟩
        rw [Publish.body_of_numbered numbered rfl, drop_behind_packetId at_topic, at_topic]
        simp only [List.append_assoc]
  · rintro ⟨first, rest, rfl, qosBits, w, r, framed, body, fits, numbered⟩
    obtain ⟨topic, qos, payload, packetId⟩ := p
    dsimp only at qosBits fits numbered
    have topicRead := readUtf8_frame_eq_ok_iff.mpr
      ⟨_, by rw [body, Publish.body, List.append_assoc], fits, rfl⟩
    simp only [Publish.decode, qosBits, framed.frameBody, topicRead, bind, Except.bind, pure,
      Except.pure]
    split
    · -- QoS 0: the payload follows the topic
      rw [Publish.body_of_plain rfl] at body
      simp only [drop_behind_topic body, numbered.mpr rfl]
    · rename_i numbered'
      obtain ⟨id, rfl⟩ := Option.ne_none_iff_exists'.mp (fun plain => numbered' (numbered.mp plain))
      rw [Publish.body_of_numbered numbered' rfl, List.append_assoc _ (Field.u16 id)] at body
      simp only [Field.readU16_of_drop (drop_behind_topic body), drop_behind_packetId body]

theorem Publish.decode_error {e : PacketError} (refused : Publish.decode b = .error e) :
    e = .malformed ∨ ∃ first rest, b = first :: rest ∧ (QoS.ofBits? ((first >>> 1) &&& 3)).isSome ∧
      ∃ w r, Framed b w r ∧ Field.readUtf8 (b.take (1 + w + r)) (1 + w) = .error e := by
  rcases b with _ | ⟨first, rest⟩
  · simp only [Publish.decode, bind, Except.bind, throw, throwThe, MonadExceptOf.throw,
      Except.error.injEq] at refused
    exact .inl refused.symm
  cases qosBits : QoS.ofBits? ((first >>> 1) &&& 3) with
  | none =>
    simp only [Publish.decode, qosBits, bind, Except.bind, pure, Except.pure, throw, throwThe,
      MonadExceptOf.throw, Except.error.injEq] at refused
    exact .inl refused.symm
  | some qos =>
    simp only [Publish.decode, qosBits, pure_bind] at refused
    cases body : frameBody (first :: rest) with
    | error e' =>
      simp only [body, bind, Except.bind, Except.error.injEq] at refused
      exact .inl (refused ▸ frameBody_error body)
    | ok range =>
      obtain ⟨start, stop⟩ := range
      obtain ⟨w, r, framed, rfl, rfl⟩ := frameBody_eq_ok_iff.mp body
      cases topicRead : Field.readUtf8 ((first :: rest).take (1 + w + r)) (1 + w) with
      | error e' =>
        simp only [body, topicRead, bind, Except.bind, Except.error.injEq] at refused
        exact .inr ⟨first, rest, rfl, by rw [qosBits]; rfl, w, r, framed, refused ▸ topicRead⟩
      | ok pair =>
        -- behind the topic only a packet id is read
        simp only [body, topicRead, bind, Except.bind, pure, Except.pure] at refused
        split at refused
        · cases refused
        · split at refused
          · rename_i idRead
            simp only [Except.error.injEq] at refused
            exact .inl (refused ▸ (Field.readU16_eq_error_iff.mp idRead).2)
          · cases refused

def Field.BadText (body : List UInt8) : Prop :=
  ∃ len text more, body = Field.u16 len ++ text ++ more ∧ text.length = len.toNat ∧
    String.fromUTF8? ⟨text.toArray⟩ = none

theorem Publish.decode_eq_invalid_iff :
    Publish.decode b = .error (.protocol .invalidUtf8String) ↔
      ∃ first rest, b = first :: rest ∧ (QoS.ofBits? ((first >>> 1) &&& 3)).isSome ∧
        ∃ w r, Framed b w r ∧ Field.BadText (bodyOf b w r) := by
  constructor
  · intro refused
    rcases Publish.decode_error refused with wrong | ⟨first, rest, rfl, qosSome, w, r, framed, topicRead⟩
    · cases wrong
    · obtain ⟨len, text, more, at_topic, size, bad⟩ := Field.readUtf8_eq_invalid_iff.mp topicRead
      rw [drop_take_frame] at at_topic
      exact ⟨first, rest, rfl, qosSome, w, r, framed, len, text, more, at_topic, size, bad⟩
  · rintro ⟨first, rest, rfl, qosSome, w, r, framed, len, text, more, body, size, bad⟩
    obtain ⟨qos, qosBits⟩ := Option.isSome_iff_exists.mp qosSome
    have topicRead : Field.readUtf8 ((first :: rest).take (1 + w + r)) (1 + w) =
        .error (.protocol .invalidUtf8String) :=
      Field.readUtf8_eq_invalid_iff.mpr ⟨len, text, more, by rw [drop_take_frame, body], size, bad⟩
    simp only [Publish.decode, qosBits, framed.frameBody, topicRead, bind, Except.bind, pure,
      Except.pure]

end Publish

/-! The reader of any broker packet, by the type nibble. -/

section Inbound

variable {first : UInt8} {rest : List UInt8}

/-- The body each packet type a broker sends is read from, given the type byte `first`. A
PINGRESP has no entry: it is taken from its type byte alone. -/
inductive Inbound.Layout (first : UInt8) : List UInt8 → Inbound → Prop
  | connAck {flags code : UInt8} : (first >>> 4).toNat = 2 →
      Inbound.Layout first [flags, code] (.connAck ⟨flags &&& 1 ≠ 0, code⟩)
  | publish {p : Publish} : (first >>> 4).toNat = 3 →
      QoS.ofBits? ((first >>> 1) &&& 3) = some p.qos → p.topic.utf8ByteSize ≤ Field.maxPrefixed →
      (p.packetId = none ↔ p.qos = .atMostOnce) → Inbound.Layout first p.body (.publish p)
  | ack {a : Ack} {more : List UInt8} : AckKind.ofType? (first >>> 4).toNat = some a.kind →
      Inbound.Layout first (Field.u16 a.packetId ++ more) (.ack a)
  | subAck {s : SubAck} : (first >>> 4).toNat = 9 → s.reasonCodes.length ≤ maxReturnCodes →
      Inbound.Layout first (Field.u16 s.packetId ++ s.reasonCodes) (.subAck s)

theorem map_some_eq_ok {α : Type} {x : Except PacketError α} {f : α → Inbound} {p : Inbound} :
    x.map (some ∘ f) = .ok (some p) ↔ ∃ a, x = .ok a ∧ f a = p := by
  cases x <;> simp [Except.map]

theorem map_eq_error {α β : Type} {x : Except PacketError α} {f : α → β} {e : PacketError} :
    x.map f = .error e ↔ x = .error e := by
  cases x <;> simp [Except.map]

theorem Inbound.type_cases (t : Nat) :
    t = 2 ∨ t = 3 ∨ (AckKind.ofType? t).isSome ∨ t = 9 ∨ t = 13 ∨ t ∉ [2, 3, 4, 5, 6, 7, 9, 13] := by
  by_cases known : t ∈ [2, 3, 4, 5, 6, 7, 9, 13]
  · simp only [List.mem_cons, List.not_mem_nil, or_false] at known
    rcases known with rfl | rfl | rfl | rfl | rfl | rfl | rfl | rfl <;> simp [AckKind.ofType?]
  · exact .inr (.inr (.inr (.inr (.inr known))))

theorem Inbound.decode_of_connAck (typed : (first >>> 4).toNat = 2) :
    Inbound.decode (first :: rest) = (ConnAck.decode (first :: rest)).map (some ∘ .connAck) := by
  simp only [Inbound.decode, typed]

theorem Inbound.decode_of_publish (typed : (first >>> 4).toNat = 3) :
    Inbound.decode (first :: rest) = (Publish.decode (first :: rest)).map (some ∘ .publish) := by
  simp only [Inbound.decode, typed]

theorem Inbound.decode_of_ack (typed : (AckKind.ofType? (first >>> 4).toNat).isSome) :
    Inbound.decode (first :: rest) = (Ack.decode (first :: rest)).map (some ∘ .ack) := by
  unfold AckKind.ofType? at typed
  split at typed
  case h_5 => cases typed
  all_goals
    rename_i nibble
    simp only [Inbound.decode, nibble]

theorem Inbound.decode_of_subAck (typed : (first >>> 4).toNat = 9) :
    Inbound.decode (first :: rest) = (SubAck.decode (first :: rest)).map (some ∘ .subAck) := by
  simp only [Inbound.decode, typed]

theorem Inbound.decode_of_pingResp (typed : (first >>> 4).toNat = 13) :
    Inbound.decode (first :: rest) = .ok (some .pingResp) := by
  simp only [Inbound.decode, typed]

theorem Inbound.decode_of_unknown (unknown : (first >>> 4).toNat ∉ [2, 3, 4, 5, 6, 7, 9, 13]) :
    Inbound.decode (first :: rest) = .error (.protocol (.invalidPacketType (first >>> 4).toNat)) := by
  simp only [Inbound.decode]
  split <;> simp_all

theorem Inbound.decode_eq_some_iff {p : Inbound} :
    Inbound.decode (first :: rest) = .ok (some p) ↔
      ((first >>> 4).toNat = 13 ∧ p = .pingResp) ∨
        ∃ w r, Framed (first :: rest) w r ∧ Inbound.Layout first (bodyOf (first :: rest) w r) p := by
  constructor
  · intro decoded
    rcases Inbound.type_cases (first >>> 4).toNat with typed | typed | typed | typed | typed | typed
    · rw [Inbound.decode_of_connAck typed] at decoded
      obtain ⟨a, read, rfl⟩ := map_some_eq_ok.mp decoded
      obtain ⟨w, flags, code, framed, body, rfl⟩ := ConnAck.decode_eq_ok_iff.mp read
      exact .inr ⟨w, 2, framed, by rw [body]; exact .connAck typed⟩
    · rw [Inbound.decode_of_publish typed] at decoded
      obtain ⟨q, read, rfl⟩ := map_some_eq_ok.mp decoded
      obtain ⟨_, _, same, qos, w, r, framed, body, fits, ided⟩ := Publish.decode_eq_ok_iff.mp read
      cases same
      exact .inr ⟨w, r, framed, by rw [body]; exact .publish typed qos fits ided⟩
    · rw [Inbound.decode_of_ack typed] at decoded
      obtain ⟨a, read, rfl⟩ := map_some_eq_ok.mp decoded
      obtain ⟨_, _, same, kind, w, r, framed, more, body⟩ := Ack.decode_eq_ok_iff.mp read
      cases same
      exact .inr ⟨w, r, framed, by rw [body]; exact .ack kind⟩
    · rw [Inbound.decode_of_subAck typed] at decoded
      obtain ⟨s, read, rfl⟩ := map_some_eq_ok.mp decoded
      obtain ⟨w, r, framed, body, few⟩ := SubAck.decode_eq_ok_iff.mp read
      exact .inr ⟨w, r, framed, by rw [body]; exact .subAck typed few⟩
    · rw [Inbound.decode_of_pingResp typed] at decoded
      cases decoded
      exact .inl ⟨typed, rfl⟩
    · rw [Inbound.decode_of_unknown typed] at decoded
      cases decoded
  · rintro (⟨typed, rfl⟩ | ⟨w, r, framed, layout⟩)
    · exact Inbound.decode_of_pingResp typed
    · generalize found : bodyOf (first :: rest) w r = body at layout
      cases layout with
      | connAck typed =>
        have two : r = 2 := by simpa [found] using (length_bodyOf framed).symm
        subst two
        rw [Inbound.decode_of_connAck typed, ConnAck.decode_eq_ok_iff.mpr ⟨w, _, _, framed, found, rfl⟩]
        rfl
      | publish typed qos fits ided =>
        rw [Inbound.decode_of_publish typed,
          Publish.decode_eq_ok_iff.mpr ⟨first, rest, rfl, qos, w, r, framed, found, fits, ided⟩]
        rfl
      | ack kind =>
        rw [Inbound.decode_of_ack (by rw [kind]; rfl),
          Ack.decode_eq_ok_iff.mpr ⟨first, rest, rfl, kind, w, r, framed, _, found⟩]
        rfl
      | subAck typed few =>
        rw [Inbound.decode_of_subAck typed, SubAck.decode_eq_ok_iff.mpr ⟨w, r, framed, found, few⟩]
        rfl

theorem Inbound.decode_ne_none : Inbound.decode (first :: rest) ≠ .ok none := by
  rcases Inbound.type_cases (first >>> 4).toNat with typed | typed | typed | typed | typed | typed
  · rw [Inbound.decode_of_connAck typed]
    cases ConnAck.decode (first :: rest) <;> simp [Except.map]
  · rw [Inbound.decode_of_publish typed]
    cases Publish.decode (first :: rest) <;> simp [Except.map]
  · rw [Inbound.decode_of_ack typed]
    cases Ack.decode (first :: rest) <;> simp [Except.map]
  · rw [Inbound.decode_of_subAck typed]
    cases SubAck.decode (first :: rest) <;> simp [Except.map]
  · simp [Inbound.decode_of_pingResp typed]
  · simp [Inbound.decode_of_unknown typed]

theorem Inbound.decode_error {e : PacketError} (refused : Inbound.decode (first :: rest) = .error e) :
    e = .malformed ∨
      (e = .protocol .invalidUtf8String ∧ (first >>> 4).toNat = 3) ∨
      (e = .protocol .payloadTooLarge ∧ (first >>> 4).toNat = 9) ∨
      (e = .protocol (.invalidPacketType (first >>> 4).toNat) ∧
        (first >>> 4).toNat ∉ [2, 3, 4, 5, 6, 7, 9, 13]) := by
  rcases Inbound.type_cases (first >>> 4).toNat with typed | typed | typed | typed | typed | typed
  · rw [Inbound.decode_of_connAck typed, map_eq_error] at refused
    exact .inl (ConnAck.decode_error refused)
  · rw [Inbound.decode_of_publish typed, map_eq_error] at refused
    rcases Publish.decode_error refused with malformed | ⟨_, _, _, _, _, _, _, topicRead⟩
    · exact .inl malformed
    · rcases Field.readUtf8_error topicRead with malformed | invalid
      · exact .inl malformed
      · exact .inr (.inl ⟨invalid, typed⟩)
  · rw [Inbound.decode_of_ack typed, map_eq_error] at refused
    exact .inl (Ack.decode_error typed refused)
  · rw [Inbound.decode_of_subAck typed, map_eq_error] at refused
    rcases SubAck.decode_error refused with malformed | tooLarge
    · exact .inl malformed
    · exact .inr (.inr (.inl ⟨tooLarge, typed⟩))
  · rw [Inbound.decode_of_pingResp typed] at refused
    cases refused
  · rw [Inbound.decode_of_unknown typed] at refused
    cases refused
    exact .inr (.inr (.inr ⟨rfl, typed⟩))

theorem Inbound.decode_eq_invalidUtf8_iff :
    Inbound.decode (first :: rest) = .error (.protocol .invalidUtf8String) ↔
      (first >>> 4).toNat = 3 ∧ (QoS.ofBits? ((first >>> 1) &&& 3)).isSome ∧
        ∃ w r, Framed (first :: rest) w r ∧ Field.BadText (bodyOf (first :: rest) w r) := by
  by_cases typed : (first >>> 4).toNat = 3
  · rw [Inbound.decode_of_publish typed, map_eq_error, Publish.decode_eq_invalid_iff]
    constructor
    · rintro ⟨_, _, same, qos, found⟩
      cases same
      exact ⟨typed, qos, found⟩
    · rintro ⟨-, qos, found⟩
      exact ⟨first, rest, rfl, qos, found⟩
  · refine ⟨fun refused => ?_, fun found => absurd found.1 typed⟩
    rcases Inbound.decode_error refused with wrong | ⟨-, three⟩ | ⟨wrong, -⟩ | ⟨wrong, -⟩
    · cases wrong
    · exact absurd three typed
    · cases wrong
    · cases wrong

theorem Inbound.decode_eq_tooLarge_iff :
    Inbound.decode (first :: rest) = .error (.protocol .payloadTooLarge) ↔
      (first >>> 4).toNat = 9 ∧ ∃ w r, Framed (first :: rest) w r ∧ 2 + maxReturnCodes < r := by
  by_cases typed : (first >>> 4).toNat = 9
  · rw [Inbound.decode_of_subAck typed, map_eq_error, SubAck.decode_eq_tooLarge_iff]
    exact ⟨fun found => ⟨typed, found⟩, fun found => found.2⟩
  · refine ⟨fun refused => ?_, fun found => absurd found.1 typed⟩
    rcases Inbound.decode_error refused with wrong | ⟨wrong, -⟩ | ⟨-, nine⟩ | ⟨wrong, -⟩
    · cases wrong
    · cases wrong
    · exact absurd nine typed
    · cases wrong

theorem Inbound.decode_eq_invalidType_iff {t : Nat} :
    Inbound.decode (first :: rest) = .error (.protocol (.invalidPacketType t)) ↔
      (first >>> 4).toNat ∉ [2, 3, 4, 5, 6, 7, 9, 13] ∧ t = (first >>> 4).toNat := by
  constructor
  · intro refused
    rcases Inbound.decode_error refused with wrong | ⟨wrong, -⟩ | ⟨wrong, -⟩ | ⟨same, unknown⟩
    · cases wrong
    · cases wrong
    · cases wrong
    · cases same
      exact ⟨unknown, rfl⟩
  · rintro ⟨unknown, rfl⟩
    exact Inbound.decode_of_unknown unknown

theorem eq_of_agree {α : Type} {x y : Except PacketError α} (ok : ∀ a, x = .ok a ↔ y = .ok a)
    (error : ∀ e, e ≠ .malformed → (x = .error e ↔ y = .error e)) : x = y := by
  cases x with
  | ok a => exact ((ok a).mp rfl).symm
  | error e =>
    by_cases malformed : e = .malformed
    · subst malformed
      cases y with
      | ok a => cases (ok a).mpr rfl
      | error e' =>
        by_cases malformed' : e' = .malformed
        · rw [malformed']
        · cases (error e' malformed').mpr rfl
          exact absurd rfl malformed'
    · exact ((error e malformed).mp rfl).symm

theorem Inbound.decode_extend {b : List UInt8} {w r : Nat} (framed : Framed b w r)
    (extra : List UInt8) : Inbound.decode (b.take (1 + w + r) ++ extra) = Inbound.decode b := by
  obtain ⟨first, rest, rfl⟩ := framed.cons
  have kept := exists_framed_extend framed extra
  obtain ⟨rest', cut⟩ : ∃ rest', (first :: rest).take (1 + w + r) ++ extra = first :: rest' :=
    ⟨rest.take (w + r) ++ extra, by rw [show 1 + w + r = w + r + 1 by omega]; rfl⟩
  rw [cut] at kept ⊢
  refine eq_of_agree (fun a => ?_) (fun e other => ?_)
  · cases a with
    | none => exact iff_of_false Inbound.decode_ne_none Inbound.decode_ne_none
    | some p =>
      rw [Inbound.decode_eq_some_iff, Inbound.decode_eq_some_iff,
        kept (fun _ body => Inbound.Layout first body p)]
  · -- a refusal other than a malformed one is decided by the type byte and the frame alone
    by_cases invalid : e = .protocol .invalidUtf8String
    · subst invalid
      rw [Inbound.decode_eq_invalidUtf8_iff, Inbound.decode_eq_invalidUtf8_iff,
        kept (fun _ body => Field.BadText body)]
    by_cases tooLarge : e = .protocol .payloadTooLarge
    · subst tooLarge
      rw [Inbound.decode_eq_tooLarge_iff, Inbound.decode_eq_tooLarge_iff,
        kept (fun r _ => 2 + maxReturnCodes < r)]
    by_cases unknown : ∃ t, e = .protocol (.invalidPacketType t)
    · obtain ⟨t, rfl⟩ := unknown
      rw [Inbound.decode_eq_invalidType_iff, Inbound.decode_eq_invalidType_iff]
    · have never : ∀ rest : List UInt8, Inbound.decode (first :: rest) ≠ .error e := by
        intro rest refused
        rcases Inbound.decode_error refused with wrong | ⟨wrong, -⟩ | ⟨wrong, -⟩ | ⟨wrong, -⟩
        · exact other wrong
        · exact invalid wrong
        · exact tooLarge wrong
        · exact unknown ⟨_, wrong⟩
      exact iff_of_false (never rest') (never rest)

/-- What the reader of broker packets makes of any bytes: nothing from no bytes; from a known type
with a whole frame, exactly the packet its body spells out; a refusal that names what is wrong; and
never anything from the bytes behind the frame. -/
theorem frames_decode_by_layout (first : UInt8) (rest : List UInt8) :
    Inbound.decode [] = .ok none ∧ Inbound.decode (first :: rest) ≠ .ok none ∧
    (∀ p, Inbound.decode (first :: rest) = .ok (some p) ↔
      ((first >>> 4).toNat = 13 ∧ p = .pingResp) ∨
        ∃ w r, Framed (first :: rest) w r ∧ Inbound.Layout first (bodyOf (first :: rest) w r) p) ∧
    ((first >>> 4).toNat ∉ [2, 3, 4, 5, 6, 7, 9, 13] →
      Inbound.decode (first :: rest) = .error (.protocol (.invalidPacketType (first >>> 4).toNat))) ∧
    (Inbound.decode (first :: rest) = .error (.protocol .invalidUtf8String) ↔
      (first >>> 4).toNat = 3 ∧ (QoS.ofBits? ((first >>> 1) &&& 3)).isSome ∧
        ∃ w r, Framed (first :: rest) w r ∧ Field.BadText (bodyOf (first :: rest) w r)) ∧
    (Inbound.decode (first :: rest) = .error (.protocol .payloadTooLarge) ↔
      (first >>> 4).toNat = 9 ∧ ∃ w r, Framed (first :: rest) w r ∧ 2 + maxReturnCodes < r) ∧
    (∀ e, Inbound.decode (first :: rest) = .error e →
      e = .malformed ∨
        (e = .protocol .invalidUtf8String ∧ (first >>> 4).toNat = 3) ∨
        (e = .protocol .payloadTooLarge ∧ (first >>> 4).toNat = 9) ∨
        (e = .protocol (.invalidPacketType (first >>> 4).toNat) ∧
          (first >>> 4).toNat ∉ [2, 3, 4, 5, 6, 7, 9, 13])) ∧
    (∀ w r extra, Framed (first :: rest) w r →
      Inbound.decode ((first :: rest).take (1 + w + r) ++ extra) = Inbound.decode (first :: rest)) :=
  ⟨rfl, Inbound.decode_ne_none, fun _ => Inbound.decode_eq_some_iff, Inbound.decode_of_unknown,
    Inbound.decode_eq_invalidUtf8_iff, Inbound.decode_eq_tooLarge_iff, fun _ => Inbound.decode_error,
    fun _ _ extra framed => Inbound.decode_extend framed extra⟩

/-- A PUBACK for packet 7, with a stray byte behind it. -/
theorem frames_decode_by_layout_for_puback :
    Inbound.decode [0x40, 0x02, 0x00, 0x07, 0xFF] = .ok (some (.ack ⟨.pubAck, 7⟩)) := by
  obtain ⟨-, -, reads, -⟩ := frames_decode_by_layout 0x40 [0x02, 0x00, 0x07, 0xFF]
  have framed : Framed [0x40, 0x02, 0x00, 0x07, 0xFF] 1 2 :=
    ⟨.last (by decide), by decide, by decide, by decide⟩
  have body : bodyOf [0x40, 0x02, 0x00, 0x07, 0xFF] 1 2 = Field.u16 7 ++ [] := by decide
  have layout : Inbound.Layout 0x40 (Field.u16 7 ++ []) (.ack ⟨.pubAck, 7⟩) :=
    @Inbound.Layout.ack 0x40 ⟨.pubAck, 7⟩ [] (by decide)
  exact (reads _).mpr (.inr ⟨1, 2, framed, by rw [body]; exact layout⟩)

end Inbound

end Gateway.Mqtt
