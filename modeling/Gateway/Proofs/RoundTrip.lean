import Gateway.Proofs.Replies
/-!
Writing and reading back the packets that travel both ways: PUBLISH and the four publish
acknowledgements. A written packet is laid out as `frameOf`: its type byte, the shortest
remaining-length field of its body's length, and the body. The readers bound that field to four
bytes of seven bits, the writer does not. A PUBLISH whose body has fewer than 2 ^ 28 bytes is
therefore one whole frame, and the readers give back its topic, QoS and payload, with the packet
id for QoS 1 and 2 only, whatever bytes follow it; a longer body is written with a five-byte
field, which `frameLength` and the readers refuse as malformed. Acknowledgements always come
back whole.
-/
namespace Gateway.Mqtt

theorem bind_eq_ok {α β : Type} {x : Except PacketError α} {f : α → Except PacketError β} {b : β} :
    x >>= f = .ok b ↔ ∃ a, x = .ok a ∧ f a = .ok b := by
  cases x <;> simp [bind, Except.bind]

/-! Remaining-length fields. -/

namespace VarInt

theorem length_encode_le_iff {n k : Nat} (wide : 1 ≤ k) : (encode n).length ≤ k ↔ n < 128 ^ k := by
  induction n using encode.induct generalizing k with
  | case1 n small =>
    have := Nat.le_self_pow (by omega : k ≠ 0) 128
    simp [encode_of_lt small]
    omega
  | case2 n big ih =>
    rw [encode_of_le (by omega), List.length_cons]
    obtain ⟨j, rfl⟩ : ∃ j, k = j + 1 := ⟨k - 1, by omega⟩
    rcases Nat.eq_zero_or_pos j with rfl | pos
    · -- one byte cannot hold a number that needs a continuation byte
      have := List.length_pos_iff.mpr (encode_ne_nil (n / 128))
      simp only [zero_add, pow_one]
      omega
    · rw [Nat.add_le_add_iff_right, ih pos, Nat.div_lt_iff_lt_mul (by norm_num), pow_succ]

theorem length_encode_le_four {n : Nat} : (encode n).length ≤ 4 ↔ n < 2 ^ 28 :=
  length_encode_le_iff (by norm_num)

theorem continuation_not_lt (m : Nat) : ¬ (m % 128 + 128).toUInt8 < 128 := by
  rw [UInt8.lt_iff_toNat_lt]
  simp
  omega

theorem scanWithin_encode_append {slots : Nat} (wide : 1 ≤ slots) (n : Nat) (rest : List UInt8) :
    scanWithin slots (encode n ++ rest) =
      if n < 128 ^ slots then .value n (encode n).length else .overlong := by
  induction n using encode.induct generalizing slots with
  | case1 n small =>
    have := Nat.le_self_pow (by omega : slots ≠ 0) 128
    have low : n.toUInt8 < 128 := by
      rw [UInt8.lt_iff_toNat_lt]
      simp
      omega
    have fits : n < 128 ^ slots := by omega
    simp [encode_of_lt small, scanWithin_cons, low, fits]
    omega
  | case2 n big ih =>
    rw [encode_of_le (by omega), List.cons_append, scanWithin_cons, if_neg (continuation_not_lt n)]
    by_cases few : slots < 2
    · obtain rfl : slots = 1 := by omega
      simp
      omega
    · rw [if_neg few, ih (by omega)]
      obtain ⟨j, rfl⟩ : ∃ j, slots = j + 1 := ⟨slots - 1, by omega⟩
      have shifted : n / 128 < 128 ^ j ↔ n < 128 ^ j * 128 := Nat.div_lt_iff_lt_mul (by norm_num)
      simp only [Nat.add_sub_cancel, pow_succ, shifted]
      by_cases fits : n < 128 ^ j * 128
      · simp [fits, Scan.extend]
        omega
      · simp [fits, Scan.extend]

theorem scan_encode_append (n : Nat) (rest : List UInt8) :
    scan (encode n ++ rest) = if n < 2 ^ 28 then .value n (encode n).length else .overlong :=
  scanWithin_encode_append (by norm_num) n rest

end VarInt

/-! Two-byte numbers and text fields. -/

namespace Field

theorem u16_join (n : UInt16) : (n >>> 8).toUInt8.toUInt16 <<< 8 ||| n.toUInt8.toUInt16 = n := by
  apply UInt16.toNat_inj.mp
  have small := n.toNat_lt
  have high : (n.toNat >>> 8 % 2 ^ 8) <<< 8 % 2 ^ 16 = (n.toNat / 256) <<< 8 := by
    simp only [Nat.shiftLeft_eq, Nat.shiftRight_eq_div_pow]
    omega
  have low : n.toNat % 2 ^ 8 < 2 ^ 8 := Nat.mod_lt _ (by norm_num)
  simp only [UInt16.toNat_or, UInt16.toNat_shiftLeft, UInt16.toNat_shiftRight, UInt8.toNat_toUInt16,
    UInt16.toNat_toUInt8, show UInt16.toNat 8 % 16 = 8 from rfl, high]
  -- the high byte is shifted clear of the low one, so the bitwise or is a sum
  rw [← Nat.shiftLeft_add_eq_or_of_lt low, Nat.shiftLeft_eq]
  omega

theorem length_u16 (n : UInt16) : (u16 n).length = 2 := rfl

theorem readU16_of_drop {bs rest : List UInt8} {cursor : Nat} {n : UInt16}
    (at_cursor : bs.drop cursor = u16 n ++ rest) : readU16 bs cursor = .ok (n, cursor + 2) := by
  simp only [readU16, at_cursor, u16, List.cons_append, u16_join]

theorem toList_loop (b : ByteArray) (i : Nat) (r : List UInt8) :
    ByteArray.toList.loop b i r = r.reverse ++ b.data.toList.drop i := by
  induction i, r using ByteArray.toList.loop.induct b with
  | case1 i r inside ih =>
    rw [ByteArray.toList.loop, if_pos inside, ih]
    have : b.get! i = b.data[i] := by simp [ByteArray.get!, inside]
    simp [this, List.drop_eq_getElem_cons (show i < b.data.toList.length by simpa using inside)]
  | case2 i r outside =>
    rw [ByteArray.toList.loop, if_neg outside]
    simp
    omega

theorem byteArray_toList (b : ByteArray) : b.toList = b.data.toList := by
  simp [ByteArray.toList, toList_loop]

theorem fromUTF8?_toList (s : String) : String.fromUTF8? ⟨s.toUTF8.toList.toArray⟩ = some s := by
  rw [byteArray_toList]
  simp [String.fromUTF8?]
  exact ⟨s.isValidUTF8, rfl⟩

theorem prefixed_eq_ok {bs field : List UInt8} :
    prefixed bs = .ok field ↔ bs.length ≤ maxPrefixed ∧ field = u16 bs.length.toUInt16 ++ bs := by
  unfold prefixed
  split <;> simp_all [eq_comm]

theorem readUtf8_of_drop {bs field rest : List UInt8} {cursor : Nat} {s : String}
    (written : prefixed s.toUTF8.toList = .ok field) (at_cursor : bs.drop cursor = field ++ rest) :
    readUtf8 bs cursor = .ok (s, cursor + field.length) := by
  obtain ⟨fits, rfl⟩ := prefixed_eq_ok.mp written
  have length : s.toUTF8.toList.length.toUInt16.toNat = s.toUTF8.toList.length := by
    simp [maxPrefixed] at fits
    simp
    omega
  have lengthField : readU16 bs cursor = .ok (s.toUTF8.toList.length.toUInt16, cursor + 2) :=
    readU16_of_drop (show bs.drop cursor = u16 _ ++ (s.toUTF8.toList ++ rest) by simp [at_cursor])
  have text : (bs.drop (cursor + 2)).take s.toUTF8.toList.length = s.toUTF8.toList := by
    rw [← List.drop_drop, at_cursor]
    simp [u16]
  simp only [readUtf8, lengthField, length, text, fromUTF8?_toList]
  simp [u16]
  omega

end Field

/-! Frames. -/

/-- A frame as the writers lay it out: the type byte, the shortest remaining-length field of
the body's length, and the body. -/
def frameOf (header : UInt8) (body : List UInt8) : List UInt8 :=
  header :: VarInt.encode body.length ++ body

section Frames
variable {header : UInt8} {body : List UInt8}

theorem length_frameOf :
    (frameOf header body).length = 1 + (VarInt.encode body.length).length + body.length := by
  simp [frameOf]
  omega

theorem drop_frameOf : (frameOf header body).drop (1 + (VarInt.encode body.length).length) = body := by
  simp [frameOf, Nat.add_comm 1]

theorem scan_frameOf (fits : body.length < 2 ^ 28) (extra : List UInt8) :
    VarInt.scan ((frameOf header body ++ extra).drop 1) =
      .value body.length (VarInt.encode body.length).length := by
  simp only [frameOf, List.cons_append, List.drop_one, List.tail_cons, List.append_assoc]
  rw [VarInt.scan_encode_append, if_pos fits]

theorem frameLength_frameOf (fits : body.length < 2 ^ 28) (extra : List UInt8) :
    VarInt.frameLength (frameOf header body ++ extra) = .ok (some (frameOf header body).length) := by
  rw [VarInt.frameLength, scan_frameOf fits]
  simp [length_frameOf]

theorem isFrame_frameOf (fits : body.length < 2 ^ 28) : VarInt.IsFrame (frameOf header body) := by
  have whole : VarInt.frameLength (frameOf header body ++ []) = _ := frameLength_frameOf fits []
  simpa [VarInt.IsFrame] using whole

theorem frameBody_frameOf (fits : body.length < 2 ^ 28) (extra : List UInt8) :
    frameBody (frameOf header body ++ extra) =
      .ok (1 + (VarInt.encode body.length).length, (frameOf header body).length) := by
  rw [frameBody, VarInt.readAt, scan_frameOf fits]
  simp [length_frameOf]

theorem frameLength_of_overlong {n : Nat} (big : 2 ^ 28 ≤ n) (rest : List UInt8) :
    VarInt.frameLength (header :: (VarInt.encode n ++ rest)) = .error .malformed := by
  simp only [VarInt.frameLength, List.drop_one, List.tail_cons]
  rw [VarInt.scan_encode_append, if_neg (Nat.not_lt.mpr big)]

theorem frameBody_of_overlong {n : Nat} (big : 2 ^ 28 ≤ n) (rest : List UInt8) :
    frameBody (header :: (VarInt.encode n ++ rest)) = .error .malformed := by
  simp only [frameBody, VarInt.readAt, List.drop_one, List.tail_cons]
  rw [VarInt.scan_encode_append, if_neg (Nat.not_lt.mpr big)]

end Frames

/-! Staging. -/

namespace Stage

theorem start_eq_ok {size : Nat} {st : Stage} :
    start size = .ok st ↔ headerGap ≤ size ∧ st = ⟨size, []⟩ := by
  unfold start
  split <;> simp_all [eq_comm]

theorem put_eq_ok {st st' : Stage} {bs : List UInt8} :
    st.put bs = .ok st' ↔ bs.length ≤ st.room ∧ st' = ⟨st.size, st.content ++ bs⟩ := by
  unfold put
  split <;> simp_all [eq_comm]

theorem put_of_room {st : Stage} {bs : List UInt8}
    (room : headerGap + st.content.length + bs.length ≤ st.size) :
    st.put bs = .ok ⟨st.size, st.content ++ bs⟩ :=
  put_eq_ok.mpr ⟨by simp only [Stage.room]; omega, rfl⟩

theorem putText_eq_ok {st st' : Stage} {s : String} :
    st.putText s = .ok st' ↔
      ∃ field, Field.prefixed s.toUTF8.toList = .ok field ∧ st.put field = .ok st' := by
  unfold putText putPrefixed
  split <;> simp_all

theorem finish_eq_ok {st : Stage} {header : UInt8} {bytes : List UInt8} :
    st.finish header = .ok bytes ↔
      (VarInt.encode st.content.length).length ≤ st.size - 1 ∧
      1 + (VarInt.encode st.content.length).length + st.content.length ≤ st.size ∧
      bytes = header :: VarInt.encode st.content.length ++
        ((VarInt.encode st.content.length).drop 4 ++
          st.content.drop ((VarInt.encode st.content.length).length - 4)) := by
  unfold finish VarInt.write
  by_cases room : (VarInt.encode st.content.length).length ≤ st.size - 1
  · simp only [if_pos room]
    split <;> simp_all [eq_comm, headerGap]
  · simp [room]

theorem finish_of_fits {st : Stage} {header : UInt8} {bytes : List UInt8}
    (fits : st.content.length < 2 ^ 28) (finished : st.finish header = .ok bytes) :
    bytes = frameOf header st.content := by
  obtain ⟨-, -, rfl⟩ := finish_eq_ok.mp finished
  have short := VarInt.length_encode_le_four.mpr fits
  simp [frameOf, List.drop_eq_nil_of_le short, Nat.sub_eq_zero_of_le short]

theorem finishStaged_eq_ok {staged : Except PacketError Stage} {header : UInt8} {bytes : List UInt8} :
    finishStaged staged header = .ok bytes ↔ ∃ st, staged = .ok st ∧ st.finish header = .ok bytes := by
  cases staged <;> simp [finishStaged]

theorem finish_field {st : Stage} {header : UInt8} {bytes : List UInt8}
    (finished : st.finish header = .ok bytes) :
    ∃ rest, bytes = header :: (VarInt.encode st.content.length ++ rest) := by
  obtain ⟨-, -, rfl⟩ := finish_eq_ok.mp finished
  exact ⟨_, List.cons_append⟩

end Stage

/-! PUBLISH. -/

def Publish.header (p : Publish) : UInt8 := (0x30 : UInt8) ||| p.qos.bits <<< 1

def Publish.wireId (p : Publish) : Option UInt16 := if p.qos = .atMostOnce then none else p.packetId

def Publish.onWire (p : Publish) : Publish := { p with packetId := p.wireId }

def Publish.body (p : Publish) : List UInt8 :=
  Field.u16 p.topic.toUTF8.toList.length.toUInt16 ++ p.topic.toUTF8.toList ++
    (p.wireId.map Field.u16).getD [] ++ p.payload

/-- What the encoder asks of a PUBLISH besides room: a topic that its two-byte length can
announce, and a packet id for QoS 1 and 2. -/
structure Publish.Encodable (p : Publish) : Prop where
  topic : p.topic.toUTF8.toList.length ≤ Field.maxPrefixed
  ided : p.qos ≠ .atMostOnce → p.packetId.isSome

theorem Publish.body_of_plain {p : Publish} (plain : p.qos = .atMostOnce) :
    p.body = Field.u16 p.topic.toUTF8.toList.length.toUInt16 ++ p.topic.toUTF8.toList ++ p.payload := by
  simp [Publish.body, Publish.wireId, plain]

theorem Publish.body_of_numbered {p : Publish} {id : UInt16} (numbered : p.qos ≠ .atMostOnce)
    (carried : p.packetId = some id) :
    p.body = Field.u16 p.topic.toUTF8.toList.length.toUInt16 ++ p.topic.toUTF8.toList ++
      Field.u16 id ++ p.payload := by
  simp [Publish.body, Publish.wireId, numbered, carried]

theorem Publish.stage_eq_ok {p : Publish} {size : Nat} {st : Stage} :
    p.stage size = .ok st ↔ p.Encodable ∧ headerGap + p.body.length ≤ size ∧ st = ⟨size, p.body⟩ := by
  obtain ⟨topic, qos, payload, packetId⟩ := p
  constructor
  · intro staged
    simp only [Publish.stage, bind_eq_ok] at staged
    obtain ⟨_, started, _, topicPut, rest⟩ := staged
    obtain ⟨gap, rfl⟩ := Stage.start_eq_ok.mp started
    obtain ⟨_, prefixedOk, topicPut⟩ := Stage.putText_eq_ok.mp topicPut
    obtain ⟨topicFits, rfl⟩ := Field.prefixed_eq_ok.mp prefixedOk
    obtain ⟨topicRoom, rfl⟩ := Stage.put_eq_ok.mp topicPut
    -- the packet id step is a match in the encoder, and each of its branches carries the rest
    split at rest
    · rw [pure_bind] at rest
      obtain ⟨payloadRoom, rfl⟩ := Stage.put_eq_ok.mp rest
      rw [Publish.body_of_plain rfl]
      refine ⟨⟨topicFits, fun plain => absurd rfl plain⟩, ?_, by simp⟩
      simp [Stage.room, headerGap, Field.length_u16] at topicRoom payloadRoom ⊢
      omega
    · rename_i id numbered
      obtain ⟨_, idPut, rest⟩ := bind_eq_ok.mp rest
      obtain ⟨idRoom, rfl⟩ := Stage.put_eq_ok.mp idPut
      obtain ⟨payloadRoom, rfl⟩ := Stage.put_eq_ok.mp rest
      rw [Publish.body_of_numbered numbered rfl]
      refine ⟨⟨topicFits, fun _ => rfl⟩, ?_, by simp⟩
      simp [Stage.room, headerGap, Field.length_u16] at topicRoom idRoom payloadRoom ⊢
      omega
    · simp [bind, Except.bind, throw, throwThe, MonadExceptOf.throw] at rest
  · rintro ⟨⟨topicFits, ided⟩, room, rfl⟩
    have started : Stage.start size = .ok ⟨size, []⟩ := Stage.start_eq_ok.mpr ⟨by omega, rfl⟩
    have topicPut : Stage.putText ⟨size, []⟩ topic =
        .ok ⟨size, [] ++ (Field.u16 topic.toUTF8.toList.length.toUInt16 ++ topic.toUTF8.toList)⟩ := by
      refine Stage.putText_eq_ok.mpr ⟨_, Field.prefixed_eq_ok.mpr ⟨topicFits, rfl⟩, Stage.put_of_room ?_⟩
      simp [Publish.body, Field.length_u16] at room
      simp [Field.length_u16]
      omega
    simp only [Publish.stage, started, topicPut, bind, Except.bind]
    split
    · rw [Publish.body_of_plain rfl] at room ⊢
      simp only [List.length_append, Field.length_u16] at room
      simp only [pure, Except.pure]
      rw [Stage.put_of_room (by simp only [List.nil_append, List.length_append, Field.length_u16]; omega)]
      simp
    · rename_i id numbered
      rw [Publish.body_of_numbered numbered rfl] at room ⊢
      simp only [List.length_append, Field.length_u16] at room
      rw [Stage.put_of_room (by simp only [List.nil_append, List.length_append, Field.length_u16]; omega)]
      simp only
      rw [Stage.put_of_room (by simp only [List.nil_append, List.length_append, Field.length_u16]; omega)]
      simp
    · exact absurd (ided (by assumption)) (by simp)

theorem Publish.encode_of_staged {p : Publish} {size : Nat} (ok : p.Encodable)
    (room : headerGap + p.body.length ≤ size) :
    p.encode size = Stage.finish ⟨size, p.body⟩ p.header := by
  rw [Publish.encode, Publish.stage_eq_ok.mpr ⟨ok, room, rfl⟩]
  rfl

theorem Publish.encode_eq_ok {p : Publish} {size : Nat} {bytes : List UInt8} :
    p.encode size = .ok bytes ↔
      p.Encodable ∧ headerGap + p.body.length ≤ size ∧
        Stage.finish ⟨size, p.body⟩ p.header = .ok bytes := by
  rw [Publish.encode, Stage.finishStaged_eq_ok]
  constructor
  · rintro ⟨st, staged, finished⟩
    obtain ⟨ok, room, rfl⟩ := Publish.stage_eq_ok.mp staged
    exact ⟨ok, room, finished⟩
  · rintro ⟨ok, room, finished⟩
    exact ⟨_, Publish.stage_eq_ok.mpr ⟨ok, room, rfl⟩, finished⟩

theorem Publish.encode_of_room {p : Publish} {size : Nat} (ok : p.Encodable)
    (room : headerGap + p.body.length ≤ size) (fits : p.body.length < 2 ^ 28) :
    p.encode size = .ok (frameOf p.header p.body) := by
  have short := VarInt.length_encode_le_four.mpr fits
  simp only [headerGap] at room
  refine Publish.encode_eq_ok.mpr ⟨ok, room, Stage.finish_eq_ok.mpr ⟨?_, ?_, ?_⟩⟩
  · dsimp only
    omega
  · dsimp only
    omega
  · simp [frameOf, List.drop_eq_nil_of_le short, Nat.sub_eq_zero_of_le short]

theorem Publish.qos_header (p : Publish) : QoS.ofBits? ((p.header >>> 1) &&& 3) = some p.qos := by
  unfold Publish.header
  cases p.qos <;> rfl

theorem Publish.type_header (p : Publish) : (p.header >>> 4).toNat = 3 := by
  unfold Publish.header
  cases p.qos <;> rfl

theorem Publish.decode_frameOf {p : Publish} (ok : p.Encodable) (fits : p.body.length < 2 ^ 28)
    (extra : List UInt8) : Publish.decode (frameOf p.header p.body ++ extra) = .ok p.onWire := by
  have topicField : Field.prefixed p.topic.toUTF8.toList =
      .ok (Field.u16 p.topic.toUTF8.toList.length.toUInt16 ++ p.topic.toUTF8.toList) :=
    Field.prefixed_eq_ok.mpr ⟨ok.topic, rfl⟩
  have atTopic : (frameOf p.header p.body).drop (1 + (VarInt.encode p.body.length).length) =
      (Field.u16 p.topic.toUTF8.toList.length.toUInt16 ++ p.topic.toUTF8.toList) ++
        ((p.wireId.map Field.u16).getD [] ++ p.payload) := by
    rw [drop_frameOf]
    simp [Publish.body]
  have topic := Field.readUtf8_of_drop topicField atTopic
  have rest : (frameOf p.header p.body).drop (1 + (VarInt.encode p.body.length).length +
      (Field.u16 p.topic.toUTF8.toList.length.toUInt16 ++ p.topic.toUTF8.toList).length) =
        (p.wireId.map Field.u16).getD [] ++ p.payload := by
    rw [← List.drop_drop, atTopic, List.drop_left]
  have body : frameBody (frameOf p.header p.body ++ extra) = _ := frameBody_frameOf fits extra
  have frame : (frameOf p.header p.body ++ extra).take (frameOf p.header p.body).length =
      frameOf p.header p.body := List.take_left
  -- the reader looks at the type byte before the frame, so the frame is opened to a cons here
  obtain ⟨tail, split⟩ : ∃ tail, frameOf p.header p.body ++ extra = p.header :: tail := ⟨_, rfl⟩
  rw [split] at body frame ⊢
  simp only [Publish.decode, bind, Except.bind, pure, Except.pure, p.qos_header, body, frame, topic]
  split
  · rename_i plain
    have unnumbered : p.wireId = none := by simp [Publish.wireId, plain]
    simp only [unnumbered, Option.map_none, Option.getD_none, List.nil_append] at rest
    rw [rest]
    simp [Publish.onWire, unnumbered]
  · rename_i _ numbered
    obtain ⟨id, carried⟩ := Option.isSome_iff_exists.mp (ok.ided numbered)
    have sent : p.wireId = some id := by rw [Publish.wireId, if_neg numbered, carried]
    simp only [sent, Option.map_some, Option.getD_some] at rest
    have payload := congrArg (List.drop 2) rest
    rw [List.drop_drop] at payload
    rw [Field.readU16_of_drop rest]
    simp only [payload]
    simp [Publish.onWire, sent, Field.u16]

theorem Inbound.decode_publish_frameOf {p : Publish} (ok : p.Encodable)
    (fits : p.body.length < 2 ^ 28) (extra : List UInt8) :
    Inbound.decode (frameOf p.header p.body ++ extra) = .ok (some (.publish p.onWire)) := by
  have decoded := Publish.decode_frameOf ok fits extra
  obtain ⟨tail, split⟩ : ∃ tail, frameOf p.header p.body ++ extra = p.header :: tail := ⟨_, rfl⟩
  rw [split] at decoded ⊢
  simp [Inbound.decode, p.type_header, decoded, Except.map]

theorem Inbound.decode_publish_of_overlong {p : Publish} {n : Nat} (big : 2 ^ 28 ≤ n)
    (rest : List UInt8) :
    Inbound.decode (p.header :: (VarInt.encode n ++ rest)) = .error .malformed := by
  simp [Inbound.decode, p.type_header, Publish.decode, bind, Except.bind, pure, Except.pure,
    p.qos_header, frameBody_of_overlong big, Except.map]

/-! Acknowledgements. -/

theorem Ack.encode_eq_ok {a : Ack} {size : Nat} {bytes : List UInt8} :
    a.encode size = .ok bytes ↔ 4 ≤ size ∧ bytes = a.bytes := by
  simp only [Ack.encode, writeInPlace, Ack.bytes]
  split <;> simp_all [Field.u16, eq_comm]

theorem Ack.bytes_eq_frameOf (a : Ack) : a.bytes = frameOf a.kind.header (Field.u16 a.packetId) := by
  simp [Ack.bytes, frameOf, Field.u16, VarInt.encode_of_lt]

theorem AckKind.ofType?_header (k : AckKind) : AckKind.ofType? (k.header >>> 4).toNat = some k := by
  cases k <;> rfl

theorem Ack.decode_bytes (a : Ack) (extra : List UInt8) : Ack.decode (a.bytes ++ extra) = .ok a := by
  have fits : (Field.u16 a.packetId).length < 2 ^ 28 := by simp [Field.length_u16]
  have body : frameBody (a.bytes ++ extra) = .ok (2, 4) := by
    rw [a.bytes_eq_frameOf, frameBody_frameOf fits]
    simp [frameOf, Field.u16, VarInt.encode_of_lt]
  have frame : (a.bytes ++ extra).take 4 = a.bytes := List.take_left' (by simp [Ack.bytes, Field.length_u16])
  have id : Field.readU16 a.bytes 2 = .ok (a.packetId, 4) :=
    Field.readU16_of_drop (show a.bytes.drop 2 = Field.u16 a.packetId ++ [] by simp [Ack.bytes])
  obtain ⟨tail, split⟩ : ∃ tail, a.bytes ++ extra = a.kind.header :: tail := ⟨_, rfl⟩
  rw [split] at body frame ⊢
  simp only [Ack.decode, bind, Except.bind, pure, Except.pure, AckKind.ofType?_header, body, frame, id]

theorem Inbound.decode_ack_bytes (a : Ack) (extra : List UInt8) :
    Inbound.decode (a.bytes ++ extra) = .ok (some (.ack a)) := by
  have decoded := a.decode_bytes extra
  obtain ⟨tail, split⟩ : ∃ tail, a.bytes ++ extra = a.kind.header :: tail := ⟨_, rfl⟩
  rw [split] at decoded ⊢
  -- the type nibble picks the acknowledgement reader for each of the four kinds
  cases a with
  | mk kind id => cases kind <;> simp_all [Inbound.decode, AckKind.header, Except.map]

/-! What the encoders write, the readers take back. -/

theorem Publish.encode_reads_back {p : Publish} {size : Nat} {bytes : List UInt8}
    (written : p.encode size = .ok bytes) (fits : p.body.length < 2 ^ 28) :
    VarInt.IsFrame bytes ∧ ∀ extra, Inbound.decode (bytes ++ extra) = .ok (some (.publish p.onWire)) := by
  obtain ⟨ok, -, finished⟩ := Publish.encode_eq_ok.mp written
  obtain rfl := Stage.finish_of_fits fits finished
  exact ⟨isFrame_frameOf fits, Inbound.decode_publish_frameOf ok fits⟩

theorem Publish.encode_overlong {p : Publish} {size : Nat} {bytes : List UInt8}
    (written : p.encode size = .ok bytes) (big : 2 ^ 28 ≤ p.body.length) (extra : List UInt8) :
    VarInt.frameLength (bytes ++ extra) = .error .malformed ∧
      Inbound.decode (bytes ++ extra) = .error .malformed := by
  obtain ⟨-, -, finished⟩ := Publish.encode_eq_ok.mp written
  obtain ⟨rest, rfl⟩ := Stage.finish_field finished
  rw [List.cons_append, List.append_assoc]
  exact ⟨frameLength_of_overlong big _, Inbound.decode_publish_of_overlong big _⟩

theorem Ack.encode_reads_back {a : Ack} {size : Nat} {bytes : List UInt8}
    (written : a.encode size = .ok bytes) :
    VarInt.IsFrame bytes ∧ ∀ extra, Inbound.decode (bytes ++ extra) = .ok (some (.ack a)) := by
  obtain ⟨-, rfl⟩ := Ack.encode_eq_ok.mp written
  have fits : (Field.u16 a.packetId).length < 2 ^ 28 := by simp [Field.length_u16]
  exact ⟨a.bytes_eq_frameOf ▸ isFrame_frameOf fits, Inbound.decode_ack_bytes a⟩

/-- Every PUBLISH the encoder writes with a body below 2 ^ 28 bytes, and every acknowledgement,
is one whole frame that the reader takes back as the packet on the wire, whatever follows it; a
PUBLISH with a longer body is written all the same, and nothing reads it. -/
theorem written_packets_read_back (p : Publish) (a : Ack) (size : Nat) (bytes : List UInt8) :
    (p.encode size = .ok bytes →
      (p.body.length < 2 ^ 28 → VarInt.IsFrame bytes ∧
        ∀ extra, Inbound.decode (bytes ++ extra) = .ok (some (.publish p.onWire))) ∧
      (2 ^ 28 ≤ p.body.length → ∀ extra, VarInt.frameLength (bytes ++ extra) = .error .malformed ∧
        Inbound.decode (bytes ++ extra) = .error .malformed)) ∧
    (a.encode size = .ok bytes →
      VarInt.IsFrame bytes ∧ ∀ extra, Inbound.decode (bytes ++ extra) = .ok (some (.ack a))) :=
  ⟨fun written => ⟨Publish.encode_reads_back written, Publish.encode_overlong written⟩,
    Ack.encode_reads_back⟩

/-- A QoS 2 reading in a buffer that holds exactly its gap and body, read back with a PINGRESP
behind it, and a PUBREL in a buffer of its own four bytes. -/
theorem written_packets_read_back_for_sensor_reading :
    Publish.encode ⟨"gw/a1", .exactlyOnce, [21, 5], some 7⟩ 16 =
        .ok [0x34, 11, 0, 5, 103, 119, 47, 97, 49, 0, 7, 21, 5] ∧
      (Publish.body ⟨"gw/a1", .exactlyOnce, [21, 5], some 7⟩).length < 2 ^ 28 ∧
      VarInt.IsFrame [0x34, 11, 0, 5, 103, 119, 47, 97, 49, 0, 7, 21, 5] ∧
      Inbound.decode ([0x34, 11, 0, 5, 103, 119, 47, 97, 49, 0, 7, 21, 5] ++ [0xD0, 0]) =
        .ok (some (.publish ⟨"gw/a1", .exactlyOnce, [21, 5], some 7⟩)) ∧
      Ack.encode ⟨.pubRel, 7⟩ 4 = .ok [0x62, 2, 0, 7] ∧ VarInt.IsFrame [0x62, 2, 0, 7] ∧
      Inbound.decode [0x62, 2, 0, 7] = .ok (some (.ack ⟨.pubRel, 7⟩)) := by
  have body : Publish.body ⟨"gw/a1", .exactlyOnce, [21, 5], some 7⟩ =
      [0, 5, 103, 119, 47, 97, 49, 0, 7, 21, 5] := by
    simp [Publish.body, Publish.wireId, Field.byteArray_toList]
    decide
  have ok : Publish.Encodable ⟨"gw/a1", .exactlyOnce, [21, 5], some 7⟩ :=
    ⟨by simp [Field.byteArray_toList, Field.maxPrefixed]; decide, fun _ => rfl⟩
  have written : Publish.encode ⟨"gw/a1", .exactlyOnce, [21, 5], some 7⟩ 16 =
      .ok [0x34, 11, 0, 5, 103, 119, 47, 97, 49, 0, 7, 21, 5] := by
    rw [Publish.encode_of_room ok (by simp [body, headerGap]) (by simp [body]), body]
    simp [frameOf, VarInt.encode_of_lt, Publish.header]
    decide
  have fits : (Publish.body ⟨"gw/a1", .exactlyOnce, [21, 5], some 7⟩).length < 2 ^ 28 := by
    simp [body]
  have acked : Ack.encode ⟨.pubRel, 7⟩ 4 = .ok [0x62, 2, 0, 7] := by decide
  obtain ⟨frame, read⟩ := ((written_packets_read_back _ ⟨.pubRel, 7⟩ _ _).1 written).1 fits
  obtain ⟨ackFrame, ackRead⟩ := (written_packets_read_back ⟨"gw/a1", .exactlyOnce, [21, 5], some 7⟩ _ _ _).2 acked
  exact ⟨written, fits, frame, read _, acked, ackFrame, by simpa using ackRead []⟩

/-- The longest PUBLISH that a buffer of 2 ^ 28 + 6 bytes takes: an empty topic and 2 ^ 28 - 2
bytes of payload. It is written, with a five-byte length field whose last byte also stands in
place of the first byte of the body, and no reader takes it. -/
theorem publish_past_four_byte_length_is_malformed :
    ∃ rest, Publish.encode ⟨"", .atMostOnce, List.replicate 268435454 0x61, none⟩ 268435462 =
        .ok (0x30 :: 0x80 :: 0x80 :: 0x80 :: 0x80 :: 0x01 :: rest) ∧
      VarInt.frameLength (0x30 :: 0x80 :: 0x80 :: 0x80 :: 0x80 :: 0x01 :: rest) = .error .malformed ∧
      Inbound.decode (0x30 :: 0x80 :: 0x80 :: 0x80 :: 0x80 :: 0x01 :: rest) = .error .malformed := by
  -- the payload is never built: every step below works on its length
  have body : (Publish.body ⟨"", .atMostOnce, List.replicate 268435454 0x61, none⟩).length = 2 ^ 28 := by
    have empty : "".toUTF8.data.toList = [] := rfl
    simp only [Publish.body, Publish.wireId, Field.byteArray_toList, Field.u16, empty,
      List.length_append, List.length_replicate, List.length_cons, List.length_nil, if_true,
      Option.map_none, Option.getD_none]
    norm_num
  have field : VarInt.encode (2 ^ 28) = [0x80, 0x80, 0x80, 0x80, 0x01] := by
    rw [VarInt.encode_of_le (by norm_num), VarInt.encode_of_le (by norm_num),
      VarInt.encode_of_le (by norm_num), VarInt.encode_of_le (by norm_num),
      VarInt.encode_of_lt (by norm_num)]
    decide
  have ok : Publish.Encodable ⟨"", .atMostOnce, List.replicate 268435454 0x61, none⟩ :=
    ⟨by simp only [Field.byteArray_toList]; decide, fun plain => absurd rfl plain⟩
  have written : Publish.encode ⟨"", .atMostOnce, List.replicate 268435454 0x61, none⟩ 268435462 =
      .ok (0x30 :: 0x80 :: 0x80 :: 0x80 :: 0x80 :: 0x01 ::
        0x01 :: (Publish.body ⟨"", .atMostOnce, List.replicate 268435454 0x61, none⟩).drop 1) := by
    refine Publish.encode_eq_ok.mpr ⟨ok, ?_, Stage.finish_eq_ok.mpr ⟨?_, ?_, ?_⟩⟩
    · rw [body]
      decide
    · show (VarInt.encode (Publish.body _).length).length ≤ 268435462 - 1
      rw [body, field]
      decide
    · show 1 + (VarInt.encode (Publish.body _).length).length + (Publish.body _).length ≤ 268435462
      rw [body, field]
      decide
    · show _ = Publish.header _ :: VarInt.encode (Publish.body _).length ++ _
      rw [body, field]
      rfl
  have big : 2 ^ 28 ≤ (Publish.body ⟨"", .atMostOnce, List.replicate 268435454 0x61, none⟩).length := by
    rw [body]
  refine ⟨_, written, ?_⟩
  simpa only [List.append_nil] using Publish.encode_overlong written big []

end Gateway.Mqtt
