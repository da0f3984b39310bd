import Gateway.Proofs.WireFields
/-!
What the writers put in a buffer. CONNECT, PUBLISH and SUBSCRIBE stage their content piece by
piece behind a gap of five bytes (`Stage.write`): each piece is bytes as they are or bytes behind
their two-byte length (`Piece`). Finishing then puts the type byte and the remaining-length field
in front of the content and moves the content right behind them (`compacted`). The
acknowledgements, PINGREQ and DISCONNECT are written in place.

Main statement (`outbound_packets_write_in_place`): a packet is written exactly when its text
fields fit their length prefixes, a PUBLISH above QoS 0 has its packet id, the buffer holds the
gap and the content, and the type byte, the length field and the content fit; what is written is
then `compacted`. Below 2 ^ 28 bytes of content the last condition follows from the others and
`compacted` is the frame `frameOf header content` itself, so staging and finishing writes what
writing in place would. Past it, the field takes five bytes: in a buffer of the gap and the content
the move of the content runs past the end and fails its bounds check, which stops the writer, and a
larger buffer gets a frame whose first content byte is the field's last byte again.
-/
namespace Gateway.Mqtt
open VarInt

/-- A piece of the content a writer stages: bytes put as they are, or put behind their two-byte
length. -/
inductive Piece where
  | raw (bs : List UInt8)
  | prefixed (bs : List UInt8)
  deriving DecidableEq, Repr

namespace Piece

def bytes : Piece → List UInt8
  | raw bs => bs
  | prefixed bs => Field.u16 bs.length.toUInt16 ++ bs

def Fits : Piece → Prop
  | raw _ => True
  | prefixed bs => bs.length ≤ Field.maxPrefixed

instance (piece : Piece) : Decidable piece.Fits := by
  cases piece <;> unfold Fits <;> infer_instance

def stage (st : Stage) : Piece → Except PacketError Stage
  | raw bs => st.put bs
  | prefixed bs => st.putPrefixed bs

theorem stage_eq_ok {st st' : Stage} {piece : Piece} :
    piece.stage st = .ok st' ↔
      piece.Fits ∧ piece.bytes.length ≤ st.room ∧ st' = ⟨st.size, st.content ++ piece.bytes⟩ := by
  cases piece with
  | raw bs => simp [stage, Fits, bytes, Stage.put_eq_ok]
  | prefixed bs =>
    unfold stage Stage.putPrefixed
    by_cases fits : bs.length ≤ Field.maxPrefixed
    · simp [Field.prefixed, fits, Fits, bytes, Stage.put_eq_ok]
    · simp [Field.prefixed, fits, Fits]

theorem stage_error {st : Stage} {piece : Piece} {e : PacketError} (refused : piece.stage st = .error e) :
    e = .bufferTooSmall ∨ (e = .protocol .payloadTooLarge ∧ ¬ piece.Fits) := by
  cases piece with
  | raw bs =>
    simp only [stage, Stage.put] at refused
    split at refused
    · cases refused
    · exact .inl (Except.error.inj refused).symm
  | prefixed bs =>
    by_cases fits : bs.length ≤ Field.maxPrefixed
    · simp only [stage, Stage.putPrefixed, Field.prefixed, if_pos fits, Stage.put] at refused
      split at refused
      · cases refused
      · exact .inl (Except.error.inj refused).symm
    · simp only [stage, Stage.putPrefixed, Field.prefixed, if_neg fits] at refused
      exact .inr ⟨(Except.error.inj refused).symm, fits⟩

end Piece

namespace Stage

def putAll (st : Stage) (pieces : List Piece) : Except PacketError Stage :=
  pieces.foldlM Piece.stage st

@[simp] theorem putAll_nil (st : Stage) : st.putAll [] = .ok st := rfl

@[simp] theorem putAll_cons (st : Stage) (piece : Piece) (rest : List Piece) :
    st.putAll (piece :: rest) = piece.stage st >>= (·.putAll rest) := rfl

theorem putAll_append (st : Stage) (front back : List Piece) :
    st.putAll (front ++ back) = st.putAll front >>= (·.putAll back) := by
  simp [putAll, List.foldlM_append]

theorem putAll_eq_ok {st st' : Stage} {pieces : List Piece}
    (sound : headerGap + st.content.length ≤ st.size) :
    st.putAll pieces = .ok st' ↔
      (∀ piece ∈ pieces, piece.Fits) ∧
        headerGap + st.content.length + (pieces.flatMap Piece.bytes).length ≤ st.size ∧
        st' = ⟨st.size, st.content ++ pieces.flatMap Piece.bytes⟩ := by
  induction pieces generalizing st with
  | nil =>
    simp only [putAll_nil, Except.ok.injEq, List.not_mem_nil, false_implies, implies_true,
      List.flatMap_nil, List.length_nil, Nat.add_zero, sound, List.append_nil, true_and]
    exact ⟨fun same => same ▸ rfl, fun same => same ▸ rfl⟩
  | cons piece rest ih =>
    rw [putAll_cons, bind_eq_ok]
    constructor
    · rintro ⟨mid, staged, later⟩
      obtain ⟨fits, room, rfl⟩ := Piece.stage_eq_ok.mp staged
      have sound' : headerGap + (st.content ++ piece.bytes).length ≤ st.size := by
        unfold Stage.room at room
        simp only [List.length_append]
        omega
      obtain ⟨restFits, restRoom, rfl⟩ := (ih sound').mp later
      refine ⟨List.forall_mem_cons.mpr ⟨fits, restFits⟩, ?_, by simp⟩
      simp only [List.length_append, List.flatMap_cons] at restRoom ⊢
      omega
    · rintro ⟨fits, room, rfl⟩
      obtain ⟨fits, restFits⟩ := List.forall_mem_cons.mp fits
      simp only [List.flatMap_cons, List.length_append] at room
      have sound' : headerGap + (st.content ++ piece.bytes).length ≤ st.size := by
        simp only [List.length_append]
        omega
      refine ⟨_, Piece.stage_eq_ok.mpr ⟨fits, by unfold Stage.room; omega, rfl⟩, ?_⟩
      refine (ih sound').mpr ⟨restFits, by simp only [List.length_append]; omega, ?_⟩
      simp

theorem putAll_error {st : Stage} {pieces : List Piece} {e : PacketError}
    (refused : st.putAll pieces = .error e) :
    e = .bufferTooSmall ∨ (e = .protocol .payloadTooLarge ∧ ∃ piece ∈ pieces, ¬ piece.Fits) := by
  induction pieces generalizing st with
  | nil => cases refused
  | cons piece rest ih =>
    rw [putAll_cons] at refused
    cases staged : piece.stage st with
    | error e' =>
      rw [staged] at refused
      cases refused
      rcases Piece.stage_error staged with small | ⟨large, long⟩
      · exact .inl small
      · exact .inr ⟨large, piece, List.mem_cons_self, long⟩
    | ok mid =>
      rw [staged] at refused
      rcases ih refused with small | ⟨large, other, member, long⟩
      · exact .inl small
      · exact .inr ⟨large, other, List.mem_cons_of_mem piece member, long⟩

end Stage

@[simp] theorem ok_bind {α β : Type} (a : α) (f : α → Except PacketError β) :
    (Except.ok a >>= f) = f a := rfl

@[simp] theorem throw_bind {α β : Type} (e : PacketError) (f : α → Except PacketError β) :
    (throw e >>= f) = throw e := rfl

@[simp] theorem bind_ok_right {α : Type} (x : Except PacketError α) : (x >>= Except.ok) = x := by
  cases x <;> rfl

theorem bind_eq_error {α β : Type} {x : Except PacketError α} {f : α → Except PacketError β}
    {e : PacketError} : x >>= f = .error e ↔ x = .error e ∨ ∃ a, x = .ok a ∧ f a = .error e := by
  cases x <;> simp [bind, Except.bind]

/-- What finishing a stage of `content` writes behind the type byte `header`: the remaining-length
field, then the content, whose first bytes a field longer than the gap's four bytes has taken. -/
def compacted (header : UInt8) (content : List UInt8) : List UInt8 :=
  header :: encode content.length ++
    ((encode content.length).drop 4 ++ content.drop ((encode content.length).length - 4))

theorem compacted_of_fits {header : UInt8} {content : List UInt8} (fits : content.length < 2 ^ 28) :
    compacted header content = frameOf header content := by
  have short := length_encode_le_four.mpr fits
  simp [compacted, frameOf, List.drop_eq_nil_of_le short, Nat.sub_eq_zero_of_le short]

namespace Stage

theorem start_error {size : Nat} {e : PacketError} (refused : start size = .error e) :
    e = .bufferTooSmall := by
  unfold start at refused
  split at refused
  · cases refused
  · exact (Except.error.inj refused).symm

theorem finish_eq_ok_iff {st : Stage} {header : UInt8} {bytes : List UInt8} :
    st.finish header = .ok bytes ↔
      1 + (encode st.content.length).length + st.content.length ≤ st.size ∧
        bytes = compacted header st.content := by
  rw [finish_eq_ok]
  constructor
  · rintro ⟨-, room, rfl⟩
    exact ⟨room, rfl⟩
  · rintro ⟨room, rfl⟩
    exact ⟨by omega, room, rfl⟩

theorem finish_error {st : Stage} {header : UInt8} {e : PacketError}
    (refused : st.finish header = .error e) : e = .bufferTooSmall := by
  unfold finish VarInt.write at refused
  split at refused
  · rename_i field written
    split at refused <;> cases refused
  · rename_i e' written
    split at written
    · cases written
    · exact (Checked.error.inj refused).symm.trans (Except.error.inj written).symm

theorem field_fits_of_gap {st : Stage} (sound : headerGap + st.content.length ≤ st.size) :
    (encode st.content.length).length ≤ st.size - 1 := by
  unfold headerGap at sound
  rw [length_encode_le_iff (by omega)]
  exact lt_of_lt_of_le (by omega) (Nat.lt_pow_self (by norm_num)).le

theorem finish_eq_stops_iff {st : Stage} {header : UInt8} {why : Panic}
    (sound : headerGap + st.content.length ≤ st.size) :
    st.finish header = .stops why ↔
      why = .copyOutOfBounds ∧ st.size < 1 + (encode st.content.length).length + st.content.length := by
  have field := field_fits_of_gap sound
  unfold finish VarInt.write
  rw [if_pos field]
  dsimp only
  by_cases room : 1 + (encode st.content.length).length + st.content.length ≤ st.size
  · simp [room]
  · simp [room, eq_comm]
    omega

/-- What each staged writer does: start a buffer of `size` bytes, stage the pieces, and finish with
the type byte `header`. -/
def write (size : Nat) (header : UInt8) (pieces : List Piece) : Checked PacketError (List UInt8) :=
  finishStaged (start size >>= (·.putAll pieces)) header

theorem staged_eq_ok {size : Nat} {pieces : List Piece} {st : Stage} :
    (start size >>= (·.putAll pieces)) = .ok st ↔
      (∀ piece ∈ pieces, piece.Fits) ∧ headerGap + (pieces.flatMap Piece.bytes).length ≤ size ∧
        st = ⟨size, pieces.flatMap Piece.bytes⟩ := by
  constructor
  · intro staged
    obtain ⟨_, started, staged⟩ := bind_eq_ok.mp staged
    obtain ⟨gap, rfl⟩ := start_eq_ok.mp started
    obtain ⟨fits, room, rfl⟩ := (putAll_eq_ok (by simpa using gap)).mp staged
    simp only [List.length_nil, Nat.add_zero] at room
    exact ⟨fits, room, rfl⟩
  · rintro ⟨fits, room, rfl⟩
    have started : start size = .ok ⟨size, []⟩ := start_eq_ok.mpr ⟨by omega, rfl⟩
    rw [started]
    exact (putAll_eq_ok (by simp only [List.length_nil]; omega)).mpr ⟨fits, by simpa using room, by simp⟩

theorem write_eq_ok_iff {size : Nat} {header : UInt8} {pieces : List Piece} {bytes : List UInt8} :
    write size header pieces = .ok bytes ↔
      (∀ piece ∈ pieces, piece.Fits) ∧ headerGap + (pieces.flatMap Piece.bytes).length ≤ size ∧
        1 + (encode (pieces.flatMap Piece.bytes).length).length + (pieces.flatMap Piece.bytes).length ≤
          size ∧
        bytes = compacted header (pieces.flatMap Piece.bytes) := by
  rw [write, finishStaged_eq_ok]
  constructor
  · rintro ⟨st, staged, finished⟩
    obtain ⟨fits, room, rfl⟩ := staged_eq_ok.mp staged
    obtain ⟨fieldRoom, rfl⟩ := finish_eq_ok_iff.mp finished
    exact ⟨fits, room, fieldRoom, rfl⟩
  · rintro ⟨fits, room, fieldRoom, rfl⟩
    exact ⟨_, staged_eq_ok.mpr ⟨fits, room, rfl⟩, finish_eq_ok_iff.mpr ⟨fieldRoom, rfl⟩⟩

theorem write_eq_stops_iff {size : Nat} {header : UInt8} {pieces : List Piece} {why : Panic} :
    write size header pieces = .stops why ↔
      why = .copyOutOfBounds ∧ (∀ piece ∈ pieces, piece.Fits) ∧
        headerGap + (pieces.flatMap Piece.bytes).length ≤ size ∧
        size < 1 + (encode (pieces.flatMap Piece.bytes).length).length + (pieces.flatMap Piece.bytes).length := by
  unfold write
  cases staged : (start size >>= (·.putAll pieces)) with
  | error e =>
    simp only [finishStaged, reduceCtorEq, false_iff, not_and]
    intro _ fits room
    exact absurd (staged_eq_ok.mpr ⟨fits, room, rfl⟩) (by rw [staged]; simp)
  | ok st =>
    obtain ⟨fits, room, rfl⟩ := staged_eq_ok.mp staged
    simp only [finishStaged]
    rw [finish_eq_stops_iff (by simpa using room)]
    constructor
    · rintro ⟨same, past⟩
      exact ⟨same, fits, room, past⟩
    · rintro ⟨same, -, -, past⟩
      exact ⟨same, past⟩

theorem finishStaged_eq_stops {staged : Except PacketError Stage} {header : UInt8} {why : Panic} :
    finishStaged staged header = .stops why ↔ ∃ st, staged = .ok st ∧ st.finish header = .stops why := by
  cases staged <;> simp [finishStaged]

theorem finishStaged_eq_error {staged : Except PacketError Stage} {header : UInt8} {e : PacketError} :
    finishStaged staged header = .error e ↔
      staged = .error e ∨ ∃ st, staged = .ok st ∧ st.finish header = .error e := by
  cases staged <;> simp [finishStaged]

theorem write_error {size : Nat} {header : UInt8} {pieces : List Piece} {e : PacketError}
    (refused : write size header pieces = .error e) :
    e = .bufferTooSmall ∨ (e = .protocol .payloadTooLarge ∧ ∃ piece ∈ pieces, ¬ piece.Fits) := by
  obtain staged | ⟨st, -, finished⟩ := finishStaged_eq_error.mp refused
  · obtain early | ⟨st, -, refused⟩ := bind_eq_error.mp staged
    · exact .inl (start_error early)
    · exact putAll_error refused
  · exact .inl (finish_error finished)

end Stage

/-! The staged writers, each as a list of pieces. -/

/-- The content of a CONNECT, piece by piece: the protocol name and level, the flags, the
keep-alive, the client id, and the user name and the password when there are any. -/
def Connect.pieces (p : Connect) : List Piece :=
  [.prefixed "MQTT".toUTF8.toList, .raw [protocolLevel, p.flags], .raw (Field.u16 p.keepAlive),
    .prefixed p.clientId.toUTF8.toList] ++
    (p.username.map fun u => Piece.prefixed u.toUTF8.toList).toList ++
    (p.password.map Piece.prefixed).toList

theorem Connect.encode_eq_write (p : Connect) (size : Nat) :
    p.encode size = Stage.write size 0x10 p.pieces := by
  have staged : p.stage size = Stage.start size >>= (·.putAll p.pieces) := by
    obtain ⟨clientId, keepAlive, clean, username, password⟩ := p
    cases username <;> cases password <;>
      simp [Connect.stage, Connect.pieces, Piece.stage, Stage.putText]
  rw [Connect.encode, staged]
  rfl

def filterPieces (filter : String × QoS) : List Piece :=
  [.prefixed filter.1.toUTF8.toList, .raw [filter.2.bits]]

def Subscribe.pieces (p : Subscribe) : List Piece :=
  .raw (Field.u16 p.packetId) :: p.topics.flatMap filterPieces

theorem Stage.putFilters_eq_putAll (st : Stage) (topics : List (String × QoS)) :
    st.putFilters topics = st.putAll (topics.flatMap filterPieces) := by
  induction topics generalizing st with
  | nil => rfl
  | cons filter rest ih =>
    obtain ⟨t, q⟩ := filter
    rw [Stage.putFilters, List.flatMap_cons, Stage.putAll_append]
    simp only [filterPieces, Stage.putAll_cons, Stage.putAll_nil, Piece.stage, Stage.putText]
    cases st.putPrefixed t.toUTF8.toList with
    | error e => rfl
    | ok st' =>
      simp only [ok_bind]
      cases st'.put [q.bits] with
      | error e => rfl
      | ok st'' => exact ih st''

theorem Subscribe.encode_eq_write (p : Subscribe) (size : Nat) :
    p.encode size = Stage.write size 0x82 p.pieces := by
  have staged : p.stage size = Stage.start size >>= (·.putAll p.pieces) := by
    simp only [Subscribe.stage, Subscribe.pieces, Stage.putAll_cons, Piece.stage,
      Stage.putFilters_eq_putAll]
  rw [Subscribe.encode, staged]
  rfl

/-- The content of a PUBLISH, piece by piece: the topic, the packet id for QoS 1 and 2, and the
payload. -/
def Publish.pieces (p : Publish) : List Piece :=
  .prefixed p.topic.toUTF8.toList ::
    ((p.wireId.map fun id => Piece.raw (Field.u16 id)).toList ++ [.raw p.payload])

theorem Publish.flatMap_pieces (p : Publish) : p.pieces.flatMap Piece.bytes = p.body := by
  cases carried : p.wireId <;> simp [Publish.pieces, Publish.body, carried, Piece.bytes]

theorem Publish.encode_of_ided {p : Publish} (size : Nat)
    (ided : p.qos ≠ .atMostOnce → p.packetId.isSome) :
    p.encode size = Stage.write size p.header p.pieces := by
  have staged : p.stage size = Stage.start size >>= (·.putAll p.pieces) := by
    obtain ⟨topic, qos, payload, packetId⟩ := p
    cases qos with
    | atMostOnce =>
      simp [Publish.stage, Publish.pieces, Publish.wireId, Piece.stage, Stage.putText]
    | atLeastOnce =>
      obtain ⟨id, rfl⟩ := Option.isSome_iff_exists.mp (ided (by simp))
      simp [Publish.stage, Publish.pieces, Publish.wireId, Piece.stage, Stage.putText]
    | exactlyOnce =>
      obtain ⟨id, rfl⟩ := Option.isSome_iff_exists.mp (ided (by simp))
      simp [Publish.stage, Publish.pieces, Publish.wireId, Piece.stage, Stage.putText]
  rw [Publish.encode, staged]
  rfl

theorem Publish.stage_of_unided {p : Publish} (size : Nat) (numbered : p.qos ≠ .atMostOnce)
    (missing : p.packetId = none) :
    p.stage size = (Stage.start size >>= (·.putAll [.prefixed p.topic.toUTF8.toList])) >>=
      fun _ => throw .malformed := by
  obtain ⟨topic, qos, payload, packetId⟩ := p
  dsimp only at numbered missing
  subst missing
  cases qos with
  | atMostOnce => exact absurd rfl numbered
  | atLeastOnce => simp [Publish.stage, Piece.stage, Stage.putText, bind_assoc]
  | exactlyOnce => simp [Publish.stage, Piece.stage, Stage.putText, bind_assoc]

/-! Every packet a client writes. -/

theorem writeInPlace_eq_ok {size : Nat} {bs bytes : List UInt8} :
    writeInPlace size bs = .ok bytes ↔ bs.length ≤ size ∧ bytes = bs := by
  unfold writeInPlace
  split <;> simp_all [eq_comm]

theorem writeInPlace_error {size : Nat} {bs : List UInt8} {e : PacketError}
    (refused : writeInPlace size bs = .error e) : e = .bufferTooSmall := by
  unfold writeInPlace at refused
  split at refused
  · cases refused
  · exact (Except.error.inj refused).symm

namespace Outbound

/-- The content of a packet, piece by piece. Those written in place have fixed content: an
acknowledgement its packet id, PINGREQ and DISCONNECT none. -/
def pieces : Outbound → List Piece
  | .connect c => c.pieces
  | .publish q => q.pieces
  | .ack a => [.raw (Field.u16 a.packetId)]
  | .subscribe s => s.pieces
  | .pingReq | .disconnect => []

def content (p : Outbound) : List UInt8 := p.pieces.flatMap Piece.bytes

def header : Outbound → UInt8
  | .connect _ => 0x10
  | .publish q => q.header
  | .ack a => a.kind.header
  | .subscribe _ => 0x82
  | .pingReq => 0xC0
  | .disconnect => 0xE0

/-- The room a packet needs in front of its content: the gap of a staged packet, or the type byte
and a one-byte length field of a packet written in place. -/
def gap : Outbound → Nat
  | .connect _ | .publish _ | .subscribe _ => headerGap
  | .ack _ | .pingReq | .disconnect => 2

def Ided : Outbound → Prop
  | .publish q => q.qos ≠ .atMostOnce → q.packetId.isSome
  | _ => True

/-- What a packet asks of its own fields, whatever the buffer: every length-prefixed piece fits its
prefix, and a PUBLISH above QoS 0 has its packet id. -/
def Encodable (p : Outbound) : Prop := (∀ piece ∈ p.pieces, piece.Fits) ∧ p.Ided

theorem encode_in_place {p : Outbound} (inPlace : p.gap = 2) (size : Nat) :
    p.encode size = .ofExcept (writeInPlace size (frameOf p.header p.content)) := by
  cases p with
  | ack a =>
    simp [Outbound.encode, Ack.encode, frameOf, content, pieces, header, Piece.bytes,
      Field.length_u16, encode_of_lt]
  | pingReq => simp [Outbound.encode, frameOf, content, pieces, header, encode_of_lt]
  | disconnect => simp [Outbound.encode, frameOf, content, pieces, header, encode_of_lt]
  | _ => simp [gap, headerGap] at inPlace

theorem encode_eq_ok_iff_of_in_place {p : Outbound} {size : Nat} {bytes : List UInt8}
    (inPlace : p.gap = 2) (encodable : p.Encodable) (small : p.content.length < 128) :
    p.encode size = .ok bytes ↔
      p.Encodable ∧ p.gap + p.content.length ≤ size ∧
        1 + (VarInt.encode p.content.length).length + p.content.length ≤ size ∧
        bytes = compacted p.header p.content := by
  have one : (VarInt.encode p.content.length).length = 1 := by rw [VarInt.encode_of_lt small]; rfl
  rw [encode_in_place inPlace, Checked.ofExcept_eq_ok_iff, writeInPlace_eq_ok, length_frameOf,
    compacted_of_fits (by omega), one, inPlace]
  constructor
  · rintro ⟨room, rfl⟩
    exact ⟨encodable, by omega, by omega, rfl⟩
  · rintro ⟨-, room, -, rfl⟩
    exact ⟨by omega, rfl⟩

theorem encode_eq_ok_iff {p : Outbound} {size : Nat} {bytes : List UInt8} :
    p.encode size = .ok bytes ↔
      p.Encodable ∧ p.gap + p.content.length ≤ size ∧
        1 + (VarInt.encode p.content.length).length + p.content.length ≤ size ∧
        bytes = compacted p.header p.content := by
  cases p with
  | connect c =>
    rw [Outbound.encode, Connect.encode_eq_write, Stage.write_eq_ok_iff]
    simp only [Encodable, Ided, and_true, gap, content, pieces, header]
  | subscribe s =>
    rw [Outbound.encode, Subscribe.encode_eq_write, Stage.write_eq_ok_iff]
    simp only [Encodable, Ided, and_true, gap, content, pieces, header]
  | publish q =>
    by_cases ided : q.qos ≠ .atMostOnce → q.packetId.isSome
    · rw [Outbound.encode, Publish.encode_of_ided size ided, Stage.write_eq_ok_iff]
      simp only [Encodable, Ided, and_iff_left ided, gap, content, pieces, header]
    · -- refused once the topic is staged, whatever the buffer
      obtain ⟨numbered, missing⟩ : q.qos ≠ .atMostOnce ∧ q.packetId = none := by simpa using ided
      refine iff_of_false (fun written => ?_) (fun found => ided found.1.2)
      rw [Outbound.encode, Publish.encode, Publish.stage_of_unided size numbered missing,
        Stage.finishStaged_eq_ok] at written
      obtain ⟨_, staged, -⟩ := written
      obtain ⟨_, -, thrown⟩ := bind_eq_ok.mp staged
      cases thrown
  | ack a =>
    exact encode_eq_ok_iff_of_in_place rfl ⟨by simp [pieces, Piece.Fits], trivial⟩
      (by simp [content, pieces, Piece.bytes, Field.length_u16])
  | pingReq => exact encode_eq_ok_iff_of_in_place rfl ⟨by simp [pieces], trivial⟩ (by simp [content, pieces])
  | disconnect => exact encode_eq_ok_iff_of_in_place rfl ⟨by simp [pieces], trivial⟩ (by simp [content, pieces])

theorem encode_error {p : Outbound} {size : Nat} {e : PacketError} (refused : p.encode size = .error e) :
    e = .bufferTooSmall ∨ (e = .protocol .payloadTooLarge ∧ ∃ piece ∈ p.pieces, ¬ piece.Fits) ∨
      (e = .malformed ∧ ¬ p.Ided) := by
  cases p with
  | connect c =>
    rw [Outbound.encode, Connect.encode_eq_write] at refused
    exact (Stage.write_error refused).imp_right .inl
  | subscribe s =>
    rw [Outbound.encode, Subscribe.encode_eq_write] at refused
    exact (Stage.write_error refused).imp_right .inl
  | publish q =>
    by_cases ided : q.qos ≠ .atMostOnce → q.packetId.isSome
    · rw [Outbound.encode, Publish.encode_of_ided size ided] at refused
      exact (Stage.write_error refused).imp_right .inl
    · obtain ⟨numbered, missing⟩ : q.qos ≠ .atMostOnce ∧ q.packetId = none := by simpa using ided
      rw [Outbound.encode, Publish.encode, Publish.stage_of_unided size numbered missing] at refused
      obtain refused | ⟨_, staged, -⟩ := Stage.finishStaged_eq_error.mp refused
      · obtain early | ⟨_, -, thrown⟩ := bind_eq_error.mp refused
        · obtain early | ⟨_, -, staged⟩ := bind_eq_error.mp early
          · exact .inl (Stage.start_error early)
          · rcases Stage.putAll_error staged with small | ⟨large, piece, member, long⟩
            · exact .inl small
            · refine .inr (.inl ⟨large, piece, ?_, long⟩)
              rw [List.mem_singleton] at member
              simp [member, pieces, Publish.pieces]
        · exact .inr (.inr ⟨(Except.error.inj thrown).symm, ided⟩)
      · obtain ⟨_, -, thrown⟩ := bind_eq_ok.mp staged
        cases thrown
  | ack a =>
    rw [encode_in_place rfl, Checked.ofExcept_eq_error_iff] at refused
    exact .inl (writeInPlace_error refused)
  | pingReq =>
    rw [encode_in_place rfl, Checked.ofExcept_eq_error_iff] at refused
    exact .inl (writeInPlace_error refused)
  | disconnect =>
    rw [encode_in_place rfl, Checked.ofExcept_eq_error_iff] at refused
    exact .inl (writeInPlace_error refused)

theorem field_fits_gap {p : Outbound} (fits : p.content.length < 2 ^ 28) :
    1 + (VarInt.encode p.content.length).length ≤ p.gap := by
  have short := length_encode_le_four.mpr fits
  cases p with
  | connect | publish | subscribe => simp only [gap, headerGap]; omega
  | ack a =>
    have one : (VarInt.encode (Outbound.ack a).content.length).length = 1 := by
      rw [VarInt.encode_of_lt (by simp [content, pieces, Piece.bytes, Field.length_u16])]; rfl
    simp only [gap, one]; omega
  | pingReq | disconnect => simp [gap, content, pieces, encode_of_lt]

theorem encode_eq_stops_iff {p : Outbound} {size : Nat} {why : Panic} :
    p.encode size = .stops why ↔
      why = .copyOutOfBounds ∧ p.Encodable ∧ p.gap + p.content.length ≤ size ∧
        size < 1 + (VarInt.encode p.content.length).length + p.content.length := by
  have inPlace (fits : p.content.length < 2 ^ 28) (never : ∀ why, p.encode size ≠ .stops why) :
      p.encode size = .stops why ↔
        why = .copyOutOfBounds ∧ p.Encodable ∧ p.gap + p.content.length ≤ size ∧
          size < 1 + (VarInt.encode p.content.length).length + p.content.length := by
    have room := field_fits_gap fits
    refine iff_of_false (never why) ?_
    rintro ⟨-, -, gapRoom, past⟩
    omega
  cases p with
  | connect c =>
    rw [Outbound.encode, Connect.encode_eq_write, Stage.write_eq_stops_iff]
    simp only [Encodable, Ided, and_true, gap, content, pieces]
  | subscribe s =>
    rw [Outbound.encode, Subscribe.encode_eq_write, Stage.write_eq_stops_iff]
    simp only [Encodable, Ided, and_true, gap, content, pieces]
  | publish q =>
    by_cases ided : q.qos ≠ .atMostOnce → q.packetId.isSome
    · rw [Outbound.encode, Publish.encode_of_ided size ided, Stage.write_eq_stops_iff]
      simp only [Encodable, Ided, and_iff_left ided, gap, content, pieces]
    · -- refused once the topic is staged, whatever the buffer
      obtain ⟨numbered, missing⟩ : q.qos ≠ .atMostOnce ∧ q.packetId = none := by simpa using ided
      refine iff_of_false (fun stopped => ?_) (fun found => ided found.2.1.2)
      rw [Outbound.encode, Publish.encode, Publish.stage_of_unided size numbered missing] at stopped
      obtain ⟨_, staged, -⟩ := Stage.finishStaged_eq_stops.mp stopped
      obtain ⟨_, -, thrown⟩ := bind_eq_ok.mp staged
      cases thrown
  | ack a =>
    exact inPlace (by simp [content, pieces, Piece.bytes, Field.length_u16])
      fun _ => by rw [encode_in_place rfl]; exact Checked.ofExcept_ne_stops _ _
  | pingReq =>
    exact inPlace (by simp [content, pieces]) fun _ => by rw [encode_in_place rfl]; exact Checked.ofExcept_ne_stops _ _
  | disconnect =>
    exact inPlace (by simp [content, pieces]) fun _ => by rw [encode_in_place rfl]; exact Checked.ofExcept_ne_stops _ _

end Outbound

/-- Every packet a client writes, in every buffer: when it is written and what is written (the
content compacted, which below 2 ^ 28 bytes of content is the packet's frame, the bytes that writing
it in place would give), why it is refused otherwise, and where the move of the content behind the
header stops the writer instead. -/
theorem outbound_packets_write_in_place (p : Outbound) (size : Nat) (bytes : List UInt8) :
    (p.encode size = .ok bytes ↔
      p.Encodable ∧ p.gap + p.content.length ≤ size ∧
        1 + (VarInt.encode p.content.length).length + p.content.length ≤ size ∧
        bytes = compacted p.header p.content) ∧
    (p.content.length < 2 ^ 28 →
      (p.encode size = .ok bytes ↔
        p.Encodable ∧ p.gap + p.content.length ≤ size ∧ bytes = frameOf p.header p.content)) ∧
    (∀ e, p.encode size = .error e →
      e = .bufferTooSmall ∨ (e = .protocol .payloadTooLarge ∧ ∃ piece ∈ p.pieces, ¬ piece.Fits) ∨
        (e = .malformed ∧ ¬ p.Ided)) ∧
    (∀ why, p.encode size = .stops why ↔
      why = .copyOutOfBounds ∧ p.Encodable ∧ p.gap + p.content.length ≤ size ∧
        size < 1 + (VarInt.encode p.content.length).length + p.content.length) := by
  refine ⟨Outbound.encode_eq_ok_iff, fun fits => ?_, fun _ => Outbound.encode_error,
    fun _ => Outbound.encode_eq_stops_iff⟩
  have room := Outbound.field_fits_gap fits
  rw [Outbound.encode_eq_ok_iff, compacted_of_fits fits]
  constructor
  · rintro ⟨encodable, gapRoom, -, rfl⟩
    exact ⟨encodable, gapRoom, rfl⟩
  · rintro ⟨encodable, gapRoom, rfl⟩
    exact ⟨encodable, gapRoom, by omega, rfl⟩

/-- A PUBREL for packet 7 fills a buffer of four bytes with its frame. -/
theorem outbound_packets_write_in_place_for_pubrel :
    (Outbound.ack ⟨.pubRel, 7⟩).encode 4 = .ok [0x62, 0x02, 0x00, 0x07] := by
  obtain ⟨-, framed, -, -⟩ := outbound_packets_write_in_place (.ack ⟨.pubRel, 7⟩) 4 [0x62, 0x02, 0x00, 0x07]
  have frame : [0x62, 0x02, 0x00, 0x07] =
      frameOf (Outbound.ack ⟨.pubRel, 7⟩).header (Outbound.ack ⟨.pubRel, 7⟩).content := by
    simp [frameOf, Outbound.header, AckKind.header, Outbound.content, Outbound.pieces, Piece.bytes,
      Field.u16, encode_of_lt]
    decide
  have encodable : (Outbound.ack ⟨.pubRel, 7⟩).Encodable :=
    ⟨by simp [Outbound.pieces, Piece.Fits], trivial⟩
  exact (framed (by decide)).mpr ⟨encodable, by decide, frame⟩

theorem encode_two_pow_28 : VarInt.encode (2 ^ 28) = [0x80, 0x80, 0x80, 0x80, 0x01] := by
  rw [encode_of_le (by norm_num), encode_of_le (by norm_num), encode_of_le (by norm_num),
    encode_of_le (by norm_num), encode_of_lt (by norm_num)]
  decide

/-- A PUBLISH with 2 ^ 28 bytes of content: in a buffer that holds the gap and the content the
move of the content behind the five-byte length field fails its bounds check, and in one byte more
it is not written as its frame, its first content byte being the length field's last byte once
more. -/
theorem long_publish_is_not_written_as_frame :
    (Outbound.publish ⟨"", .atMostOnce, List.replicate 268435454 0x61, none⟩).encode 268435461 =
        .stops .copyOutOfBounds ∧
      ∃ bytes,
        (Outbound.publish ⟨"", .atMostOnce, List.replicate 268435454 0x61, none⟩).encode 268435462 =
          .ok bytes ∧
        bytes ≠ frameOf 0x30 (Outbound.publish ⟨"", .atMostOnce, List.replicate 268435454 0x61, none⟩).content := by
  -- the payload is never built, so no step may unfold the replicated list: only its length is used
  have empty : "".toUTF8.toList = [] := by
    rw [Field.byteArray_toList]
    rfl
  have plain : Publish.wireId ⟨"", .atMostOnce, List.replicate 268435454 0x61, none⟩ = none := rfl
  have content : (Outbound.publish ⟨"", .atMostOnce, List.replicate 268435454 0x61, none⟩).content =
      0x00 :: 0x00 :: List.replicate 268435454 0x61 := by
    simp only [Outbound.content, Outbound.pieces, Publish.pieces, plain, Option.map_none,
      Option.toList_none, List.nil_append, List.flatMap_cons, List.flatMap_nil, Piece.bytes, empty,
      List.append_nil]
    rfl
  have size : (0x00 :: 0x00 :: List.replicate 268435454 (0x61 : UInt8)).length = 2 ^ 28 := by
    rw [List.length_cons, List.length_cons, List.length_replicate]
    norm_num
  have field : VarInt.encode
      (Outbound.publish ⟨"", .atMostOnce, List.replicate 268435454 0x61, none⟩).content.length =
        [0x80, 0x80, 0x80, 0x80, 0x01] := by
    rw [content, size, encode_two_pow_28]
  have encodable : (Outbound.publish ⟨"", .atMostOnce, List.replicate 268435454 0x61, none⟩).Encodable := by
    refine ⟨?_, fun plain => absurd rfl plain⟩
    simp only [Outbound.pieces, Publish.pieces, plain, Option.map_none, Option.toList_none,
      List.nil_append, List.forall_mem_cons, List.not_mem_nil, false_implies, implies_true, and_true,
      Piece.Fits, empty, List.length_nil]
    exact Nat.zero_le _
  refine ⟨Outbound.encode_eq_stops_iff.mpr ⟨rfl, encodable, ?_, ?_⟩, _,
    Outbound.encode_eq_ok_iff.mpr ⟨encodable, ?_, ?_, rfl⟩, ?_⟩
  · rw [content, size]
    decide
  · rw [field, content, size]
    decide
  · rw [content, size]
    decide
  · rw [field, content, size]
    decide
  · intro same
    have sixth := congrArg (fun bs : List UInt8 => (bs.drop 6).head?) same
    simp only [compacted, frameOf, field] at sixth
    rw [content] at sixth
    exact absurd sixth (by decide)

end Gateway.Mqtt
