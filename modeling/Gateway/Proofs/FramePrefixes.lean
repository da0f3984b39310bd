import Gateway.Proofs.InboundGrammar
/-!
What `VarInt.frameLength` answers on every byte string, read off the grammar of a frame alone: a
type byte, a length field of one to four bytes whose number is `r`, and `r` bytes of body. The
answer is the frame's length exactly when the bytes begin with a whole frame, and then the body
lies where `frameBody` finds it, in the bytes and in the frame cut from them; it is "not yet"
exactly when the bytes are a proper prefix of a frame: fewer than two bytes, a length field that
has not ended, or a body that has not all arrived; and it is a refusal exactly when four length
bytes all carry the continuation bit. A length or a refusal stays as it is whatever follows.

Main statement: `frame_length_reads_prefixes`.
-/
namespace Gateway.Mqtt.VarInt

def LengthField (f : List UInt8) : Prop := Form f ∧ f.length ≤ 4

def WholeFrame (F : List UInt8) : Prop :=
  ∃ t f body, F = t :: (f ++ body) ∧ LengthField f ∧ body.length = value f

def OverlongField (b : List UInt8) : Prop :=
  ∃ t f₁ f₂ f₃ f₄ rest, b = t :: f₁ :: f₂ :: f₃ :: f₄ :: rest ∧
    ¬ f₁ < 128 ∧ ¬ f₂ < 128 ∧ ¬ f₃ < 128 ∧ ¬ f₄ < 128

/-- The bytes stop before a frame is whole: fewer than two bytes, a length field that has not
ended, or a field whose body has not all arrived. -/
def CutShort (b : List UInt8) : Prop :=
  b.length < 2 ∨
    (∃ t fs, b = t :: fs ∧ fs ≠ [] ∧ fs.length < 4 ∧ ∀ x ∈ fs, ¬ x < 128) ∨
    ∃ t f rest, b = t :: (f ++ rest) ∧ LengthField f ∧ rest.length < value f

theorem scan_eq_value_iff {l : List UInt8} {v w : Nat} :
    scan l = .value v w ↔ ∃ f rest, l = f ++ rest ∧ LengthField f ∧ v = value f ∧ w = f.length := by
  rw [scan, scanWithin_eq_value_iff (by decide)]
  constructor
  · rintro ⟨f, rest, split, form, fits, rfl, rfl⟩
    exact ⟨f, rest, split, ⟨form, fits⟩, rfl, rfl⟩
  · rintro ⟨f, rest, split, ⟨form, fits⟩, rfl, rfl⟩
    exact ⟨f, rest, split, form, fits, rfl, rfl⟩

theorem scanWithin_eq_short_iff {slots : Nat} (wide : 1 ≤ slots) {l : List UInt8} :
    scanWithin slots l = .short ↔ l.length < slots ∧ ∀ x ∈ l, ¬ x < 128 := by
  induction l generalizing slots with
  | nil => simp [scanWithin]; omega
  | cons b rest ih =>
    rw [scanWithin_cons]
    by_cases low : b < 128
    · simp [low]
    · by_cases few : slots < 2
      · simp only [low, few, if_true, if_false, reduceCtorEq, false_iff, not_and]
        intro long
        simp at long
        omega
      · simp only [low, few, if_false]
        -- Putting a byte in front keeps a field cut short, and nothing else becomes one.
        have extended : (scanWithin (slots - 1) rest).extend b = .short ↔
            scanWithin (slots - 1) rest = .short := by
          cases scanWithin (slots - 1) rest <;> simp [Scan.extend]
        rw [extended, ih (by omega)]
        simp only [List.length_cons, List.mem_cons, forall_eq_or_imp]
        constructor
        · rintro ⟨short, high⟩
          exact ⟨by omega, low, high⟩
        · rintro ⟨short, -, high⟩
          exact ⟨by omega, high⟩

theorem scan_eq_short_iff {l : List UInt8} : scan l = .short ↔ l.length < 4 ∧ ∀ x ∈ l, ¬ x < 128 :=
  scanWithin_eq_short_iff (by decide)

theorem scanWithin_eq_overlong_iff {slots : Nat} (wide : 1 ≤ slots) {l : List UInt8} :
    scanWithin slots l = .overlong ↔ slots ≤ l.length ∧ ∀ x ∈ l.take slots, ¬ x < 128 := by
  induction l generalizing slots with
  | nil => simp [scanWithin]; omega
  | cons b rest ih =>
    rw [scanWithin_cons]
    by_cases low : b < 128
    · have first : b ∈ (b :: rest).take slots := by
        obtain ⟨k, rfl⟩ : ∃ k, slots = k + 1 := ⟨slots - 1, by omega⟩
        simp
      simp only [low, if_true, reduceCtorEq, false_iff, not_and]
      exact fun _ high => high b first low
    · have high : 128 ≤ b := by simpa using low
      by_cases few : slots < 2
      · obtain rfl : slots = 1 := by omega
        simp [high]
      · simp only [low, few, if_false]
        have extended : (scanWithin (slots - 1) rest).extend b = .overlong ↔
            scanWithin (slots - 1) rest = .overlong := by
          cases scanWithin (slots - 1) rest <;> simp [Scan.extend]
        obtain ⟨k, rfl⟩ : ∃ k, slots = k + 1 := ⟨slots - 1, by omega⟩
        rw [extended, ih (by omega)]
        simp [high]

theorem scan_eq_overlong_iff {l : List UInt8} :
    scan l = .overlong ↔ ∃ f₁ f₂ f₃ f₄ rest, l = f₁ :: f₂ :: f₃ :: f₄ :: rest ∧
      ¬ f₁ < 128 ∧ ¬ f₂ < 128 ∧ ¬ f₃ < 128 ∧ ¬ f₄ < 128 := by
  rw [scan, scanWithin_eq_overlong_iff (by decide)]
  rcases l with _ | ⟨f₁, _ | ⟨f₂, _ | ⟨f₃, _ | ⟨f₄, rest⟩⟩⟩⟩ <;> simp

theorem form_append_zero {fs : List UInt8} (high : ∀ x ∈ fs, ¬ x < 128) : Form (fs ++ [0]) := by
  induction fs with
  | nil => exact .last (by decide)
  | cons x rest ih =>
    simp only [List.mem_cons, forall_eq_or_imp] at high
    exact .more high.1 (ih high.2)

theorem frameLength_cons (t : UInt8) (l : List UInt8) :
    frameLength (t :: l) = match scan l with
      | .value r w => .ok (if 1 + w + r ≤ l.length + 1 then some (1 + w + r) else none)
      | .short => .ok none
      | .overlong => .error .malformed :=
  rfl

theorem frameLength_eq_some_iff {b : List UInt8} {n : Nat} :
    frameLength b = .ok (some n) ↔ ∃ t f body rest, b = t :: (f ++ body ++ rest) ∧ LengthField f ∧
      body.length = value f ∧ n = 1 + f.length + body.length := by
  constructor
  · intro found
    obtain ⟨w, r, scanned, rfl, within⟩ := frameLength_some found
    obtain ⟨f, more, split, field, rfl, rfl⟩ := scan_eq_value_iff.mp scanned
    obtain ⟨t, l, rfl⟩ : ∃ t l, b = t :: l := by
      rcases b with _ | ⟨t, l⟩
      · simp [field.1.ne_nil] at split
      · exact ⟨t, l, rfl⟩
    simp only [List.drop_succ_cons, List.drop_zero] at split
    subst split
    have long : value f ≤ more.length := by simp at within; omega
    refine ⟨t, f, more.take (value f), more.drop (value f), by simp, field, by simp; omega, ?_⟩
    simp
    omega
  · rintro ⟨t, f, body, rest, rfl, field, sized, rfl⟩
    have scanned : scan (f ++ (body ++ rest)) = .value (value f) f.length :=
      scan_eq_value_iff.mpr ⟨f, body ++ rest, rfl, field, rfl, rfl⟩
    rw [List.append_assoc, frameLength_cons, scanned, sized]
    simp
    omega

theorem frameBody_of_frame {t : UInt8} {f body rest : List UInt8} (field : LengthField f)
    (sized : body.length = value f) :
    frameBody (t :: (f ++ body ++ rest)) = .ok (1 + f.length, 1 + f.length + body.length) ∧
      frameBody ((t :: (f ++ body ++ rest)).take (1 + f.length + body.length)) =
        .ok (1 + f.length, 1 + f.length + body.length) := by
  have front : ((t :: (f ++ body ++ rest)).drop 1).take f.length = f := by simp
  have form : Form (((t :: (f ++ body ++ rest)).drop 1).take f.length) := by
    rw [front]
    exact field.1
  have framed : Framed (t :: (f ++ body ++ rest)) f.length body.length :=
    ⟨form, field.2, by rw [front, sized], by simp; omega⟩
  exact ⟨framed.frameBody, framed.take.frameBody⟩

theorem wholeFrame_iff_isFrame {F : List UInt8} : WholeFrame F ↔ IsFrame F := by
  unfold WholeFrame IsFrame
  rw [frameLength_eq_some_iff]
  constructor
  · rintro ⟨t, f, body, rfl, field, sized⟩
    exact ⟨t, f, body, [], by simp, field, sized, by simp; omega⟩
  · rintro ⟨t, f, body, rest, split, field, sized, total⟩
    -- The frame is the whole of `F`, so nothing follows its body.
    have none_after : rest = [] := by
      rw [split] at total
      simp at total
      exact List.eq_nil_of_length_eq_zero (by omega)
    exact ⟨t, f, body, by simp [split, none_after], field, sized⟩

theorem frameLength_eq_none_iff_cutShort {b : List UInt8} : frameLength b = .ok none ↔ CutShort b := by
  rcases b with _ | ⟨t, l⟩
  · simp [frameLength, scan, scanWithin, CutShort]
  rw [frameLength_cons]
  cases scanned : scan l with
  | value r w =>
    obtain ⟨f, rest, rfl, field, rfl, rfl⟩ := scan_eq_value_iff.mp scanned
    simp only [Except.ok.injEq, ite_eq_right_iff, reduceCtorEq, imp_false, not_le]
    have size : (f ++ rest).length = f.length + rest.length := List.length_append
    constructor
    · intro long
      exact .inr (.inr ⟨t, f, rest, rfl, field, by omega⟩)
    · rintro (two | ⟨t', fs, split, -, few, high⟩ | ⟨t', f', rest', split, field', short⟩)
      · have := field.1.length_pos
        simp only [List.length_cons, List.length_append] at two
        omega
      · -- A field that has ended is no field cut short.
        simp only [List.cons.injEq] at split
        obtain ⟨rfl, rfl⟩ := split
        rw [scan_eq_short_iff.mpr ⟨few, high⟩] at scanned
        cases scanned
      · -- The field read there is the same field, so the body is the same short one.
        simp only [List.cons.injEq] at split
        obtain ⟨-, same⟩ := split
        have two := scan_eq_value_iff.mpr ⟨f', rest', same, field', rfl, rfl⟩
        rw [scanned, Scan.value.injEq] at two
        obtain ⟨sameValue, sameWidth⟩ := two
        have lengths := congrArg List.length same
        simp only [List.length_append] at lengths
        omega
  | short =>
    obtain ⟨few, high⟩ := scan_eq_short_iff.mp scanned
    simp only [true_iff]
    rcases l with _ | ⟨x, more⟩
    · exact .inl (by simp)
    · exact .inr (.inl ⟨t, x :: more, rfl, by simp, few, high⟩)
  | overlong =>
    simp only [reduceCtorEq, false_iff]
    rintro (two | ⟨t', fs, split, -, few, -⟩ | ⟨t', f, rest, split, field, -⟩)
    · obtain ⟨f₁, f₂, f₃, f₄, rest, rfl, -⟩ := scan_eq_overlong_iff.mp scanned
      simp at two
    · simp only [List.cons.injEq] at split
      obtain ⟨rfl, rfl⟩ := split
      obtain ⟨f₁, f₂, f₃, f₄, rest, rfl, -⟩ := scan_eq_overlong_iff.mp scanned
      simp at few
      omega
    · simp only [List.cons.injEq] at split
      obtain ⟨rfl, rfl⟩ := split
      rw [scan_eq_value_iff.mpr ⟨f, rest, rfl, field, rfl, rfl⟩] at scanned
      cases scanned

theorem CutShort.extends {b : List UInt8} (cut : CutShort b) :
    ∃ F, WholeFrame F ∧ b <+: F ∧ b.length < F.length := by
  rcases cut with two | ⟨t, fs, rfl, -, few, high⟩ | ⟨t, f, rest, rfl, field, short⟩
  · -- A type byte and a zero length field make a frame with no body.
    have frame (t : UInt8) : WholeFrame [t, 0] := ⟨t, [0], [], rfl, ⟨.last (by decide), by decide⟩, rfl⟩
    rcases b with _ | ⟨t, _ | ⟨x, more⟩⟩
    · exact ⟨[0, 0], frame 0, List.nil_prefix, by simp⟩
    · exact ⟨[t, 0], frame t, ⟨[0], rfl⟩, by simp⟩
    · simp at two
  · -- The field ends at one more byte, and a body of zeros follows.
    have field : LengthField (fs ++ [0]) := ⟨form_append_zero high, by simp; omega⟩
    refine ⟨t :: (fs ++ [0] ++ List.replicate (value (fs ++ [0])) 0),
      ⟨t, fs ++ [0], _, rfl, field, List.length_replicate⟩, ?_, by simp⟩
    exact ⟨0 :: List.replicate (value (fs ++ [0])) 0, by simp⟩
  · -- The body is padded with zeros up to the length the field announces.
    refine ⟨t :: (f ++ (rest ++ List.replicate (value f - rest.length) 0)),
      ⟨t, f, _, rfl, field, by simp; omega⟩, ⟨List.replicate (value f - rest.length) 0, by simp⟩, ?_⟩
    simp
    omega

theorem frameLength_eq_none_iff {b : List UInt8} :
    frameLength b = .ok none ↔ ∃ F, WholeFrame F ∧ b <+: F ∧ b.length < F.length := by
  constructor
  · intro pending
    exact (frameLength_eq_none_iff_cutShort.mp pending).extends
  · rintro ⟨F, frame, front, short⟩
    rw [List.prefix_iff_eq_take.mp front]
    exact (wholeFrame_iff_isFrame.mp frame).take_of_lt short

theorem frameLength_eq_error_iff {b : List UInt8} {e : PacketError} :
    frameLength b = .error e ↔ e = .malformed ∧ OverlongField b := by
  rcases b with _ | ⟨t, l⟩
  · simp [frameLength, scan, scanWithin, OverlongField]
  rw [frameLength_cons]
  have overlong : OverlongField (t :: l) ↔ scan l = .overlong := by
    rw [scan_eq_overlong_iff]
    simp [OverlongField]
  rw [overlong]
  cases scan l with
  | value r w => simp
  | short => simp
  | overlong => simp [eq_comm]

end Gateway.Mqtt.VarInt

namespace Gateway.Mqtt
open VarInt

/-- `frameLength` gives the length of the frame the bytes begin with, and `frameBody` then finds
its body in the bytes and in the frame cut from them; it answers "not yet" exactly on the proper
prefixes of frames, which are the bytes that stop inside the length field or the body or before
it; it refuses exactly when four length bytes carry the continuation bit; and a length or a
refusal does not change with bytes appended. -/
theorem frame_length_reads_prefixes :
    (∀ b n, frameLength b = .ok (some n) ↔ ∃ t f body rest, b = t :: (f ++ body ++ rest) ∧
      LengthField f ∧ body.length = value f ∧ n = 1 + f.length + body.length) ∧
    (∀ t f body rest, LengthField f → body.length = value f →
      frameBody (t :: (f ++ body ++ rest)) = .ok (1 + f.length, 1 + f.length + body.length) ∧
      frameBody ((t :: (f ++ body ++ rest)).take (1 + f.length + body.length)) =
        .ok (1 + f.length, 1 + f.length + body.length)) ∧
    (∀ b, frameLength b = .ok none ↔ ∃ F, WholeFrame F ∧ b <+: F ∧ b.length < F.length) ∧
    (∀ b, frameLength b = .ok none ↔ CutShort b) ∧
    (∀ b e, frameLength b = .error e ↔ e = .malformed ∧ OverlongField b) ∧
    (∀ b c n, frameLength b = .ok (some n) → frameLength (b ++ c) = .ok (some n)) ∧
    (∀ b c e, frameLength b = .error e → frameLength (b ++ c) = .error e) :=
  ⟨fun _ _ => frameLength_eq_some_iff, fun _ _ _ _ field sized => frameBody_of_frame field sized,
    fun _ => frameLength_eq_none_iff, fun _ => frameLength_eq_none_iff_cutShort,
    fun _ _ => frameLength_eq_error_iff, fun _ c _ found => frameLength_append_of_some found c,
    fun _ c _ refused => frameLength_append_of_error refused c⟩

/-- A PUBLISH with a one-byte length field of 5 and one byte after it: its body is bytes 2 to 7, in
the bytes and in the frame cut from them. -/
theorem frame_length_reads_prefixes_for_publish :
    LengthField [5] ∧ [0x00, 0x01, 0x61, 0x78, 0x79].length = value [5] ∧
      frameBody (0x30 :: ([5] ++ [0x00, 0x01, 0x61, 0x78, 0x79] ++ [0x00])) = .ok (2, 7) ∧
      frameBody ((0x30 :: ([5] ++ [0x00, 0x01, 0x61, 0x78, 0x79] ++ [0x00])).take 7) = .ok (2, 7) :=
  have field : LengthField [5] := ⟨.last (by decide), by decide⟩
  have sized : [0x00, 0x01, 0x61, 0x78, 0x79].length = value [5] := rfl
  ⟨field, sized, frame_length_reads_prefixes.2.1 0x30 [5] _ [0x00] field sized⟩

end Gateway.Mqtt
