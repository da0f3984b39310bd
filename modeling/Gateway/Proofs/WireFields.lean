import Gateway.Proofs.RoundTrip
/-!
The fields every packet is built from, each read at a cursor into the bytes. A remaining-length
field holds a number in groups of seven bits, the least significant group first, with the top bit
set on every byte but the last (`VarInt.Form`, `VarInt.value`). The writer puts down the shortest
such field of any number, one byte per base-128 digit and with no limit on their count; the
reader takes a field of at most four bytes, shortest or not. So the reader takes back what the
writer wrote exactly for numbers below 2 ^ 28, and writing what was read gives back the bytes
exactly when they were the shortest field (`VarInt.Shortest`). A two-byte number and a text
field behind its two-byte length complete the set.

Every reader refuses as malformed when the bytes it needs are not all there, and a reader that
succeeds hands back a cursor that lies inside the bytes. The cursor is the caller's word: the
two-byte and text readers add to it before they look at the bytes, so at the two top cursors, and
where a text would end past the largest word, they stop on the overflow instead
(`Field.readU16At`, `Field.readUtf8At`); the remaining-length reader adds only behind a byte it
found, and never stops.

Main statement (`wire_fields_read_back`): all of the above at once, for every number, buffer size,
cursor, string and bytes.
-/
namespace Gateway.Mqtt.VarInt

/-- The number the bytes of a field hold: seven bits a byte, the least significant group first. -/
def value (f : List UInt8) : Nat := f.foldr (fun b acc => b.toNat % 128 + 128 * acc) 0

/-- The bytes of one field: the top bit is set on every byte but the last. -/
inductive Form : List UInt8 → Prop
  | last {b : UInt8} : b < 128 → Form [b]
  | more {b : UInt8} {rest : List UInt8} : ¬ b < 128 → Form rest → Form (b :: rest)

/-- A field without a needless group: its last byte is 0 only when it is its only byte. -/
def Shortest (f : List UInt8) : Prop := f.getLast? = some 0 → f.length = 1

@[simp] theorem value_nil : value [] = 0 := rfl

@[simp] theorem value_cons (b : UInt8) (rest : List UInt8) :
    value (b :: rest) = b.toNat % 128 + 128 * value rest := rfl

theorem Form.ne_nil {f : List UInt8} (form : Form f) : f ≠ [] := by
  cases form <;> simp

theorem toNat_of_lt {b : UInt8} (low : b < 128) : b.toNat < 128 := by
  rwa [UInt8.lt_iff_toNat_lt] at low

theorem toNat_of_not_lt {b : UInt8} (high : ¬ b < 128) : 128 ≤ b.toNat := by
  rw [UInt8.lt_iff_toNat_lt] at high
  simp at high
  omega

theorem low_toUInt8 {n : Nat} (small : n < 128) : n.toUInt8 < 128 ∧ n.toUInt8.toNat = n := by
  have exact : n.toUInt8.toNat = n := by simp; omega
  exact ⟨by rw [UInt8.lt_iff_toNat_lt, exact]; simpa using small, exact⟩

theorem high_toUInt8 (n : Nat) :
    ¬ (n % 128 + 128).toUInt8 < 128 ∧ (n % 128 + 128).toUInt8.toNat = n % 128 + 128 := by
  have exact : (n % 128 + 128).toUInt8.toNat = n % 128 + 128 := by simp; omega
  exact ⟨continuation_not_lt n, exact⟩

/-! What the writer puts down. -/

theorem encode_form (n : Nat) : Form (encode n) := by
  induction n using encode.induct with
  | case1 n small =>
    rw [encode_of_lt small]
    exact .last (low_toUInt8 small).1
  | case2 n big ih =>
    rw [encode_of_le (by omega)]
    exact .more (high_toUInt8 n).1 ih

theorem value_encode (n : Nat) : value (encode n) = n := by
  induction n using encode.induct with
  | case1 n small =>
    rw [encode_of_lt small]
    simp [(low_toUInt8 small).2]
    omega
  | case2 n big ih =>
    rw [encode_of_le (by omega), value_cons, ih, (high_toUInt8 n).2]
    omega

theorem map_encode (n : Nat) :
    (encode n).map (fun b => b.toNat % 128) = if n = 0 then [0] else Nat.digits 128 n := by
  induction n using encode.induct with
  | case1 n small =>
    rw [encode_of_lt small]
    rcases Nat.eq_zero_or_pos n with rfl | pos
    · rfl
    · rw [if_neg (by omega), Nat.digits_def' (by norm_num) pos, Nat.div_eq_of_lt small]
      simp [(low_toUInt8 small).2]
  | case2 n big ih =>
    rw [encode_of_le (by omega), List.map_cons, ih, if_neg (by omega), if_neg (by omega),
      Nat.digits_def' (by norm_num) (by omega : 0 < n), (high_toUInt8 n).2]
    simp

theorem length_encode (n : Nat) : (encode n).length = max 1 (Nat.digits 128 n).length := by
  have groups := congrArg List.length (map_encode n)
  rw [List.length_map] at groups
  rw [groups]
  split
  · simp_all
  · rename_i nonzero
    have digits : Nat.digits 128 n ≠ [] := Nat.digits_ne_nil_iff_ne_zero.mpr nonzero
    have := List.length_pos_iff.mpr digits
    omega

theorem length_encode_max : (encode (2 ^ 64 - 1)).length = 10 := by
  have within : (encode (2 ^ 64 - 1)).length ≤ 10 := (length_encode_le_iff (by norm_num)).mpr (by norm_num)
  have beyond : ¬ (encode (2 ^ 64 - 1)).length ≤ 9 := by
    rw [length_encode_le_iff (by norm_num)]
    norm_num
  omega

theorem Form.last_zero {f : List UInt8} (form : Form f) (zero : value f = 0) :
    f.getLast? = some 0 := by
  induction form with
  | @last b low =>
    have : b.toNat = 0 := by have := toNat_of_lt low; simp at zero; omega
    simp [UInt8.toNat_inj.mp (by simpa using this : b.toNat = (0 : UInt8).toNat)]
  | @more b rest high inner ih =>
    have restZero : value rest = 0 := by simp at zero; omega
    rw [List.getLast?_cons, ih restZero]
    rfl

theorem encode_shortest (n : Nat) : Shortest (encode n) := by
  induction n using encode.induct with
  | case1 n small =>
    rw [encode_of_lt small]
    intro _
    rfl
  | case2 n big ih =>
    rw [encode_of_le (by omega)]
    intro ends
    -- the groups after the first hold n / 128, which is not 0, so the last byte is not 0 either
    obtain ⟨a, t, split⟩ := List.exists_cons_of_ne_nil (encode_ne_nil (n / 128))
    have inner : (encode (n / 128)).getLast? = some 0 := by
      rwa [split, List.getLast?_cons_cons, ← split] at ends
    have one := ih inner
    obtain ⟨b, hb⟩ := List.length_eq_one_iff.mp one
    have last : b = 0 := by simpa [hb] using inner
    have held := value_encode (n / 128)
    rw [hb, last] at held
    simp at held
    omega

theorem encode_value_iff {f : List UInt8} (form : Form f) : encode (value f) = f ↔ Shortest f := by
  constructor
  · intro written
    rw [← written]
    exact encode_shortest _
  · intro shortest
    induction form with
    | @last b low =>
      have small := toNat_of_lt low
      rw [value_cons, value_nil, Nat.mul_zero, Nat.add_zero, Nat.mod_eq_of_lt small,
        encode_of_lt small]
      simp
    | @more b rest high inner ih =>
      have big := toNat_of_not_lt high
      -- a shortest field of two or more bytes does not end in 0: so its rest is shortest too
      -- and holds a number that is not 0
      have lastNonzero : rest.getLast? ≠ some 0 := by
        intro ends
        have whole : (b :: rest).getLast? = some 0 := by
          rw [List.getLast?_cons, ends]
          rfl
        have := shortest whole
        simp at this
        exact inner.ne_nil this
      have restShortest : Shortest rest := fun ends => absurd ends lastNonzero
      have restValue : value rest ≠ 0 := fun zero => lastNonzero (inner.last_zero zero)
      have byte : (value (b :: rest) % 128 + 128).toUInt8 = b := by
        apply UInt8.toNat_inj.mp
        rw [(high_toUInt8 _).2, value_cons]
        have := b.toNat_lt
        omega
      rw [encode_of_le (by rw [value_cons]; omega), byte, value_cons,
        show (b.toNat % 128 + 128 * value rest) / 128 = value rest by omega, ih restShortest]

/-! What the reader takes. -/

theorem scanWithin_eq_value_iff {slots : Nat} (wide : 1 ≤ slots) {l : List UInt8} {v w : Nat} :
    scanWithin slots l = .value v w ↔
      ∃ f rest, l = f ++ rest ∧ Form f ∧ f.length ≤ slots ∧ v = value f ∧ w = f.length := by
  induction l generalizing slots v w with
  | nil =>
    simp only [scanWithin, reduceCtorEq, List.nil_eq_append_iff, false_iff, not_exists, not_and]
    rintro f rest ⟨rfl, rfl⟩ form
    exact absurd rfl form.ne_nil
  | cons b rest ih =>
    rw [scanWithin_cons]
    by_cases low : b < 128
    · simp only [low, if_true, Scan.value.injEq]
      constructor
      · rintro ⟨rfl, rfl⟩
        refine ⟨[b], rest, rfl, .last low, by simpa using wide, ?_, rfl⟩
        simp [Nat.mod_eq_of_lt (toNat_of_lt low)]
      · rintro ⟨f, rest', split, form, -, rfl, rfl⟩
        cases form with
        | @last c _ =>
          simp only [List.cons_append, List.nil_append, List.cons.injEq] at split
          obtain ⟨rfl, rfl⟩ := split
          simp [Nat.mod_eq_of_lt (toNat_of_lt low)]
        | more high _ =>
          simp only [List.cons_append, List.cons.injEq] at split
          exact absurd (split.1 ▸ low) high
    · simp only [low, if_false]
      by_cases few : slots < 2
      · simp only [few, if_true, reduceCtorEq, false_iff, not_exists, not_and]
        rintro f rest' split form fits rfl rfl
        cases form with
        | @last c small =>
          simp only [List.cons_append, List.nil_append, List.cons.injEq] at split
          exact low (split.1 ▸ small)
        | more _ inner =>
          have := inner.ne_nil
          simp only [List.length_cons] at fits
          have : 1 ≤ (List.length _) := List.length_pos_iff.mpr this
          omega
      · simp only [few, if_false]
        constructor
        · intro found
          obtain ⟨v', w', inner, rfl, rfl⟩ := extend_eq_value found
          obtain ⟨f, rest', split, form, fits, rfl, rfl⟩ := (ih (by omega)).mp inner
          refine ⟨b :: f, rest', by simp [split], .more low form, by simp; omega, by simp, by simp⟩
        · rintro ⟨f, rest', split, form, fits, rfl, rfl⟩
          cases form with
          | @last c small =>
            simp only [List.cons_append, List.nil_append, List.cons.injEq] at split
            exact absurd (split.1 ▸ small) low
          | @more c f' _ inner =>
            simp only [List.cons_append, List.cons.injEq] at split
            obtain ⟨rfl, rfl⟩ := split
            have found : scanWithin (slots - 1) (f' ++ rest') = .value (value f') f'.length :=
              (ih (by omega)).mpr ⟨f', rest', rfl, inner, by simp at fits; omega, rfl, rfl⟩
            rw [found]
            simp [Scan.extend]

theorem Form.length_pos {f : List UInt8} (form : Form f) : 1 ≤ f.length :=
  List.length_pos_iff.mpr form.ne_nil

theorem readAt_eq_ok_iff {bs : List UInt8} {c v c' : Nat} :
    readAt bs c = .ok (v, c') ↔
      ∃ f rest, bs.drop c = f ++ rest ∧ Form f ∧ f.length ≤ 4 ∧ v = value f ∧ c' = c + f.length := by
  unfold readAt
  constructor
  · intro read
    split at read
    · rename_i v' w found
      simp only [Except.ok.injEq, Prod.mk.injEq] at read
      obtain ⟨rfl, rfl⟩ := read
      obtain ⟨f, rest, split, form, fits, rfl, rfl⟩ := (scanWithin_eq_value_iff (by norm_num)).mp found
      exact ⟨f, rest, split, form, fits, rfl, rfl⟩
    · simp at read
  · rintro ⟨f, rest, split, form, fits, rfl, rfl⟩
    have found : scan (bs.drop c) = .value (value f) f.length :=
      (scanWithin_eq_value_iff (by norm_num)).mpr ⟨f, rest, split, form, fits, rfl, rfl⟩
    rw [found]

theorem readAt_eq_error {bs : List UInt8} {c : Nat} {e : PacketError} (refused : readAt bs c = .error e) :
    e = .malformed := by
  unfold readAt at refused
  split at refused <;> simp_all

theorem readAt_of_end {bs : List UInt8} {c : Nat} (past : bs.length ≤ c) : readAt bs c = .error .malformed := by
  simp [readAt, List.drop_eq_nil_of_le past, scan, scanWithin]

theorem readAt_encode_append {bs rest : List UInt8} {c n : Nat} (at_cursor : bs.drop c = encode n ++ rest) :
    readAt bs c = if n < 2 ^ 28 then .ok (n, c + (encode n).length) else .error .malformed := by
  rw [readAt, at_cursor, scan_encode_append]
  by_cases small : n < 2 ^ 28
  · rw [if_pos small, if_pos small]
  · rw [if_neg small, if_neg small]

/-! The writer. -/

theorem write_eq_ok_iff {room n : Nat} {bs : List UInt8} :
    write room n = .ok bs ↔ (encode n).length ≤ room ∧ bs = encode n := by
  unfold write
  split <;> simp_all [eq_comm]

theorem write_eq_error_iff {room n : Nat} {e : PacketError} :
    write room n = .error e ↔ room < (encode n).length ∧ e = .bufferTooSmall := by
  unfold write
  split
  · simp; omega
  · simp_all [eq_comm]

end Gateway.Mqtt.VarInt

namespace Gateway.Mqtt.Field

theorem join_toNat (hi lo : UInt8) : (hi.toUInt16 <<< 8 ||| lo.toUInt16).toNat = 256 * hi.toNat + lo.toNat := by
  have low : lo.toNat < 2 ^ 8 := lo.toNat_lt
  have high : hi.toNat < 2 ^ 8 := hi.toNat_lt
  simp only [UInt16.toNat_or, UInt16.toNat_shiftLeft, UInt8.toNat_toUInt16,
    show UInt16.toNat 8 % 16 = 8 from rfl]
  rw [Nat.mod_eq_of_lt (by rw [Nat.shiftLeft_eq]; omega), ← Nat.shiftLeft_add_eq_or_of_lt low,
    Nat.shiftLeft_eq]
  omega

theorem u16_eq_of_toNat {n : UInt16} {hi lo : UInt8} (joined : n.toNat = 256 * hi.toNat + lo.toNat) :
    u16 n = [hi, lo] := by
  have lowBound := lo.toNat_lt
  have highBound := hi.toNat_lt
  have high : (n >>> 8).toUInt8 = hi := by
    apply UInt8.toNat_inj.mp
    simp only [UInt16.toNat_toUInt8, UInt16.toNat_shiftRight, show UInt16.toNat 8 % 16 = 8 from rfl,
      Nat.shiftRight_eq_div_pow, joined]
    omega
  have low : n.toUInt8 = lo := by
    apply UInt8.toNat_inj.mp
    simp only [UInt16.toNat_toUInt8, joined]
    omega
  simp [u16, high, low]

theorem readU16_eq_ok_iff {bs : List UInt8} {c c' : Nat} {n : UInt16} :
    readU16 bs c = .ok (n, c') ↔
      ∃ hi lo rest, bs.drop c = hi :: lo :: rest ∧ n.toNat = 256 * hi.toNat + lo.toNat ∧ c' = c + 2 := by
  unfold readU16
  split
  · rename_i hi lo rest at_c
    simp only [Except.ok.injEq, Prod.mk.injEq]
    constructor
    · rintro ⟨rfl, rfl⟩
      exact ⟨hi, lo, rest, at_c, join_toNat hi lo, rfl⟩
    · rintro ⟨hi', lo', rest', at_c', joined, rfl⟩
      rw [at_c] at at_c'
      simp only [List.cons.injEq] at at_c'
      obtain ⟨rfl, rfl, -⟩ := at_c'
      exact ⟨UInt16.toNat_inj.mp (by rw [join_toNat, joined]), rfl⟩
  · rename_i none_fits
    simp only [reduceCtorEq, false_iff, not_exists, not_and]
    intro hi lo rest at_c
    exact absurd at_c (none_fits hi lo rest)

theorem readU16_eq_ok_iff_u16 {bs : List UInt8} {c c' : Nat} {n : UInt16} :
    readU16 bs c = .ok (n, c') ↔ ∃ rest, bs.drop c = u16 n ++ rest ∧ c' = c + 2 := by
  constructor
  · intro read
    obtain ⟨hi, lo, rest, at_c, joined, rfl⟩ := readU16_eq_ok_iff.mp read
    exact ⟨rest, by rw [at_c, u16_eq_of_toNat joined]; rfl, rfl⟩
  · rintro ⟨rest, at_c, rfl⟩
    exact readU16_of_drop at_c

theorem readU16_eq_error_iff {bs : List UInt8} {c : Nat} {e : PacketError} :
    readU16 bs c = .error e ↔ bs.length < c + 2 ∧ e = .malformed := by
  unfold readU16
  split
  · rename_i hi lo rest at_c
    have size := congrArg List.length at_c
    simp only [List.length_drop, List.length_cons] at size
    simp only [reduceCtorEq, false_iff, not_and]
    intro short
    omega
  · rename_i none_fits
    have short : bs.length < c + 2 := by
      rcases at_c : bs.drop c with _ | ⟨hi, _ | ⟨lo, rest⟩⟩
      · have size := congrArg List.length at_c
        simp at size
        omega
      · have size := congrArg List.length at_c
        simp at size
        omega
      · exact absurd at_c (none_fits hi lo rest)
    constructor
    · rintro ⟨⟩
      exact ⟨short, rfl⟩
    · rintro ⟨-, rfl⟩
      rfl

theorem toList_of_fromUTF8? {text : List UInt8} {s : String}
    (decoded : String.fromUTF8? ⟨text.toArray⟩ = some s) : s.toUTF8.toList = text := by
  unfold String.fromUTF8? at decoded
  split at decoded
  · simp only [Option.some.injEq] at decoded
    subst decoded
    rw [byteArray_toList]
    rfl
  · cases decoded

theorem length_toUTF8 (s : String) : s.toUTF8.toList.length = s.utf8ByteSize := by
  rw [byteArray_toList]
  simp

theorem readUtf8_eq_ok_iff {bs : List UInt8} {c c' : Nat} {s : String} :
    readUtf8 bs c = .ok (s, c') ↔
      ∃ rest, bs.drop c = u16 s.utf8ByteSize.toUInt16 ++ s.toUTF8.toList ++ rest ∧
        s.utf8ByteSize ≤ maxPrefixed ∧ c' = c + 2 + s.utf8ByteSize := by
  constructor
  · intro read
    unfold readUtf8 at read
    cases lengthField : readU16 bs c with
    | error e => simp [lengthField] at read
    | ok pair =>
      obtain ⟨len, start⟩ := pair
      obtain ⟨hi, lo, tail, at_c, joined, rfl⟩ := readU16_eq_ok_iff.mp lengthField
      simp only [lengthField] at read
      have after : bs.drop (c + 2) = tail := by
        rw [← List.drop_drop, at_c]
        rfl
      rw [after] at read
      split at read
      · cases read
      · rename_i whole
        split at read
        · rename_i s' decoded
          simp only [Except.ok.injEq, Prod.mk.injEq] at read
          obtain ⟨same, rfl⟩ := read
          subst s'
          have bytes := toList_of_fromUTF8? decoded
          have size : s.utf8ByteSize = len.toNat := by
            have := List.length_take_le len.toNat tail
            rw [← length_toUTF8, bytes]
            omega
          have bound : len.toNat < 2 ^ 16 := len.toNat_lt
          refine ⟨tail.drop len.toNat, ?_, by simp only [maxPrefixed]; omega, by rw [size]⟩
          have field : u16 s.utf8ByteSize.toUInt16 = [hi, lo] := by
            apply u16_eq_of_toNat
            simp only [Nat.toUInt16_eq, UInt16.toNat_ofNat', size]
            omega
          rw [at_c, field, bytes]
          simp
        · cases read
  · rintro ⟨rest, at_c, fits, rfl⟩
    have field : prefixed s.toUTF8.toList = .ok (u16 s.utf8ByteSize.toUInt16 ++ s.toUTF8.toList) :=
      prefixed_eq_ok.mpr ⟨by rw [length_toUTF8]; exact fits, by rw [length_toUTF8]⟩
    rw [readUtf8_of_drop field (by rw [at_c, List.append_assoc])]
    simp only [List.length_append, length_u16, length_toUTF8, Nat.add_assoc]

theorem readUtf8_of_short {bs : List UInt8} {c : Nat} (short : bs.length < c + 2) :
    readUtf8 bs c = .error .malformed := by
  have refused : readU16 bs c = .error .malformed := readU16_eq_error_iff.mpr ⟨short, rfl⟩
  simp [readUtf8, refused]

theorem readUtf8_of_cut {bs : List UInt8} {c : Nat} {len : UInt16}
    (lengthField : readU16 bs c = .ok (len, c + 2)) (cut : bs.length < c + 2 + len.toNat) :
    readUtf8 bs c = .error .malformed := by
  have inside := (readU16_bounds lengthField).2
  have few : ((bs.drop (c + 2)).take len.toNat).length < len.toNat := by
    rw [List.length_take, List.length_drop, Nat.min_def]
    split <;> omega
  simp only [readUtf8, lengthField, few, if_true]

theorem readUtf8_eq_invalid_iff {bs : List UInt8} {c : Nat} :
    readUtf8 bs c = .error (.protocol .invalidUtf8String) ↔
      ∃ len text rest, bs.drop c = u16 len ++ text ++ rest ∧ text.length = len.toNat ∧
        String.fromUTF8? ⟨text.toArray⟩ = none := by
  constructor
  · intro refused
    unfold readUtf8 at refused
    cases lengthField : readU16 bs c with
    | error e =>
      simp only [lengthField, Except.error.injEq] at refused
      have := (readU16_eq_error_iff.mp (refused ▸ lengthField)).2
      cases this
    | ok pair =>
      obtain ⟨len, start⟩ := pair
      obtain ⟨hi, lo, tail, at_c, joined, rfl⟩ := readU16_eq_ok_iff.mp lengthField
      simp only [lengthField] at refused
      have after : bs.drop (c + 2) = tail := by
        rw [← List.drop_drop, at_c]
        rfl
      rw [after] at refused
      split at refused
      · cases refused
      · rename_i whole
        split at refused
        · cases refused
        · rename_i bad
          have := List.length_take_le len.toNat tail
          refine ⟨len, tail.take len.toNat, tail.drop len.toNat, ?_, by omega, bad⟩
          rw [at_c, u16_eq_of_toNat joined]
          simp
  · rintro ⟨len, text, rest, at_c, size, bad⟩
    have lengthField : readU16 bs c = .ok (len, c + 2) :=
      readU16_of_drop (by rw [at_c, List.append_assoc])
    have after : bs.drop (c + 2) = text ++ rest := by
      rw [← List.drop_drop, at_c, List.append_assoc, List.drop_left' (length_u16 len)]
    have whole : ¬ text.length < len.toNat := by omega
    simp only [readUtf8, lengthField, after, List.take_left' size, bad, whole, if_false]

theorem readUtf8_error {bs : List UInt8} {c : Nat} {e : PacketError} (refused : readUtf8 bs c = .error e) :
    e = .malformed ∨ e = .protocol .invalidUtf8String := by
  unfold readUtf8 at refused
  cases lengthField : readU16 bs c with
  | error e' =>
    simp only [lengthField, Except.error.injEq] at refused
    exact .inl (readU16_eq_error_iff.mp (refused ▸ lengthField)).2
  | ok pair =>
    obtain ⟨len, start⟩ := pair
    simp only [lengthField] at refused
    split at refused
    · simp_all
    · split at refused
      · cases refused
      · simp_all

theorem writeUtf8_of_long {room : Nat} {s : String} (long : maxPrefixed < s.utf8ByteSize) :
    writeUtf8 room s = .error (.protocol .payloadTooLarge) := by
  have refused : prefixed s.toUTF8.toList = .error (.protocol .payloadTooLarge) := by
    rw [prefixed, if_neg (by rw [length_toUTF8]; omega)]
  rw [writeUtf8, refused]

theorem writeUtf8_eq_ok_iff {room : Nat} {s : String} {field : List UInt8} :
    writeUtf8 room s = .ok field ↔
      s.utf8ByteSize ≤ maxPrefixed ∧ 2 + s.utf8ByteSize ≤ room ∧
        field = u16 s.utf8ByteSize.toUInt16 ++ s.toUTF8.toList := by
  unfold writeUtf8
  split
  · rename_i e refused
    simp only [reduceCtorEq, false_iff, not_and]
    intro fits
    rw [prefixed_eq_ok.mpr ⟨by rw [length_toUTF8]; exact fits, rfl⟩] at refused
    cases refused
  · rename_i written prefixedOk
    obtain ⟨fits, rfl⟩ := prefixed_eq_ok.mp prefixedOk
    rw [length_toUTF8] at fits ⊢
    have size : (u16 s.utf8ByteSize.toUInt16 ++ s.toUTF8.toList).length = 2 + s.utf8ByteSize := by
      rw [List.length_append, length_u16, length_toUTF8]
    by_cases room' : 2 + s.utf8ByteSize ≤ room
    · rw [if_pos (size ▸ room')]
      simp [fits, room', eq_comm]
    · rw [if_neg (size ▸ room')]
      simp [room']

/-! Reads at a cursor of the caller, where the end of each field is a sum of words. -/

theorem readU16At_of_top {bs : List UInt8} {c : Nat} (top : wordMax < c + 2) :
    readU16At bs c = .stops .addOverflow := if_pos top

theorem readU16At_of_le {bs : List UInt8} {c : Nat} (fits : c + 2 ≤ wordMax) :
    readU16At bs c = .ofExcept (readU16 bs c) := if_neg (Nat.not_lt.mpr fits)

theorem readU16At_eq_stops_iff {bs : List UInt8} {c : Nat} {why : Panic} :
    readU16At bs c = .stops why ↔ why = .addOverflow ∧ wordMax < c + 2 := by
  by_cases top : wordMax < c + 2
  · simp [readU16At_of_top top, eq_comm, top]
  · simp [readU16At_of_le (Nat.not_lt.mp top), top]

theorem readU16At_eq_ok_iff {bs : List UInt8} {c : Nat} {p : UInt16 × Nat} :
    readU16At bs c = .ok p ↔ c + 2 ≤ wordMax ∧ readU16 bs c = .ok p := by
  by_cases top : wordMax < c + 2
  · simp [readU16At_of_top top]
    omega
  · simp [readU16At_of_le (Nat.not_lt.mp top), Nat.not_lt.mp top]

theorem readU16At_eq_error_iff {bs : List UInt8} {c : Nat} {e : PacketError} :
    readU16At bs c = .error e ↔ c + 2 ≤ wordMax ∧ bs.length < c + 2 ∧ e = .malformed := by
  by_cases top : wordMax < c + 2
  · simp [readU16At_of_top top]
    omega
  · simp [readU16At_of_le (Nat.not_lt.mp top), Nat.not_lt.mp top, readU16_eq_error_iff]

theorem readUtf8At_of_top {bs : List UInt8} {c : Nat} (top : wordMax < c + 2) :
    readUtf8At bs c = .stops .addOverflow := by
  rw [readUtf8At, readU16At_of_top top]

theorem readUtf8At_of_lengthField {bs : List UInt8} {c : Nat} {len : UInt16} (fits : c + 2 ≤ wordMax)
    (lengthField : readU16 bs c = .ok (len, c + 2)) :
    readUtf8At bs c =
      if wordMax < c + 2 + len.toNat then .stops .addOverflow else .ofExcept (readUtf8 bs c) := by
  rw [readUtf8At, readU16At_of_le fits, lengthField]
  rfl

theorem readUtf8At_of_le {bs : List UInt8} {c : Nat} (fits : c + 2 ≤ wordMax)
    (inside : ∀ len, readU16 bs c = .ok (len, c + 2) → c + 2 + len.toNat ≤ wordMax) :
    readUtf8At bs c = .ofExcept (readUtf8 bs c) := by
  cases lengthField : readU16 bs c with
  | error e => simp [readUtf8At, readU16At_of_le fits, readUtf8, lengthField]
  | ok pair =>
    obtain ⟨len, start⟩ := pair
    obtain ⟨rfl, -⟩ := readU16_bounds lengthField
    rw [readUtf8At_of_lengthField fits lengthField, if_neg (Nat.not_lt.mpr (inside len lengthField))]

theorem readUtf8At_eq_or_stops (bs : List UInt8) (c : Nat) :
    readUtf8At bs c = .stops .addOverflow ∨ readUtf8At bs c = .ofExcept (readUtf8 bs c) := by
  by_cases top : wordMax < c + 2
  · exact .inl (readUtf8At_of_top top)
  · by_cases inside : ∀ len, readU16 bs c = .ok (len, c + 2) → c + 2 + len.toNat ≤ wordMax
    · exact .inr (readUtf8At_of_le (Nat.not_lt.mp top) inside)
    · push Not at inside
      obtain ⟨len, lengthField, past⟩ := inside
      exact .inl (by rw [readUtf8At_of_lengthField (Nat.not_lt.mp top) lengthField, if_pos past])

theorem readUtf8At_eq_stops_iff {bs : List UInt8} {c : Nat} {why : Panic} :
    readUtf8At bs c = .stops why ↔ why = .addOverflow ∧
      (wordMax < c + 2 ∨ ∃ len, readU16 bs c = .ok (len, c + 2) ∧ wordMax < c + 2 + len.toNat) := by
  constructor
  · intro stopped
    rcases readUtf8At_eq_or_stops bs c with same | same <;> rw [same] at stopped
    · cases stopped
      refine ⟨rfl, ?_⟩
      by_contra within
      push Not at within
      rw [readUtf8At_of_le within.1 within.2] at same
      exact Checked.ofExcept_ne_stops _ _ same
    · exact absurd stopped (Checked.ofExcept_ne_stops _ _)
  · rintro ⟨rfl, top | ⟨len, lengthField, past⟩⟩
    · exact readUtf8At_of_top top
    · have fits := (readU16_bounds lengthField).2
      by_cases top : wordMax < c + 2
      · exact readUtf8At_of_top top
      · rw [readUtf8At_of_lengthField (Nat.not_lt.mp top) lengthField, if_pos past]

theorem readUtf8_end {bs : List UInt8} {c c' : Nat} {len : UInt16} {t : String}
    (lengthField : readU16 bs c = .ok (len, c + 2)) (read : readUtf8 bs c = .ok (t, c')) :
    c' = c + 2 + len.toNat ∧ c' ≤ bs.length := by
  simp only [readUtf8, lengthField] at read
  split at read
  · cases read
  · rename_i whole
    split at read
    · simp only [Except.ok.injEq, Prod.mk.injEq] at read
      obtain ⟨-, rfl⟩ := read
      simp only [List.length_take, List.length_drop] at whole
      have := (readU16_bounds lengthField).2
      omega
    · cases read

theorem readUtf8At_of_ok {bs : List UInt8} {c : Nat} {p : String × Nat} (small : bs.length ≤ wordMax)
    (read : readUtf8 bs c = .ok p) : readUtf8At bs c = .ok p := by
  obtain ⟨t, c'⟩ := p
  have within := readUtf8_bounds read
  rw [readUtf8At_of_le (by omega) (fun len lengthField => ?_), read]
  · rfl
  · have := readUtf8_end lengthField read
    omega

theorem readUtf8At_eq_ok {bs : List UInt8} {c : Nat} {p : String × Nat}
    (read : readUtf8At bs c = .ok p) : readUtf8 bs c = .ok p := by
  rcases readUtf8At_eq_or_stops bs c with same | same <;> rw [same] at read
  · cases read
  · exact Checked.ofExcept_eq_ok_iff.mp read

theorem readUtf8At_eq_error {bs : List UInt8} {c : Nat} {e : PacketError}
    (refused : readUtf8At bs c = .error e) : readUtf8 bs c = .error e := by
  rcases readUtf8At_eq_or_stops bs c with same | same <;> rw [same] at refused
  · cases refused
  · exact Checked.ofExcept_eq_error_iff.mp refused

end Gateway.Mqtt.Field

namespace Gateway.Mqtt
open VarInt

theorem readAt_taken {bs : List UInt8} {c v c' : Nat} (read : readAt bs c = .ok (v, c')) :
    Form ((bs.drop c).take (c' - c)) ∧ v = value ((bs.drop c).take (c' - c)) := by
  obtain ⟨f, rest, at_c, form, -, rfl, rfl⟩ := readAt_eq_ok_iff.mp read
  rw [at_c, Nat.add_sub_cancel_left, List.take_left]
  exact ⟨form, rfl⟩

theorem readAt_bounds {bs : List UInt8} {c v c' : Nat} (read : readAt bs c = .ok (v, c')) :
    c < c' ∧ c' ≤ bs.length := by
  obtain ⟨f, rest, at_c, form, -, -, rfl⟩ := readAt_eq_ok_iff.mp read
  have size := congrArg List.length at_c
  simp only [List.length_drop, List.length_append] at size
  have := form.length_pos
  omega

/-- The wire's fields, for every number `v`, buffer size `room`, cursor `c`, bytes `bs` and string
`s`. The remaining-length writer puts down the shortest field, one byte per base-128 digit (ten
for the largest 64-bit number), wherever the buffer holds it. The reader takes a written field
back exactly when it has at most four bytes, that is below 2 ^ 28, whatever follows it; every read takes one to four bytes that form a
field and gives back their number, and writing that number again gives back those bytes exactly
when they were shortest. A text field of at most 65535 bytes is written where it fits and read
back whatever follows it; a longer string is refused. The two-byte read stops on the overflow
exactly at the two top cursors, the text read also where its text would end past the largest
word; below that the readers refuse as malformed where their bytes run past the end, and fail in
no other way but on text that is not UTF-8. The remaining-length read never stops. A read that
succeeds ends inside the bytes. -/
theorem wire_fields_read_back (v room c : Nat) (bs rest : List UInt8) (s : String) :
    (Form (encode v) ∧ value (encode v) = v ∧ Shortest (encode v) ∧
      (encode v).map (fun b => b.toNat % 128) = (if v = 0 then [0] else Nat.digits 128 v) ∧
      (encode (2 ^ 64 - 1)).length = 10 ∧
      (VarInt.write room v = .ok (encode v) ↔ (encode v).length ≤ room) ∧
      (VarInt.write room v = .error .bufferTooSmall ↔ room < (encode v).length)) ∧
    ((encode v).length ≤ 4 ↔ v < 2 ^ 28) ∧
    (bs.drop c = encode v ++ rest →
      readAt bs c = if v < 2 ^ 28 then .ok (v, c + (encode v).length) else .error .malformed) ∧
    (∀ v' c', readAt bs c = .ok (v', c') ↔
      ∃ f rest', bs.drop c = f ++ rest' ∧ Form f ∧ 1 ≤ f.length ∧ f.length ≤ 4 ∧ v' = value f ∧
        c' = c + f.length) ∧
    (∀ v' c', readAt bs c = .ok (v', c') →
      (encode v' = (bs.drop c).take (c' - c) ↔ Shortest ((bs.drop c).take (c' - c)))) ∧
    (s.utf8ByteSize ≤ Field.maxPrefixed → 2 + s.utf8ByteSize ≤ room →
      ∃ field, Field.writeUtf8 room s = .ok field ∧ field.length = 2 + s.utf8ByteSize ∧
        ∀ bs' c'' rest', bs'.drop c'' = field ++ rest' → bs'.length ≤ wordMax →
          Field.readUtf8At bs' c'' = .ok (s, c'' + field.length)) ∧
    (Field.maxPrefixed < s.utf8ByteSize → Field.writeUtf8 room s = .error (.protocol .payloadTooLarge)) ∧
    ((∀ why, Field.readU16At bs c = .stops why ↔ why = .addOverflow ∧ wordMax < c + 2) ∧
      (∀ e, Field.readU16At bs c = .error e ↔ c + 2 ≤ wordMax ∧ bs.length < c + 2 ∧ e = .malformed) ∧
      (∀ why, Field.readUtf8At bs c = .stops why ↔ why = .addOverflow ∧
        (wordMax < c + 2 ∨ ∃ len, Field.readU16 bs c = .ok (len, c + 2) ∧ wordMax < c + 2 + len.toNat)) ∧
      (c + 2 ≤ wordMax → bs.length < c + 2 → Field.readUtf8At bs c = .error .malformed) ∧
      (∀ len, Field.readU16 bs c = .ok (len, c + 2) → c + 2 + len.toNat ≤ wordMax →
        bs.length < c + 2 + len.toNat → Field.readUtf8At bs c = .error .malformed) ∧
      (∀ e, Field.readUtf8At bs c = .error e → e = .malformed ∨ e = .protocol .invalidUtf8String) ∧
      (bs.length ≤ c → readAt bs c = .error .malformed) ∧
      (∀ e, readAt bs c = .error e → e = .malformed) ∧
      (∀ n c', Field.readU16At bs c = .ok (n, c') → c' ≤ bs.length) ∧
      (∀ t c', Field.readUtf8At bs c = .ok (t, c') → c' ≤ bs.length) ∧
      (∀ n c', readAt bs c = .ok (n, c') → c' ≤ bs.length)) := by
  refine ⟨⟨encode_form v, value_encode v, encode_shortest v, map_encode v, length_encode_max, ?_, ?_⟩,
    length_encode_le_four, readAt_encode_append, ?_, ?_, ?_, Field.writeUtf8_of_long,
    ⟨fun _ => Field.readU16At_eq_stops_iff, fun _ => Field.readU16At_eq_error_iff,
      fun _ => Field.readUtf8At_eq_stops_iff, ?_, ?_,
      fun _ refused => Field.readUtf8_error (Field.readUtf8At_eq_error refused), readAt_of_end,
      fun _ => readAt_eq_error, ?_, ?_, fun _ _ read => (readAt_bounds read).2⟩⟩
  · rw [write_eq_ok_iff]
    simp
  · rw [write_eq_error_iff]
    simp
  · intro v' c'
    rw [readAt_eq_ok_iff]
    constructor
    · rintro ⟨f, rest', at_c, form, fits, rfl, rfl⟩
      exact ⟨f, rest', at_c, form, form.length_pos, fits, rfl, rfl⟩
    · rintro ⟨f, rest', at_c, form, -, fits, rfl, rfl⟩
      exact ⟨f, rest', at_c, form, fits, rfl, rfl⟩
  · intro v' c' read
    obtain ⟨form, rfl⟩ := readAt_taken read
    exact encode_value_iff form
  · intro fits room'
    refine ⟨_, Field.writeUtf8_eq_ok_iff.mpr ⟨fits, room', rfl⟩, ?_, fun bs' c'' rest' at_c small => ?_⟩
    · rw [List.length_append, Field.length_u16, Field.length_toUTF8]
    · rw [Field.readUtf8At_of_ok small (Field.readUtf8_eq_ok_iff.mpr ⟨rest', at_c, fits, rfl⟩),
        List.length_append, Field.length_u16, Field.length_toUTF8, Nat.add_assoc]
  · intro fits short
    rw [Field.readUtf8At_of_le fits (fun len lengthField => ?_), Field.readUtf8_of_short short]
    · rfl
    · exact absurd (Field.readU16_bounds lengthField).2 (by omega)
  · intro len lengthField fits cut
    rw [Field.readUtf8At_of_le (by omega) (fun len' lengthField' => ?_), Field.readUtf8_of_cut lengthField cut]
    · rfl
    · rw [lengthField] at lengthField'
      cases lengthField'
      exact fits
  · intro n c' read
    obtain ⟨rfl, inside⟩ := Field.readU16_bounds (Field.readU16At_eq_ok_iff.mp read).2
    exact inside
  · intro t c' read
    obtain ⟨rest', at_c, -, rfl⟩ := Field.readUtf8_eq_ok_iff.mp (Field.readUtf8At_eq_ok read)
    have size := congrArg List.length at_c
    simp only [List.length_drop, List.length_append, Field.length_u16, Field.length_toUTF8] at size
    omega

/-- A length of 200 takes two bytes, in a buffer of two, and is read back behind a type byte. -/
theorem wire_fields_read_back_for_two_byte_length :
    VarInt.write 2 200 = .ok [0xC8, 0x01] ∧ readAt [0x30, 0xC8, 0x01] 1 = .ok (200, 3) := by
  have field : encode 200 = [0xC8, 0x01] := by
    rw [encode_of_le (by norm_num), encode_of_lt (by norm_num)]
    rfl
  obtain ⟨⟨-, -, -, -, -, writes, -⟩, -, reads, -⟩ :=
    wire_fields_read_back 200 2 1 [0x30, 0xC8, 0x01] [] ""
  refine ⟨?_, ?_⟩
  · rw [← field]
    exact writes.mpr (by rw [field]; decide)
  · rw [reads (by rw [field]; rfl), if_pos (by norm_num), field]
    rfl

/-- At the largest cursor a two-byte read stops on the overflow of its end, with no bytes to read. -/
theorem u16_read_at_top_cursor_stops : Field.readU16At [] 18446744073709551615 = .stops .addOverflow :=
  Field.readU16At_of_top (by decide)

end Gateway.Mqtt
