import Mathlib
import Gateway.Proofs.Routing
import Gateway.Text.Hex
/-!
The names of a unit's topics. A unit's identity is its MAC address written as twelve upper-case
hex digits, and the hex reader of this library reads those digits back, so two addresses never
share an identity. A namespace puts `/root/id/` in front of every suffix it accepts, and taking
that prefix off gives the suffix back. Neither a root nor an identity holds a `/`, so the prefix
of one namespace begins a topic of another only when both have the same root and the same id.

Main statement (`namespaces_keep_topics_apart`): a namespace accepts exactly the suffixes of
`Suffix` and names each by its prefix followed by the suffix, which `strip` gives back;
`DeviceId.ofMac` is injective, writes twelve upper-case hex digits and never writes `UNKNOWN`;
and a namespace of another root or another MAC address strips no topic of this one.
-/
namespace Gateway

theorem eq_of_append_cons_of_not_mem {α : Type} {c : α} {a b u v : List α} (ha : c ∉ a) (hb : c ∉ b)
    (same : a ++ c :: u = b ++ c :: v) : a = b ∧ u = v := by
  induction a generalizing b with
  | nil =>
    cases b with
    | nil => simpa using same
    | cons y ys =>
      simp only [List.nil_append, List.cons_append, List.cons.injEq] at same
      exact absurd (same.1 ▸ List.mem_cons_self) hb
  | cons x xs ih =>
    cases b with
    | nil =>
      simp only [List.nil_append, List.cons_append, List.cons.injEq] at same
      exact absurd (same.1 ▸ List.mem_cons_self) ha
    | cons y ys =>
      simp only [List.cons_append, List.cons.injEq] at same
      obtain ⟨rfl, rest⟩ := same
      obtain ⟨rfl, rfl⟩ := ih (fun mem => ha (List.mem_cons_of_mem _ mem))
        (fun mem => hb (List.mem_cons_of_mem _ mem)) rest
      exact ⟨rfl, rfl⟩

namespace DeviceId

theorem hexValue?_hexDigit : ∀ n, n < 16 → Text.hexValue? (hexDigit n) = some n := by decide

theorem hexDigit_upper : ∀ n, n < 16 → (hexDigit n).isDigit ∨ 'A' ≤ hexDigit n ∧ hexDigit n ≤ 'F' := by
  decide

theorem unhexChars_flatMap_byteHex (bs : List UInt8) : Text.unhexChars (bs.flatMap byteHex) = some bs := by
  induction bs with
  | nil => rfl
  | cons b rest ih =>
    have byte := b.toNat_lt
    have high := hexValue?_hexDigit (b.toNat / 16) (by omega)
    have low := hexValue?_hexDigit (b.toNat % 16) (by omega)
    have whole : (b.toNat / 16 * 16 + b.toNat % 16).toUInt8 = b := by
      rw [show b.toNat / 16 * 16 + b.toNat % 16 = b.toNat by omega]
      simp
    simp only [List.flatMap_cons, byteHex, List.cons_append, List.nil_append, Text.unhexChars, high, low, ih,
      Option.bind_eq_bind, Option.bind_some]
    rw [whole]
    rfl

theorem ofMac_injective : Function.Injective ofMac := by
  intro m₁ m₂ same
  have read := congrArg (fun d => Text.unhexChars d.text.toList) same
  simp only [ofMac, String.toList_ofList, unhexChars_flatMap_byteHex, Option.some.injEq] at read
  exact Vector.toList_inj.mp read

theorem ofMac_upper (mac : Vector UInt8 6) :
    ∀ c ∈ (ofMac mac).text.toList, c.isDigit ∨ 'A' ≤ c ∧ c ≤ 'F' := by
  intro c mem
  simp only [ofMac, String.toList_ofList, List.mem_flatMap, byteHex, List.mem_cons,
    List.not_mem_nil, or_false] at mem
  obtain ⟨b, -, rfl | rfl⟩ := mem
  · exact hexDigit_upper _ (by have := b.toNat_lt; omega)
  · exact hexDigit_upper _ (by omega)

theorem ofMac_length (mac : Vector UInt8 6) : (ofMac mac).text.length = macLength := by
  rw [← String.length_toList]
  simp [ofMac, byteHex, macLength, List.length_flatMap]

theorem ofMac_ne_unknown (mac : Vector UInt8 6) : ofMac mac ≠ unknown := by
  intro same
  have lengths := congrArg (fun d => d.text.length) same
  simp only [ofMac_length, unknown, macLength] at lengths
  exact absurd lengths (by decide)

theorem slash_not_mem_ofMac (mac : Vector UInt8 6) : '/' ∉ (ofMac mac).text.toList := by
  intro mem
  rcases ofMac_upper mac '/' mem with digit | upper
  · simp at digit
  · simp at upper

end DeviceId

namespace Bridge

theorem isPlainLevel_iff (s : String) :
    isPlainLevel s = true ↔ ∀ c ∈ s.toList, c ≠ '+' ∧ c ≠ '#' ∧ c ≠ '\x00' := by
  simp [isPlainLevel, String.any, or_assoc]

namespace Namespace

variable {ns : Namespace} {s t : String}

/-- The suffixes a namespace takes: not empty, neither starting nor ending with `/`, free of
wildcards and NUL, at most 32 bytes, and at most 64 bytes with the prefix. -/
structure Suffix (ns : Namespace) (s : String) : Prop where
  nonempty : s ≠ ""
  noLeadingSlash : s.toList.head? ≠ some '/'
  noTrailingSlash : s.toList.getLast? ≠ some '/'
  plain : ∀ c ∈ s.toList, c ≠ '+' ∧ c ≠ '#' ∧ c ≠ '\x00'
  short : s.utf8ByteSize ≤ maxSuffixLength
  fits : ns.pref.utf8ByteSize + s.utf8ByteSize ≤ maxTopicLength

theorem startsWith_slash_iff : s.startsWith "/" = true ↔ s.toList.head? = some '/' := by
  rw [String.startsWith_string_iff]
  exact List.singleton_prefix_iff_head?_eq_some

theorem endsWith_slash_iff : s.endsWith "/" = true ↔ s.toList.getLast? = some '/' := by
  rw [String.endsWith_eq_endsWith_toSlice, String.Slice.endsWith_string_iff, String.copy_toSlice]
  exact List.singleton_suffix_iff_getLast?_eq_some

theorem validate_eq_ok_iff : ns.validate s = .ok () ↔ ns.Suffix s := by
  -- The first check of `validate`, said of the suffix's characters.
  have shape : (s.isEmpty || s.startsWith "/" || s.endsWith "/" || !isPlainLevel s) = true ↔
      ¬ (s ≠ "" ∧ s.toList.head? ≠ some '/' ∧ s.toList.getLast? ≠ some '/' ∧
        ∀ c ∈ s.toList, c ≠ '+' ∧ c ≠ '#' ∧ c ≠ '\x00') := by
    simp only [ne_eq, ← isPlainLevel_iff, ← startsWith_slash_iff, ← endsWith_slash_iff, ← String.isEmpty_iff]
    cases s.isEmpty <;> cases s.startsWith "/" <;> cases s.endsWith "/" <;> cases isPlainLevel s <;> simp
  unfold validate
  split
  next malformed =>
    simp only [reduceCtorEq, false_iff]
    exact fun suffix => shape.mp malformed
      ⟨suffix.nonempty, suffix.noLeadingSlash, suffix.noTrailingSlash, suffix.plain⟩
  next wellFormed =>
    obtain ⟨nonempty, lead, trail, plain⟩ := not_not.mp (mt shape.mpr wellFormed)
    split
    next long =>
      simp only [reduceCtorEq, false_iff]
      intro suffix
      have := suffix.short
      have := suffix.fits
      simp only [Bool.or_eq_true, decide_eq_true_eq] at long
      omega
    next short =>
      simp only [Bool.or_eq_true, decide_eq_true_eq, not_or, not_lt] at short
      exact iff_of_true rfl ⟨nonempty, lead, trail, plain, short.1, short.2⟩

theorem topic_eq_ok_iff : ns.topic s = .ok t ↔ ns.validate s = .ok () ∧ t = ns.pref ++ s := by
  unfold topic
  cases ns.validate s with
  | error e => simp
  | ok u => simp [eq_comm]

theorem topic_isOk_iff : (∃ t, ns.topic s = .ok t) ↔ ns.validate s = .ok () := by
  simp [topic_eq_ok_iff]

theorem strip_of_topic (named : ns.topic s = .ok t) : t = ns.pref ++ s ∧ ns.strip t = some s := by
  obtain ⟨valid, rfl⟩ := topic_eq_ok_iff.mp named
  exact ⟨rfl, strip_eq_some_iff.mpr ⟨rfl, (validate_eq_ok_iff.mp valid).nonempty⟩⟩

/-- What a namespace does with suffixes and topics: it accepts exactly the suffixes of `Suffix`,
names each by its prefix followed by it, and strips back exactly a non-empty suffix after its
prefix. -/
structure Sound (ns : Namespace) : Prop where
  validate : ∀ s, ns.validate s = .ok () ↔ ns.Suffix s
  topic : ∀ s, (∃ t, ns.topic s = .ok t) ↔ ns.validate s = .ok ()
  named : ∀ s t, ns.topic s = .ok t → t = ns.pref ++ s ∧ ns.strip t = some s
  stripped : ∀ t s, ns.strip t = some s → t = ns.pref ++ s ∧ s ≠ ""

theorem sound (ns : Namespace) : ns.Sound :=
  ⟨fun _ => validate_eq_ok_iff, fun _ => topic_isOk_iff, fun _ _ => strip_of_topic,
    fun _ _ => strip_eq_some_iff.mp⟩

theorem new_eq_ok_iff {root : String} {d : DeviceId} :
    new root d = .ok ns ↔ root ≠ "" ∧ isPlainLevel root = true ∧ '/' ∉ root.toList ∧
      ns.pref = "/" ++ root ++ "/" ++ d.text ++ "/" ∧ ns.pref.utf8ByteSize ≤ maxTopicLength := by
  unfold new
  by_cases refused : root.isEmpty || !isPlainLevel root || root.any (· = '/')
  · simp only [refused, if_true, reduceCtorEq, false_iff]
    simp only [Bool.or_eq_true, String.isEmpty_iff, Bool.not_eq_true', String.any, String.contains_prop_eq,
      List.any_eq_true, decide_eq_true_eq, exists_eq_right] at refused
    rintro ⟨nonempty, plain, noSlash, -⟩
    rcases refused with (empty | mixed) | slash
    · exact nonempty empty
    · rw [plain] at mixed
      cases mixed
    · exact noSlash slash
  · simp only [Bool.or_eq_true, String.isEmpty_iff, Bool.not_eq_true', String.any, String.contains_prop_eq,
      List.any_eq_true, decide_eq_true_eq, exists_eq_right, not_or, Bool.not_eq_false] at refused
    obtain ⟨⟨nonempty, plain⟩, noSlash⟩ := refused
    have accepted : ¬ (root.isEmpty || !isPlainLevel root || root.any (· = '/')) = true := by
      simp [String.isEmpty_iff, String.any, nonempty, plain, noSlash]
    rw [if_neg accepted]
    by_cases fits : ("/" ++ root ++ "/" ++ d.text ++ "/").utf8ByteSize ≤ maxTopicLength
    · simp only [fits, if_true, Except.ok.injEq]
      constructor
      · rintro rfl
        exact ⟨nonempty, plain, noSlash, rfl, fits⟩
      · rintro ⟨-, -, -, named, -⟩
        cases ns
        simp_all
    · simp only [fits, if_false, reduceCtorEq, false_iff, not_and]
      intro _ _ _ named
      rwa [named]

theorem pref_toList_of_new {root : String} {d : DeviceId} (built : new root d = .ok ns) :
    ns.pref.toList = '/' :: (root.toList ++ '/' :: (d.text.toList ++ ['/'])) := by
  obtain ⟨-, -, -, named, -⟩ := new_eq_ok_iff.mp built
  simp [named]

theorem same_of_strip {root₁ root₂ : String} {d₁ d₂ : DeviceId} {ns₁ ns₂ : Namespace} {s' : String}
    (built₁ : new root₁ d₁ = .ok ns₁) (built₂ : new root₂ d₂ = .ok ns₂) (plain₁ : '/' ∉ d₁.text.toList)
    (plain₂ : '/' ∉ d₂.text.toList) (named : ns₂.topic s = .ok t) (stripped : ns₁.strip t = some s') :
    root₁ = root₂ ∧ d₁ = d₂ := by
  have slash₁ := (new_eq_ok_iff.mp built₁).2.2.1
  have slash₂ := (new_eq_ok_iff.mp built₂).2.2.1
  obtain ⟨rfl, -⟩ := strip_of_topic named
  have same := congrArg String.toList ((strip_eq_some_iff.mp stripped).1.symm)
  simp only [String.toList_append, pref_toList_of_new built₁, pref_toList_of_new built₂, List.cons_append,
    List.append_assoc, List.cons.injEq, true_and] at same
  -- The root runs up to the first `/`, and the identity up to the next one.
  obtain ⟨roots, rest⟩ := eq_of_append_cons_of_not_mem slash₁ slash₂ same
  obtain ⟨ids, -⟩ := eq_of_append_cons_of_not_mem plain₁ plain₂ rest
  refine ⟨String.toList_injective roots, ?_⟩
  cases d₁
  cases d₂
  simp only [DeviceId.mk.injEq]
  exact String.toList_injective ids

end Namespace

end Bridge

open Bridge in
/-- Every namespace a root and an identity make is `/root/id/` and names and strips topics as
`Namespace.Sound` says; identities made from MAC addresses are twelve upper-case hex digits, one
per address and never `UNKNOWN`; and namespaces of different roots or different addresses share
no topic: a topic one of them names is stripped by no other. -/
theorem namespaces_keep_topics_apart :
    (∀ root d ns, Namespace.new root d = .ok ns →
      ns.pref = "/" ++ root ++ "/" ++ d.text ++ "/" ∧ ns.Sound) ∧
    Function.Injective DeviceId.ofMac ∧
    (∀ mac, (DeviceId.ofMac mac).text.length = DeviceId.macLength ∧
      (∀ c ∈ (DeviceId.ofMac mac).text.toList, c.isDigit ∨ 'A' ≤ c ∧ c ≤ 'F') ∧
      DeviceId.ofMac mac ≠ DeviceId.unknown) ∧
    ∀ root₁ root₂ mac₁ mac₂ ns₁ ns₂, Namespace.new root₁ (.ofMac mac₁) = .ok ns₁ →
      Namespace.new root₂ (.ofMac mac₂) = .ok ns₂ → (root₁ ≠ root₂ ∨ mac₁ ≠ mac₂) →
      ∀ s t, ns₂.topic s = .ok t → ns₁.strip t = none := by
  refine ⟨fun root d ns built => ⟨(Namespace.new_eq_ok_iff.mp built).2.2.2.1, ns.sound⟩,
    DeviceId.ofMac_injective,
    fun mac => ⟨DeviceId.ofMac_length mac, DeviceId.ofMac_upper mac, DeviceId.ofMac_ne_unknown mac⟩, ?_⟩
  intro root₁ root₂ mac₁ mac₂ ns₁ ns₂ built₁ built₂ apart s t named
  cases stripped : ns₁.strip t with
  | none => rfl
  | some s' =>
    obtain ⟨roots, ids⟩ := Namespace.same_of_strip built₁ built₂ (DeviceId.slash_not_mem_ofMac mac₁)
      (DeviceId.slash_not_mem_ofMac mac₂) named stripped
    rcases apart with other | other
    · exact absurd roots other
    · exact absurd (DeviceId.ofMac_injective ids) other

namespace Scenario
open Bridge

def zeroMac : Vector UInt8 6 := #v[0, 0, 0, 0, 0, 0]

theorem new_titanium_sample : Namespace.new "titanium" (.ofMac DeviceId.sampleMac) = .ok ⟨"/titanium/A1B2C3D4E5F6/"⟩ := by
  have text : (DeviceId.ofMac DeviceId.sampleMac).text = "A1B2C3D4E5F6" := by decide +kernel
  refine Namespace.new_eq_ok_iff.mpr ⟨by decide, (isPlainLevel_iff _).mpr (by simp), by decide, ?_, by decide +kernel⟩
  rw [text]
  decide +kernel

theorem new_titanium_zero : Namespace.new "titanium" (.ofMac zeroMac) = .ok ⟨"/titanium/000000000000/"⟩ := by
  have text : (DeviceId.ofMac zeroMac).text = "000000000000" := by decide +kernel
  refine Namespace.new_eq_ok_iff.mpr ⟨by decide, (isPlainLevel_iff _).mpr (by simp), by decide, ?_, by decide +kernel⟩
  rw [text]
  decide +kernel

/-- The unit of the zero address names `/titanium/000000000000/config`, which the unit
`A1B2C3D4E5F6` under the same root does not strip. -/
theorem namespaces_keep_topics_apart_for_titanium :
    Namespace.new "titanium" (.ofMac DeviceId.sampleMac) = .ok ⟨"/titanium/A1B2C3D4E5F6/"⟩ ∧
      Namespace.new "titanium" (.ofMac zeroMac) = .ok ⟨"/titanium/000000000000/"⟩ ∧ DeviceId.sampleMac ≠ zeroMac ∧
      (⟨"/titanium/000000000000/"⟩ : Namespace).topic "config" = .ok "/titanium/000000000000/config" ∧
      (⟨"/titanium/A1B2C3D4E5F6/"⟩ : Namespace).strip "/titanium/000000000000/config" = none := by
  have apart : DeviceId.sampleMac ≠ zeroMac := by decide
  have named : (⟨"/titanium/000000000000/"⟩ : Namespace).topic "config" = .ok "/titanium/000000000000/config" := by
    refine Namespace.topic_eq_ok_iff.mpr ⟨Namespace.validate_eq_ok_iff.mpr ?_, by decide +kernel⟩
    exact ⟨by decide, by decide, by decide, by simp, by decide +kernel, by decide +kernel⟩
  exact ⟨new_titanium_sample, new_titanium_zero, apart, named,
    namespaces_keep_topics_apart.2.2.2 _ _ _ _ _ _ new_titanium_sample new_titanium_zero (.inr apart) _ _ named⟩

end Scenario

end Gateway
