import Mathlib.Logic.Function.Basic
import Mathlib.Tactic.SplitIfs
import Gateway.Scenario.Network
/-!
Station credentials and the record that keeps them between boots. `Credentials.new` accepts a
pair exactly when the SSID takes 1 to 31 bytes and the password 1 to 63, and otherwise names the
first rule the pair breaks, in the order: empty SSID, empty password, long SSID, long password.

The record is the keys `ssid` and `pwd` of namespace `wifi`. Over any key/value store, loading it
fails exactly when one of its two reads fails, and then as a storage failure; it finds nothing
exactly when both reads succeed and a key is missing or the pair is not credentials. Over a store
that reads back the last value written under each key when it fits the reader's buffer
(`RecallsLastWrite`), a load after a save that succeeded gives back the credentials saved.

Main statement: `credentials_record_round_trips`.
-/
namespace Gateway.Network

namespace CredentialsError

def rank : CredentialsError → Nat
  | .emptySsid => 0
  | .emptyPassword => 1
  | .ssidTooLong => 2
  | .passwordTooLong => 3

def Breaks (ssid password : String) : CredentialsError → Prop
  | .emptySsid => ssid.utf8ByteSize = 0
  | .emptyPassword => password.utf8ByteSize = 0
  | .ssidTooLong => ssidField ≤ ssid.utf8ByteSize
  | .passwordTooLong => passwordField ≤ password.utf8ByteSize

theorem forall_iff {P : CredentialsError → Prop} :
    (∀ e, P e) ↔ P .emptySsid ∧ P .emptyPassword ∧ P .ssidTooLong ∧ P .passwordTooLong :=
  ⟨fun all => ⟨all _, all _, all _, all _⟩, fun ⟨a, b, c, d⟩ e => by cases e <;> assumption⟩

end CredentialsError

namespace Credentials

def Sized (ssid password : String) : Prop :=
  1 ≤ ssid.utf8ByteSize ∧ ssid.utf8ByteSize < ssidField ∧
    1 ≤ password.utf8ByteSize ∧ password.utf8ByteSize < passwordField

/-- The credentials a record of two values makes: none when a key is missing or the pair is
refused. -/
def ofRecord? (ssid password : Option String) : Option Credentials :=
  ssid.bind fun a => password.bind fun b => (new a b).toOption

theorem ofRecord?_eq_none_iff {ssid password : Option String} :
    ofRecord? ssid password = none ↔ ssid = none ∨ password = none ∨
      ∃ a b e, ssid = some a ∧ password = some b ∧ new a b = .error e := by
  cases ssid with
  | none => simp [ofRecord?]
  | some a =>
    cases password with
    | none => simp [ofRecord?]
    | some b => cases made : new a b <;> simp [ofRecord?, made, Except.toOption]

theorem new_eq (ssid password : String) :
    new ssid password =
      if ssid.utf8ByteSize = 0 then .error .emptySsid
      else if password.utf8ByteSize = 0 then .error .emptyPassword
      else if ssidField ≤ ssid.utf8ByteSize then .error .ssidTooLong
      else if passwordField ≤ password.utf8ByteSize then .error .passwordTooLong
      else .ok ⟨ssid, password⟩ := by
  simp only [new, String.isEmpty, beq_iff_eq, ge_iff_le]

theorem new_eq_ok_iff {ssid password : String} {c : Credentials} :
    new ssid password = .ok c ↔ Sized ssid password ∧ c = ⟨ssid, password⟩ := by
  rw [new_eq, Sized]
  split_ifs with s₀ p₀ sLong pLong
  -- A refusal holds no credentials, and the pair breaks the size rule that refused it.
  iterate 4 exact iff_of_false nofun fun sized => by omega
  simp only [Except.ok.injEq]
  constructor
  · rintro rfl
    exact ⟨⟨by omega, by omega, by omega, by omega⟩, rfl⟩
  · rintro ⟨-, rfl⟩
    rfl

theorem new_eq_error_iff {ssid password : String} {e : CredentialsError} :
    new ssid password = .error e ↔
      e.Breaks ssid password ∧ ∀ e' : CredentialsError, e'.rank < e.rank → ¬ e'.Breaks ssid password := by
  rw [new_eq]
  -- Each arm of the checks against each error: the arm's error is the first rule broken.
  split_ifs with s₀ p₀ sLong pLong <;> cases e <;>
    simp [CredentialsError.forall_iff, CredentialsError.Breaks, CredentialsError.rank, *]

end Credentials

section Store

variable {τ : Type} [KeyValueStore τ]

/-- A key/value store that reads back what it holds. `held` is the value a state holds under each
namespace and key, and `sound` the states in working order. In a sound state a read of a held
value that fits the buffer returns it, a read of a missing key finds nothing, and reads and
commits change no held value; a write that succeeds replaces the value under its key. -/
structure RecallsLastWrite (sound : τ → Prop) (held : τ → String × String → Option String) : Prop where
  read_held : ∀ s ns key room v, sound s → held s (ns, key) = some v → v.utf8ByteSize ≤ room →
    (KeyValueStore.readText s ns key room).2 = .ok (some v)
  read_absent : ∀ s ns key room, sound s → held s (ns, key) = none →
    (KeyValueStore.readText s ns key room).2 = .ok none
  read_keeps : ∀ s ns key room, sound s →
    sound (KeyValueStore.readText s ns key room).1 ∧ held (KeyValueStore.readText s ns key room).1 = held s
  write_puts : ∀ s ns key v t, sound s → KeyValueStore.writeText s ns key v = (t, .ok ()) →
    sound t ∧ held t = Function.update (held s) (ns, key) (some v)
  commit_keeps : ∀ s ns, sound s →
    sound (KeyValueStore.commit s ns).1 ∧ held (KeyValueStore.commit s ns).1 = held s

namespace StoredCredentials

/-- The two reads of a load from `s` succeed: the SSID finds `ssid`, and the password, read from
the store the first read left, finds `password`. -/
def Finds (s : StoredCredentials τ) (ssid password : Option String) : Prop :=
  ∃ t, KeyValueStore.readText s.store wifiNamespace ssidKey ssidField = (t, .ok ssid) ∧
    (KeyValueStore.readText t wifiNamespace passwordKey passwordField).2 = .ok password

def ReadFails (s : StoredCredentials τ) : Prop :=
  (KeyValueStore.readText s.store wifiNamespace ssidKey ssidField).2 = .error () ∨
    ∃ t ssid, KeyValueStore.readText s.store wifiNamespace ssidKey ssidField = (t, .ok ssid) ∧
      (KeyValueStore.readText t wifiNamespace passwordKey passwordField).2 = .error ()

theorem load_cases (s : StoredCredentials τ) :
    (ReadFails s ∧ (s.load).2 = .error .storage) ∨
      ∃ ssid password, Finds s ssid password ∧ (s.load).2 = .ok (Credentials.ofRecord? ssid password) := by
  unfold load read
  rcases first : KeyValueStore.readText s.store wifiNamespace ssidKey ssidField with ⟨t, _ | ssid⟩
  · exact .inl ⟨.inl (by rw [first]), rfl⟩
  dsimp only
  rcases second : KeyValueStore.readText t wifiNamespace passwordKey passwordField with ⟨u, _ | password⟩
  · exact .inl ⟨.inr ⟨t, ssid, first, by rw [second]⟩, rfl⟩
  dsimp only
  refine .inr ⟨ssid, password, ⟨t, first, by rw [second]⟩, ?_⟩
  cases ssid with
  | none => rfl
  | some a =>
    cases password with
    | none => rfl
    | some b => cases made : Credentials.new a b <;> simp [Credentials.ofRecord?, made, Except.toOption]

theorem finds_unique {s : StoredCredentials τ} {a b a' b' : Option String} (one : Finds s a b)
    (two : Finds s a' b') : a = a' ∧ b = b' := by
  obtain ⟨t, first, second⟩ := one
  obtain ⟨t', first', second'⟩ := two
  rw [first, Prod.mk.injEq, Except.ok.injEq] at first'
  obtain ⟨rfl, rfl⟩ := first'
  rw [second, Except.ok.injEq] at second'
  exact ⟨rfl, second'⟩

theorem not_readFails {s : StoredCredentials τ} {a b : Option String} (found : Finds s a b) :
    ¬ ReadFails s := by
  obtain ⟨t, first, second⟩ := found
  rintro (failed | ⟨t', ssid, first', failed⟩)
  · rw [first] at failed
    cases failed
  · rw [first, Prod.mk.injEq] at first'
    obtain ⟨rfl, -⟩ := first'
    rw [second] at failed
    cases failed

theorem load_eq_error_iff (s : StoredCredentials τ) (e : NetworkError) :
    (s.load).2 = .error e ↔ e = .storage ∧ ReadFails s := by
  rcases load_cases s with ⟨failed, loaded⟩ | ⟨a, b, found, loaded⟩
  · rw [loaded, Except.error.injEq]
    exact ⟨fun same => ⟨same.symm, failed⟩, fun named => named.1.symm⟩
  · rw [loaded]
    constructor
    · intro failed
      cases failed
    · intro named
      exact absurd named.2 (not_readFails found)

theorem load_eq_none_iff (s : StoredCredentials τ) :
    (s.load).2 = .ok none ↔ ∃ ssid password, Finds s ssid password ∧
      (ssid = none ∨ password = none ∨
        ∃ a b e, ssid = some a ∧ password = some b ∧ Credentials.new a b = .error e) := by
  rcases load_cases s with ⟨failed, loaded⟩ | ⟨a, b, found, loaded⟩
  · rw [loaded]
    constructor
    · intro found
      cases found
    · rintro ⟨_, _, found, -⟩
      exact absurd failed (not_readFails found)
  · rw [loaded, Except.ok.injEq, Credentials.ofRecord?_eq_none_iff]
    constructor
    · intro missing
      exact ⟨a, b, found, missing⟩
    · rintro ⟨a', b', found', missing⟩
      obtain ⟨rfl, rfl⟩ := finds_unique found' found
      exact missing

variable {sound : τ → Prop} {held : τ → String × String → Option String}

theorem save_held (law : RecallsLastWrite sound held) {s : StoredCredentials τ} {c : Credentials}
    (start : sound s.store) (saved : (s.save c).2 = .ok ()) :
    sound (s.save c).1.store ∧ held (s.save c).1.store =
      Function.update (Function.update (held s.store) (wifiNamespace, ssidKey) (some c.ssid))
        (wifiNamespace, passwordKey) (some c.password) := by
  unfold save at saved ⊢
  rcases first : KeyValueStore.writeText s.store wifiNamespace ssidKey c.ssid with ⟨t, _ | ⟨⟩⟩
  · simp [first] at saved
  rcases second : KeyValueStore.writeText t wifiNamespace passwordKey c.password with ⟨u, _ | ⟨⟩⟩
  · simp [first, second] at saved
  obtain ⟨sound₁, held₁⟩ := law.write_puts _ _ _ _ _ start first
  obtain ⟨sound₂, held₂⟩ := law.write_puts _ _ _ _ _ sound₁ second
  obtain ⟨sound₃, held₃⟩ := law.commit_keeps u wifiNamespace sound₂
  rcases committed : KeyValueStore.commit u wifiNamespace with ⟨v, _ | ⟨⟩⟩
  · simp [first, second, committed] at saved
  rw [committed] at sound₃ held₃
  simp only [second, committed]
  exact ⟨sound₃, by rw [held₃, held₂, held₁]⟩

theorem read_of_fits (law : RecallsLastWrite sound held) {u : τ} {ns key : String} {room : Nat}
    (start : sound u) (fits : ∀ v, held u (ns, key) = some v → v.utf8ByteSize ≤ room) :
    (KeyValueStore.readText u ns key room).2 = .ok (held u (ns, key)) := by
  cases value : held u (ns, key) with
  | none => exact law.read_absent u ns key room start value
  | some v => exact law.read_held u ns key room v start value (fits v value)

theorem finds_held (law : RecallsLastWrite sound held) {s : StoredCredentials τ} (start : sound s.store)
    (ssidFits : ∀ v, held s.store (wifiNamespace, ssidKey) = some v → v.utf8ByteSize ≤ ssidField)
    (passwordFits : ∀ v, held s.store (wifiNamespace, passwordKey) = some v → v.utf8ByteSize ≤ passwordField) :
    Finds s (held s.store (wifiNamespace, ssidKey)) (held s.store (wifiNamespace, passwordKey)) := by
  obtain ⟨sound₁, held₁⟩ := law.read_keeps s.store wifiNamespace ssidKey ssidField start
  refine ⟨_, Prod.ext rfl (read_of_fits law start ssidFits), ?_⟩
  rw [← held₁]
  exact read_of_fits law sound₁ (held₁ ▸ passwordFits)

theorem load_of_held (law : RecallsLastWrite sound held) {s : StoredCredentials τ} (start : sound s.store)
    (ssidFits : ∀ v, held s.store (wifiNamespace, ssidKey) = some v → v.utf8ByteSize ≤ ssidField)
    (passwordFits : ∀ v, held s.store (wifiNamespace, passwordKey) = some v → v.utf8ByteSize ≤ passwordField) :
    (s.load).2 = .ok (Credentials.ofRecord? (held s.store (wifiNamespace, ssidKey))
      (held s.store (wifiNamespace, passwordKey))) := by
  have found := finds_held law start ssidFits passwordFits
  rcases load_cases s with ⟨failed, -⟩ | ⟨a, b, found', loaded⟩
  · exact absurd failed (not_readFails found)
  obtain ⟨rfl, rfl⟩ := finds_unique found' found
  exact loaded

theorem load_save (law : RecallsLastWrite sound held) {s : StoredCredentials τ} {ssid password : String}
    {c : Credentials} (made : Credentials.new ssid password = .ok c) (start : sound s.store)
    (saved : (s.save c).2 = .ok ()) : ((s.save c).1.load).2 = .ok (some c) := by
  obtain ⟨⟨-, ssidShort, -, passwordShort⟩, rfl⟩ := Credentials.new_eq_ok_iff.mp made
  obtain ⟨sound₀, held₀⟩ := save_held law start saved
  have apart : (wifiNamespace, ssidKey) ≠ (wifiNamespace, passwordKey) := by decide
  have ssidHeld : held (s.save ⟨ssid, password⟩).1.store (wifiNamespace, ssidKey) = some ssid := by
    rw [held₀, Function.update_of_ne apart, Function.update_self]
  have passwordHeld : held (s.save ⟨ssid, password⟩).1.store (wifiNamespace, passwordKey) = some password := by
    rw [held₀, Function.update_self]
  have loaded := load_of_held law sound₀
    (fun v held => by rw [ssidHeld, Option.some.injEq] at held; subst held; omega)
    (fun v held => by rw [passwordHeld, Option.some.injEq] at held; subst held; omega)
  rw [loaded, ssidHeld, passwordHeld]
  simp [Credentials.ofRecord?, made, Except.toOption]

end StoredCredentials

end Store

/-- Credentials are checked by byte counts, and a refused pair is named by the first rule it
breaks. Over a store that reads back the last value written under each key when it fits the
buffer, a load gives the credentials the record holds, or nothing when a key is missing or the
pair is refused, and a load after a save that succeeded gives back the credentials saved. Over any
key/value store, a load fails exactly when a read fails, as a storage failure, and finds nothing
exactly when both reads succeed and a key is missing or the pair is refused. -/
theorem credentials_record_round_trips :
    (∀ ssid password c, Credentials.new ssid password = .ok c ↔
      Credentials.Sized ssid password ∧ c = ⟨ssid, password⟩) ∧
    (∀ ssid password e, Credentials.new ssid password = .error e ↔
      e.Breaks ssid password ∧ ∀ e' : CredentialsError, e'.rank < e.rank → ¬ e'.Breaks ssid password) ∧
    (∀ (τ : Type) [KeyValueStore τ] (sound : τ → Prop) (held : τ → String × String → Option String),
      RecallsLastWrite sound held → ∀ s : StoredCredentials τ, sound s.store →
        (∀ v, held s.store (wifiNamespace, ssidKey) = some v → v.utf8ByteSize ≤ ssidField) →
        (∀ v, held s.store (wifiNamespace, passwordKey) = some v → v.utf8ByteSize ≤ passwordField) →
          (s.load).2 = .ok (Credentials.ofRecord? (held s.store (wifiNamespace, ssidKey))
            (held s.store (wifiNamespace, passwordKey)))) ∧
    (∀ (τ : Type) [KeyValueStore τ] (sound : τ → Prop) (held : τ → String × String → Option String),
      RecallsLastWrite sound held → ∀ (s : StoredCredentials τ) ssid password c,
        Credentials.new ssid password = .ok c → sound s.store → (s.save c).2 = .ok () →
          ((s.save c).1.load).2 = .ok (some c)) ∧
    (∀ (τ : Type) [KeyValueStore τ] (s : StoredCredentials τ), (s.load).2 = .ok none ↔
      ∃ ssid password, StoredCredentials.Finds s ssid password ∧
        (ssid = none ∨ password = none ∨
          ∃ a b e, ssid = some a ∧ password = some b ∧ Credentials.new a b = .error e)) ∧
    (∀ (τ : Type) [KeyValueStore τ] (s : StoredCredentials τ) e,
      (s.load).2 = .error e ↔ e = .storage ∧ StoredCredentials.ReadFails s) :=
  ⟨fun _ _ _ => Credentials.new_eq_ok_iff, fun _ _ _ => Credentials.new_eq_error_iff,
    fun _ _ _ _ law _ start ssidFits passwordFits =>
      StoredCredentials.load_of_held law start ssidFits passwordFits,
    fun _ _ _ _ law _ _ _ _ made start saved => StoredCredentials.load_save law made start saved,
    fun _ _ s => StoredCredentials.load_eq_none_iff s, fun _ _ s e => StoredCredentials.load_eq_error_iff s e⟩

end Gateway.Network

namespace Gateway.Scenario
open Gateway.Network

namespace MemoryStore

theorem get?_put (s : MemoryStore) (ns key value ns' key' : String) :
    (s.put ns key value).get? ns' key' = if (ns', key') = (ns, key) then some value else s.get? ns' key' := by
  unfold get? put
  rw [List.find?_append]
  by_cases same : (ns', key') = (ns, key)
  · -- The old entries under the key are gone, so the new one is found.
    obtain ⟨rfl, rfl⟩ := Prod.mk.inj same
    have gone : (s.entries.filter (·.1 != (ns', key'))).find? (·.1 == (ns', key')) = none := by
      rw [List.find?_eq_none]
      intro x member
      simpa using (List.mem_filter.mp member).2
    simp [gone]
  · -- Every entry found under another key passes the filter.
    have kept : (s.entries.filter (·.1 != (ns, key))).find? (·.1 == (ns', key')) =
        s.entries.find? (·.1 == (ns', key')) := by
      rw [List.find?_filter]
      congr 1
      funext a
      by_cases found : a.1 = (ns', key')
      · simp [found, same]
      · simp [found]
    simp [kept, same, Ne.symm same]

theorem recallsLastWrite :
    RecallsLastWrite (fun s : MemoryStore => s.failRead = false) (fun s key => s.get? key.1 key.2) where
  read_held s ns key room v working found fits := by
    simp [KeyValueStore.readText, working, found, fits]
  read_absent s ns key room working missing := by
    simp [KeyValueStore.readText, working, missing]
  read_keeps s ns key room working := by
    simp only [KeyValueStore.readText, working, Bool.false_eq_true, if_false]
    split
    · exact ⟨working, rfl⟩
    · split <;> exact ⟨working, rfl⟩
  write_puts s ns key v t working written := by
    simp only [KeyValueStore.writeText] at written
    split at written
    · cases written
    · obtain ⟨rfl, -⟩ := Prod.mk.inj written
      refine ⟨working, ?_⟩
      funext k
      rw [Function.update_apply]
      exact get?_put s ns key v k.1 k.2
  commit_keeps s ns working := by
    simp only [KeyValueStore.commit]
    split <;> exact ⟨working, rfl⟩

end MemoryStore

theorem credentials_record_round_trips_in_memory :
    RecallsLastWrite (fun s : MemoryStore => s.failRead = false) (fun s key => s.get? key.1 key.2) ∧
      Credentials.new "home" "secret" = .ok ⟨"home", "secret"⟩ ∧
      ((⟨{}⟩ : StoredCredentials MemoryStore).save ⟨"home", "secret"⟩).2 = .ok () ∧
      (((⟨{}⟩ : StoredCredentials MemoryStore).save ⟨"home", "secret"⟩).1.load).2 =
        .ok (some ⟨"home", "secret"⟩) :=
  ⟨MemoryStore.recallsLastWrite, rfl, rfl,
    credentials_record_round_trips.2.2.2.1 MemoryStore _ _ MemoryStore.recallsLastWrite ⟨{}⟩ "home" "secret"
      _ rfl rfl rfl⟩

end Gateway.Scenario
