import Gateway.Network.Credentials
import Gateway.Network.Error
/-!
Keeping station credentials between boots. A key/value store holds text under a namespace and a
key; the credentials are the keys `ssid` and `pwd` of namespace `wifi`, read into buffers of the
radio's field sizes. A record that does not make valid credentials reads as no record.
-/
namespace Gateway.Network

/-- A namespaced key/value store of text in non-volatile memory. -/
class KeyValueStore (τ : Type) where
  readText : τ → (ns key : String) → (room : Nat) → τ × Except Unit (Option String)
  writeText : τ → (ns key value : String) → τ × Except Unit Unit
  commit : τ → (ns : String) → τ × Except Unit Unit

def wifiNamespace : String := "wifi"

def ssidKey : String := "ssid"

def passwordKey : String := "pwd"

/-- Where the connectivity manager keeps its credentials between boots. -/
class CredentialStore (τ : Type) where
  load : τ → τ × Except NetworkError (Option Credentials)
  save : τ → Credentials → τ × Except NetworkError Unit

/-- Credentials kept in a key/value store. -/
structure StoredCredentials (τ : Type) where
  store : τ

namespace StoredCredentials

variable {τ : Type} [KeyValueStore τ]

def read (s : StoredCredentials τ) (key : String) (room : Nat) :
    StoredCredentials τ × Except NetworkError (Option String) :=
  match KeyValueStore.readText s.store wifiNamespace key room with
  | (t, .ok v) => (⟨t⟩, .ok v)
  | (t, .error ()) => (⟨t⟩, .error .storage)

def load (s : StoredCredentials τ) : StoredCredentials τ × Except NetworkError (Option Credentials) :=
  match s.read ssidKey ssidField with
  | (s, .error e) => (s, .error e)
  | (s, .ok ssid) =>
    match s.read passwordKey passwordField with
    | (s, .error e) => (s, .error e)
    | (s, .ok password) =>
      match ssid, password with
      | some ssid, some password =>
        match Credentials.new ssid password with
        | .ok c => (s, .ok (some c))
        | .error _ => (s, .ok none)
      | _, _ => (s, .ok none)

def save (s : StoredCredentials τ) (c : Credentials) : StoredCredentials τ × Except NetworkError Unit :=
  match KeyValueStore.writeText s.store wifiNamespace ssidKey c.ssid with
  | (t, .error ()) => (⟨t⟩, .error .storage)
  | (t, .ok ()) =>
    match KeyValueStore.writeText t wifiNamespace passwordKey c.password with
    | (t, .error ()) => (⟨t⟩, .error .storage)
    | (t, .ok ()) =>
      match KeyValueStore.commit t wifiNamespace with
      | (t, .error ()) => (⟨t⟩, .error .storage)
      | (t, .ok ()) => (⟨t⟩, .ok ())

end StoredCredentials

instance {τ : Type} [KeyValueStore τ] : CredentialStore (StoredCredentials τ) where
  load := StoredCredentials.load
  save := StoredCredentials.save

end Gateway.Network
