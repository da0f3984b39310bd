import Mathlib
import Gateway.Proofs.LinkFacts
/-!
Which credentials the connectivity manager writes to its store. The store is wrapped in a journal
of every call made to it, with its answer, so that the pair the store holds is read off the calls
and not off the manager: the last pair loaded at bring-up or written with success since. The
manager's own copy of that pair, `stored`, always agrees with the journal, and the store is
written exactly at the station addresses that find the active credentials differing from it. So a
pair the store holds is never written again, a new pair is written at its first address and not
at later ones, and a pair whose write failed is written again at the next address.

Main statement: `store_writes_follow_changed_credentials`.
-/
namespace Gateway.Network

/-- One call to a credential store, with the store's answer. -/
inductive StoreEntry where
  | load (answer : Except NetworkError (Option Credentials))
  | save (c : Credentials) (answer : Except NetworkError Unit)

namespace StoreEntry

def held? : StoreEntry → Option Credentials
  | .load (.ok (some c)) | .save c (.ok ()) => some c
  | _ => none

def written? : StoreEntry → Option Credentials
  | .save c _ => some c
  | .load _ => none

end StoreEntry

def heldPair (calls : List StoreEntry) : Option Credentials :=
  (calls.filterMap StoreEntry.held?).getLast?

theorem heldPair_snoc (calls : List StoreEntry) (e : StoreEntry) :
    heldPair (calls ++ [e]) = e.held?.or (heldPair calls) := by
  cases held : e.held? <;> simp [heldPair, List.filterMap_append, held]

/-- A credential store that keeps a journal of the calls made to it. -/
structure Journaled (τ : Type) where
  store : τ
  calls : List StoreEntry

namespace Journaled

variable {τ : Type} [CredentialStore τ]

def load (j : Journaled τ) : Journaled τ × Except NetworkError (Option Credentials) :=
  let (t, r) := CredentialStore.load j.store
  (⟨t, j.calls ++ [.load r]⟩, r)

def save (j : Journaled τ) (c : Credentials) : Journaled τ × Except NetworkError Unit :=
  let (t, r) := CredentialStore.save j.store c
  (⟨t, j.calls ++ [.save c r]⟩, r)

instance : CredentialStore (Journaled τ) := ⟨load, save⟩

theorem calls_of_load {j t : Journaled τ} {r : Except NetworkError (Option Credentials)}
    (loaded : CredentialStore.load j = (t, r)) : t.calls = j.calls ++ [.load r] := by
  obtain ⟨rfl, rfl⟩ := Prod.ext_iff.mp loaded
  rfl

theorem calls_of_save {j t : Journaled τ} {c : Credentials} {r : Except NetworkError Unit}
    (saved : CredentialStore.save j c = (t, r)) : t.calls = j.calls ++ [.save c r] := by
  obtain ⟨rfl, rfl⟩ := Prod.ext_iff.mp saved
  rfl

end Journaled

namespace Manager

variable {ω ε τ : Type} {m m' : Manager ω ε (Journaled τ)}

def writes (m : Manager ω ε (Journaled τ)) : List Credentials :=
  m.store.calls.filterMap StoreEntry.written?

def Mirrors (m : Manager ω ε (Journaled τ)) : Prop :=
  m.stored = heldPair m.store.calls

def due (m : Manager ω ε (Journaled τ)) : Option Credentials :=
  match m.active with
  | some c => if heldPair m.store.calls = some c then none else some c
  | none => none

/-- What a link event owes the store when it meets manager `m`: an address for the station owes
what the manager owes; no other event owes anything. -/
def owed (m : Manager ω ε (Journaled τ)) : LinkEvent → Option Credentials
  | .stationGotIp _ => m.due
  | _ => none

/-- Managers `m` and `m'` have the same store and the same copy of the stored pair. -/
structure KeepsStore (m m' : Manager ω ε τ) : Prop where
  store : m'.store = m.store
  stored : m'.stored = m.stored

theorem KeepsStore.trans {m₁ m₂ m₃ : Manager ω ε τ} (one : KeepsStore m₁ m₂) (two : KeepsStore m₂ m₃) :
    KeepsStore m₁ m₃ :=
  ⟨two.store.trans one.store, two.stored.trans one.stored⟩

theorem Mirrors.of_keeps (mirrors : m.Mirrors) (keeps : KeepsStore m m') : m'.Mirrors := by
  rw [Mirrors, keeps.store, keeps.stored]
  exact mirrors

theorem writes_of_keeps (keeps : KeepsStore m m') : m'.writes = m.writes := by
  rw [writes, keeps.store, writes]

theorem publish_keepsStore (m : Manager ω ε τ) (g : Hub) : KeepsStore m (m.publish g).1 := ⟨rfl, rfl⟩

section Radio

variable [WifiDriver ω]

theorem applyCredentials_keepsStore (m : Manager ω ε τ) (c : Credentials) :
    KeepsStore m (m.applyCredentials c).1 := by
  obtain ⟨w, a, applied⟩ := applyCredentials_shape m c
  rw [applied]
  exact ⟨rfl, rfl⟩

theorem manageConnection_keepsStore (m : Manager ω ε τ) : KeepsStore m m.manageConnection := by
  have step := managed m
  generalize m.manageConnection = m' at step
  cases step <;> exact ⟨rfl, rfl⟩

theorem applied_keepsStore (m : Manager ω ε τ) (h : Hub) : KeepsStore m (m.applied h) := by
  unfold applied
  cases h.credentials.items.head? with
  | none => exact ⟨rfl, rfl⟩
  | some c => exact applyCredentials_keepsStore m c

end Radio

section Store

variable [CredentialStore τ]

theorem Mirrors.persisted (mirrors : m.Mirrors) :
    m.persistCredentials.Mirrors ∧ m.persistCredentials.writes = m.writes ++ m.due.toList := by
  unfold persistCredentials due
  cases active : m.active with
  | none => exact ⟨mirrors, (List.append_nil _).symm⟩
  | some c =>
    have same : heldPair m.store.calls = some c ↔ m.stored = some c := by rw [mirrors]
    dsimp only
    by_cases held : m.stored = some c
    · rw [if_pos held, if_pos (same.mpr held)]
      exact ⟨mirrors, (List.append_nil _).symm⟩
    rw [if_neg held, if_neg (mt same.mp held)]
    split
    · next t saved =>
      have calls := Journaled.calls_of_save saved
      constructor
      · simp [Mirrors, calls, heldPair_snoc, StoreEntry.held?]
      · simp [writes, calls, StoreEntry.written?]
    · next t e saved =>
      have calls := Journaled.calls_of_save saved
      constructor
      · simpa [Mirrors, calls, heldPair_snoc, StoreEntry.held?] using mirrors
      · simp [writes, calls, StoreEntry.written?]

end Store

section Links

variable [WiredDriver ε] [CredentialStore τ]

theorem Mirrors.event (mirrors : m.Mirrors) (e : LinkEvent) :
    (m.handleEvent e).Mirrors ∧ (m.handleEvent e).writes = m.writes ++ (m.owed e).toList := by
  cases e with
  | stationGotIp ip => exact Mirrors.persisted mirrors
  | _ => exact ⟨mirrors, (List.append_nil _).symm⟩

theorem Mirrors.events (mirrors : m.Mirrors) (es : List LinkEvent) :
    (es.foldl handleEvent m).Mirrors ∧
      (es.foldl handleEvent m).writes = m.writes ++ (trail m es).filterMap fun p => p.1.owed p.2 := by
  induction es generalizing m with
  | nil => exact ⟨mirrors, (List.append_nil _).symm⟩
  | cons e rest ih =>
    obtain ⟨mirrored, written⟩ := mirrors.event e
    obtain ⟨mirrors', writes'⟩ := ih mirrored
    refine ⟨mirrors', ?_⟩
    rw [List.foldl_cons, writes', written, trail, List.filterMap_cons, List.append_assoc]
    cases m.owed e <;> rfl

end Links

section Running

variable [WifiDriver ω] [WiredDriver ε] [CredentialStore τ]

theorem Mirrors.brought_up (mirrors : m.Mirrors) (h : Hub) :
    (m.bringUp h).2.1.Mirrors ∧ (m.bringUp h).2.1.writes = m.writes := by
  unfold bringUp
  split
  · exact ⟨mirrors, rfl⟩
  · split
    · exact ⟨mirrors, rfl⟩
    · dsimp only
      split
      · next t c loaded =>
        have calls := Journaled.calls_of_load loaded
        refine ⟨Mirrors.of_keeps ?_ (KeepsStore.trans (applyCredentials_keepsStore _ c) (publish_keepsStore _ h)),
          (writes_of_keeps (KeepsStore.trans (applyCredentials_keepsStore _ c) (publish_keepsStore _ h))).trans ?_⟩
        · simp [Mirrors, calls, heldPair_snoc, StoreEntry.held?]
        · simp [writes, calls, StoreEntry.written?]
      · next t r other loaded =>
        have calls := Journaled.calls_of_load loaded
        -- A load that gives no pair leaves the pair the journal shows as it was.
        have unheld : (StoreEntry.load r).held? = none := by
          cases r with
          | error e => rfl
          | ok found =>
            cases found with
            | none => rfl
            | some c => exact (other c rfl).elim
        refine ⟨Mirrors.of_keeps ?_ (publish_keepsStore _ h), (writes_of_keeps (publish_keepsStore _ h)).trans ?_⟩
        · simpa [Mirrors, calls, heldPair_snoc, unheld] using mirrors
        · simp [writes, calls, StoreEntry.written?]

/-- Over every run from a new manager over a journaled store, the pairs written to the store are,
in order, those owed by the link events the ticks followed, each owed by the address event that
finds the active credentials differing from the pair the journal shows the store to hold; and the
manager's copy of that pair is always the journal's. -/
theorem store_writes_follow_changed_credentials {wifi : ω} {wired : ε} {store : τ} {options : NetworkOptions}
    {m : Manager ω ε (Journaled τ)} {h : Hub} {seen : List (Manager ω ε (Journaled τ) × LinkEvent)}
    (run : Run (new wifi wired ⟨store, []⟩ options) m h seen) :
    m.store.calls.filterMap StoreEntry.written? = seen.filterMap (fun p => p.1.owed p.2) ∧
      m.stored = heldPair m.store.calls := by
  induction run with
  | @up h _ =>
    -- A new manager has written nothing, and neither it nor its empty journal holds a pair.
    have fresh : (new wifi wired ⟨store, []⟩ options : Manager ω ε (Journaled τ)).Mirrors := rfl
    obtain ⟨mirrors, written⟩ := fresh.brought_up h
    exact ⟨written, mirrors⟩
  | @tick m m' h₀ h h' c c' seen _ ran ih =>
    obtain ⟨g, rfl⟩ := tick_run ran
    have written : m.writes = seen.filterMap (fun p => p.1.owed p.2) := ih.1
    have followed := Mirrors.events ((show m.Mirrors from ih.2).of_keeps (applied_keepsStore m h))
      h.linkEvents.items
    rw [← found_eq_applied] at followed
    have kept := KeepsStore.trans (manageConnection_keepsStore (m.found h)) (publish_keepsStore _ g)
    refine ⟨?_, followed.1.of_keeps kept⟩
    show writes _ = _
    rw [writes_of_keeps kept, followed.2, writes_of_keeps (applied_keepsStore m h), written,
      List.filterMap_append]

end Running

end Manager

end Gateway.Network

namespace Gateway.Scenario
open Gateway.Network Gateway.Hub

def journaledBench : Manager FakeWifi FakeWired (Journaled (StoredCredentials MemoryStore)) :=
  Manager.new {} {} ⟨⟨{}⟩, []⟩ {}

def officeHub : Hub :=
  { credentials := { capacity := credentialsDepth, items := [⟨"office", "secret"⟩] },
    linkEvents := { capacity := linkEventsDepth, items := [.stationGotIp ⟨10, 0, 0, 3⟩] } }

def reconnectedHub : Hub :=
  { linkEvents := { capacity := linkEventsDepth, items := [.stationDisconnected, .stationGotIp ⟨10, 0, 0, 3⟩] } }

/-- New credentials are written at their first address, and not again when the station
reconnects with them. -/
theorem store_writes_follow_changed_credentials_across_reconnect :
    ∃ m h seen, Manager.Run journaledBench m h seen ∧
      m.store.calls.filterMap StoreEntry.written? = [⟨"office", "secret"⟩] ∧
      (m.store.calls.filterMap StoreEntry.written? = seen.filterMap (fun p => p.1.owed p.2) ∧
        m.stored = heldPair m.store.calls) :=
  have up := Manager.Run.up (show (journaledBench.bringUp {}).1 = .ok () from rfl)
  have first := Manager.Run.tick up
    (show Manager.tick.run (((journaledBench.bringUp {}).2.1, officeHub), ⟨0, none⟩) = .ok () _ from rfl)
  have again := Manager.Run.tick first
    (show Manager.tick.run ((_, reconnectedHub), ⟨0, none⟩) = .ok () _ from rfl)
  ⟨_, _, _, again, rfl, Manager.store_writes_follow_changed_credentials again⟩

end Gateway.Scenario
