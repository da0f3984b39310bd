import Mathlib
import Gateway.Proofs.Persistence
/-!
Where the credentials the connectivity manager stores come from. The radio is wrapped in a
journal of the configurations it was given, with its answers. The manager's active credentials
are always those of the last configuration, when the radio accepted it, and the store is written
only with the active credentials, while following a station address. So a pair written to the
store is the one the radio was configured with last, with success.

A tick takes new credentials before it follows the link events queued when it began, and taking
them keeps the station's phase. So a pair is written at the first address a tick follows either
with credentials configured before that tick, or with the credentials that very tick took: then
the address was queued before the radio was configured with them
(`address_queued_before_configuration_stores_credentials`).

Main statement: `store_writes_follow_last_configuration`.
-/
namespace Gateway.Network

/-- A radio that keeps a journal of the credentials it is configured with, with its answers. -/
structure Configured (ω : Type) where
  radio : ω
  configs : List (Credentials × Except DriverError Unit)

instance {ω : Type} [WifiDriver ω] : WifiDriver (Configured ω) where
  startAccessPoint d cfg :=
    ({ d with radio := (WifiDriver.startAccessPoint d.radio cfg).1 }, (WifiDriver.startAccessPoint d.radio cfg).2)
  configureStation d c :=
    (⟨(WifiDriver.configureStation d.radio c).1, d.configs ++ [(c, (WifiDriver.configureStation d.radio c).2)]⟩,
      (WifiDriver.configureStation d.radio c).2)
  connectStation d :=
    ({ d with radio := (WifiDriver.connectStation d.radio).1 }, (WifiDriver.connectStation d.radio).2)

def lastAccepted (configs : List (Credentials × Except DriverError Unit)) : Option Credentials :=
  match configs.getLast? with
  | some (c, .ok ()) => some c
  | _ => none

theorem lastAccepted_eq_some {configs : List (Credentials × Except DriverError Unit)} {c : Credentials} :
    lastAccepted configs = some c ↔ configs.getLast? = some (c, .ok ()) := by
  unfold lastAccepted
  split
  · next c' last => simp [last]
  · next other => simpa using other c

namespace Configured

variable {ω : Type} [WifiDriver ω] (d : Configured ω)

@[simp] theorem configs_startAccessPoint (cfg : AccessPointConfig) :
    (WifiDriver.startAccessPoint d cfg).1.configs = d.configs := rfl

@[simp] theorem configs_connectStation : (WifiDriver.connectStation d).1.configs = d.configs := rfl

@[simp] theorem configs_configureStation (c : Credentials) :
    (WifiDriver.configureStation d c).1.configs = d.configs ++ [(c, (WifiDriver.configureStation d c).2)] := rfl

end Configured

namespace Manager

variable {ω ε τ : Type}

def Attested (m : Manager (Configured ω) ε τ) : Prop :=
  m.active = lastAccepted m.wifi.configs

section Frames

variable {m m' : Manager (Configured ω) ε τ}

theorem Attested.of_configs (attested : m.Attested) (active : m'.active = m.active)
    (configs : m'.wifi.configs = m.wifi.configs) : m'.Attested := by
  rw [Attested, active, configs]
  exact attested

theorem Attested.of_frame (attested : m.Attested) (frame : Frame m m') : m'.Attested :=
  attested.of_configs frame.active (by rw [frame.wifi])

end Frames

section Radio

variable [WifiDriver ω] {m m' : Manager (Configured ω) ε τ}

theorem applyCredentials_attested (m : Manager (Configured ω) ε τ) (c : Credentials) :
    (m.applyCredentials c).1.Attested ∧
      (m.applyCredentials c).1.wifi.configs = m.wifi.configs ++ [(c, (WifiDriver.configureStation m.wifi c).2)] := by
  refine ⟨?_, by rw [applyCredentials_wifi, Configured.configs_configureStation]⟩
  unfold Attested applyCredentials
  dsimp only
  -- The journal the radio answers with ends with this configuration and its answer.
  have journal := Configured.configs_configureStation m.wifi c
  split
  · next w accepted =>
    rw [accepted] at journal
    simp [lastAccepted, show w.configs = _ from journal]
  · next w e refused =>
    rw [refused] at journal
    simp [lastAccepted, show w.configs = _ from journal]

theorem Attested.applied (attested : m.Attested) (h : Hub) : (m.applied h).Attested := by
  unfold Manager.applied
  cases h.credentials.items.head? with
  | none => exact attested
  | some c => exact (applyCredentials_attested m c).1

theorem Attested.managed (attested : m.Attested) (step : m.Managed m') : m'.Attested := by
  cases step <;> exact attested

end Radio

section Links

variable [WiredDriver ε] [CredentialStore τ]

theorem trail_frame (m : Manager ω ε τ) (es : List LinkEvent) :
    ∀ p ∈ trail m es, Frame m p.1 := by
  induction es generalizing m with
  | nil => simp [trail]
  | cons e rest ih =>
    intro p mem
    rcases List.mem_cons.mp mem with rfl | later
    · exact .refl m
    · exact (handleEvent_frame m e).trans (ih _ p later)

theorem active_of_written {m : Manager ω ε (Journaled τ)} {e : LinkEvent} {c : Credentials}
    (wrote : (m.handleEvent e).writes = m.writes ++ [c]) : m.active = some c := by
  have unwritten : ∀ {m' : Manager ω ε (Journaled τ)}, KeepsStore m m' → m'.writes ≠ m.writes ++ [c] := by
    intro m' keeps
    rw [writes_of_keeps keeps]
    simp
  cases e with
  | stationGotIp ip =>
    unfold handleEvent persistCredentials at wrote
    dsimp only at wrote
    split at wrote
    · exact (unwritten ⟨rfl, rfl⟩ wrote).elim
    · next c' active =>
      split at wrote
      · exact (unwritten ⟨rfl, rfl⟩ wrote).elim
      · split at wrote
        · next t saved =>
          simp [writes, Journaled.calls_of_save saved, StoreEntry.written?] at wrote
          rw [active, wrote]
        · next t e saved =>
          simp [writes, Journaled.calls_of_save saved, StoreEntry.written?] at wrote
          rw [active, wrote]
  | _ => exact (unwritten ⟨rfl, rfl⟩ wrote).elim

end Links

section Running

variable [WifiDriver ω] [WiredDriver ε] [CredentialStore τ]

theorem bringUp_attested {m : Manager (Configured ω) ε τ} (attested : m.Attested) (h : Hub) :
    (m.bringUp h).2.1.Attested := by
  unfold bringUp
  -- Starting the access point is the only call to the radio before the store is read.
  have started := Configured.configs_startAccessPoint m.wifi m.options.accessPoint
  split
  · next w e failed =>
    rw [failed] at started
    exact attested.of_configs rfl started
  · next w up =>
    rw [up] at started
    split
    · exact attested.of_configs rfl started
    · dsimp only
      split
      · exact (applyCredentials_attested _ _).1
      · exact attested.of_configs rfl started

theorem Run.attested {wifi : ω} {wired : ε} {store : τ} {options : NetworkOptions}
    {m : Manager (Configured ω) ε τ} {h : Hub} {seen : List (Manager (Configured ω) ε τ × LinkEvent)}
    (run : Run (new ⟨wifi, []⟩ wired store options) m h seen) : m.Attested := by
  induction run with
  | up _ =>
    -- A new manager has no credentials, and its radio has not been configured.
    exact bringUp_attested (show (new ⟨wifi, []⟩ wired store options : Manager _ ε τ).Attested from rfl) _
  | @tick m m' h₀ h h' c c' seen _ ran ih =>
    obtain ⟨g, rfl⟩ := tick_run ran
    have found : (m.found h).Attested := by
      rw [found_eq_applied]
      exact (ih.applied h).of_frame (foldl_handleEvent_frame _ _)
    exact (found.managed (managed _)).of_frame ⟨rfl, rfl, rfl, rfl⟩

/-- Over every run from a new manager over a journaled radio and a journaled store, whenever a
tick from hub `h` writes a pair to the store while following a link event, the radio was last
configured with that pair and accepted it; and either that configuration was made before the
tick began and the tick took no new credentials, or it is the configuration with the credentials
the tick took, made after the events the tick follows were queued. -/
theorem store_writes_follow_last_configuration {wifi : ω} {wired : ε} {store : τ}
    {options : NetworkOptions} {m : Manager (Configured ω) ε (Journaled τ)} {h₀ h : Hub}
    {seen : List (Manager (Configured ω) ε (Journaled τ) × LinkEvent)}
    (run : Run (new ⟨wifi, []⟩ wired ⟨store, []⟩ options) m h₀ seen)
    {p : Manager (Configured ω) ε (Journaled τ) × LinkEvent}
    (followed : p ∈ Manager.trail (m.applied h) h.linkEvents.items)
    {c : Credentials} (wrote : (p.1.handleEvent p.2).writes = p.1.writes ++ [c]) :
    p.1.wifi.configs.getLast? = some (c, .ok ()) ∧
      (h.credentials.items = [] ∧ p.1.wifi.configs = m.wifi.configs ∨
        h.credentials.items.head? = some c ∧ p.1.wifi.configs = m.wifi.configs ++ [(c, .ok ())]) := by
  have frame := trail_frame _ _ p followed
  have last : p.1.wifi.configs.getLast? = some (c, .ok ()) := by
    have attested := (run.attested.applied h).of_frame frame
    rw [Attested, active_of_written wrote] at attested
    exact lastAccepted_eq_some.mp attested.symm
  refine ⟨last, ?_⟩
  rw [frame.wifi] at last ⊢
  unfold applied at last ⊢
  cases taken : h.credentials.items with
  | nil => exact .inl ⟨rfl, by simp⟩
  | cons c' rest =>
    -- The tick configured the radio with the credentials it took: they are the pair written.
    simp only [taken, List.head?_cons, Option.elim_some] at last ⊢
    rw [(applyCredentials_attested m c').2] at last ⊢
    simp only [List.getLast?_append, List.getLast?_singleton, Option.some_or, Option.some.injEq,
      Prod.mk.injEq] at last
    obtain ⟨rfl, accepted⟩ := last
    exact .inr ⟨rfl, by rw [accepted]⟩

end Running

end Manager

end Gateway.Network

namespace Gateway.Scenario
open Gateway.Network Gateway.Hub

def configuredBench : Manager (Configured FakeWifi) FakeWired (Journaled (StoredCredentials MemoryStore)) :=
  Manager.new ⟨{}, []⟩ {} ⟨⟨{}⟩, []⟩ {}

def credentialsHub : Hub :=
  { credentials := { capacity := credentialsDepth, items := [⟨"office", "secret"⟩] } }

def addressHub : Hub :=
  { linkEvents := { capacity := linkEventsDepth, items := [.stationGotIp ⟨10, 0, 0, 3⟩] } }

/-- Credentials taken by one tick are written at the address the next tick follows; the radio was
configured with them before that tick. -/
theorem store_writes_follow_last_configuration_after_earlier_tick :
    ∃ m h₀ seen, Manager.Run configuredBench m h₀ seen ∧
      ∃ p ∈ Manager.trail (m.applied addressHub) addressHub.linkEvents.items,
        (p.1.handleEvent p.2).writes = p.1.writes ++ [⟨"office", "secret"⟩] ∧
        (p.1.wifi.configs.getLast? = some (⟨"office", "secret"⟩, .ok ()) ∧
          (addressHub.credentials.items = [] ∧ p.1.wifi.configs = m.wifi.configs ∨
            addressHub.credentials.items.head? = some ⟨"office", "secret"⟩ ∧
              p.1.wifi.configs = m.wifi.configs ++ [(⟨"office", "secret"⟩, .ok ())])) :=
  have up := Manager.Run.up (show (configuredBench.bringUp {}).1 = .ok () from rfl)
  have first := Manager.Run.tick up
    (show Manager.tick.run (((configuredBench.bringUp {}).2.1, credentialsHub), ⟨0, none⟩) = .ok () _ from rfl)
  have followed : (_, .stationGotIp ⟨10, 0, 0, 3⟩) ∈
      Manager.trail (Manager.applied _ addressHub) addressHub.linkEvents.items :=
    List.mem_singleton_self _
  ⟨_, _, _, first, _, followed, rfl, Manager.store_writes_follow_last_configuration first followed rfl⟩

/-- An address queued before a tick takes new credentials makes the store write them: the tick
configures the radio with them, then follows the address, queued before the radio had them. -/
theorem address_queued_before_configuration_stores_credentials :
    ∃ m h₀ m' h', Manager.Run configuredBench m h₀ [] ∧ m.wifi.configs = [] ∧
      officeHub.credentials.items = [⟨"office", "secret"⟩] ∧
      officeHub.linkEvents.items = [.stationGotIp ⟨10, 0, 0, 3⟩] ∧
      (Manager.trail (m.applied officeHub) officeHub.linkEvents.items).map
          (fun p => (p.2, p.1.writes, (p.1.handleEvent p.2).writes, p.1.wifi.configs)) =
        [(.stationGotIp ⟨10, 0, 0, 3⟩, [], [⟨"office", "secret"⟩], [(⟨"office", "secret"⟩, .ok ())])] ∧
      Manager.Run configuredBench m' h' (Manager.trail (m.applied officeHub) officeHub.linkEvents.items) ∧
      m'.writes = [⟨"office", "secret"⟩] :=
  have up := Manager.Run.up (show (configuredBench.bringUp {}).1 = .ok () from rfl)
  have first := Manager.Run.tick up
    (show Manager.tick.run (((configuredBench.bringUp {}).2.1, officeHub), ⟨0, none⟩) = .ok () _ from rfl)
  ⟨_, _, _, _, up, rfl, rfl, rfl, rfl, first, rfl⟩

end Gateway.Scenario
