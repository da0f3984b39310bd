import Mathlib
import Gateway.Network.Manager
import Gateway.Scenario.Network
/-!
The station retry policy of the connectivity manager. A tick first applies credentials it
took, then follows the queued link events, and last makes at most one station attempt. The
count `retries` starts afresh when credentials are applied or the station gets its address,
grows by one with each attempt, and once it reaches `maxReconnectAttempts` the next tick that
finds the station down with credentials active marks the station exhausted, after which only
new credentials bring attempts back.

To count attempts the radio is wrapped in `Counted`, which passes every call on and counts the
station attempts, refused ones included.

Main statement (`reachable_managers_follow_retry_policy`): from every manager the task can reach,
`RetryPolicy` holds. The station is marked exhausted only with credentials active: with no
attempt allowed and no credentials, a tick finds the count at the limit and the station down
and still leaves it unmarked (`exhaustion_waits_for_credentials`).
-/
namespace Gateway.Network
open Gateway.Hub

/-- A radio that counts the station attempts it is asked for, refused ones included. -/
structure Counted (ω : Type) where
  radio : ω
  attempts : Nat

instance {ω : Type} [WifiDriver ω] : WifiDriver (Counted ω) where
  startAccessPoint d cfg :=
    ({ d with radio := (WifiDriver.startAccessPoint d.radio cfg).1 }, (WifiDriver.startAccessPoint d.radio cfg).2)
  configureStation d c :=
    ({ d with radio := (WifiDriver.configureStation d.radio c).1 }, (WifiDriver.configureStation d.radio c).2)
  connectStation d :=
    ({ radio := (WifiDriver.connectStation d.radio).1, attempts := d.attempts + 1 },
      (WifiDriver.connectStation d.radio).2)

namespace Counted

variable {ω : Type} [WifiDriver ω] (d : Counted ω)

@[simp] theorem attempts_configureStation (c : Credentials) :
    (WifiDriver.configureStation d c).1.attempts = d.attempts := rfl

@[simp] theorem attempts_connectStation : (WifiDriver.connectStation d).1.attempts = d.attempts + 1 := rfl

end Counted

/-- A tick starts the count of attempts afresh: it applies credentials, or follows the address
that connects the station. -/
def Resets (taken : Option Credentials × List LinkEvent) : Prop :=
  taken.1.isSome ∨ ∃ ip, LinkEvent.stationGotIp ip ∈ taken.2

namespace Manager

variable {ω ε τ : Type}

section Frames

variable {m : Manager ω ε τ}

/-- What a tick keeps of the manager while it applies credentials and follows link events, and
the attempt step keeps too: the radio, the credentials in use, the options and whether the
station is exhausted. -/
structure Frame (m m' : Manager ω ε τ) : Prop where
  wifi : m'.wifi = m.wifi
  active : m'.active = m.active
  options : m'.options = m.options
  exhausted : m'.station.exhausted = m.station.exhausted

theorem Frame.refl (m : Manager ω ε τ) : Frame m m := ⟨rfl, rfl, rfl, rfl⟩

theorem Frame.trans {m₁ m₂ m₃ : Manager ω ε τ} (one : Frame m₁ m₂) (two : Frame m₂ m₃) :
    Frame m₁ m₃ :=
  ⟨two.wifi.trans one.wifi, two.active.trans one.active, two.options.trans one.options,
    two.exhausted.trans one.exhausted⟩

@[simp] theorem publish_station (m : Manager ω ε τ) (g : Hub) : (m.publish g).1.station = m.station := rfl

@[simp] theorem publish_wifi (m : Manager ω ε τ) (g : Hub) : (m.publish g).1.wifi = m.wifi := rfl

@[simp] theorem publish_options (m : Manager ω ε τ) (g : Hub) : (m.publish g).1.options = m.options := rfl

@[simp] theorem publish_active (m : Manager ω ε τ) (g : Hub) : (m.publish g).1.active = m.active := rfl

/-- The invariant of the station's count: it stays within the limit, and a connected station
has none. -/
structure Steady (m : Manager ω ε τ) : Prop where
  bounded : m.station.retries ≤ m.options.maxReconnectAttempts
  cleared : m.station.isConnected = true → m.station.retries = 0

theorem Steady.of_station {m' : Manager ω ε τ} (steady : m.Steady) (station : m'.station = m.station)
    (options : m'.options = m.options) : m'.Steady :=
  ⟨station ▸ options ▸ steady.bounded, station ▸ steady.cleared⟩

theorem Steady.of_fresh (fresh : m.station = {}) : m.Steady :=
  ⟨by simp [fresh], by simp [fresh, ConnectionState.isConnected]⟩

end Frames

section Radio

variable [WifiDriver ω] {m : Manager ω ε τ}

/-- What the attempt step of a tick does: nothing more for a connected station than clearing its
count, nothing at all while the station is exhausted or has no credentials, one attempt while the
count is below the limit, and otherwise giving up. -/
inductive Managed (m : Manager ω ε τ) : Manager ω ε τ → Prop
  | connected : m.station.isConnected = true →
      Managed m { m with station := { m.station with retries := 0 } }
  | idle : m.station.isConnected = false → (m.station.exhausted = true ∨ m.active = none) →
      Managed m m
  | attempt (phase : LinkPhase) : m.station.isConnected = false → m.station.exhausted = false →
      m.active.isSome → m.station.retries < m.options.maxReconnectAttempts → phase ≠ .connected →
      Managed m { m with
        wifi := (WifiDriver.connectStation m.wifi).1
        station := { m.station with retries := m.station.retries + 1, phase := phase } }
  | gaveUp : m.station.isConnected = false → m.station.exhausted = false → m.active.isSome →
      m.options.maxReconnectAttempts ≤ m.station.retries →
      Managed m { m with station := { m.station with exhausted := true, phase := .disconnected } }

theorem managed (m : Manager ω ε τ) : m.Managed m.manageConnection := by
  unfold manageConnection
  by_cases up : m.station.isConnected
  · simp only [up, if_true]
    exact .connected up
  simp only [up, Bool.false_eq_true, if_false]
  have down : m.station.isConnected = false := by simpa using up
  by_cases idle : m.station.exhausted = true ∨ m.active = none
  · have : (m.station.exhausted || m.active.isNone) = true := by
      rcases idle with tired | none_active <;> simp [*]
    simp only [this, if_true]
    exact .idle down idle
  have fresh : m.station.exhausted = false := by simpa using (not_or.mp idle).1
  have active : m.active.isSome := Option.isSome_iff_ne_none.mpr (not_or.mp idle).2
  have ready : (m.station.exhausted || m.active.isNone) = false := by
    simp [fresh, active]
  simp only [ready, Bool.false_eq_true, if_false]
  by_cases room : m.station.retries < m.options.maxReconnectAttempts
  · simp only [room, if_true]
    -- The attempt leaves the station connecting, or down again when the radio refuses it.
    rcases connect : WifiDriver.connectStation m.wifi with ⟨w, refused | ⟨⟩⟩
    · have step := Managed.attempt .disconnected down fresh active room (by decide)
      rw [connect] at step
      exact step
    · have step := Managed.attempt .connecting down fresh active room (by decide)
      rw [connect] at step
      exact step
  · simp only [room, if_false]
    exact .gaveUp down fresh active (Nat.le_of_not_lt room)

theorem Managed.options {m m' : Manager ω ε τ} (step : m.Managed m') : m'.options = m.options := by
  cases step <;> rfl

theorem applyCredentials_shape (m : Manager ω ε τ) (c : Credentials) :
    ∃ w a, (m.applyCredentials c).1 =
      { m with wifi := w, station := { m.station with retries := 0, exhausted := false }, active := a } := by
  unfold applyCredentials
  dsimp only
  split
  · exact ⟨_, _, rfl⟩
  · exact ⟨_, _, rfl⟩

theorem applyCredentials_station (m : Manager ω ε τ) (c : Credentials) :
    (m.applyCredentials c).1.station = { m.station with retries := 0, exhausted := false } := by
  obtain ⟨w, a, applied⟩ := applyCredentials_shape m c
  rw [applied]

theorem applyCredentials_wifi (m : Manager ω ε τ) (c : Credentials) :
    (m.applyCredentials c).1.wifi = (WifiDriver.configureStation m.wifi c).1 := by
  unfold applyCredentials
  dsimp only
  split <;> simp_all

theorem applyCredentials_active_of_refused {c : Credentials}
    (refused : (WifiDriver.configureStation m.wifi c).2 ≠ .ok ()) :
    (m.applyCredentials c).1.active = none := by
  unfold applyCredentials
  dsimp only
  split
  · rename_i w accepted
    rw [accepted] at refused
    exact absurd rfl refused
  · rfl

theorem applyCredentials_options (m : Manager ω ε τ) (c : Credentials) :
    (m.applyCredentials c).1.options = m.options := by
  obtain ⟨w, a, applied⟩ := applyCredentials_shape m c
  rw [applied]

theorem Steady.applied (m : Manager ω ε τ) (c : Credentials) :
    (m.applyCredentials c).1.Steady :=
  ⟨by simp [applyCredentials_station], by simp [applyCredentials_station]⟩

theorem Steady.after_attempt {m' : Manager ω ε τ} (steady : m.Steady) (step : m.Managed m') :
    m'.Steady := by
  cases step with
  | connected _ => exact ⟨Nat.zero_le _, fun _ => rfl⟩
  | idle _ _ => exact steady
  | attempt phase _ _ _ room other =>
    exact ⟨room, fun up => absurd (by simpa [ConnectionState.isConnected] using up) other⟩
  | gaveUp _ _ _ _ => exact ⟨steady.bounded, fun up => by simp [ConnectionState.isConnected] at up⟩

section Counting

variable {m m' : Manager (Counted ω) ε τ}

theorem Managed.attempts_le (step : m.Managed m') : m'.wifi.attempts ≤ m.wifi.attempts + 1 := by
  cases step <;> simp

theorem Managed.count (step : m.Managed m') (steady : m.Steady) :
    m'.wifi.attempts + m.station.retries = m.wifi.attempts + m'.station.retries := by
  cases step with
  | connected up => simp [steady.cleared up]
  | idle _ _ => rfl
  | attempt _ _ _ _ _ _ => simp; omega
  | gaveUp _ _ _ _ => rfl

theorem Managed.of_exhausted (step : m.Managed m') (exhausted : m.station.exhausted = true) :
    m'.wifi.attempts = m.wifi.attempts ∧ m'.station.exhausted = true := by
  cases step with
  | connected _ => exact ⟨rfl, exhausted⟩
  | idle _ _ => exact ⟨rfl, exhausted⟩
  | attempt _ _ fresh _ _ _ => simp [exhausted] at fresh
  | gaveUp _ fresh _ _ => simp [exhausted] at fresh

theorem Managed.of_inactive (step : m.Managed m') (inactive : m.active = none) :
    m'.wifi.attempts = m.wifi.attempts := by
  cases step with
  | attempt _ _ _ active _ _ => simp [inactive] at active
  | gaveUp _ _ active _ => simp [inactive] at active
  | _ => rfl

theorem Managed.gives_up (step : m.Managed m')
    (spent : m.station.retries = m.options.maxReconnectAttempts) (down : m.station.isConnected = false)
    (active : m.active.isSome) : m'.station.exhausted = true := by
  cases step with
  | connected up => simp [up] at down
  | idle _ idle =>
    rcases idle with tired | inactive
    · exact tired
    · simp [inactive] at active
  | attempt _ _ _ _ room _ => omega
  | gaveUp _ _ _ _ => rfl

end Counting

end Radio

section Store

variable [CredentialStore τ]

theorem persistCredentials_shape (m : Manager ω ε τ) :
    ∃ t s, m.persistCredentials = { m with store := t, stored := s } := by
  unfold persistCredentials
  split
  · exact ⟨m.store, m.stored, rfl⟩
  · split
    · exact ⟨m.store, m.stored, rfl⟩
    · split
      · exact ⟨_, _, rfl⟩
      · exact ⟨_, _, rfl⟩

theorem persistCredentials_station (m : Manager ω ε τ) : m.persistCredentials.station = m.station := by
  obtain ⟨t, s, saved⟩ := persistCredentials_shape m
  rw [saved]

theorem persistCredentials_frame (m : Manager ω ε τ) : Frame m m.persistCredentials := by
  obtain ⟨t, s, saved⟩ := persistCredentials_shape m
  rw [saved]
  exact ⟨rfl, rfl, rfl, rfl⟩

end Store

section Links

variable [WiredDriver ε] [CredentialStore τ] {m : Manager ω ε τ}

theorem handleEvent_frame (m : Manager ω ε τ) (e : LinkEvent) : Frame m (m.handleEvent e) := by
  cases e with
  | stationGotIp ip =>
    have saved := persistCredentials_frame { m with station := m.station.connected, stationIp := some ip }
    exact ⟨saved.wifi, saved.active, saved.options, saved.exhausted⟩
  | _ => exact ⟨rfl, rfl, rfl, rfl⟩

theorem handleEvent_retries_of_gotIp (m : Manager ω ε τ) (ip : Ipv4) :
    (m.handleEvent (.stationGotIp ip)).station.retries = 0 := by
  simp [handleEvent, persistCredentials_station, ConnectionState.connected]

theorem handleEvent_retries {e : LinkEvent} (other : ∀ ip, e ≠ .stationGotIp ip) :
    (m.handleEvent e).station.retries = m.station.retries := by
  cases e with
  | stationGotIp ip => exact absurd rfl (other ip)
  | _ => rfl

theorem handleEvent_connected {e : LinkEvent} (other : ∀ ip, e ≠ .stationGotIp ip)
    (up : (m.handleEvent e).station.isConnected = true) : m.station.isConnected = true := by
  cases e with
  | stationGotIp ip => exact absurd rfl (other ip)
  | stationConnected => simp [handleEvent, ConnectionState.isConnected] at up
  | stationDisconnected => simp [handleEvent, ConnectionState.isConnected, ConnectionState.disconnected] at up
  | _ => exact up

theorem foldl_handleEvent_frame (events : List LinkEvent) (m : Manager ω ε τ) :
    Frame m (events.foldl handleEvent m) := by
  induction events generalizing m with
  | nil => exact .refl m
  | cons e rest ih => exact (handleEvent_frame m e).trans (ih _)

theorem foldl_handleEvent_of_steady (events : List LinkEvent) (m : Manager ω ε τ)
    (none_ip : ∀ ip, LinkEvent.stationGotIp ip ∉ events) :
    (events.foldl handleEvent m).station.retries = m.station.retries ∧
      ((events.foldl handleEvent m).station.isConnected = true → m.station.isConnected = true) := by
  induction events generalizing m with
  | nil => exact ⟨rfl, id⟩
  | cons e rest ih =>
    have other : ∀ ip, e ≠ .stationGotIp ip := fun ip same => none_ip ip (same ▸ List.mem_cons_self)
    obtain ⟨count, up⟩ := ih (m.handleEvent e) fun ip mem => none_ip ip (List.mem_cons_of_mem e mem)
    exact ⟨count.trans (handleEvent_retries other), fun upped => handleEvent_connected other (up upped)⟩

theorem foldl_handleEvent_of_gotIp (events : List LinkEvent) (m : Manager ω ε τ) {ip : Ipv4}
    (mem : LinkEvent.stationGotIp ip ∈ events) : (events.foldl handleEvent m).station.retries = 0 := by
  induction events generalizing m ip with
  | nil => cases mem
  | cons e rest ih =>
    by_cases later : ∃ ip', LinkEvent.stationGotIp ip' ∈ rest
    · obtain ⟨ip', mem'⟩ := later
      exact ih (m.handleEvent e) mem'
    · rcases List.mem_cons.mp mem with here | there
      · subst here
        rw [List.foldl_cons, (foldl_handleEvent_of_steady rest _ fun ip' mem' => later ⟨ip', mem'⟩).1]
        exact handleEvent_retries_of_gotIp m ip
      · exact absurd ⟨ip, there⟩ later

theorem Steady.event (steady : m.Steady) (e : LinkEvent) : (m.handleEvent e).Steady := by
  have frame := handleEvent_frame m e
  by_cases address : ∃ ip, e = .stationGotIp ip
  · obtain ⟨ip, rfl⟩ := address
    have cleared := handleEvent_retries_of_gotIp m ip
    exact ⟨by simp [cleared], fun _ => cleared⟩
  · have other : ∀ ip, e ≠ .stationGotIp ip := fun ip same => address ⟨ip, same⟩
    refine ⟨?_, fun up => ?_⟩
    · rw [handleEvent_retries other, frame.options]
      exact steady.bounded
    · rw [handleEvent_retries other]
      exact steady.cleared (handleEvent_connected other up)

theorem Steady.events (steady : m.Steady) (events : List LinkEvent) :
    (events.foldl handleEvent m).Steady := by
  induction events generalizing m with
  | nil => exact steady
  | cons e rest ih => exact ih (steady.event e)

end Links

section Ticking

variable [WifiDriver ω] [WiredDriver ε] [CredentialStore τ] {m m' : Manager ω ε τ}

/-- The manager as the attempt step of a tick from hub `h` finds it: with the credentials the
tick took applied and the link events it followed. -/
def found (m : Manager ω ε τ) (h : Hub) : Manager ω ε τ :=
  h.linkEvents.items.foldl handleEvent (h.credentials.items.head?.elim m fun c => (m.applyCredentials c).1)

theorem tick_run_cases (m : Manager ω ε τ) (h : Hub) (c : Clock) :
    (∃ g c', g.bits = h.bits ∧ tick.run ((m, h), c) = .ok () ((m.found h).manageConnection.publish g, c')) ∨
      ∃ c', tick.run ((m, h), c) = .error .limitReached ((m, h), c') := by
  unfold tick
  cases waiting : h.credentials.items with
  | nil =>
    -- No credentials wait: the tick sleeps for them, and a bounded run may stop there.
    have none_taken : m.found h = h.linkEvents.items.foldl handleEvent m := by simp [found, waiting]
    cases limit : c.limit with
    | none =>
      refine .inl ⟨{ h with linkEvents := h.linkEvents.clear },
        { c with now := max c.now (c.now + m.options.credentialsTimeout) }, rfl, ?_⟩
      simp [EStateM.run, bind, EStateM.bind, Timed.read, Timed.focus, Hub.receiveCredentials,
        Queue.tryReceive, waiting, Timed.sleep, Timed.waitUntil, Timed.write, pure, EStateM.pure, limit,
        none_taken]
    | some l =>
      by_cases late : l < c.now + m.options.credentialsTimeout
      · refine .inr ⟨c, ?_⟩
        simp [EStateM.run, bind, EStateM.bind, Timed.read, Timed.focus, Hub.receiveCredentials,
          Queue.tryReceive, waiting, Timed.sleep, Timed.waitUntil, limit, late]
      · refine .inl ⟨{ h with linkEvents := h.linkEvents.clear },
          { c with now := max c.now (c.now + m.options.credentialsTimeout) }, rfl, ?_⟩
        simp [EStateM.run, bind, EStateM.bind, Timed.read, Timed.focus, Hub.receiveCredentials,
          Queue.tryReceive, waiting, Timed.sleep, Timed.waitUntil, Timed.write, pure, EStateM.pure, limit,
          late, none_taken]
  | cons first rest =>
    have taken : m.found h = h.linkEvents.items.foldl handleEvent (m.applyCredentials first).1 := by
      simp [found, waiting]
    let g : Hub := { h with credentials := { h.credentials with items := rest }, linkEvents := h.linkEvents.clear }
    refine .inl ⟨g, c, rfl, ?_⟩
    simp [EStateM.run, bind, EStateM.bind, Timed.read, Timed.focus, Hub.receiveCredentials,
      Queue.tryReceive, waiting, Timed.write, pure, EStateM.pure, taken, g]

theorem tick_run {m m' : Manager ω ε τ} {h h' : Hub} {c c' : Clock}
    (ran : tick.run ((m, h), c) = .ok () ((m', h'), c')) :
    ∃ g, m' = ((m.found h).manageConnection.publish g).1 := by
  rcases tick_run_cases m h c with ⟨g, c'', -, published⟩ | ⟨c'', halted⟩
  · rw [published, EStateM.Result.ok.injEq, Prod.mk.injEq] at ran
    exact ⟨g, (congrArg Prod.fst ran.2.1).symm⟩
  · rw [halted] at ran
    cases ran

theorem Steady.brought_up {h : Hub} (steady : m.Steady) (up : (m.bringUp h).1 = .ok ()) :
    (m.bringUp h).2.1.Steady := by
  unfold bringUp at up ⊢
  split at up
  · simp at up
  · split at up
    · simp at up
    · dsimp only
      split
      · exact (Steady.applied _ _).of_station rfl rfl
      · exact steady.of_station rfl rfl

theorem Steady.at_attempt (steady : m.Steady) (h : Hub) : (m.found h).Steady := by
  unfold Manager.found
  cases h.credentials.items.head? with
  | none => exact steady.events _
  | some c => exact (Steady.applied m c).events _

theorem Steady.after_tick {m' : Manager ω ε τ} {h h' : Hub} {c c' : Clock} (steady : m.Steady)
    (ran : tick.run ((m, h), c) = .ok () ((m', h'), c')) : m'.Steady := by
  obtain ⟨g, rfl⟩ := tick_run ran
  exact ((steady.at_attempt h).after_attempt (managed _)).of_station rfl rfl

theorem found_options (m : Manager ω ε τ) (h : Hub) : (m.found h).options = m.options := by
  unfold Manager.found
  rw [(foldl_handleEvent_frame _ _).options]
  cases h.credentials.items.head? with
  | none => rfl
  | some c => exact applyCredentials_options m c

theorem found_of_calm (h : Hub) (calm : ¬ Resets (h.credentials.items.head?, h.linkEvents.items)) :
    (m.found h).station.retries = m.station.retries ∧
      ((m.found h).station.isConnected = true → m.station.isConnected = true) := by
  have quiet := not_or.mp calm
  have none_taken : h.credentials.items.head? = none := Option.not_isSome_iff_eq_none.mp quiet.1
  unfold Manager.found
  rw [none_taken]
  exact foldl_handleEvent_of_steady _ m fun ip mem => quiet.2 ⟨ip, mem⟩

theorem found_of_resets (h : Hub) (resets : Resets (h.credentials.items.head?, h.linkEvents.items)) :
    (m.found h).station.retries = 0 := by
  unfold Manager.found
  by_cases address : ∃ ip, LinkEvent.stationGotIp ip ∈ h.linkEvents.items
  · obtain ⟨ip, mem⟩ := address
    exact foldl_handleEvent_of_gotIp _ _ mem
  · obtain ⟨c, taken⟩ : ∃ c, h.credentials.items.head? = some c :=
      Option.isSome_iff_exists.mp (resets.resolve_right address)
    rw [taken, Option.elim_some,
      (foldl_handleEvent_of_steady _ _ fun ip mem => address ⟨ip, mem⟩).1, applyCredentials_station]

/-- Ticks one after another from `m` to `m'`, the hub set at will before each (credentials
submitted, link events posted): what each tick took, its credentials and its link events, is
listed in order. -/
inductive Ticks : Manager ω ε τ → List (Option Credentials × List LinkEvent) → Manager ω ε τ → Prop
  | nil (m : Manager ω ε τ) : Ticks m [] m
  | cons {m m₁ m' : Manager ω ε τ} {h h₁ : Hub} {c c₁ : Clock}
      {rest : List (Option Credentials × List LinkEvent)} :
      tick.run ((m, h), c) = .ok () ((m₁, h₁), c₁) → Ticks m₁ rest m' →
      Ticks m ((h.credentials.items.head?, h.linkEvents.items) :: rest) m'

theorem tick_options {h h' : Hub} {c c' : Clock} (ran : tick.run ((m, h), c) = .ok () ((m', h'), c')) :
    m'.options = m.options := by
  obtain ⟨g, rfl⟩ := tick_run ran
  rw [publish_options, (managed _).options, found_options]

theorem Ticks.steady {rs : List (Option Credentials × List LinkEvent)} (run : Ticks m rs m')
    (steady : m.Steady) : m'.Steady := by
  induction run with
  | nil => exact steady
  | cons ran _ ih => exact ih (steady.after_tick ran)

theorem Ticks.options {rs : List (Option Credentials × List LinkEvent)} (run : Ticks m rs m') :
    m'.options = m.options := by
  induction run with
  | nil => rfl
  | cons ran _ ih => exact ih.trans (tick_options ran)

/-! ### Counting the attempts -/

section Counting

variable {m m' : Manager (Counted ω) ε τ}

theorem found_attempts (m : Manager (Counted ω) ε τ) (h : Hub) :
    (m.found h).wifi.attempts = m.wifi.attempts := by
  unfold Manager.found
  rw [(foldl_handleEvent_frame _ _).wifi]
  cases h.credentials.items.head? with
  | none => rfl
  | some c => simp [applyCredentials_wifi]

theorem tick_count {h h' : Hub} {c c' : Clock} (steady : m.Steady)
    (ran : tick.run ((m, h), c) = .ok () ((m', h'), c')) :
    m'.wifi.attempts + (m.found h).station.retries = m.wifi.attempts + m'.station.retries := by
  obtain ⟨g, rfl⟩ := tick_run ran
  have count := (managed (m.found h)).count (steady.at_attempt h)
  rw [found_attempts] at count
  simpa using count

theorem Ticks.count_of_calm {rs : List (Option Credentials × List LinkEvent)} (run : Ticks m rs m')
    (steady : m.Steady) (calm : ∀ r ∈ rs, ¬ Resets r) :
    m'.wifi.attempts + m.station.retries = m.wifi.attempts + m'.station.retries := by
  induction run with
  | nil => rfl
  | cons ran _ ih =>
    have here := tick_count steady ran
    rw [(found_of_calm _ (calm _ List.mem_cons_self)).1] at here
    have later := ih (steady.after_tick ran) fun r mem => calm r (List.mem_cons_of_mem _ mem)
    omega

theorem Ticks.count_after_reset {r : Option Credentials × List LinkEvent}
    {rs : List (Option Credentials × List LinkEvent)} (run : Ticks m (r :: rs) m') (steady : m.Steady)
    (resets : Resets r) (calm : ∀ r' ∈ rs, ¬ Resets r') :
    m'.wifi.attempts = m.wifi.attempts + m'.station.retries := by
  cases run with
  | cons ran rest =>
    have here := tick_count steady ran
    rw [found_of_resets _ resets] at here
    have later := rest.count_of_calm (steady.after_tick ran) calm
    omega

theorem Ticks.of_exhausted {rs : List (Option Credentials × List LinkEvent)} (run : Ticks m rs m')
    (exhausted : m.station.exhausted = true) (none_taken : ∀ r ∈ rs, r.1 = none) :
    m'.wifi.attempts = m.wifi.attempts ∧ m'.station.exhausted = true := by
  induction run with
  | nil => exact ⟨rfl, exhausted⟩
  | @cons m m₁ m' h h₁ c c₁ rest ran _ ih =>
    have taken : h.credentials.items.head? = none := none_taken _ List.mem_cons_self
    have tired : (m.found h).station.exhausted = true := by
      unfold Manager.found
      rw [taken, (foldl_handleEvent_frame _ _).exhausted]
      exact exhausted
    obtain ⟨g, same⟩ := tick_run ran
    obtain ⟨idle, still⟩ := (managed (m.found h)).of_exhausted tired
    have upto : m₁.wifi.attempts = m.wifi.attempts ∧ m₁.station.exhausted = true := by
      rw [same, publish_wifi, publish_station, idle, found_attempts]
      exact ⟨rfl, still⟩
    obtain ⟨later, stays⟩ := ih upto.2 fun r mem => none_taken r (List.mem_cons_of_mem _ mem)
    exact ⟨later.trans upto.1, stays⟩

/-- The station retry policy, from manager `m` on: the count stays within the limit; a tick
makes at most one attempt; from a tick that starts the count afresh to the next, and from `m`
to the first, the attempts stay within the limit; the attempt step gives up when it finds the
count spent, the station down and credentials active; an exhausted station gets no attempt
until credentials arrive, whatever its link does; and a tick without usable credentials makes
no attempt. -/
structure RetryPolicy (m : Manager (Counted ω) ε τ) : Prop where
  bounded : m.station.retries ≤ m.options.maxReconnectAttempts
  once : ∀ {h h' : Hub} {c c' : Clock} {m' : Manager (Counted ω) ε τ},
    tick.run ((m, h), c) = .ok () ((m', h'), c') → m'.wifi.attempts ≤ m.wifi.attempts + 1
  between : ∀ {r : Option Credentials × List LinkEvent} {rs : List (Option Credentials × List LinkEvent)}
    {m' : Manager (Counted ω) ε τ}, Ticks m (r :: rs) m' → Resets r → (∀ r' ∈ rs, ¬ Resets r') →
      m'.wifi.attempts ≤ m.wifi.attempts + m.options.maxReconnectAttempts
  calm : ∀ {rs : List (Option Credentials × List LinkEvent)} {m' : Manager (Counted ω) ε τ},
    Ticks m rs m' → (∀ r ∈ rs, ¬ Resets r) →
      m'.wifi.attempts + m.station.retries ≤ m.wifi.attempts + m.options.maxReconnectAttempts
  gives_up : ∀ {h h' : Hub} {c c' : Clock} {m' : Manager (Counted ω) ε τ},
    tick.run ((m, h), c) = .ok () ((m', h'), c') →
      (m.found h).station.retries = m.options.maxReconnectAttempts →
      (m.found h).station.isConnected = false → (m.found h).active.isSome → m'.station.exhausted = true
  stays_exhausted : m.station.exhausted = true →
    ∀ {rs : List (Option Credentials × List LinkEvent)} {m' : Manager (Counted ω) ε τ},
      Ticks m rs m' → (∀ r ∈ rs, r.1 = none) →
        m'.wifi.attempts = m.wifi.attempts ∧ m'.station.exhausted = true
  needs_credentials : ∀ {h h' : Hub} {c c' : Clock} {m' : Manager (Counted ω) ε τ},
    tick.run ((m, h), c) = .ok () ((m', h'), c') →
      (h.credentials.items.head? = none ∧ m.active = none ∨
        ∃ cr, h.credentials.items.head? = some cr ∧ (WifiDriver.configureStation m.wifi cr).2 ≠ .ok ()) →
      m'.wifi.attempts = m.wifi.attempts

theorem Steady.policy (steady : m.Steady) : RetryPolicy m where
  bounded := steady.bounded
  once ran := by
    obtain ⟨g, rfl⟩ := tick_run ran
    simpa [found_attempts] using (managed (m.found _)).attempts_le
  between run resets calm := by
    have count := run.count_after_reset steady resets calm
    have within := (run.steady steady).bounded
    rw [run.options] at within
    omega
  calm run calm := by
    have count := run.count_of_calm steady calm
    have within := (run.steady steady).bounded
    rw [run.options] at within
    omega
  gives_up ran spent down active := by
    obtain ⟨g, rfl⟩ := tick_run ran
    rw [← found_options] at spent
    exact (managed _).gives_up spent down active
  stays_exhausted exhausted _ _ run none_taken := run.of_exhausted exhausted none_taken
  needs_credentials := by
    intro h _ _ _ _ ran unusable
    obtain ⟨g, rfl⟩ := tick_run ran
    -- Without usable credentials the attempt step finds none active.
    have inactive : (m.found h).active = none := by
      unfold Manager.found
      rw [(foldl_handleEvent_frame _ _).active]
      rcases unusable with ⟨none_taken, inactive⟩ | ⟨cr, taken, refused⟩
      · rw [none_taken]
        exact inactive
      · rw [taken]
        exact applyCredentials_active_of_refused refused
    simpa [found_attempts] using (managed _).of_inactive inactive

end Counting

/-- The managers the task reaches: brought up from a station that never connected, then ticked
with the hub set at will before each tick. -/
inductive Reachable : Manager ω ε τ → Prop
  | up {m₀ : Manager ω ε τ} {h : Hub} : m₀.station = {} → (m₀.bringUp h).1 = .ok () →
      Reachable (m₀.bringUp h).2.1
  | tick {m m' : Manager ω ε τ} {h h' : Hub} {c c' : Clock} : Reachable m →
      tick.run ((m, h), c) = .ok () ((m', h'), c') → Reachable m'

theorem Reachable.steady (reach : m.Reachable) : m.Steady := by
  induction reach with
  | up fresh started => exact (Steady.of_fresh fresh).brought_up started
  | tick _ ran ih => exact ih.after_tick ran

/-- Every manager the task reaches follows the station retry policy from there on. -/
theorem reachable_managers_follow_retry_policy {m : Manager (Counted ω) ε τ} (reach : m.Reachable) :
    RetryPolicy m :=
  reach.steady.policy

end Ticking

end Manager

end Gateway.Network

namespace Gateway.Scenario
open Gateway.Network Gateway.Hub

def countedBench : Manager (Counted FakeWifi) FakeWired (StoredCredentials MemoryStore) :=
  { wifi := ⟨{}, 0⟩, wired := {}, store := ⟨{}⟩ }

theorem countedBench_up : (countedBench.bringUp {}).1 = .ok () := rfl

theorem reachable_managers_follow_retry_policy_from_boot :
    Manager.Reachable (countedBench.bringUp {}).2.1 ∧ Manager.RetryPolicy (countedBench.bringUp {}).2.1 :=
  ⟨.up rfl countedBench_up, Manager.reachable_managers_follow_retry_policy (.up rfl countedBench_up)⟩

def patientBench : Bench :=
  { wifi := {}, wired := {}, store := ⟨{}⟩, options := { maxReconnectAttempts := 0 } }

/-- With no attempt allowed and no credentials, the first tick finds the count at the limit and
the station down, and still does not mark the station exhausted. -/
theorem exhaustion_waits_for_credentials :
    Manager.Reachable (patientBench.bringUp {}).2.1 ∧
      ∃ m' h' c', Manager.tick.run (((patientBench.bringUp {}).2.1, {}), ⟨0, none⟩) = .ok () ((m', h'), c') ∧
        ((patientBench.bringUp {}).2.1.found {}).station.retries =
          (patientBench.bringUp {}).2.1.options.maxReconnectAttempts ∧
        ((patientBench.bringUp {}).2.1.found {}).station.isConnected = false ∧
        m'.station.exhausted = false :=
  ⟨.up rfl rfl, _, _, _, rfl, rfl, rfl, rfl⟩

end Gateway.Scenario
