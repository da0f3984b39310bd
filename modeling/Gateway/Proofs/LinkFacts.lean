import Mathlib
import Gateway.Proofs.Retries
/-!
What the connectivity manager tells the hub about its links. After bring-up and after every tick
the hub's link facts are read off the links: `stationLinked` and `accessPointLinked` say whether
the station and the access point are connected, and `uplink` whether the station or the wired
interface is; the manager never touches the time fact. Whether a link is connected follows from
the link events alone: the station is connected exactly when the last station event handed it an
address, and so is the wired interface; attempts, credentials and driver answers never change it.

The address the hub advertises is the wired interface's, else the station's, where each is the
address of the last event that set or cleared it. An association (`stationConnected`) or a link
that comes up (`wiredLinkUp`) takes its interface out of the connected phase without clearing
its address, so an address can outlive the uplink it came with.

Main statements: `hub_facts_follow_links` (the link facts and the time fact) and
`hub_address_follows_address_events` (the advertised address, and when it is the uplink's).
-/
namespace Gateway.Hub.EventBits

@[simp] theorem val_set (b m : EventBits) : (b.set m).val = b.val ||| m.val := rfl

@[simp] theorem val_clear (b m : EventBits) : (b.clear m).val = b.val &&& ~~~m.val := rfl

theorem or_and_self_right (x m : UInt32) : (x ||| m) &&& m = m := by
  rw [← UInt32.toBitVec_inj]
  simp only [UInt32.toBitVec_and, UInt32.toBitVec_or]
  ext i hi
  simp only [BitVec.getElem_and, BitVec.getElem_or]
  cases m.toBitVec[i] <;> simp

theorem or_and_of_disjoint {x m m' : UInt32} (apart : m &&& m' = 0) : (x ||| m) &&& m' = x &&& m' := by
  rw [← UInt32.toBitVec_inj] at apart ⊢
  simp only [UInt32.toBitVec_and, UInt32.toBitVec_or, UInt32.toBitVec_zero] at apart ⊢
  rw [BitVec.and_or_distrib_right, apart, BitVec.or_zero]

theorem and_not_and_of_disjoint {x m m' : UInt32} (apart : m &&& m' = 0) :
    (x &&& ~~~m) &&& m' = x &&& m' := by
  rw [← UInt32.toBitVec_inj] at apart ⊢
  simp only [UInt32.toBitVec_and, UInt32.toBitVec_not, UInt32.toBitVec_zero] at apart ⊢
  ext i hi
  -- Bit by bit: no bit of `m'` is one of `m`.
  have bit := congrArg (·[i]) apart
  simp only [BitVec.getElem_and, BitVec.getElem_zero] at bit
  simp only [BitVec.getElem_and, BitVec.getElem_not]
  revert bit
  cases m.toBitVec[i] <;> cases m'.toBitVec[i] <;> simp

theorem contains_assign_self (b m : EventBits) (v : Bool) (nonempty : m.val ≠ 0) :
    (b.assign m v).contains m = v := by
  cases v
  · have cleared : b.val &&& ~~~m.val &&& m.val = 0 := by
      rw [UInt32.and_assoc, UInt32.not_and_self, UInt32.and_zero]
    simp [assign, contains, cleared, Ne.symm nonempty]
  · simp [assign, contains, or_and_self_right]

theorem contains_assign_of_disjoint (b : EventBits) {m m' : EventBits} (v : Bool) (apart : m.val &&& m'.val = 0) :
    (b.assign m v).contains m' = b.contains m' := by
  cases v
  · simp [assign, contains, and_not_and_of_disjoint apart]
  · simp [assign, contains, or_and_of_disjoint apart]

end Gateway.Hub.EventBits

namespace Gateway.Network
open Gateway.Hub

namespace LinkEvent

def onStation : LinkEvent → Bool
  | .stationConnected | .stationDisconnected | .stationGotIp _ => true
  | _ => false

def onWired : LinkEvent → Bool
  | .wiredLinkUp | .wiredLinkDown | .wiredGotIp _ | .wiredLostIp => true
  | _ => false

def setsStationIp : LinkEvent → Bool
  | .stationDisconnected | .stationGotIp _ => true
  | _ => false

def setsWiredIp : LinkEvent → Bool
  | .wiredLinkDown | .wiredGotIp _ | .wiredLostIp => true
  | _ => false

def address? : LinkEvent → Option Ipv4
  | .stationGotIp ip | .wiredGotIp ip => some ip
  | _ => none

theorem eq_stationGotIp {e : LinkEvent} {ip : Ipv4} (on : e.onStation = true) (handed : e.address? = some ip) :
    e = .stationGotIp ip := by
  cases e <;> simp_all [onStation, address?]

theorem eq_wiredGotIp {e : LinkEvent} {ip : Ipv4} (on : e.onWired = true) (handed : e.address? = some ip) :
    e = .wiredGotIp ip := by
  cases e <;> simp_all [onWired, address?]

end LinkEvent

/-- The address handed out by the last of the events `es` that `kind` selects, if that one hands
one out. -/
def lastAddress (kind : LinkEvent → Bool) (es : List LinkEvent) : Option Ipv4 :=
  ((es.filter kind).getLast?).bind LinkEvent.address?

@[simp] theorem lastAddress_nil (kind : LinkEvent → Bool) : lastAddress kind [] = none := rfl

theorem lastAddress_snoc (kind : LinkEvent → Bool) (es : List LinkEvent) (e : LinkEvent) :
    lastAddress kind (es ++ [e]) = if kind e then e.address? else lastAddress kind es := by
  by_cases selected : kind e <;> simp [lastAddress, List.filter_append, selected]

theorem lastAddress_isSome_iff {kind : LinkEvent → Bool} {gotIp : Ipv4 → LinkEvent}
    (only : ∀ e ip, kind e = true → e.address? = some ip → e = gotIp ip)
    (gives : ∀ ip, (gotIp ip).address? = some ip) (es : List LinkEvent) :
    (lastAddress kind es).isSome ↔ ∃ ip, (es.filter kind).getLast? = some (gotIp ip) := by
  unfold lastAddress
  cases last : (es.filter kind).getLast? with
  | none => simp
  | some e =>
    have picked : kind e = true := (List.mem_filter.mp (List.mem_of_getLast? last)).2
    constructor
    · intro handed
      obtain ⟨ip, address⟩ := Option.isSome_iff_exists.mp handed
      exact ⟨ip, by rw [only e ip picked address]⟩
    · rintro ⟨ip, same⟩
      cases same
      simp [gives]

namespace ConnectionState

@[simp] theorem isConnected_connected (c : ConnectionState) : c.connected.isConnected = true := rfl

@[simp] theorem isConnected_disconnected (c : ConnectionState) : c.disconnected.isConnected = false := rfl

@[simp] theorem isConnected_phase (c : ConnectionState) (p : LinkPhase) :
    { c with phase := p }.isConnected = decide (p = .connected) := rfl

end ConnectionState

namespace Manager

variable {ω ε τ : Type}

section Links

variable {m m' m₁ m₂ : Manager ω ε τ} {es : List LinkEvent}

/-- Managers `m` and `m'` tell the hub the same: their station and wired links are connected
alike, and they have the same access point and the same addresses. -/
structure SameLinks (m m' : Manager ω ε τ) : Prop where
  station : m'.station.isConnected = m.station.isConnected
  accessPoint : m'.accessPoint = m.accessPoint
  wired : m'.wiredLink.isConnected = m.wiredLink.isConnected
  stationIp : m'.stationIp = m.stationIp
  wiredIp : m'.wiredIp = m.wiredIp

theorem SameLinks.refl (m : Manager ω ε τ) : SameLinks m m := ⟨rfl, rfl, rfl, rfl, rfl⟩

theorem SameLinks.trans (one : SameLinks m m₁) (two : SameLinks m₁ m₂) : SameLinks m m₂ :=
  ⟨two.station.trans one.station, two.accessPoint.trans one.accessPoint, two.wired.trans one.wired,
    two.stationIp.trans one.stationIp, two.wiredIp.trans one.wiredIp⟩

/-- The links of `m` as the link events `es` leave them: the station and the wired interface are
each connected exactly when the last of their events handed them an address, and each keeps the
address of the last event that set or cleared it. -/
structure Follows (m : Manager ω ε τ) (es : List LinkEvent) : Prop where
  station : m.station.isConnected = (lastAddress LinkEvent.onStation es).isSome
  wired : m.wiredLink.isConnected = (lastAddress LinkEvent.onWired es).isSome
  stationIp : m.stationIp = lastAddress LinkEvent.setsStationIp es
  wiredIp : m.wiredIp = lastAddress LinkEvent.setsWiredIp es

theorem Follows.of_sameLinks (follows : m.Follows es) (same : SameLinks m m') : m'.Follows es :=
  ⟨same.station.trans follows.station, same.wired.trans follows.wired,
    same.stationIp.trans follows.stationIp, same.wiredIp.trans follows.wiredIp⟩

/-- The facts the manager publishes for its links: which links are up, and the address of the
wired interface, else the station's. -/
structure Published (m : Manager ω ε τ) (h : Hub) : Prop where
  stationLinked : h.bits.contains .stationLinked = m.station.isConnected
  accessPointLinked : h.bits.contains .accessPointLinked = m.accessPoint.isConnected
  uplink : h.bits.contains .uplink = (m.station.isConnected || m.wiredLink.isConnected)
  ip : h.ip = m.wiredIp.or m.stationIp

theorem publish_sameLinks (m : Manager ω ε τ) (g : Hub) : SameLinks m (m.publish g).1 :=
  ⟨rfl, rfl, rfl, rfl, rfl⟩

theorem published (m : Manager ω ε τ) (g : Hub) : Published (m.publish g).1 (m.publish g).2 where
  stationLinked := by
    simp only [publish]
    rw [EventBits.contains_assign_of_disjoint _ _ (by decide),
      EventBits.contains_assign_of_disjoint _ _ (by decide), EventBits.contains_assign_self _ _ _ (by decide)]
  accessPointLinked := by
    simp only [publish]
    rw [EventBits.contains_assign_of_disjoint _ _ (by decide), EventBits.contains_assign_self _ _ _ (by decide)]
  uplink := by
    simp only [publish]
    rw [EventBits.contains_assign_self _ _ _ (by decide)]
  ip := rfl

theorem publish_timeSynchronized (m : Manager ω ε τ) (g : Hub) :
    (m.publish g).2.bits.contains .timeSynchronized = g.bits.contains .timeSynchronized := by
  simp only [publish]
  rw [EventBits.contains_assign_of_disjoint _ _ (by decide), EventBits.contains_assign_of_disjoint _ _ (by decide),
    EventBits.contains_assign_of_disjoint _ _ (by decide)]

theorem persistCredentials_sameLinks [CredentialStore τ] (m : Manager ω ε τ) :
    SameLinks m m.persistCredentials := by
  obtain ⟨t, s, saved⟩ := persistCredentials_shape m
  rw [saved]
  exact ⟨rfl, rfl, rfl, rfl, rfl⟩

theorem applyCredentials_sameLinks [WifiDriver ω] (m : Manager ω ε τ) (c : Credentials) :
    SameLinks m (m.applyCredentials c).1 := by
  obtain ⟨w, a, applied⟩ := applyCredentials_shape m c
  rw [applied]
  exact ⟨rfl, rfl, rfl, rfl, rfl⟩

theorem manageConnection_sameLinks [WifiDriver ω] (m : Manager ω ε τ) : SameLinks m m.manageConnection := by
  have step := managed m
  generalize m.manageConnection = m' at step
  cases step with
  | connected _ => exact ⟨rfl, rfl, rfl, rfl, rfl⟩
  | idle _ _ => exact .refl m
  | attempt phase down _ _ _ other =>
    refine ⟨?_, rfl, rfl, rfl, rfl⟩
    rw [down]
    simp [ConnectionState.isConnected, other]
  | gaveUp down _ _ _ =>
    refine ⟨?_, rfl, rfl, rfl, rfl⟩
    rw [down]
    rfl

theorem Follows.event [CredentialStore τ] [WiredDriver ε] (follows : m.Follows es) (e : LinkEvent) :
    (m.handleEvent e).Follows (es ++ [e]) := by
  obtain ⟨station, wired, stationIp, wiredIp⟩ := follows
  cases e with
  | stationGotIp ip =>
    -- Saving the credentials is all the address adds, and it leaves the links alone.
    refine Follows.of_sameLinks ?_ (persistCredentials_sameLinks _)
    constructor <;> simp [lastAddress_snoc, LinkEvent.onStation, LinkEvent.onWired, LinkEvent.setsStationIp,
      LinkEvent.setsWiredIp, LinkEvent.address?, *]
  | _ =>
    constructor <;> simp [handleEvent, lastAddress_snoc, LinkEvent.onStation, LinkEvent.onWired,
      LinkEvent.setsStationIp, LinkEvent.setsWiredIp, LinkEvent.address?, *]

theorem Follows.events [CredentialStore τ] [WiredDriver ε] (follows : m.Follows es) (fs : List LinkEvent) :
    (fs.foldl handleEvent m).Follows (es ++ fs) := by
  induction fs generalizing m es with
  | nil => simpa using follows
  | cons e rest ih =>
    rw [List.foldl_cons, ← List.singleton_append, ← List.append_assoc]
    exact ih (follows.event e)

end Links

section Running

variable [WifiDriver ω] [WiredDriver ε] [CredentialStore τ]

theorem bringUp_cases (m : Manager ω ε τ) (h : Hub) :
    (∃ e, (m.bringUp h).1 = .error e ∧ (m.bringUp h).2.2 = h) ∨
      (m.bringUp h).1 = .ok () ∧ ∃ m₁, SameLinks { m with wiredLink := { m.wiredLink with phase := .connecting } } m₁ ∧
        (m.bringUp h).2 = m₁.publish h := by
  unfold bringUp
  split
  · exact .inl ⟨_, rfl, rfl⟩
  · split
    · exact .inl ⟨_, rfl, rfl⟩
    · refine .inr ⟨rfl, ?_⟩
      dsimp only
      split
      · refine ⟨_, ?_, rfl⟩
        refine SameLinks.trans ?_ (applyCredentials_sameLinks _ _)
        exact ⟨rfl, rfl, rfl, rfl, rfl⟩
      · refine ⟨_, ?_, rfl⟩
        exact ⟨rfl, rfl, rfl, rfl, rfl⟩

def applied (m : Manager ω ε τ) (h : Hub) : Manager ω ε τ :=
  h.credentials.items.head?.elim m fun c => (m.applyCredentials c).1

theorem found_eq_applied (m : Manager ω ε τ) (h : Hub) :
    m.found h = h.linkEvents.items.foldl handleEvent (m.applied h) := rfl

omit [WiredDriver ε] [CredentialStore τ] in
theorem applied_sameLinks (m : Manager ω ε τ) (h : Hub) : SameLinks m (m.applied h) := by
  unfold applied
  cases h.credentials.items.head? with
  | none => exact .refl m
  | some c => exact applyCredentials_sameLinks m c

def trail (m : Manager ω ε τ) : List LinkEvent → List (Manager ω ε τ × LinkEvent)
  | [] => []
  | e :: es => (m, e) :: trail (m.handleEvent e) es

omit [WifiDriver ω] in
@[simp] theorem trail_events (m : Manager ω ε τ) (es : List LinkEvent) : (trail m es).map Prod.snd = es := by
  induction es generalizing m with
  | nil => rfl
  | cons e rest ih => simp [trail, ih]

/-- A run of the manager task from `m₀`: bring-up, then ticks, the hub set at will before each
(credentials submitted, link events posted, facts written by other tasks). `seen` lists the link
events the ticks followed, in order, each with the manager that met it, and `h` is the hub as the
last step left it. -/
inductive Run (m₀ : Manager ω ε τ) : Manager ω ε τ → Hub → List (Manager ω ε τ × LinkEvent) → Prop
  | up {h : Hub} : (m₀.bringUp h).1 = .ok () → Run m₀ (m₀.bringUp h).2.1 (m₀.bringUp h).2.2 []
  | tick {m m' : Manager ω ε τ} {h₀ h h' : Hub} {c c' : Clock} {seen : List (Manager ω ε τ × LinkEvent)} :
      Run m₀ m h₀ seen → tick.run ((m, h), c) = .ok () ((m', h'), c') →
      Run m₀ m' h' (seen ++ trail (m.applied h) h.linkEvents.items)

theorem Run.follows {wifi : ω} {wired : ε} {store : τ} {options : NetworkOptions} {m : Manager ω ε τ}
    {h : Hub} {seen : List (Manager ω ε τ × LinkEvent)} (run : Run (new wifi wired store options) m h seen) :
    m.Follows (seen.map Prod.snd) ∧ Published m h := by
  induction run with
  | @up h started =>
    rcases bringUp_cases (new wifi wired store options) h with ⟨e, failed, -⟩ | ⟨-, m₁, same, brought⟩
    · rw [failed] at started
      cases started
    · -- A new manager has every link down and no address; bring-up starts the wired lease.
      have fresh : Follows { new wifi wired store options with
          wiredLink := { (new wifi wired store options : Manager ω ε τ).wiredLink with phase := .connecting } } [] :=
        ⟨rfl, rfl, rfl, rfl⟩
      rw [brought]
      exact ⟨(fresh.of_sameLinks same).of_sameLinks (publish_sameLinks _ _), published _ _⟩
  | @tick m m' h₀ h h' c c' seen _ ran ih =>
    rcases tick_run_cases m h c with ⟨g, c'', -, ticked⟩ | ⟨c'', halted⟩
    · rw [ticked, EStateM.Result.ok.injEq, Prod.mk.injEq] at ran
      obtain ⟨-, after, -⟩ := ran
      have followed : (m.found h).Follows (seen.map Prod.snd ++ h.linkEvents.items) := by
        rw [found_eq_applied]
        exact (ih.1.of_sameLinks (applied_sameLinks m h)).events _
      obtain rfl := congrArg Prod.fst after
      obtain rfl := congrArg Prod.snd after
      refine ⟨?_, published _ _⟩
      simpa using (followed.of_sameLinks (manageConnection_sameLinks _)).of_sameLinks (publish_sameLinks _ g)
    · rw [halted] at ran
      cases ran

theorem bringUp_timeSynchronized (m : Manager ω ε τ) (h : Hub) :
    (m.bringUp h).2.2.bits.contains .timeSynchronized = h.bits.contains .timeSynchronized := by
  rcases bringUp_cases m h with ⟨e, -, kept⟩ | ⟨-, m₁, -, brought⟩
  · rw [kept]
  · rw [brought]
    exact publish_timeSynchronized m₁ h

theorem tick_timeSynchronized (m : Manager ω ε τ) (h : Hub) (c : Clock) :
    (Timed.start tick (m, h) c).state.2.bits.contains .timeSynchronized = h.bits.contains .timeSynchronized := by
  unfold Timed.start
  rcases tick_run_cases m h c with ⟨g, c', same, ticked⟩ | ⟨c', halted⟩
  · rw [show tick ((m, h), c) = _ from ticked, publish_timeSynchronized, same]
  · rw [show tick ((m, h), c) = _ from halted]

/-- What the hub and the links show after a step that followed the link events `es`: each link
fact is the link's state, whatever was written to the bits before, and the station and the
wired interface are connected exactly when the last of their events handed them an address. -/
structure LinkFacts (m : Manager ω ε τ) (h : Hub) (es : List LinkEvent) : Prop where
  stationLinked : h.bits.contains .stationLinked = m.station.isConnected
  accessPointLinked : h.bits.contains .accessPointLinked = m.accessPoint.isConnected
  uplink : h.bits.contains .uplink = (m.station.isConnected || m.wiredLink.isConnected)
  station : m.station.isConnected = true ↔ ∃ ip, (es.filter LinkEvent.onStation).getLast? = some (.stationGotIp ip)
  wired : m.wiredLink.isConnected = true ↔ ∃ ip, (es.filter LinkEvent.onWired).getLast? = some (.wiredGotIp ip)

variable (ω ε τ) in
/-- Neither step of the manager changes the time fact of the hub it is given. -/
structure KeepsTimeFact : Prop where
  bringUp : ∀ (m : Manager ω ε τ) (h : Hub),
    (m.bringUp h).2.2.bits.contains .timeSynchronized = h.bits.contains .timeSynchronized
  tick : ∀ (m : Manager ω ε τ) (h : Hub) (c : Clock),
    (Timed.start tick (m, h) c).state.2.bits.contains .timeSynchronized = h.bits.contains .timeSynchronized

/-- After bring-up and after every tick of a run from a new manager, the hub's link facts are the
links' states, and each link is connected exactly when its last event handed it an address:
attempts, credentials and driver answers never move it. The manager never touches the time fact. -/
theorem hub_facts_follow_links {wifi : ω} {wired : ε} {store : τ} {options : NetworkOptions}
    {m : Manager ω ε τ} {h : Hub} {seen : List (Manager ω ε τ × LinkEvent)}
    (run : Run (new wifi wired store options) m h seen) :
    LinkFacts m h (seen.map Prod.snd) ∧ KeepsTimeFact ω ε τ := by
  obtain ⟨follows, published⟩ := run.follows
  refine ⟨⟨published.stationLinked, published.accessPointLinked, published.uplink, ?_, ?_⟩,
    ⟨bringUp_timeSynchronized, tick_timeSynchronized⟩⟩
  · rw [follows.station]
    exact lastAddress_isSome_iff (fun _ _ => LinkEvent.eq_stationGotIp) (fun _ => rfl) _
  · rw [follows.wired]
    exact lastAddress_isSome_iff (fun _ _ => LinkEvent.eq_wiredGotIp) (fun _ => rfl) _

end Running

end Manager

end Gateway.Network

namespace Gateway.Scenario
open Gateway.Network Gateway.Hub

def freshBench : Bench := Manager.new {} {} ⟨{}⟩ {}

theorem freshBench_up : (freshBench.bringUp {}).1 = .ok () := rfl

def wiredLeaseHub : Hub :=
  { linkEvents := { capacity := linkEventsDepth, items := [.wiredGotIp ⟨192, 168, 1, 20⟩] } }

theorem hub_facts_follow_links_after_wired_lease :
    ∃ m h seen, Manager.Run freshBench m h seen ∧ seen.map Prod.snd = [.wiredGotIp ⟨192, 168, 1, 20⟩] ∧
      h.bits.contains .uplink = true ∧ Manager.LinkFacts m h (seen.map Prod.snd) ∧
        Manager.KeepsTimeFact FakeWifi FakeWired (StoredCredentials MemoryStore) :=
  have run := Manager.Run.tick (Manager.Run.up freshBench_up)
    (show Manager.tick.run (((freshBench.bringUp {}).2.1, wiredLeaseHub), ⟨0, none⟩) = .ok () _ from rfl)
  ⟨_, _, _, run, rfl, rfl, Manager.hub_facts_follow_links run⟩

end Gateway.Scenario

namespace Gateway.Network
open Gateway.Hub

/-- Every association of the station and every wired link that comes up finds its interface
without an address: no event takes an interface out of the connected phase and leaves it
holding one. -/
def NoStaleAddress (es : List LinkEvent) : Prop :=
  ∀ pre post, (es = pre ++ .stationConnected :: post → lastAddress LinkEvent.setsStationIp pre = none) ∧
    (es = pre ++ .wiredLinkUp :: post → lastAddress LinkEvent.setsWiredIp pre = none)

namespace NoStaleAddress

theorem of_snoc {es : List LinkEvent} {e : LinkEvent} (fresh : NoStaleAddress (es ++ [e])) :
    NoStaleAddress es := by
  intro pre post
  obtain ⟨station, wired⟩ := fresh pre (post ++ [e])
  exact ⟨fun split => station (by simp [split]), fun split => wired (by simp [split])⟩

theorem of_not_mem {es : List LinkEvent} (station : .stationConnected ∉ es) (wired : .wiredLinkUp ∉ es) :
    NoStaleAddress es := by
  intro pre post
  constructor <;> intro split <;> simp [split] at station wired

theorem addresses {es : List LinkEvent} (fresh : NoStaleAddress es) :
    lastAddress LinkEvent.setsStationIp es = lastAddress LinkEvent.onStation es ∧
      lastAddress LinkEvent.setsWiredIp es = lastAddress LinkEvent.onWired es := by
  induction es using List.reverseRecOn with
  | nil => exact ⟨rfl, rfl⟩
  | append_singleton es e ih =>
    obtain ⟨station, wired⟩ := ih fresh.of_snoc
    simp only [lastAddress_snoc]
    -- Only an association and a link coming up are events of an interface that leave its
    -- address alone; each of them finds none.
    cases e with
    | stationConnected =>
      have cleared := (fresh es []).1 rfl
      simp [LinkEvent.setsStationIp, LinkEvent.onStation, LinkEvent.setsWiredIp, LinkEvent.onWired,
        LinkEvent.address?, cleared, wired]
    | wiredLinkUp =>
      have cleared := (fresh es []).2 rfl
      simp [LinkEvent.setsStationIp, LinkEvent.onStation, LinkEvent.setsWiredIp, LinkEvent.onWired,
        LinkEvent.address?, cleared, station]
    | _ =>
      simp [LinkEvent.setsStationIp, LinkEvent.onStation, LinkEvent.setsWiredIp, LinkEvent.onWired, station, wired]

end NoStaleAddress

namespace Manager

variable {ω ε τ : Type} [WifiDriver ω] [WiredDriver ε] [CredentialStore τ]

/-- After bring-up and after every tick of a run from a new manager, the hub advertises the wired
interface's address, else the station's, each the address of the last event that set or cleared
it. Only when no address is left behind is that the uplink's: then there is one exactly when an
uplink is up, and it is the address of the event that connected the link providing it. -/
theorem hub_address_follows_address_events {wifi : ω} {wired : ε} {store : τ} {options : NetworkOptions}
    {m : Manager ω ε τ} {h : Hub} {seen : List (Manager ω ε τ × LinkEvent)}
    (run : Run (new wifi wired store options) m h seen) :
    h.ip = (lastAddress LinkEvent.setsWiredIp (seen.map Prod.snd)).or
        (lastAddress LinkEvent.setsStationIp (seen.map Prod.snd)) ∧
      (NoStaleAddress (seen.map Prod.snd) →
        h.ip.isSome = h.bits.contains .uplink ∧
          h.ip = (lastAddress LinkEvent.onWired (seen.map Prod.snd)).or
            (lastAddress LinkEvent.onStation (seen.map Prod.snd))) := by
  obtain ⟨follows, published⟩ := run.follows
  have advertised := published.ip
  rw [follows.wiredIp, follows.stationIp] at advertised
  refine ⟨advertised, fun fresh => ?_⟩
  obtain ⟨station, wired⟩ := fresh.addresses
  rw [advertised, station, wired]
  refine ⟨?_, rfl⟩
  rw [published.uplink, follows.station, follows.wired, Option.isSome_or, Bool.or_comm]

end Manager

end Gateway.Network

namespace Gateway.Scenario
open Gateway.Network Gateway.Hub

theorem hub_address_follows_address_events_after_wired_lease :
    ∃ m h seen, Manager.Run freshBench m h seen ∧ seen.map Prod.snd = [.wiredGotIp ⟨192, 168, 1, 20⟩] ∧
      NoStaleAddress (seen.map Prod.snd) ∧ h.ip = some ⟨192, 168, 1, 20⟩ ∧
      (h.ip = (lastAddress LinkEvent.setsWiredIp (seen.map Prod.snd)).or
          (lastAddress LinkEvent.setsStationIp (seen.map Prod.snd)) ∧
        (NoStaleAddress (seen.map Prod.snd) →
          h.ip.isSome = h.bits.contains .uplink ∧
            h.ip = (lastAddress LinkEvent.onWired (seen.map Prod.snd)).or
              (lastAddress LinkEvent.onStation (seen.map Prod.snd)))) :=
  have run := Manager.Run.tick (Manager.Run.up freshBench_up)
    (show Manager.tick.run (((freshBench.bringUp {}).2.1, wiredLeaseHub), ⟨0, none⟩) = .ok () _ from rfl)
  have fresh : NoStaleAddress [.wiredGotIp ⟨192, 168, 1, 20⟩] := .of_not_mem (by decide) (by decide)
  ⟨_, _, _, run, rfl, fresh, rfl, Manager.hub_address_follows_address_events run⟩

def relinkedHub : Hub :=
  { linkEvents := { capacity := linkEventsDepth, items := [.wiredGotIp ⟨192, 168, 1, 20⟩, .wiredLinkUp] } }

/-- A wired link that comes up after its lease takes the interface out of the connected phase,
and the hub goes on advertising the lease's address with no uplink up. -/
theorem wired_address_outlives_uplink :
    ∃ m h seen, Manager.Run freshBench m h seen ∧
      seen.map Prod.snd = [.wiredGotIp ⟨192, 168, 1, 20⟩, .wiredLinkUp] ∧
      h.ip = some ⟨192, 168, 1, 20⟩ ∧ h.bits.contains .uplink = false :=
  ⟨_, _, _, Manager.Run.tick (Manager.Run.up freshBench_up)
    (show Manager.tick.run (((freshBench.bringUp {}).2.1, relinkedHub), ⟨0, none⟩) = .ok () _ from rfl),
    rfl, rfl, rfl⟩

end Gateway.Scenario
