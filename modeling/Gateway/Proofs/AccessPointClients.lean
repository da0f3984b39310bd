import Gateway.Proofs.LinkFacts
/-!
The clients of the local access point and the fact the hub shows for them. The connectivity
manager counts clients from the link events alone: one more at each join, but never past
`maxClientCount`, and one fewer at each leave that finds one (`attachedClients`). The access point
is connected exactly while that count is positive, and since every tick publishes the access
point's state, after bring-up and after every tick the hub's `accessPointLinked` fact says whether
the count is positive. A count held at its cap no longer follows the clients: after 256 joins and
255 leaves one client is still attached, and the fact is cleared.

Main statement: `access_point_fact_follows_client_count`.
-/
namespace Gateway.Network
open Gateway.Hub

namespace LinkEvent

/-- The client count after event `e`: one more at a join, up to `maxClientCount`, one fewer at a
leave that finds one. -/
def countClients (n : Nat) : LinkEvent → Nat
  | .accessPointClientJoined => min (n + 1) maxClientCount
  | .accessPointClientLeft => n - 1
  | _ => n

end LinkEvent

/-- Access point clients as the link events `es` count them, from none. -/
def attachedClients (es : List LinkEvent) : Nat := es.foldl LinkEvent.countClients 0

theorem foldl_countClients_joined {n : Nat} (below : n ≤ maxClientCount) (k : Nat) :
    (List.replicate k LinkEvent.accessPointClientJoined).foldl LinkEvent.countClients n =
      min (n + k) maxClientCount := by
  induction k generalizing n with
  | zero => simp [below]
  | succ k ih =>
    rw [List.replicate_succ, List.foldl_cons, LinkEvent.countClients, ih (by simp)]
    omega

theorem foldl_replicate_left {f : Nat → LinkEvent → Nat}
    (step : ∀ n, f n .accessPointClientLeft = n - 1) (n k : Nat) :
    (List.replicate k LinkEvent.accessPointClientLeft).foldl f n = n - k := by
  induction k generalizing n with
  | zero => rfl
  | succ k ih =>
    rw [List.replicate_succ, List.foldl_cons, step, ih]
    omega

namespace Manager

variable {ω ε τ : Type}

def ClientsShown (m : Manager ω ε τ) : Prop := m.accessPoint.isConnected = decide (0 < m.apClients)

/-- Managers `m` and `m'` have the same access point and the same count of its clients. -/
structure SameClients (m m' : Manager ω ε τ) : Prop where
  apClients : m'.apClients = m.apClients
  accessPoint : m'.accessPoint = m.accessPoint

theorem SameClients.refl (m : Manager ω ε τ) : SameClients m m := ⟨rfl, rfl⟩

theorem SameClients.trans {m m₁ m₂ : Manager ω ε τ} (one : SameClients m m₁) (two : SameClients m₁ m₂) :
    SameClients m m₂ :=
  ⟨two.apClients.trans one.apClients, two.accessPoint.trans one.accessPoint⟩

theorem ClientsShown.of_same {m m' : Manager ω ε τ} (shown : m.ClientsShown) (same : SameClients m m') :
    m'.ClientsShown := by
  unfold ClientsShown
  rw [same.apClients, same.accessPoint]
  exact shown

theorem publish_sameClients (m : Manager ω ε τ) (h : Hub) : SameClients m (m.publish h).1 := ⟨rfl, rfl⟩

theorem persistCredentials_sameClients [CredentialStore τ] (m : Manager ω ε τ) :
    SameClients m m.persistCredentials := by
  obtain ⟨t, s, saved⟩ := persistCredentials_shape m
  rw [saved]
  exact ⟨rfl, rfl⟩

theorem applyCredentials_sameClients [WifiDriver ω] (m : Manager ω ε τ) (c : Credentials) :
    SameClients m (m.applyCredentials c).1 := by
  obtain ⟨w, a, applied⟩ := applyCredentials_shape m c
  rw [applied]
  exact ⟨rfl, rfl⟩

theorem manageConnection_sameClients [WifiDriver ω] (m : Manager ω ε τ) :
    SameClients m m.manageConnection := by
  have step := managed m
  generalize m.manageConnection = m' at step
  cases step <;> exact ⟨rfl, rfl⟩

theorem applied_sameClients [WifiDriver ω] (m : Manager ω ε τ) (h : Hub) : SameClients m (m.applied h) := by
  unfold applied
  cases h.credentials.items.head? with
  | none => exact .refl m
  | some c => exact applyCredentials_sameClients m c

section Events

variable [CredentialStore τ] [WiredDriver ε]

theorem handleEvent_apClients (m : Manager ω ε τ) (e : LinkEvent) :
    (m.handleEvent e).apClients = e.countClients m.apClients := by
  cases e with
  | stationGotIp ip =>
    exact (persistCredentials_sameClients { m with station := m.station.connected, stationIp := some ip }).apClients
  | _ => rfl

theorem ClientsShown.event {m : Manager ω ε τ} (shown : m.ClientsShown) (e : LinkEvent) :
    (m.handleEvent e).ClientsShown := by
  cases e with
  | stationGotIp ip =>
    -- Saving the credentials is all the address adds, and it leaves the access point alone.
    have saved := persistCredentials_sameClients { m with station := m.station.connected, stationIp := some ip }
    exact shown.of_same ⟨saved.apClients, saved.accessPoint⟩
  | accessPointClientJoined =>
    simp [ClientsShown, handleEvent, maxClientCount]
  | accessPointClientLeft =>
    unfold ClientsShown at shown ⊢
    show (if m.apClients - 1 = 0 then m.accessPoint.disconnected else m.accessPoint).isConnected =
      decide (0 < m.apClients - 1)
    by_cases last : m.apClients - 1 = 0
    · simp [last]
    · -- A client stays, so there was one before and the access point was already connected.
      simp only [last, if_false]
      rw [shown]
      simp only [decide_eq_decide]
      omega
  | _ => exact shown

theorem ClientsShown.events {m : Manager ω ε τ} (shown : m.ClientsShown) (es : List LinkEvent) :
    (es.foldl handleEvent m).ClientsShown := by
  induction es generalizing m with
  | nil => exact shown
  | cons e rest ih => exact ih (shown.event e)

theorem foldl_handleEvent_apClients (m : Manager ω ε τ) (es : List LinkEvent) :
    (es.foldl handleEvent m).apClients = es.foldl LinkEvent.countClients m.apClients := by
  induction es generalizing m with
  | nil => rfl
  | cons e rest ih => rw [List.foldl_cons, ih, handleEvent_apClients, List.foldl_cons]

end Events

section Running

variable [WifiDriver ω] [WiredDriver ε] [CredentialStore τ]

theorem bringUp_sameClients (m : Manager ω ε τ) (h : Hub) : SameClients m (m.bringUp h).2.1 := by
  unfold bringUp
  split
  · exact ⟨rfl, rfl⟩
  · split
    · exact ⟨rfl, rfl⟩
    · dsimp only
      split
      · refine SameClients.trans ?_ (publish_sameClients _ _)
        exact ⟨(applyCredentials_sameClients _ _).apClients, (applyCredentials_sameClients _ _).accessPoint⟩
      · exact ⟨rfl, rfl⟩

theorem tick_run_of_free (m : Manager ω ε τ) (h : Hub) (c : Clock) (free : c.limit = none) :
    ∃ g c', tick.run ((m, h), c) = .ok () ((m.found h).manageConnection.publish g, c') := by
  rcases tick_run_cases m h c with ⟨g, c', -, ticked⟩ | ⟨c', halted⟩
  · exact ⟨g, c', ticked⟩
  · -- Only the wait for credentials can halt, and only at a limit.
    exfalso
    unfold tick at halted
    cases waiting : h.credentials.items <;>
      simp [EStateM.run, bind, EStateM.bind, Timed.read, Timed.focus, Hub.receiveCredentials,
        Queue.tryReceive, waiting, Timed.sleep, Timed.waitUntil, Timed.write, pure, EStateM.pure, free] at halted

theorem Run.clients {wifi : ω} {wired : ε} {store : τ} {options : NetworkOptions} {m : Manager ω ε τ}
    {h : Hub} {seen : List (Manager ω ε τ × LinkEvent)} (run : Run (new wifi wired store options) m h seen) :
    m.apClients = attachedClients (seen.map Prod.snd) ∧ m.ClientsShown := by
  induction run with
  | @up h _ =>
    -- A new manager has no clients and the access point down; bring-up keeps both.
    have same := bringUp_sameClients (new wifi wired store options) h
    have fresh : (new wifi wired store options : Manager ω ε τ).ClientsShown := rfl
    exact ⟨same.apClients, fresh.of_same same⟩
  | @tick m m' h₀ h h' c c' seen _ ran ih =>
    obtain ⟨g, rfl⟩ := tick_run ran
    have same : SameClients (m.found h) ((m.found h).manageConnection.publish g).1 :=
      (manageConnection_sameClients _).trans (publish_sameClients _ g)
    have applied := applied_sameClients m h
    rw [found_eq_applied] at same ⊢
    refine ⟨?_, (ih.2.of_same applied).events _ |>.of_same same⟩
    rw [same.apClients, foldl_handleEvent_apClients, applied.apClients, ih.1, List.map_append,
      trail_events, attachedClients, attachedClients, List.foldl_append]

/-- After bring-up and after every tick of a run from a new manager, the hub's access point fact
says whether the access point has clients, as the followed link events count them. -/
theorem Run.accessPointLinked {wifi : ω} {wired : ε} {store : τ} {options : NetworkOptions}
    {m : Manager ω ε τ} {h : Hub} {seen : List (Manager ω ε τ × LinkEvent)}
    (run : Run (new wifi wired store options) m h seen) :
    h.bits.contains .accessPointLinked = decide (0 < attachedClients (seen.map Prod.snd)) := by
  obtain ⟨count, shown⟩ := run.clients
  rw [run.follows.2.accessPointLinked, shown, count]

theorem Run.batches {m₀ m : Manager ω ε τ} {h : Hub} {seen : List (Manager ω ε τ × LinkEvent)}
    (run : Run m₀ m h seen) (bs : List (List LinkEvent)) :
    ∃ m' h' seen', Run m₀ m' h' seen' ∧ seen'.map Prod.snd = seen.map Prod.snd ++ bs.flatten := by
  induction bs generalizing m h seen with
  | nil => exact ⟨m, h, seen, run, by simp⟩
  | cons es rest ih =>
    let queued : Hub := { h with linkEvents := { capacity := linkEventsDepth, items := es } }
    obtain ⟨g, c', ticked⟩ := tick_run_of_free m queued ⟨0, none⟩ rfl
    obtain ⟨m', h', seen', run', events⟩ := ih (Run.tick run ticked)
    refine ⟨m', h', seen', run', ?_⟩
    rw [events, List.map_append, trail_events]
    simp [queued]

/-- After bring-up and after every tick of a run from a new manager, the hub shows the access
point linked exactly when it has clients, counted from none with one more at each join up to
`maxClientCount` and one fewer at each leave that finds one; the manager keeps that count. -/
theorem access_point_fact_follows_client_count {wifi : ω} {wired : ε} {store : τ}
    {options : NetworkOptions} {m : Manager ω ε τ} {h : Hub} {seen : List (Manager ω ε τ × LinkEvent)}
    (run : Run (new wifi wired store options) m h seen) :
    h.bits.contains .accessPointLinked = decide (0 < attachedClients (seen.map Prod.snd)) ∧
      m.apClients = attachedClients (seen.map Prod.snd) :=
  ⟨run.accessPointLinked, run.clients.1⟩

end Running

end Manager

end Gateway.Network

namespace Gateway.Scenario
open Gateway.Network Gateway.Hub

def clientsHub : Hub :=
  { linkEvents :=
      { capacity := linkEventsDepth, items := [.accessPointClientJoined, .accessPointClientJoined, .accessPointClientLeft] } }

theorem access_point_fact_follows_client_count_after_one_leave :
    ∃ m h seen, Manager.Run freshBench m h seen ∧
      seen.map Prod.snd = [.accessPointClientJoined, .accessPointClientJoined, .accessPointClientLeft] ∧
      h.bits.contains .accessPointLinked = true ∧
      (h.bits.contains .accessPointLinked = decide (0 < attachedClients (seen.map Prod.snd)) ∧
        m.apClients = attachedClients (seen.map Prod.snd)) :=
  have run := Manager.Run.tick (Manager.Run.up freshBench_up)
    (show Manager.tick.run (((freshBench.bringUp {}).2.1, clientsHub), ⟨0, none⟩) = .ok () _ from rfl)
  ⟨_, _, _, run, rfl, rfl, Manager.access_point_fact_follows_client_count run⟩

def countUncapped (n : Nat) : LinkEvent → Nat
  | .accessPointClientJoined => n + 1
  | .accessPointClientLeft => n - 1
  | _ => n

theorem foldl_countUncapped_joined (n k : Nat) :
    (List.replicate k LinkEvent.accessPointClientJoined).foldl countUncapped n = n + k := by
  induction k generalizing n with
  | zero => rfl
  | succ k ih =>
    rw [List.replicate_succ, List.foldl_cons, countUncapped, ih]
    omega

def saturatingBatches : List (List LinkEvent) :=
  List.replicate 32 (List.replicate 8 .accessPointClientJoined) ++
    List.replicate 31 (List.replicate 8 .accessPointClientLeft) ++ [List.replicate 7 .accessPointClientLeft]

theorem flatten_saturatingBatches :
    saturatingBatches.flatten =
      List.replicate 256 .accessPointClientJoined ++ List.replicate 255 .accessPointClientLeft := by
  rw [saturatingBatches, List.flatten_append, List.flatten_append, List.flatten_replicate_replicate,
    List.flatten_replicate_replicate, List.flatten_singleton, List.append_assoc, List.replicate_append_replicate]

/-- After 256 joins and 255 leaves one client is still attached, counted without a cap, yet the
hub shows the access point without clients: the manager's count stopped at `maxClientCount`. -/
theorem access_point_fact_cleared_with_client_attached :
    ∃ m h seen, Manager.Run freshBench m h seen ∧
      seen.map Prod.snd = List.replicate 256 .accessPointClientJoined ++ List.replicate 255 .accessPointClientLeft ∧
      (seen.map Prod.snd).foldl countUncapped 0 = 1 ∧ h.bits.contains .accessPointLinked = false := by
  obtain ⟨m, h, seen, run, events⟩ := (Manager.Run.up freshBench_up).batches saturatingBatches
  have flat : seen.map Prod.snd =
      List.replicate 256 .accessPointClientJoined ++ List.replicate 255 .accessPointClientLeft := by
    rw [events, List.map_nil, List.nil_append, flatten_saturatingBatches]
  have uncapped : (seen.map Prod.snd).foldl countUncapped 0 = 1 := by
    rw [flat, List.foldl_append, foldl_countUncapped_joined, foldl_replicate_left fun _ => rfl]
  have capped : attachedClients (seen.map Prod.snd) = 0 := by
    rw [flat, attachedClients, List.foldl_append, foldl_countClients_joined (by decide),
      foldl_replicate_left fun _ => rfl]
    rfl
  refine ⟨m, h, seen, run, flat, uncapped, ?_⟩
  rw [run.accessPointLinked, capped]
  rfl

end Gateway.Scenario
