import Gateway.Proofs.Registry
import Gateway.Bridge.Relay
import Gateway.Scenario.Bridge
/-!
Inbound routing. While the session is up and the tick lasts, the relay takes one message after
another from the broker client and hands each to the subscribe route whose suffix is exactly the
rest of the topic after the namespace's prefix, if there is one: its decoder reads the payload
and the item joins the route's queue when there is room. Whatever becomes of one message, the
loop goes on with the next.

Main statement (`inbound_service_delivers_every_message`): on a well-formed table and with a
client that hands out no more messages than its backlog, the inbound service is a run of
`Serves`: every message the client hands out is delivered as `Delivers` says, in order, and the
loop ends only when the session is down, the deadline came, a poll brought nothing, or the
bounded run reached its limit.
-/
namespace Gateway.Hub

variable {α : Type}

theorem Queue.trySend_eq_error_iff {q : Queue α} {x y : α} :
    q.trySend x = .error y ↔ q.capacity ≤ q.items.length ∧ y = x := by
  unfold Queue.trySend Queue.isFull
  by_cases full : q.items.length ≥ q.capacity
  · simp [full, eq_comm]
  · simp [full]

theorem Queue.trySend_eq_ok_iff {q q' : Queue α} {x : α} :
    q.trySend x = .ok q' ↔ q.items.length < q.capacity ∧ q' = { q with items := q.items ++ [x] } := by
  unfold Queue.trySend Queue.isFull
  by_cases full : q.items.length ≥ q.capacity
  · simp [full]
  · simp [full, eq_comm]
    omega

end Gateway.Hub

namespace Gateway.Bridge
open Gateway.Mqtt Gateway.Hub

variable {α κ : Type}

theorem Namespace.strip_eq_some_iff {ns : Namespace} {topic s : String} :
    ns.strip topic = some s ↔ topic = ns.pref ++ s ∧ s ≠ "" := by
  unfold Namespace.strip
  by_cases pre : ns.pref.isPrefixOf topic
  · obtain ⟨rest, whole⟩ : ns.pref.toList <+: topic.toList := by
      simpa [String.isPrefixOf] using pre
    have taken : topic.toList.drop ns.pref.length = rest := by
      simp [← whole, ← String.length_toList]
    have split : topic = ns.pref ++ String.ofList rest := by
      apply String.toList_injective
      simp [whole]
    rw [if_pos pre, taken, split]
    by_cases blank : (String.ofList rest).isEmpty
    · have empty : String.ofList rest = "" := String.isEmpty_iff.mp blank
      simp [empty, @eq_comm _ ns.pref, String.append_eq_left_iff]
    · simp only [blank, String.append_right_inj, Bool.false_eq_true, if_false, Option.some.injEq]
      constructor
      · rintro rfl
        exact ⟨rfl, fun empty => blank (String.isEmpty_iff.mpr empty)⟩
      · exact fun named => named.1
  · simp only [pre, Bool.false_eq_true, if_false, reduceCtorEq, false_iff, not_and]
    rintro rfl -
    exact pre (by simp [String.isPrefixOf])

def Topic.key (r : Topic α) : Direction × String × Codec α := (r.direction, r.suffix, r.codec)

def Topic.Takes (r : Topic α) (payload : List UInt8) (x : α) : Prop :=
  (∃ f, r.codec = .decoder f ∧ f payload = .ok x) ∧ r.queue.items.length < r.queue.capacity

theorem Topic.Takes.unique {r : Topic α} {p : List UInt8} {x y : α} (one : r.Takes p x)
    (two : r.Takes p y) : x = y := by
  obtain ⟨⟨f, dec, read⟩, -⟩ := one
  obtain ⟨⟨g, dec', read'⟩, -⟩ := two
  rw [dec, Codec.decoder.injEq] at dec'
  subst dec'
  rw [read, Except.ok.injEq] at read'
  exact read'

namespace TopicTable

variable {t : TopicTable α} {m : Publish}

/-- Route `r` is a subscribe route whose suffix is exactly the rest of the message's topic after
the namespace's prefix. -/
def Fits (t : TopicTable α) (m : Publish) (r : Topic α) : Prop :=
  r.direction = .subscribe ∧ r.suffix ≠ "" ∧ m.topic = t.space.pref ++ r.suffix

def Target (t : TopicTable α) (m : Publish) (h : Nat) (r : Topic α) : Prop :=
  t.topics[h]? = some r ∧ t.Fits m r ∧ ∀ h' r', t.topics[h']? = some r' → t.Fits m r' → h' = h

def enqueue (t : TopicTable α) (h : Nat) (x : α) : TopicTable α :=
  { t with
    topics := t.topics.modify h fun r => { r with queue := { r.queue with items := r.queue.items ++ [x] } } }

/-- What one inbound message does to a table. -/
inductive Delivers (t : TopicTable α) (m : Publish) : TopicTable α → Prop
  | queued {h : Nat} {r : Topic α} {x : α} : t.Target m h r → r.Takes m.payload x →
      Delivers t m (t.enqueue h x)
  | dropped {h : Nat} {r : Topic α} : t.Target m h r → (∀ x, ¬ r.Takes m.payload x) →
      Delivers t m t
  | unrouted : (∀ r ∈ t.topics, ¬ t.Fits m r) → Delivers t m t

theorem fits_unique (wf : t.WellFormed) {h h' : Nat} {r r' : Topic α}
    (at₁ : t.topics[h]? = some r) (at₂ : t.topics[h']? = some r') (fit₁ : t.Fits m r)
    (fit₂ : t.Fits m r') : h = h' := by
  obtain ⟨sub₁, -, named₁⟩ := fit₁
  obtain ⟨sub₂, -, named₂⟩ := fit₂
  have same : r.direction = r'.direction ∧ r.suffix = r'.suffix :=
    ⟨sub₁.trans sub₂.symm, (String.append_right_inj _).mp (named₁.symm.trans named₂)⟩
  obtain ⟨bound₁, rfl⟩ := List.getElem?_eq_some_iff.mp at₁
  obtain ⟨bound₂, rfl⟩ := List.getElem?_eq_some_iff.mp at₂
  have apart := List.pairwise_iff_getElem.mp wf.distinct
  rcases lt_trichotomy h h' with before | equal | after
  · exact absurd same (apart h h' bound₁ bound₂ before)
  · exact equal
  · exact absurd ⟨same.1.symm, same.2.symm⟩ (apart h' h bound₂ bound₁ after)

theorem decoder_of_subscribe (wf : t.WellFormed) {r : Topic α} (mem : r ∈ t.topics)
    (sub : r.direction = .subscribe) : ∃ f, r.codec = .decoder f :=
  ((Codec.suits_iff r.codec r.direction).mp (wf.suited r mem)).2.mpr sub

theorem setQueue_eq_enqueue {h : Nat} {r : Topic α} (at_h : t.topics[h]? = some r) (x : α) :
    t.setQueue h { r.queue with items := r.queue.items ++ [x] } = t.enqueue h x := by
  simp only [setQueue, enqueue, mk.injEq, and_true, true_and]
  apply List.ext_getElem?
  intro i
  by_cases here : h = i
  · subst here
    simp [at_h]
  · simp [List.getElem?_modify_ne _ _ here]

theorem enqueue_keys (h : Nat) (x : α) : (t.enqueue h x).topics.map Topic.key = t.topics.map Topic.key := by
  apply List.ext_getElem?
  intro i
  simp only [enqueue, List.getElem?_map, List.getElem?_modify]
  cases t.topics[i]? <;> by_cases here : h = i <;> simp [here, Topic.key]

theorem WellFormed.of_keys {t' : TopicTable α} (wf : t.WellFormed) (space : t'.space = t.space)
    (capacity : t'.capacity = t.capacity) (keys : t'.topics.map Topic.key = t.topics.map Topic.key) :
    t'.WellFormed := by
  -- Each route of `t'` has a route of `t` with its direction, suffix and codec.
  have twin : ∀ r ∈ t'.topics, ∃ r₀ ∈ t.topics, r₀.key = r.key := by
    intro r mem
    have listed : r.key ∈ t.topics.map Topic.key := keys ▸ List.mem_map.mpr ⟨r, mem, rfl⟩
    exact List.mem_map.mp listed
  refine ⟨?_, ?_, ?_, ?_⟩
  · have lengths := congrArg List.length keys
    simp only [List.length_map] at lengths
    rw [lengths, capacity]
    exact wf.bounded
  · intro r mem
    obtain ⟨r₀, mem₀, same⟩ := twin r mem
    simp only [Topic.key, Prod.mk.injEq] at same
    rw [← same.1, ← same.2.2]
    exact wf.suited r₀ mem₀
  · intro r mem
    obtain ⟨r₀, mem₀, same⟩ := twin r mem
    simp only [Topic.key, Prod.mk.injEq] at same
    rw [space, ← same.2.1]
    exact wf.valid r₀ mem₀
  · have apart : (t.topics.map Topic.key).Pairwise fun a b => ¬ (a.1 = b.1 ∧ a.2.1 = b.2.1) :=
      List.pairwise_map.mpr wf.distinct
    rw [← keys] at apart
    exact List.pairwise_map.mp apart

theorem WellFormed.enqueue (wf : t.WellFormed) (h : Nat) (x : α) : (t.enqueue h x).WellFormed :=
  wf.of_keys rfl rfl (enqueue_keys h x)

theorem Delivers.wellFormed {t' : TopicTable α} (wf : t.WellFormed) (delivered : t.Delivers m t') :
    t'.WellFormed := by
  cases delivered with
  | queued _ _ => exact wf.enqueue _ _
  | dropped _ _ => exact wf
  | unrouted _ => exact wf

theorem Target.unique {h h' : Nat} {r r' : Topic α} (one : t.Target m h r) (two : t.Target m h' r') :
    h = h' ∧ r = r' := by
  obtain ⟨at₁, fit₁, -⟩ := one
  obtain ⟨at₂, -, sole⟩ := two
  have same : h = h' := sole h r at₁ fit₁
  subst same
  rw [at₁, Option.some.injEq] at at₂
  exact ⟨rfl, at₂⟩

theorem Target.mem {h : Nat} {r : Topic α} (target : t.Target m h r) : r ∈ t.topics :=
  List.mem_of_getElem? target.1

theorem Delivers.unique {t₁ t₂ : TopicTable α} (one : t.Delivers m t₁) (two : t.Delivers m t₂) :
    t₁ = t₂ := by
  cases one with
  | queued target₁ takes₁ =>
    cases two with
    | queued target₂ takes₂ =>
      obtain ⟨rfl, rfl⟩ := target₁.unique target₂
      rw [Topic.Takes.unique takes₁ takes₂]
    | dropped target₂ refuses =>
      obtain ⟨-, rfl⟩ := target₁.unique target₂
      exact absurd takes₁ (refuses _)
    | unrouted none_fits => exact absurd target₁.2.1 (none_fits _ target₁.mem)
  | dropped target₁ refuses =>
    cases two with
    | queued target₂ takes₂ =>
      obtain ⟨-, rfl⟩ := target₂.unique target₁
      exact absurd takes₂ (refuses _)
    | dropped _ _ => rfl
    | unrouted _ => rfl
  | unrouted none_fits =>
    cases two with
    | queued target₂ _ => exact absurd target₂.2.1 (none_fits _ target₂.mem)
    | dropped _ _ => rfl
    | unrouted _ => rfl

theorem dispatch_delivers (wf : t.WellFormed) {s : String} (named : m.topic = t.space.pref ++ s)
    (nonempty : s ≠ "") : t.Delivers m (t.dispatch s m.payload).2 := by
  -- A route fits the message exactly when it is a subscribe route of suffix `s`.
  have fits_iff : ∀ r : Topic α, t.Fits m r ↔ r.direction = .subscribe ∧ r.suffix = s := by
    intro r
    simp only [Fits, named, String.append_right_inj]
    constructor
    · rintro ⟨sub, -, rfl⟩
      exact ⟨sub, rfl⟩
    · rintro ⟨sub, rfl⟩
      exact ⟨sub, nonempty, rfl⟩
  unfold dispatch
  cases found : t.topics.findIdx? (fun r => r.direction = .subscribe && r.suffix = s) with
  | none =>
    refine .unrouted fun r mem fit => ?_
    have := List.findIdx?_eq_none_iff.mp found r mem
    simp_all
  | some h =>
    obtain ⟨bound, hit, -⟩ := List.findIdx?_eq_some_iff_getElem.mp found
    have at_h : t.topics[h]? = some t.topics[h] := List.getElem?_eq_getElem bound
    have fit : t.Fits m t.topics[h] := (fits_iff _).mpr (by simpa using hit)
    have target : t.Target m h t.topics[h] :=
      ⟨at_h, fit, fun h' r' at' fit' => fits_unique wf at' at_h fit' fit⟩
    obtain ⟨f, dec⟩ := decoder_of_subscribe wf (List.getElem_mem bound) fit.1
    simp only [at_h, dec]
    cases decoded : f m.payload with
    | error e =>
      refine .dropped target fun x takes => ?_
      obtain ⟨⟨f', dec', read⟩, -⟩ := takes
      rw [dec, Codec.decoder.injEq] at dec'
      subst dec'
      simp [decoded] at read
    | ok x =>
      dsimp only
      cases sent : t.topics[h].queue.trySend x with
      | ok q =>
        obtain ⟨room, rfl⟩ := Queue.trySend_eq_ok_iff.mp sent
        dsimp only
        rw [setQueue_eq_enqueue at_h]
        exact .queued target ⟨⟨f, dec, decoded⟩, room⟩
      | error _ =>
        have full := (Queue.trySend_eq_error_iff.mp sent).1
        exact .dropped target fun y takes => Nat.not_lt.mpr full takes.2

theorem unrouted_of_strip (outside : t.space.strip m.topic = none) : ∀ r ∈ t.topics, ¬ t.Fits m r := by
  intro r _ fit
  obtain ⟨-, nonempty, named⟩ := fit
  rw [Namespace.strip_eq_some_iff.mpr ⟨named, nonempty⟩] at outside
  cases outside

end TopicTable

section Drains

variable (κ) [BrokerClient κ]

/-- The client hands out no more messages than its backlog says: some measure of its state, never
above the backlog, drops with every message `poll` returns. -/
def Drains : Prop :=
  ∃ μ : κ → Nat, (∀ k, μ k ≤ BrokerClient.backlog k) ∧
    ∀ d k b c m k' b' c', BrokerClient.poll d ((k, b), c) = .ok (some m) ((k', b'), c') → μ k' < μ k

end Drains

namespace Relay

variable [BrokerClient κ] {endAt fuel : Nat} {r : Relay κ α} {c c' : Clock} {k : κ} {b : EventBits}

def withClient (r : Relay κ α) (k : κ) (b : EventBits) : Relay κ α :=
  { r with client := k, hub := { r.hub with bits := b } }

omit [BrokerClient κ] in
@[simp] theorem withClient_table : (r.withClient k b).table = r.table := rfl

omit [BrokerClient κ] in
theorem onClient_ok {β : Type} {m : Timed (κ × EventBits) β} {a : β}
    (ran : m ((r.client, r.hub.bits), c) = .ok a ((k, b), c')) :
    onClient m (r, c) = .ok a (r.withClient k b, c') := by
  simp [onClient, Timed.focus, ran, withClient]

omit [BrokerClient κ] in
theorem onClient_error {β : Type} {m : Timed (κ × EventBits) β} {e : Halt}
    (ran : m ((r.client, r.hub.bits), c) = .error e ((k, b), c')) :
    onClient m (r, c) = .error e (r.withClient k b, c') := by
  simp [onClient, Timed.focus, ran, withClient]

theorem serviceFor_run_disconnected (down : r.isConnected = false) :
    (serviceFor endAt (fuel + 1)).run (r, c) = .ok () (r, c) := by
  simp [serviceFor, EStateM.run, bind, EStateM.bind, pure, EStateM.pure, Timed.read, down]

theorem serviceFor_run_deadline (up : r.isConnected = true) (late : endAt ≤ c.now) :
    (serviceFor endAt (fuel + 1)).run (r, c) = .ok () (r, c) := by
  simp [serviceFor, EStateM.run, bind, EStateM.bind, pure, EStateM.pure, Timed.read, Timed.now, up, late]

theorem serviceFor_run_halted {e : Halt} (up : r.isConnected = true) (early : c.now < endAt)
    (polled : BrokerClient.poll (endAt - c.now) ((r.client, r.hub.bits), c) = .error e ((k, b), c')) :
    (serviceFor endAt (fuel + 1)).run (r, c) = .error e (r.withClient k b, c') := by
  simp [serviceFor, EStateM.run, bind, EStateM.bind, Timed.read, Timed.now, up,
    Nat.not_le.mpr early, onClient_error polled]

theorem serviceFor_run_quiet (up : r.isConnected = true) (early : c.now < endAt)
    (polled : BrokerClient.poll (endAt - c.now) ((r.client, r.hub.bits), c) = .ok none ((k, b), c')) :
    (serviceFor endAt (fuel + 1)).run (r, c) = .ok () (r.withClient k b, c') := by
  simp [serviceFor, EStateM.run, bind, EStateM.bind, pure, EStateM.pure, Timed.read, Timed.now, up,
    Nat.not_le.mpr early, onClient_ok polled]

theorem serviceFor_run_message (fuel : Nat) {m : Publish} (wf : r.table.WellFormed) (up : r.isConnected = true)
    (early : c.now < endAt)
    (polled : BrokerClient.poll (endAt - c.now) ((r.client, r.hub.bits), c) = .ok (some m) ((k, b), c')) :
    ∃ t, r.table.Delivers m t ∧ (serviceFor endAt (fuel + 1)).run (r, c) =
      (serviceFor endAt fuel).run ({ r.withClient k b with table := t }, c') := by
  cases outside : r.table.space.strip m.topic with
  | none =>
    refine ⟨r.table, .unrouted (TopicTable.unrouted_of_strip outside), ?_⟩
    simp [serviceFor, EStateM.run, bind, EStateM.bind, Timed.read, Timed.now, up,
      Nat.not_le.mpr early, onClient_ok polled, outside]
    rfl
  | some s =>
    obtain ⟨named, nonempty⟩ := Namespace.strip_eq_some_iff.mp outside
    refine ⟨_, TopicTable.dispatch_delivers wf named nonempty, ?_⟩
    simp [serviceFor, EStateM.run, bind, EStateM.bind, Timed.read, Timed.write, Timed.now, up,
      Nat.not_le.mpr early, onClient_ok polled, outside]

/-- Why the inbound service ended. -/
inductive Stop where
  | disconnected
  | deadline
  | quiet
  | halted (h : Halt)
  deriving DecidableEq, Repr

def Stop.result {σ : Type} : Stop → σ → EStateM.Result Halt σ Unit
  | .halted h, fin => .error h fin
  | _, fin => .ok () fin

/-- A run of the inbound service from relay `r` at clock `c`: the messages the client handed
out, in order, each delivered to the table, why the run stopped, and where it stopped. -/
inductive Serves (endAt : Nat) : Relay κ α → Clock → List Publish → Stop → Relay κ α × Clock → Prop
  | disconnected {r : Relay κ α} {c : Clock} : r.isConnected = false →
      Serves endAt r c [] .disconnected (r, c)
  | deadline {r : Relay κ α} {c : Clock} : r.isConnected = true → endAt ≤ c.now →
      Serves endAt r c [] .deadline (r, c)
  | quiet {r : Relay κ α} {c c' : Clock} {k : κ} {b : EventBits} : r.isConnected = true →
      c.now < endAt →
      BrokerClient.poll (endAt - c.now) ((r.client, r.hub.bits), c) = .ok none ((k, b), c') →
      Serves endAt r c [] .quiet (r.withClient k b, c')
  | halted {r : Relay κ α} {c c' : Clock} {k : κ} {b : EventBits} {h : Halt} : r.isConnected = true →
      c.now < endAt →
      BrokerClient.poll (endAt - c.now) ((r.client, r.hub.bits), c) = .error h ((k, b), c') →
      Serves endAt r c [] (.halted h) (r.withClient k b, c')
  | delivered {r : Relay κ α} {c c' : Clock} {k : κ} {b : EventBits} {m : Publish}
      {t : TopicTable α} {ms : List Publish} {stop : Stop} {fin : Relay κ α × Clock} :
      r.isConnected = true → c.now < endAt →
      BrokerClient.poll (endAt - c.now) ((r.client, r.hub.bits), c) = .ok (some m) ((k, b), c') →
      r.table.Delivers m t → Serves endAt { r.withClient k b with table := t } c' ms stop fin →
      Serves endAt r c (m :: ms) stop fin

theorem serviceFor_serves {μ : κ → Nat}
    (drops : ∀ d k b c m k' b' c', BrokerClient.poll d ((k, b), c) = .ok (some m) ((k', b'), c') →
      μ k' < μ k) :
    ∀ (fuel : Nat) (r : Relay κ α) (c : Clock), r.table.WellFormed → μ r.client < fuel →
      ∃ ms stop fin, Serves endAt r c ms stop fin ∧ (serviceFor endAt fuel).run (r, c) = stop.result fin := by
  intro fuel
  induction fuel with
  | zero =>
    intro r c _ enough
    omega
  | succ fuel ih =>
    intro r c wf enough
    cases up : r.isConnected with
    | false => exact ⟨[], .disconnected, (r, c), .disconnected up, serviceFor_run_disconnected up⟩
    | true =>
      by_cases late : endAt ≤ c.now
      · exact ⟨[], .deadline, (r, c), .deadline up late, serviceFor_run_deadline up late⟩
      have early : c.now < endAt := Nat.lt_of_not_le late
      cases polled : BrokerClient.poll (endAt - c.now) ((r.client, r.hub.bits), c) with
      | error e after =>
        obtain ⟨⟨k, b⟩, c'⟩ := after
        exact ⟨[], .halted e, (r.withClient k b, c'), .halted up early polled,
          serviceFor_run_halted up early polled⟩
      | ok message after =>
        obtain ⟨⟨k, b⟩, c'⟩ := after
        cases message with
        | none =>
          exact ⟨[], .quiet, (r.withClient k b, c'), .quiet up early polled,
            serviceFor_run_quiet up early polled⟩
        | some m =>
          -- The message is delivered, and the client's measure dropped below the fuel left.
          obtain ⟨t, delivered, run⟩ := serviceFor_run_message fuel wf up early polled
          have dropped := drops _ _ _ _ _ _ _ _ polled
          obtain ⟨ms, stop, fin, serves, rest⟩ :=
            ih { r.withClient k b with table := t } c' (delivered.wellFormed wf) (by simp [withClient]; omega)
          exact ⟨m :: ms, stop, fin, .delivered up early polled delivered serves, run.trans rest⟩

/-- The inbound service hands every message the client gives it to its route, in order, and stops
only when the session is down, the deadline came, a poll brought nothing, or the bounded run
reached its limit. -/
theorem inbound_service_delivers_every_message (drains : Drains κ) (endAt : Nat) (r : Relay κ α)
    (c : Clock) (wf : r.table.WellFormed) :
    ∃ ms stop fin, Serves endAt r c ms stop fin ∧ (serviceInbound endAt).run (r, c) = stop.result fin := by
  obtain ⟨μ, below, drops⟩ := drains
  have start : (serviceInbound endAt).run (r, c) =
      (serviceFor endAt (BrokerClient.backlog r.client + 1)).run (r, c) := rfl
  rw [start]
  exact serviceFor_serves drops _ r c wf (Nat.lt_succ_of_le (below r.client))

end Relay

end Gateway.Bridge

namespace Gateway.Scenario
open Gateway.Bridge Gateway.Mqtt Gateway.Hub

theorem FakeBroker.drains : Drains FakeBroker := by
  refine ⟨fun b => b.inbound.length, fun b => le_refl _, ?_⟩
  intro d k b c m k' b' c' polled
  simp only [BrokerClient.poll, onBroker, bind, EStateM.bind, Timed.read, Timed.write, pure,
    EStateM.pure] at polled
  cases waiting : k.inbound with
  | nil => simp [waiting] at polled
  | cons head rest =>
    simp only [waiting] at polled
    obtain ⟨-, ⟨rfl, -⟩, -⟩ := polled
    simp [waiting]

def configTable : TopicTable UInt32 :=
  (({ space := ⟨"/titanium/A1B2C3D4E5F6/"⟩, capacity := 4, depth := 4, ioTimeout := 100000 } :
    TopicTable UInt32).setup
      [.register ⟨"config", .subscribe, .atLeastOnce, (CodecKind.decoder .numeral).codec⟩]).1

theorem configTable_wellFormed : configTable.WellFormed :=
  TopicTable.setup_wellFormed (TopicTable.WellFormed.of_empty rfl) _

/-- A relay whose broker holds a message for `sensor_config`, one for `config`, and one for
`config` of another unit. -/
def configRelay : Relay FakeBroker UInt32 where
  client :=
    { connected := true
      inbound := [some ⟨"/titanium/A1B2C3D4E5F6/sensor_config", .atMostOnce, [49], none⟩,
        some ⟨"/titanium/A1B2C3D4E5F6/config", .atMostOnce, [50], none⟩,
        some ⟨"/titanium/000000000000/config", .atMostOnce, [51], none⟩] }
  table := configTable
  hub := {}
  device := ⟨"A1B2C3D4E5F6"⟩
  tick := 50000

theorem inbound_service_delivers_every_message_to_config :
    Drains FakeBroker ∧ configRelay.table.WellFormed ∧
      ∃ ms stop fin, Relay.Serves 50000 configRelay ⟨0, none⟩ ms stop fin ∧
        (Relay.serviceInbound 50000).run (configRelay, ⟨0, none⟩) = stop.result fin :=
  ⟨FakeBroker.drains, configTable_wellFormed,
    Relay.inbound_service_delivers_every_message FakeBroker.drains 50000 configRelay ⟨0, none⟩
      configTable_wellFormed⟩

end Gateway.Scenario
