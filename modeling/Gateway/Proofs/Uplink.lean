import Mathlib
import Gateway.Proofs.Routing
/-!
Lining the broker session up with the uplink. At the start of each tick the relay looks at the
hub's uplink fact and at its client: it connects when the uplink is there and the client is not,
and after a connect that succeeds it subscribes every subscribe route of the table, one call per
route in the order the routes were added, whatever the broker answers to each; it disconnects
when the uplink is gone and the client is still connected; otherwise it leaves the session
alone. Only when the session is up after that does the tick go on to publish and poll; a tick
that finds it down changes nothing more.

To see the calls, the client is wrapped in `Recorded`, which passes every call on and logs it
once it returns, a connect with its outcome.

Main statement (`ticks_line_up_session`): along every run of ticks from a relay with a
well-formed table, with the hub, the client and the queues changed at will between ticks and the
client free to change the hub's facts during its calls, every tick makes its calls as `LinedUp`
says, with the subscriptions of the table the run started with.
-/
namespace Gateway.Timed

variable {σ α β : Type}

@[simp] theorem run_pure (x : α) (p : σ × Clock) : (pure x : Timed σ α).run p = .ok x p := rfl

@[simp] theorem run_write (s' : σ) (s : σ) (c : Clock) : (write s').run (s, c) = .ok () (s', c) := rfl

@[simp] theorem run_halt (h : Halt) (p : σ × Clock) : (halt h : Timed σ α).run p = .error h p := rfl

@[simp] theorem run_read_bind (f : σ → Timed σ β) (s : σ) (c : Clock) :
    (read >>= f).run (s, c) = (f s).run (s, c) := rfl

@[simp] theorem run_now_bind (f : Nat → Timed σ β) (s : σ) (c : Clock) :
    (now >>= f).run (s, c) = (f c.now).run (s, c) := rfl

theorem run_waitUntil_state {t : Nat} {s s' : σ} {c c' : Clock}
    (ran : (waitUntil t).run (s, c) = .ok () (s', c')) : s' = s := by
  simp only [EStateM.run, waitUntil] at ran
  split at ran
  · split at ran
    · cases ran
    · cases ran
      rfl
  · cases ran
    rfl

theorem run_bind_ok {m : Timed σ α} {f : α → Timed σ β} {p p' : σ × Clock} {y : β}
    (ran : (m >>= f).run p = .ok y p') : ∃ x q, m.run p = .ok x q ∧ (f x).run q = .ok y p' := by
  simp only [EStateM.run, bind, EStateM.bind] at ran ⊢
  cases first : m p with
  | ok x q => simp only [first] at ran; exact ⟨x, q, rfl, ran⟩
  | error e q => simp only [first] at ran; cases ran

end Gateway.Timed

namespace Gateway.Bridge
open Gateway.Hub Gateway.Mqtt

/-- A call of the relay to its broker client, as a log keeps it. -/
inductive ClientCall where
  | connect (ok : Bool)
  | disconnect
  | subscribe (topic : String) (qos : QoS)
  | publish (topic payload : String) (qos : QoS)
  | poll (timeout : Nat)
  deriving DecidableEq, Repr

def ClientCall.isTraffic : ClientCall → Bool
  | .publish .. => true
  | .poll _ => true
  | _ => false

/-- A broker client whose calls are logged, each once it returns. -/
structure Recorded (κ : Type) where
  client : κ
  calls : List ClientCall

namespace Recorded

variable {κ β : Type}

def record (entry : β → ClientCall) (m : Timed (κ × EventBits) β) : Timed (Recorded κ × EventBits) β :=
  fun ((r, b), c) =>
    match m ((r.client, b), c) with
    | .ok x ((k, b'), c') => .ok x ((⟨k, r.calls ++ [entry x]⟩, b'), c')
    | .error e ((k, b'), c') => .error e ((⟨k, r.calls⟩, b'), c')

instance [BrokerClient κ] : BrokerClient (Recorded κ) where
  isConnected r := BrokerClient.isConnected r.client
  connect := record .connect BrokerClient.connect
  disconnect := record (fun _ => .disconnect) BrokerClient.disconnect
  subscribe topic qos := record (fun _ => .subscribe topic qos) (BrokerClient.subscribe topic qos)
  publish topic payload qos :=
    record (fun _ => .publish topic payload qos) (BrokerClient.publish topic payload qos)
  poll d := record (fun _ => .poll d) (BrokerClient.poll d)
  backlog r := BrokerClient.backlog r.client

end Recorded

/-- The subscriptions a table asks for: the topic its namespace makes of the suffix of each
subscribe route, with the route's QoS, in the order the routes were added. -/
def TopicTable.subscriptions {α : Type} (t : TopicTable α) : List (String × QoS) :=
  (t.topics.filter (·.direction = .subscribe)).map fun r => (t.space.pref ++ r.suffix, r.qos)

/-- The calls that line a session up with the uplink, from the uplink fact the relay saw and
whether its client was connected: a connect that fails; a connect that succeeds, then one
subscribe per subscription `subs`, in order; a disconnect; or nothing, when the two agree. -/
inductive LinesUp (subs : List (String × QoS)) : Bool → Bool → List ClientCall → Prop
  | refused : LinesUp subs true false [.connect false]
  | connected : LinesUp subs true false (.connect true :: subs.map fun s => .subscribe s.1 s.2)
  | dropped : LinesUp subs false true [.disconnect]
  | steady (up : Bool) : LinesUp subs up up []

section Handles

variable {α : Type}

def TopicTable.subscriptionAt (t : TopicTable α) (h : Nat) : Option (String × QoS) :=
  t.topics[h]?.map fun r => (t.space.pref ++ r.suffix, r.qos)

theorem TopicTable.filterMap_subscriptionAt (t : TopicTable α) :
    (t.handles .subscribe).filterMap t.subscriptionAt = t.subscriptions := by
  -- Each handle the table lists is the index of the route beside it.
  have pairs : ∀ p ∈ (List.range t.topics.length).zip t.topics, t.topics[p.1]? = some p.2 := by
    intro p mem
    obtain ⟨i, hi, rfl⟩ := List.getElem_of_mem mem
    simp
  let wanted (r : Topic α) : Option (String × QoS) :=
    if r.direction = .subscribe then some (t.space.pref ++ r.suffix, r.qos) else none
  unfold TopicTable.handles TopicTable.subscriptions
  have by_route : ∀ p ∈ (List.range t.topics.length).zip t.topics,
      ((if p.2.direction = .subscribe then some p.1 else none).bind t.subscriptionAt) = wanted p.2 := by
    rintro ⟨i, r⟩ mem
    by_cases sub : r.direction = .subscribe <;>
      simp [wanted, sub, TopicTable.subscriptionAt, pairs _ mem]
  rw [List.filterMap_filterMap, List.filterMap_congr by_route]
  change List.filterMap (wanted ∘ Prod.snd) _ = _
  rw [← List.filterMap_map, List.map_snd_zip (by simp), ← List.filterMap_eq_map', List.filterMap_filter]
  simp [wanted]

def Topic.bare (r : Topic α) : Topic α := { r with queue := { capacity := 0 } }

/-- Table `t'` is table `t` with only its queues changed: the same namespace, room and routes. -/
structure TopicTable.Requeued (t t' : TopicTable α) : Prop where
  space : t'.space = t.space
  capacity : t'.capacity = t.capacity
  routes : t'.topics.map Topic.bare = t.topics.map Topic.bare

namespace TopicTable.Requeued

variable {t t' t₁ t₂ : TopicTable α}

theorem refl (t : TopicTable α) : t.Requeued t := ⟨rfl, rfl, rfl⟩

theorem trans (one : t.Requeued t₁) (two : t₁.Requeued t₂) : t.Requeued t₂ :=
  ⟨two.space.trans one.space, two.capacity.trans one.capacity, two.routes.trans one.routes⟩

theorem subscriptions (requeued : t.Requeued t') : t'.subscriptions = t.subscriptions := by
  have bare_filter : ∀ u : TopicTable α, u.subscriptions =
      ((u.topics.map Topic.bare).filter (·.direction = .subscribe)).map
        fun r => (u.space.pref ++ r.suffix, r.qos) := by
    intro u
    simp only [TopicTable.subscriptions, List.filter_map, List.map_map, Function.comp_def, Topic.bare]
    rfl
  rw [bare_filter, bare_filter t, requeued.routes, requeued.space]

theorem wellFormed (requeued : t.Requeued t') (wf : t.WellFormed) : t'.WellFormed := by
  have keys : t'.topics.map Topic.key = t.topics.map Topic.key := by
    have key_bare : Topic.key = Topic.key ∘ (Topic.bare (α := α)) := rfl
    rw [key_bare, ← List.map_map, requeued.routes, List.map_map]
  exact wf.of_keys requeued.space requeued.capacity keys

end TopicTable.Requeued

theorem TopicTable.setQueue_requeued (t : TopicTable α) (h : Nat) (q : Queue α) :
    t.Requeued (t.setQueue h q) := by
  refine ⟨rfl, rfl, List.ext_getElem? fun i => ?_⟩
  simp only [setQueue, List.getElem?_map, List.getElem?_modify]
  cases t.topics[i]? <;> by_cases here : h = i <;> simp [here, Topic.bare]

theorem TopicTable.encodeNext_requeued (t : TopicTable α) (h : Nat) (ctx : EncodeContext) :
    t.Requeued (t.encodeNext h ctx).2 := by
  unfold encodeNext
  -- Only the arm that took an item changes the table, and it sets the route's queue.
  split
  · exact .refl t
  split
  · exact .refl t
  split
  · exact .refl t
  split <;> exact t.setQueue_requeued _ _

theorem TopicTable.dispatch_requeued (t : TopicTable α) (suffix : String) (payload : List UInt8) :
    t.Requeued (t.dispatch suffix payload).2 := by
  unfold dispatch
  -- Only a decoded item that joined the queue changes the table, by setting the route's queue.
  split
  · exact .refl t
  split
  · exact .refl t
  split
  · exact .refl t
  split
  · exact .refl t
  split
  · exact t.setQueue_requeued _ _
  · exact .refl t

end Handles

namespace Relay

variable {κ α β : Type} {r r₁ r' : Relay (Recorded κ) α} {c c₁ c' : Clock}

theorem onClient_record {entry : β → ClientCall} {m : Timed (κ × EventBits) β} {x : β}
    (ran : (onClient (Recorded.record entry m)).run (r, c) = .ok x (r', c')) :
    ∃ k b, m ((r.client.client, r.hub.bits), c) = .ok x ((k, b), c') ∧
      r' = r.withClient ⟨k, r.client.calls ++ [entry x]⟩ b := by
  simp only [EStateM.run, onClient, Timed.focus, Recorded.record] at ran
  cases called : m ((r.client.client, r.hub.bits), c) with
  | ok y after =>
    obtain ⟨⟨k, b⟩, c₁⟩ := after
    simp only [called, EStateM.Result.ok.injEq, Prod.mk.injEq] at ran
    obtain ⟨rfl, rfl, rfl⟩ := ran
    exact ⟨k, b, rfl, rfl⟩
  | error e after =>
    obtain ⟨⟨k, b⟩, c₁⟩ := after
    simp [called] at ran

/-- From `r` to `r'` the relay only sent and took messages: its log grew by traffic alone, and its
table changed only in its queues. -/
structure Trafficked (r r' : Relay (Recorded κ) α) : Prop where
  calls : ∃ traffic, r'.client.calls = r.client.calls ++ traffic ∧ ∀ x ∈ traffic, x.isTraffic
  table : r.table.Requeued r'.table

theorem Trafficked.refl (r : Relay (Recorded κ) α) : Trafficked r r :=
  ⟨⟨[], by simp, by simp⟩, .refl _⟩

theorem Trafficked.trans {r₂ : Relay (Recorded κ) α} (one : Trafficked r r₁) (two : Trafficked r₁ r₂) :
    Trafficked r r₂ := by
  obtain ⟨⟨xs, grown, only⟩, table⟩ := one
  obtain ⟨⟨ys, grown', only'⟩, table'⟩ := two
  refine ⟨⟨xs ++ ys, by simp [grown', grown], ?_⟩, table.trans table'⟩
  simpa [or_imp, forall_and] using And.intro only only'

theorem Trafficked.call {k : κ} {b : EventBits} {x : ClientCall} (traffic : x.isTraffic) :
    Trafficked r (r.withClient ⟨k, r.client.calls ++ [x]⟩ b) :=
  ⟨⟨[x], rfl, by simpa using traffic⟩, .refl _⟩

variable [BrokerClient κ]

theorem subscribeEach_run {t : TopicTable α} (wf : t.WellFormed) (hs : List Nat)
    (ran : (subscribeEach t hs).run (r, c) = .ok () (r', c')) :
    r'.table = r.table ∧
      r'.client.calls = r.client.calls ++ (hs.filterMap t.subscriptionAt).map fun s => .subscribe s.1 s.2 := by
  induction hs generalizing r c with
  | nil =>
    simp [subscribeEach, EStateM.run, pure, EStateM.pure] at ran
    obtain ⟨rfl, rfl⟩ := ran
    simp
  | cons h rest ih =>
    cases at_h : t.topics[h]? with
    | none =>
      simp only [subscribeEach, TopicTable.suffix?, TopicTable.qos?, at_h, Option.map_none] at ran
      obtain ⟨table, calls⟩ := ih ran
      exact ⟨table, by simp [calls, TopicTable.subscriptionAt, at_h]⟩
    | some route =>
      simp only [subscribeEach, TopicTable.suffix?, TopicTable.qos?, at_h, Option.map_some,
        Namespace.topic_of_validate (wf.valid route (List.mem_of_getElem? at_h))] at ran
      obtain ⟨x, ⟨r₁, c₁⟩, first, later⟩ := Timed.run_bind_ok ran
      obtain ⟨k, b, -, rfl⟩ := onClient_record first
      obtain ⟨table, calls⟩ := ih later
      exact ⟨table, by simp [calls, TopicTable.subscriptionAt, at_h, withClient]⟩

theorem pollLink_run (wf : r.table.WellFormed) {up : Bool} (ran : pollLink.run (r, c) = .ok up (r₁, c₁)) :
    up = r₁.isConnected ∧ r₁.table = r.table ∧
      ∃ lining, LinesUp r.table.subscriptions r.hasUplink r.isConnected lining ∧
        r₁.client.calls = r.client.calls ++ lining := by
  -- What is left after the lining-up calls: reading whether the client is connected.
  have answer : ∀ {r₂ : Relay (Recorded κ) α} {c₂ : Clock},
      (Timed.read >>= fun r => pure r.isConnected : Timed (Relay (Recorded κ) α) Bool).run (r₂, c₂) =
        .ok up (r₁, c₁) → up = r₁.isConnected ∧ r₂ = r₁ := by
    intro r₂ c₂ read
    simp only [Timed.run_read_bind, Timed.run_pure, EStateM.Result.ok.injEq, Prod.mk.injEq] at read
    obtain ⟨rfl, rfl, rfl⟩ := read
    exact ⟨rfl, rfl⟩
  cases uplink : r.hasUplink <;> cases connected : r.isConnected <;>
    simp only [pollLink, Timed.run_read_bind, uplink, connected] at ran
  case false.false | true.true =>
    simp only [Timed.run_pure, EStateM.Result.ok.injEq, Prod.mk.injEq] at ran
    obtain ⟨rfl, rfl, rfl⟩ := ran
    exact ⟨connected.symm, rfl, [], .steady _, by simp⟩
  case false.true =>
    obtain ⟨x, ⟨r₂, c₂⟩, first, later⟩ := Timed.run_bind_ok ran
    obtain ⟨k, b, -, rfl⟩ := onClient_record first
    obtain ⟨rfl, rfl⟩ := answer later
    exact ⟨rfl, rfl, [.disconnect], .dropped, rfl⟩
  case true.false =>
    obtain ⟨ok, ⟨r₂, c₂⟩, first, later⟩ := Timed.run_bind_ok ran
    obtain ⟨k, b, -, rfl⟩ := onClient_record first
    cases ok with
    | false =>
      obtain ⟨rfl, rfl⟩ := answer later
      exact ⟨rfl, rfl, [.connect false], .refused, rfl⟩
    | true =>
      -- After a connect that succeeds, every subscribe route of the table is subscribed.
      obtain ⟨⟨⟩, ⟨r₃, c₃⟩, subscribed, later⟩ := Timed.run_bind_ok later
      obtain ⟨rfl, rfl⟩ := answer later
      simp only [subscribeAll, Timed.run_read_bind, withClient_table] at subscribed
      obtain ⟨table, calls⟩ := subscribeEach_run wf _ subscribed
      refine ⟨rfl, table, _, .connected, ?_⟩
      simp [calls, withClient, TopicTable.filterMap_subscriptionAt]

theorem publishEach_run (ctx : EncodeContext) (hs : List Nat)
    (ran : (publishEach ctx hs).run (r, c) = .ok () (r', c')) : Trafficked r r' := by
  induction hs generalizing r c with
  | nil =>
    simp [publishEach] at ran
    obtain ⟨rfl, rfl⟩ := ran
    exact .refl r
  | cons h rest ih =>
    simp only [publishEach, Timed.run_read_bind] at ran
    by_cases stop : (!r.hasUplink || !r.isConnected) = true
    · simp only [stop, if_true, Timed.run_pure, EStateM.Result.ok.injEq, Prod.mk.injEq] at ran
      obtain ⟨-, rfl, rfl⟩ := ran
      exact .refl r
    simp only [stop, Bool.false_eq_true, if_false] at ran
    cases at_h : r.table.topics[h]? with
    | none =>
      simp only [TopicTable.suffix?, at_h, Option.map_none] at ran
      exact ih ran
    | some route =>
      simp only [TopicTable.suffix?, TopicTable.qos?, at_h, Option.map_some] at ran
      -- The route's next item leaves its queue, published or not.
      obtain ⟨⟨⟩, ⟨r₂, c₂⟩, written, later⟩ := Timed.run_bind_ok ran
      simp only [Timed.run_write, EStateM.Result.ok.injEq, Prod.mk.injEq] at written
      obtain ⟨rfl, rfl⟩ := written.2
      have rendered : Trafficked r { r with table := (r.table.encodeNext h ctx).2 } :=
        ⟨⟨[], by simp, by simp⟩, r.table.encodeNext_requeued h ctx⟩
      split at later
      · obtain ⟨x, ⟨r₃, c₃⟩, first, rest⟩ := Timed.run_bind_ok later
        obtain ⟨k, b, -, rfl⟩ := onClient_record first
        exact rendered.trans ((Trafficked.call rfl).trans (ih rest))
      · exact rendered.trans (ih later)

theorem publishTick_run (ran : publishTick.run (r, c) = .ok () (r', c')) : Trafficked r r' := by
  simp only [publishTick, Timed.run_read_bind] at ran
  by_cases stop : (!r.isConnected || !r.hub.bits.contains (.uplink ||| .timeSynchronized)) = true
  · simp only [stop, if_true, Timed.run_pure, EStateM.Result.ok.injEq, Prod.mk.injEq] at ran
    obtain ⟨-, rfl, rfl⟩ := ran
    exact .refl r
  simp only [stop, Bool.false_eq_true, if_false, Timed.run_now_bind] at ran
  split at ran
  · simp only [Timed.run_pure, EStateM.Result.ok.injEq, Prod.mk.injEq] at ran
    obtain ⟨-, rfl, rfl⟩ := ran
    exact .refl r
  · exact publishEach_run _ _ ran
  · simp at ran

theorem serviceFor_run (endAt fuel : Nat) (ran : (serviceFor endAt fuel).run (r, c) = .ok () (r', c')) :
    Trafficked r r' := by
  induction fuel generalizing r c with
  | zero =>
    simp only [serviceFor, Timed.run_pure, EStateM.Result.ok.injEq, Prod.mk.injEq] at ran
    obtain ⟨-, rfl, rfl⟩ := ran
    exact .refl r
  | succ fuel ih =>
    simp only [serviceFor, Timed.run_read_bind] at ran
    cases up : r.isConnected
    case false =>
      simp only [up, Bool.not_false, if_true, Timed.run_pure, EStateM.Result.ok.injEq, Prod.mk.injEq] at ran
      obtain ⟨-, rfl, rfl⟩ := ran
      exact .refl r
    simp only [up, Bool.not_true, Bool.false_eq_true, if_false, Timed.run_now_bind] at ran
    by_cases late : c.now ≥ endAt
    · simp only [late, if_true, Timed.run_pure, EStateM.Result.ok.injEq, Prod.mk.injEq] at ran
      obtain ⟨-, rfl, rfl⟩ := ran
      exact .refl r
    simp only [late, if_false] at ran
    obtain ⟨message, ⟨r₂, c₂⟩, polled, later⟩ := Timed.run_bind_ok ran
    obtain ⟨k, b, -, rfl⟩ := onClient_record polled
    have asked : Trafficked r (r.withClient ⟨k, r.client.calls ++ [.poll (endAt - c.now)]⟩ b) :=
      Trafficked.call rfl
    cases message with
    | none =>
      simp only [Timed.run_pure, EStateM.Result.ok.injEq, Prod.mk.injEq] at later
      obtain ⟨-, rfl, rfl⟩ := later
      exact asked
    | some m =>
      simp only [Timed.run_read_bind] at later
      split at later
      · -- The message went to the table: at most one queue changed.
        obtain ⟨⟨⟩, ⟨r₃, c₃⟩, written, rest⟩ := Timed.run_bind_ok later
        simp only [Timed.run_write, EStateM.Result.ok.injEq, Prod.mk.injEq] at written
        obtain ⟨rfl, rfl⟩ := written.2
        refine asked.trans (Trafficked.trans ⟨⟨[], by simp, by simp⟩, ?_⟩ (ih rest))
        exact TopicTable.dispatch_requeued _ _ _
      · exact asked.trans (ih later)

theorem serviceInbound_run {endAt : Nat} (ran : (serviceInbound endAt).run (r, c) = .ok () (r', c')) :
    Trafficked r r' :=
  serviceFor_run endAt _ ran

/-- What one tick from relay `r` at clock `c`, ending at `r'`, asks of its client: first the calls
that line the session up with what `r` shows, with subscriptions `subs`, which leave the table
alone; then, if the session is up afterwards, publishes and polls alone, with only queues changed
in the table; and if it is down, nothing more at all. -/
def LinedUp (subs : List (String × QoS)) (r : Relay (Recorded κ) α) (c : Clock)
    (r' : Relay (Recorded κ) α) : Prop :=
  ∃ lining r₁ c₁, pollLink.run (r, c) = .ok r₁.isConnected (r₁, c₁) ∧
    LinesUp subs r.hasUplink r.isConnected lining ∧ r₁.client.calls = r.client.calls ++ lining ∧
    r₁.table = r.table ∧ (r₁.isConnected = true → Trafficked r₁ r') ∧ (r₁.isConnected = false → r' = r₁)

theorem step_lined_up (wf : r.table.WellFormed) (ran : step.run (r, c) = .ok () (r', c')) :
    LinedUp r.table.subscriptions r c r' := by
  simp only [step, Timed.run_now_bind, Timed.run_read_bind] at ran
  obtain ⟨up, ⟨r₁, c₁⟩, polled, later⟩ := Timed.run_bind_ok ran
  obtain ⟨rfl, table, lining, lines, calls⟩ := pollLink_run wf polled
  refine ⟨lining, r₁, c₁, polled, lines, calls, table, fun upped => ?_, fun down => ?_⟩
  · simp only [upped, if_true] at later
    obtain ⟨⟨⟩, ⟨r₂, c₂⟩, published, later⟩ := Timed.run_bind_ok later
    obtain ⟨⟨⟩, ⟨r₃, c₃⟩, served, waited⟩ := Timed.run_bind_ok later
    rw [Timed.run_waitUntil_state waited]
    exact (publishTick_run published).trans (serviceInbound_run served)
  · simp only [down, Bool.false_eq_true, if_false] at later
    exact Timed.run_waitUntil_state later

/-- The relays a run of ticks reaches from `r₀`. Between ticks the rest of the unit may change the
hub, the state of the client and the items queued on the table's routes, but not the log. -/
inductive Reaches (r₀ : Relay (Recorded κ) α) : Relay (Recorded κ) α → Prop
  | start : Reaches r₀ r₀
  | tick {r r' : Relay (Recorded κ) α} {c c' : Clock} : Reaches r₀ r →
      step.run (r, c) = .ok () (r', c') → Reaches r₀ r'
  | between {r : Relay (Recorded κ) α} (h : Hub) (k : κ) {t : TopicTable α} : Reaches r₀ r →
      r.table.Requeued t → Reaches r₀ { r with hub := h, client := ⟨k, r.client.calls⟩, table := t }

theorem Reaches.requeued {r₀ : Relay (Recorded κ) α} (wf : r₀.table.WellFormed) (reach : Reaches r₀ r) :
    r₀.table.Requeued r.table := by
  induction reach with
  | start => exact .refl _
  | tick _ ran ih =>
    obtain ⟨-, r₁, -, -, -, -, table, traffic, quiet⟩ := step_lined_up (ih.wellFormed wf) ran
    cases up : r₁.isConnected
    · rw [quiet up, table]
      exact ih
    · rw [← table] at ih
      exact ih.trans (traffic up).table
  | between _ _ _ requeued ih => exact ih.trans requeued

/-- Every tick of every run from a relay with a well-formed table lines the session up as
`LinedUp` says, with the subscriptions of the table the run started with. -/
theorem ticks_line_up_session {r₀ : Relay (Recorded κ) α} (wf : r₀.table.WellFormed)
    (reach : Reaches r₀ r) (ran : step.run (r, c) = .ok () (r', c')) :
    LinedUp r₀.table.subscriptions r c r' := by
  have requeued := reach.requeued wf
  rw [← requeued.subscriptions]
  exact step_lined_up (requeued.wellFormed wf) ran

end Relay

end Gateway.Bridge

namespace Gateway.Scenario
open Gateway.Bridge Gateway.Hub

def uplinkRelay : Relay (Recorded FakeBroker) UInt32 where
  client := ⟨{}, []⟩
  table := { space := ⟨"/titanium/A1B2C3D4E5F6/"⟩, capacity := 4, depth := 4, ioTimeout := 100000 }
  hub := { bits := .uplink }
  device := ⟨"A1B2C3D4E5F6"⟩
  tick := 1000000

theorem ticks_line_up_session_when_uplink_comes :
    uplinkRelay.table.WellFormed ∧ Relay.Reaches uplinkRelay uplinkRelay ∧
      ∃ r' c', Relay.step.run (uplinkRelay, ⟨0, none⟩) = .ok () (r', c') ∧
        Relay.LinedUp uplinkRelay.table.subscriptions uplinkRelay ⟨0, none⟩ r' :=
  have wf : uplinkRelay.table.WellFormed := .of_empty rfl
  ⟨wf, .start, _, _, rfl, Relay.ticks_line_up_session wf .start rfl⟩

end Gateway.Scenario
