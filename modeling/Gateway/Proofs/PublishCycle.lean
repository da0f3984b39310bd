import Gateway.Proofs.Uplink
/-!
Publishing in a tick. A tick publishes only when, as it starts, the client is connected, the hub
holds both the uplink and the synchronized time, and the hub can tell the unix time; that time
and the device then make the one context every item of the tick is rendered with. The relay then
goes through the publish routes in the order they were added. Before each route it looks afresh
at the uplink and at its client, which may have lost either during the previous publish, and the
first time one of them is gone the tick publishes nothing more. A route it visits has its next
item rendered once; the item is published on the route's topic with the route's QoS exactly when
it rendered and the route's suffix makes a topic, and neither an empty queue, an item that does
not render nor the broker's answer keeps the later routes from their turn.

`Cycle` states this route by route, for any client. Main statement (`publish_tick_runs_cycle`): a
tick that finishes either found its gate shut and changed nothing, or ran a `Cycle` over the
publish routes, which the table lists in the order they were added. With the client's calls
logged (`Cycle.render`), the table and the log a tick leaves are the renders of the routes it
visited, one after the other: a prefix of the publish routes that stops short only where the link
is gone.
-/
namespace Gateway.Timed

variable {σ α β : Type}

theorem run_bind_of_ok {m : Timed σ α} {f : α → Timed σ β} {p q : σ × Clock} {x : α}
    (ran : m.run p = .ok x q) : (m >>= f).run p = (f x).run q := by
  simp only [EStateM.run, bind, EStateM.bind] at ran ⊢
  rw [ran]

end Gateway.Timed

namespace Gateway.Bridge
open Gateway.Hub Gateway.Mqtt

namespace TopicTable

variable {α : Type}

theorem mem_zip_range {β : Type} {l : List β} {i : Nat} {x : β} :
    (i, x) ∈ (List.range l.length).zip l ↔ l[i]? = some x := by
  simp only [List.mem_iff_getElem, List.getElem_zip, List.getElem_range, Prod.mk.injEq,
    List.length_zip, List.length_range, min_self, List.getElem?_eq_some_iff]
  constructor
  · rintro ⟨k, bound, rfl, rfl⟩
    exact ⟨bound, rfl⟩
  · rintro ⟨bound, rfl⟩
    exact ⟨i, bound, rfl, rfl⟩

theorem mem_handles {t : TopicTable α} {dir : Direction} {h : Nat} :
    h ∈ t.handles dir ↔ ∃ route, t.topics[h]? = some route ∧ route.direction = dir := by
  simp only [handles, List.mem_filterMap, Prod.exists, mem_zip_range, Option.ite_none_right_eq_some,
    Option.some.injEq]
  constructor
  · rintro ⟨_, route, at_h, sub, rfl⟩
    exact ⟨route, at_h, sub⟩
  · rintro ⟨route, at_h, sub⟩
    exact ⟨h, route, at_h, sub, rfl⟩

theorem handles_pairwise_lt (t : TopicTable α) (dir : Direction) : (t.handles dir).Pairwise (· < ·) := by
  unfold handles
  rw [List.pairwise_filterMap, List.pairwise_iff_getElem]
  intro i j bound_i bound_j lt x at_i y at_j
  simp only [List.getElem_zip, List.getElem_range, Option.ite_none_right_eq_some, Option.some.injEq]
    at at_i at_j
  omega

/-- Visiting route `h` with the link up, as the table and a log of the client's calls see it: the
route's next item is rendered with `ctx`, and a publish of it is logged when it rendered and the
route's suffix makes a topic. -/
def render (ctx : EncodeContext) (seen : TopicTable α × List ClientCall) (h : Nat) :
    TopicTable α × List ClientCall :=
  match seen.1.topics[h]? with
  | none => seen
  | some route =>
    match (seen.1.encodeNext h ctx).1, seen.1.space.topic route.suffix with
    | .ok (some payload), .ok topic =>
      ((seen.1.encodeNext h ctx).2, seen.2 ++ [.publish topic payload route.qos])
    | _, _ => ((seen.1.encodeNext h ctx).2, seen.2)

theorem render_of_wellFormed {t : TopicTable α} (wf : t.WellFormed) {h : Nat} {route : Topic α}
    (at_h : t.topics[h]? = some route) (ctx : EncodeContext) (log : List ClientCall) :
    render ctx (t, log) h =
      ((t.encodeNext h ctx).2, match (t.encodeNext h ctx).1 with
        | .ok (some payload) => log ++ [.publish (t.space.pref ++ route.suffix) payload route.qos]
        | _ => log) := by
  simp only [render, at_h, Namespace.topic_of_validate (wf.valid route (List.mem_of_getElem? at_h))]
  split <;> simp_all

end TopicTable

namespace Relay

variable {κ α : Type} [BrokerClient κ]

/-- The context a tick renders its items with, if the tick may publish at all: the client is
connected, the hub holds the uplink and the synchronized time, and it can tell the unix time; or
the overflow that stopped the reading of that time. -/
def publishContext (r : Relay κ α) (now : Nat) : Except Panic (Option EncodeContext) :=
  if r.isConnected && r.hub.bits.contains (.uplink ||| .timeSynchronized) then
    (r.hub.unixTime now).map (Option.map fun timestamp => ⟨r.device, timestamp⟩)
  else .ok none

/-- One route visited with the link up. Its next item is rendered with `ctx`, once; the client
publishes it exactly when it rendered and the route's suffix makes a topic. -/
inductive Visit (ctx : EncodeContext) (h : Nat) : Relay κ α × Clock → Relay κ α × Clock → Prop
  | published {r : Relay κ α} {c : Clock} {s' : Relay κ α × Clock} {route : Topic α}
      {payload topic : String} {sent : Bool} :
      r.table.topics[h]? = some route → (r.table.encodeNext h ctx).1 = .ok (some payload) →
      r.table.space.topic route.suffix = .ok topic →
      (onClient (BrokerClient.publish topic payload route.qos)).run
        ({ r with table := (r.table.encodeNext h ctx).2 }, c) = .ok sent s' →
      Visit ctx h (r, c) s'
  | held {r : Relay κ α} {c : Clock} {route : Topic α} :
      r.table.topics[h]? = some route →
      (∀ payload topic, (r.table.encodeNext h ctx).1 = .ok (some payload) →
        r.table.space.topic route.suffix ≠ .ok topic) →
      Visit ctx h (r, c) ({ r with table := (r.table.encodeNext h ctx).2 }, c)
  | unheld {r : Relay κ α} {c : Clock} : r.table.topics[h]? = none → Visit ctx h (r, c) (r, c)

/-- A publish cycle over the handles `hs`, all rendered with `ctx`. The link is looked at afresh
before each handle, and the first time the uplink or the session is gone the cycle ends. -/
inductive Cycle (ctx : EncodeContext) : List Nat → Relay κ α × Clock → Relay κ α × Clock → Prop
  | finished {s : Relay κ α × Clock} : Cycle ctx [] s s
  | linkLost {h : Nat} {rest : List Nat} {s : Relay κ α × Clock} :
      (!s.1.hasUplink || !s.1.isConnected) = true → Cycle ctx (h :: rest) s s
  | visited {h : Nat} {rest : List Nat} {s s₁ s' : Relay κ α × Clock} :
      s.1.hasUplink = true → s.1.isConnected = true → Visit ctx h s s₁ → Cycle ctx rest s₁ s' →
      Cycle ctx (h :: rest) s s'

variable {ctx : EncodeContext} {h : Nat} {rest : List Nat} {r : Relay κ α} {c : Clock}
  {s₁ s' : Relay κ α × Clock}

theorem publishEach_of_lost (lost : (!r.hasUplink || !r.isConnected) = true) :
    (publishEach ctx (h :: rest)).run (r, c) = .ok () (r, c) := by
  simp only [publishEach, Timed.run_read_bind]
  rw [if_pos (by simpa using lost)]
  rfl

theorem publishEach_cons_iff (up : r.hasUplink = true) (connected : r.isConnected = true) :
    (publishEach ctx (h :: rest)).run (r, c) = .ok () s' ↔
      ∃ s₁, Visit ctx h (r, c) s₁ ∧ (publishEach ctx rest).run s₁ = .ok () s' := by
  simp only [publishEach, Timed.run_read_bind, up, connected, Bool.not_true, Bool.or_self,
    Bool.false_eq_true, if_false]
  constructor
  · intro ran
    cases at_h : r.table.topics[h]? with
    | none =>
      simp only [TopicTable.suffix?, TopicTable.qos?, at_h, Option.map_none] at ran
      exact ⟨(r, c), .unheld at_h, ran⟩
    | some route =>
      simp only [TopicTable.suffix?, TopicTable.qos?, at_h, Option.map_some] at ran
      obtain ⟨⟨⟩, ⟨r₂, c₂⟩, written, later⟩ := Timed.run_bind_ok ran
      simp only [Timed.run_write, EStateM.Result.ok.injEq, Prod.mk.injEq] at written
      obtain ⟨rfl, rfl⟩ := written.2
      split at later
      next payload topic rendered named =>
        obtain ⟨sent, s₁, called, later⟩ := Timed.run_bind_ok later
        exact ⟨s₁, .published at_h rendered named called, later⟩
      next unpublished =>
        exact ⟨_, .held at_h unpublished, later⟩
  · rintro ⟨s₁, visit, later⟩
    cases visit with
    | published at_h rendered named called =>
      simp only [TopicTable.suffix?, TopicTable.qos?, at_h, Option.map_some]
      rw [Timed.run_bind_of_ok (Timed.run_write _ _ _)]
      simp only [rendered, named]
      rw [Timed.run_bind_of_ok called]
      exact later
    | held at_h unpublished =>
      -- `simp` takes the match's fallback branch, discharging its side condition by `unpublished`.
      simp only [TopicTable.suffix?, TopicTable.qos?, at_h, Option.map_some]
      rw [Timed.run_bind_of_ok (Timed.run_write _ _ _)]
      exact later
    | unheld at_h =>
      simp only [TopicTable.suffix?, TopicTable.qos?, at_h, Option.map_none]
      exact later

theorem publishEach_run_iff {hs : List Nat} {s : Relay κ α × Clock} :
    (publishEach ctx hs).run s = .ok () s' ↔ Cycle ctx hs s s' := by
  induction hs generalizing s with
  | nil =>
    constructor
    · intro ran
      simp only [publishEach, Timed.run_pure, EStateM.Result.ok.injEq, true_and] at ran
      exact ran ▸ .finished
    · rintro ⟨⟩
      rfl
  | cons h rest ih =>
    obtain ⟨r, c⟩ := s
    by_cases lost : (!r.hasUplink || !r.isConnected) = true
    · rw [publishEach_of_lost lost]
      constructor
      · rintro ⟨⟩
        exact .linkLost lost
      · intro cycle
        cases cycle with
        | linkLost _ => rfl
        | visited up connected _ _ => simp [up, connected] at lost
    · obtain ⟨up, connected⟩ : r.hasUplink = true ∧ r.isConnected = true := by simpa using lost
      rw [publishEach_cons_iff up connected]
      constructor
      · rintro ⟨s₁, visit, later⟩
        exact .visited up connected visit (ih.mp later)
      · intro cycle
        cases cycle with
        | linkLost stop => exact absurd stop lost
        | visited _ _ visit cycle => exact ⟨_, visit, ih.mpr cycle⟩

theorem publishTick_run_eq (r : Relay κ α) (c : Clock) :
    publishTick.run (r, c) =
      match r.publishContext c.now with
      | .ok none => .ok () (r, c)
      | .ok (some ctx) => (publishEach ctx (r.table.handles .publish)).run (r, c)
      | .error why => .error (.panic why) (r, c) := by
  simp only [publishTick, publishContext, Timed.run_read_bind]
  by_cases shut : (!r.isConnected || !r.hub.bits.contains (.uplink ||| .timeSynchronized)) = true
  · have closed : (r.isConnected && r.hub.bits.contains (.uplink ||| .timeSynchronized)) = false :=
      Bool.and_eq_false_iff.mpr (by simpa using shut)
    simp only [shut, closed, if_true, Bool.false_eq_true, if_false]
    rfl
  · have opened : (r.isConnected && r.hub.bits.contains (.uplink ||| .timeSynchronized)) = true := by
      simpa using shut
    simp only [shut, opened, Bool.false_eq_true, if_false, if_true, Timed.run_now_bind]
    rcases r.hub.unixTime c.now with why | _ | timestamp <;> rfl

/-- A publish tick, for any client: a tick that finishes either found its gate shut and left the
relay and the clock as they were, or ran a `Cycle` over the publish routes with the one context
the gate gave; a tick whose reading of the time overflows stops there, having published nothing;
and the table lists its publish routes in the order they were added, each once. -/
theorem publish_tick_runs_cycle (r : Relay κ α) (c : Clock) (s' : Relay κ α × Clock) :
    (publishTick.run (r, c) = .ok () s' ↔
      match r.publishContext c.now with
      | .ok none => s' = (r, c)
      | .ok (some ctx) => Cycle ctx (r.table.handles .publish) (r, c) s'
      | .error _ => False) ∧
    (∀ why, r.publishContext c.now = .error why → publishTick.run (r, c) = .error (.panic why) (r, c)) ∧
    (r.table.handles .publish).Pairwise (· < ·) ∧
    ∀ h, h ∈ r.table.handles .publish ↔
      ∃ route, r.table.topics[h]? = some route ∧ route.direction = .publish := by
  refine ⟨?_, fun why stopped => ?_, r.table.handles_pairwise_lt _, fun h => TopicTable.mem_handles⟩
  · rw [publishTick_run_eq]
    rcases r.publishContext c.now with why | _ | ctx
    · simp
    · simp [eq_comm]
    · exact publishEach_run_iff
  · rw [publishTick_run_eq, stopped]

section Logged

variable {s s₁ s' : Relay (Recorded κ) α × Clock}

/-- What a visit does to the table and to the log of a logged client is `TopicTable.render`. -/
theorem Visit.render (visit : Visit ctx h s s₁) :
    (s₁.1.table, s₁.1.client.calls) = TopicTable.render ctx (s.1.table, s.1.client.calls) h := by
  cases visit with
  | published at_h rendered named called =>
    obtain ⟨k, b, -, became⟩ := onClient_record called
    simp [became, TopicTable.render, at_h, rendered, named, withClient]
  | held at_h unpublished =>
    -- As in the run, `unpublished` discharges the side condition of the match's fallback branch.
    simp [TopicTable.render, at_h]
  | unheld at_h => simp [TopicTable.render, at_h]

/-- With a logged client, a cycle leaves the table and the log that rendering the routes it
visited leaves, one route after the other: a prefix of its routes, short of all of them only
where the link is gone at the end. -/
theorem Cycle.render {hs : List Nat} (cycle : Cycle ctx hs s s') :
    ∃ visited, visited <+: hs ∧ (visited = hs ∨ (!s'.1.hasUplink || !s'.1.isConnected) = true) ∧
      (s'.1.table, s'.1.client.calls) =
        visited.foldl (TopicTable.render ctx) (s.1.table, s.1.client.calls) := by
  induction cycle with
  | finished => exact ⟨[], List.nil_prefix, .inl rfl, rfl⟩
  | linkLost lost => exact ⟨[], List.nil_prefix, .inr lost, rfl⟩
  | visited _ _ visit _ ih =>
    obtain ⟨visited, within, whole, seen⟩ := ih
    refine ⟨_ :: visited, List.cons_prefix_cons.mpr ⟨rfl, within⟩, whole.imp_left (congrArg _), ?_⟩
    rw [List.foldl_cons, ← visit.render, seen]

end Logged

end Relay

end Gateway.Bridge
