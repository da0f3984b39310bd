import Gateway.Proofs.Calls
/-!
# The ledger of a session

Everything a session does to the bytes it reads and the packets it writes is one log of events:
a packet of its own written, an inbound frame taken in (with the reply it calls for written at
that moment), a publish handed out by `poll`, and the buffers emptied when the link is dropped.
`Logged s₀ E t m` says that, since the session `s₀`, the session `t` wrote exactly the packets the
log `E` says it wrote, took in exactly the inbound bytes the log says it took in, in order, and
that the log is a path of the one-slot stash (`Slot.Step`) that leaves the slot at `m`. Each
`Logged.*` lemma is one event: the reading loops and the calls are proved by chaining them.
-/
namespace Gateway.Mqtt

/-- Whether a packet is one the session writes of its own accord, and not an acknowledgement of
an inbound frame. -/
def Outbound.isOwn : Outbound → Bool
  | .ack a => a.kind == .pubRel
  | _ => true

def publishOf (F : List UInt8) : Option Publish := (Publish.decode F).toOption

/-- How a session took in an inbound frame. -/
inductive Taking where
  | past
  | parked
  | dropped
  | found
  | unanswered
  deriving DecidableEq, Repr

/-- What a session does, in order. -/
inductive Event where
  | wrote (pkt : List UInt8)
  | took (F : List UInt8) (how : Taking)
  | handed (p : Publish)
  | cleared (gone : List UInt8) (lost : List Publish)

namespace Event

def writes : Event → List (List UInt8)
  | .wrote pkt => [pkt]
  | .took F how => if how = .unanswered then [] else ((replyOf F).map Ack.bytes).toList
  | _ => []

def bytes : Event → List UInt8
  | .took F _ => F
  | .cleared gone _ => gone
  | _ => []

def handed? : Event → Option Publish
  | .handed p => some p
  | _ => none

def publish? : Event → Option Publish
  | .took F .parked | .took F .dropped | .took F .found => publishOf F
  | _ => none

end Event

/-- The one-slot stash, as a log tells it. -/
inductive Slot where
  | free
  | holds (F : List UInt8)
  | found (F : List UInt8)
  | cut (m : Slot)
  deriving DecidableEq, Repr

namespace Slot

def Settled : Slot → Prop
  | .free | .holds _ => True
  | _ => False

def owed : Slot → List Publish
  | .holds F | .found F => (publishOf F).toList
  | .cut m => m.owed
  | .free => []

end Slot

/-- The publishes an event loses: one dropped, or those the slot owed when the buffers were
emptied. -/
def Event.lost : Event → List Publish
  | .took F .dropped => (publishOf F).toList
  | .cleared _ lost => lost
  | _ => []

namespace Slot

/-- One event, and the slot before and after it. A wait parks the first publish it meets while
the slot is free and drops those it meets while the slot is taken; `poll` hands out the parked
publish, or else the publish its search stops at; emptying the buffers frees the slot. -/
inductive Step : Slot → Event → Slot → Prop
  | wrote {slot : Slot} {pkt : List UInt8} (p : Outbound) (cap : Nat) (own : p.isOwn = true)
      (encoded : p.encode cap = .ok pkt) (settled : slot.Settled) : Step slot (.wrote pkt) slot
  | past {slot : Slot} {F : List UInt8} {f : Frame} (frame : VarInt.IsFrame F)
      (read : classify F = .ok f) (other : f.isPublish = false) (settled : slot.Settled) :
      Step slot (.took F .past) slot
  | parked {F : List UInt8} {q : QoS} {id : Option UInt16} (frame : VarInt.IsFrame F)
      (read : classify F = .ok (.publish q id)) : Step .free (.took F .parked) (.holds F)
  | dropped {F G : List UInt8} {q : QoS} {id : Option UInt16} (frame : VarInt.IsFrame F)
      (read : classify F = .ok (.publish q id)) : Step (.holds G) (.took F .dropped) (.holds G)
  | found {F : List UInt8} {q : QoS} {id : Option UInt16} (frame : VarInt.IsFrame F)
      (read : classify F = .ok (.publish q id)) : Step .free (.took F .found) (.found F)
  | handFound {F : List UInt8} {p : Publish} (decoded : Publish.decode F = .ok p) :
      Step (.found F) (.handed p) .free
  | handParked {F : List UInt8} {p : Publish} (decoded : Publish.decode F = .ok p) :
      Step (.holds F) (.handed p) .free
  | unanswered {slot : Slot} {F : List UInt8} {f : Frame} {a : Ack} (frame : VarInt.IsFrame F)
      (read : classify F = .ok f) (reply : f.reply = some a) (settled : slot.Settled) :
      Step slot (.took F .unanswered) (.cut slot)
  | cleared {slot : Slot} (gone : List UInt8) : Step slot (.cleared gone slot.owed) .free

/-- A log read from the slot `a` leaves it at `b`. -/
inductive Path : Slot → List Event → Slot → Prop
  | nil {a : Slot} : Path a [] a
  | snoc {a b c : Slot} {E : List Event} {e : Event} : Path a E b → Step b e c → Path a (E ++ [e]) c

theorem Path.append {a b c : Slot} {E E' : List Event} (first : Path a E b) (second : Path b E' c) :
    Path a (E ++ E') c := by
  induction second with
  | nil => simpa using first
  | snoc _ step ih => simpa [List.append_assoc] using ih.snoc step

theorem owed_of_decode {F : List UInt8} {p : Publish} (decoded : Publish.decode F = .ok p) :
    (publishOf F).toList = [p] := by
  rw [publishOf, decoded]
  rfl

theorem Step.handed_sublist {b c : Slot} {e : Event} (step : Step b e c) :
    List.Sublist (e.handed?.toList ++ c.owed) (b.owed ++ e.publish?.toList) := by
  cases step with
  | dropped => simp [Event.handed?, Event.publish?, owed]
  | handFound decoded => simp [Event.handed?, Event.publish?, owed, owed_of_decode decoded]
  | handParked decoded => simp [Event.handed?, Event.publish?, owed, owed_of_decode decoded]
  | cleared => simp [Event.handed?, Event.publish?, owed]
  | _ => simp [Event.handed?, Event.publish?, owed]

theorem Step.accounts {b c : Slot} {e : Event} (step : Step b e c) :
    List.Perm (e.handed?.toList ++ e.lost ++ c.owed) (b.owed ++ e.publish?.toList) := by
  cases step with
  | dropped => simpa [Event.handed?, Event.publish?, Event.lost, owed] using List.perm_append_comm
  | handFound decoded => simp [Event.handed?, Event.publish?, Event.lost, owed, owed_of_decode decoded]
  | handParked decoded => simp [Event.handed?, Event.publish?, Event.lost, owed, owed_of_decode decoded]
  | _ => simp [Event.handed?, Event.publish?, Event.lost, owed]

theorem filterMap_snoc {α β : Type} (f : α → Option β) (E : List α) (e : α) :
    (E ++ [e]).filterMap f = E.filterMap f ++ (f e).toList := by
  cases h : f e <;> simp [h]

theorem Path.handed_sublist {a b : Slot} {E : List Event} (path : Path a E b) :
    List.Sublist (E.filterMap Event.handed? ++ b.owed) (a.owed ++ E.filterMap Event.publish?) := by
  induction path with
  | nil => simp
  | @snoc b c E e _ step ih =>
    have extended := (step.handed_sublist.append_left (E.filterMap Event.handed?)).trans
      (by simpa only [List.append_assoc] using ih.append_right e.publish?.toList)
    simpa only [filterMap_snoc, List.append_assoc] using extended

theorem Path.accounts {a b : Slot} {E : List Event} (path : Path a E b) :
    List.Perm (E.filterMap Event.handed? ++ E.flatMap Event.lost ++ b.owed)
      (a.owed ++ E.filterMap Event.publish?) := by
  induction path with
  | nil => simp
  | @snoc b c E e _ step ih =>
    -- Counting each publish turns the two permutations into sums of counts.
    rw [List.perm_iff_count] at ih ⊢
    intro x
    have before := ih x
    have now := List.perm_iff_count.mp step.accounts x
    simp only [filterMap_snoc, List.flatMap_append, List.flatMap_singleton, List.count_append]
      at before now ⊢
    omega

theorem Path.nil_inv {a c : Slot} (path : Path a [] c) : a = c := by
  generalize none : ([] : List Event) = E at path
  cases path with
  | nil => rfl
  | snoc _ _ => simp at none

theorem Path.snoc_inv {a c : Slot} {E : List Event} {e : Event} (path : Path a (E ++ [e]) c) :
    ∃ b, Path a E b ∧ Step b e c := by
  generalize grown : E ++ [e] = E' at path
  cases path with
  | nil => simp at grown
  | snoc before step =>
    obtain ⟨rfl, ⟨⟩⟩ := List.append_inj' grown rfl
    exact ⟨_, before, step⟩

theorem Path.split {a c : Slot} {E₁ E₂ : List Event} (path : Path a (E₁ ++ E₂) c) :
    ∃ b, Path a E₁ b ∧ Path b E₂ c := by
  generalize whole : E₁ ++ E₂ = E at path
  induction path generalizing E₂ with
  | nil =>
    obtain ⟨rfl, rfl⟩ := List.append_eq_nil_iff.mp whole
    exact ⟨_, .nil, .nil⟩
  | @snoc b c E e before step ih =>
    -- The second part is empty, or it ends with the last event.
    rcases List.eq_nil_or_concat E₂ with rfl | ⟨E₂', e', rfl⟩
    · rw [List.append_nil] at whole
      subst whole
      exact ⟨c, before.snoc step, .nil⟩
    · rw [List.concat_eq_append, ← List.append_assoc] at whole
      rw [List.concat_eq_append]
      obtain ⟨rfl, ⟨⟩⟩ := List.append_inj' whole rfl
      obtain ⟨d, first, second⟩ := ih rfl
      exact ⟨d, first, second.snoc step⟩

theorem Path.unanswered_cleared {a c : Slot} {E₁ E₂ : List Event} {F : List UInt8}
    (path : Path a (E₁ ++ .took F .unanswered :: E₂) c) (settled : c.Settled) :
    ∃ gone lost E₃, E₂ = .cleared gone lost :: E₃ := by
  rw [← List.singleton_append, ← List.append_assoc] at path
  obtain ⟨b, first, rest⟩ := path.split
  obtain ⟨m, -, step⟩ := first.snoc_inv
  -- The refused reply leaves the slot cut, and no step but emptying the buffers leaves a cut slot.
  cases step
  rcases E₂ with _ | ⟨e, E₃⟩
  · cases rest.nil_inv
    cases settled
  · rw [← List.singleton_append] at rest
    obtain ⟨d, next, -⟩ := rest.split
    obtain ⟨_, none, step⟩ := Path.snoc_inv (E := []) next
    cases none.nil_inv
    cases step with
    | cleared gone => exact ⟨gone, _, E₃, rfl⟩
    | wrote _ _ _ _ settled => cases settled
    | past _ _ _ settled => cases settled
    | unanswered _ _ _ settled => cases settled

end Slot

namespace Session

/-- The bytes a session has not taken in yet: what it has unread, less the publish `poll` handed
out from the front of its buffer. -/
def pending (t : Session) : List UInt8 :=
  match t.held with
  | .rx n => t.unread.drop n
  | _ => t.unread

def slot (t : Session) : Slot :=
  if t.stash = [] ∨ t.held = .stash then .free else .holds t.stash

theorem slot_settled (t : Session) : t.slot.Settled := by
  unfold slot
  split <;> trivial

theorem pending_of_idle {t : Session} (idle : t.held = .nothing) : t.pending = t.unread := by
  simp [pending, idle]

end Session

def Slot.rest : Slot → Session → List UInt8
  | .found F, t => t.unread.drop F.length
  | _, t => t.pending

theorem Slot.rest_of_settled {m : Slot} (settled : m.Settled) (t : Session) :
    m.rest t = t.pending := by
  cases m with
  | found F => cases settled
  | _ => rfl

theorem Broker.queued_reply (b : Broker) {F : List UInt8} {a : Ack} (reply : replyOf F = some a) :
    b.queued a.bytes = [] := by
  simp [Broker.queued, Broker.answer_reply b (replyOf_kind reply)]

/-- Since `s₀` the session wrote what the log `E` says it wrote, took in the inbound bytes the log
says it took in and nothing else, and the slot stands at `m`. -/
structure Logged (s₀ : Session) (E : List Event) (t : Session) (m : Slot) : Prop where
  capacity : t.capacity = s₀.capacity
  broker : t.link.broker = s₀.link.broker
  sent : t.link.sent = (E.flatMap Event.writes).reverse ++ s₀.link.sent
  read : s₀.pending ++ (E.flatMap Event.writes).flatMap s₀.link.broker.queued =
    E.flatMap Event.bytes ++ m.rest t
  path : Slot.Path s₀.slot E m

def Session.Answered (u : Session) (F : List UInt8) (v : Session) : Prop :=
  (replyOf F = none ∧ v = u) ∨
    ∃ a link now, replyOf F = some a ∧ u.link.send a.bytes = (link, .ok ()) ∧
      v = { u with link, lastTx := now }

theorem Session.Answered.effects {u v : Session} {F : List UInt8} (answered : u.Answered F v) :
    v.link.sent = ((replyOf F).map Ack.bytes).toList ++ u.link.sent ∧
      v.link.stream = u.link.stream ∧ v.link.broker = u.link.broker ∧ v.rx = u.rx ∧
      v.stash = u.stash ∧ v.held = u.held ∧ v.capacity = u.capacity ∧ v.connected = u.connected := by
  rcases answered with ⟨none, rfl⟩ | ⟨a, link, now, reply, sent, rfl⟩
  · simp [none]
  · have writable := Link.send_of_ok sent
    have log' : link.sent = a.bytes :: u.link.sent := by rw [← Link.send_sent writable, sent]
    have stream : link.stream = u.link.stream ++ u.link.broker.queued a.bytes := by
      rw [← Link.send_stream writable, sent]
    have broker : link.broker = u.link.broker := by rw [← Link.send_broker u.link a.bytes, sent]
    refine ⟨by simp [reply, log'], ?_, broker, rfl, rfl, rfl, rfl, rfl⟩
    simp [stream, Broker.queued_reply _ reply]

theorem Event.writes_took_reverse (F : List UInt8) (how : Taking) :
    (Event.took F how).writes.reverse = (Event.took F how).writes := by
  simp only [Event.writes]
  split
  · rfl
  · cases replyOf F <;> rfl

theorem replies_queued (b : Broker) (F : List UInt8) :
    ((replyOf F).map Ack.bytes).toList.flatMap b.queued = [] := by
  cases reply : replyOf F with
  | none => rfl
  | some a => simp [Broker.queued_reply b reply]

theorem Session.slot_congr {u v : Session} (stash : v.stash = u.stash) (held : v.held = u.held) :
    v.slot = u.slot := by
  simp [Session.slot, stash, held]

namespace Session

@[simp] theorem consume_rx (s : Session) (len : Nat) : (s.consume len).rx = s.rx.drop len := rfl
@[simp] theorem consume_link (s : Session) (len : Nat) : (s.consume len).link = s.link := rfl
@[simp] theorem consume_stash (s : Session) (len : Nat) : (s.consume len).stash = s.stash := rfl
@[simp] theorem consume_held (s : Session) (len : Nat) : (s.consume len).held = s.held := rfl
@[simp] theorem consume_capacity (s : Session) (len : Nat) :
    (s.consume len).capacity = s.capacity := rfl

@[simp] theorem stashFrame_rx (s : Session) (len : Nat) : (s.stashFrame len).rx = s.rx.drop len := by
  unfold stashFrame
  split <;> rfl

@[simp] theorem stashFrame_link (s : Session) (len : Nat) : (s.stashFrame len).link = s.link := by
  unfold stashFrame
  split <;> rfl

@[simp] theorem stashFrame_held (s : Session) (len : Nat) : (s.stashFrame len).held = s.held := by
  unfold stashFrame
  split <;> rfl

@[simp] theorem stashFrame_capacity (s : Session) (len : Nat) :
    (s.stashFrame len).capacity = s.capacity := by
  unfold stashFrame
  split <;> rfl

theorem stashFrame_stash (s : Session) (len : Nat) :
    (s.stashFrame len).stash = if s.stash = [] then s.rx.take len else s.stash := by
  by_cases free : s.stash = [] <;> simp [stashFrame, free]

end Session

theorem Session.unread_consume (u : Session) (len : Nat) :
    u.unread = u.rx.take len ++ (u.consume len).unread := by
  simp [Session.unread, Session.consume, ← List.append_assoc]

section Steps
variable {s₀ u t : Session} {E : List Event} {m m' : Slot} {bytes : List UInt8} {link : Link}

theorem Logged.extend (log : Logged s₀ E u m) {e : Event} (step : Slot.Step m e m')
    (capacity : t.capacity = u.capacity) (broker : t.link.broker = u.link.broker)
    (sent : t.link.sent = e.writes.reverse ++ u.link.sent)
    (read : m.rest u ++ e.writes.flatMap u.link.broker.queued = e.bytes ++ m'.rest t) :
    Logged s₀ (E ++ [e]) t m' := by
  refine ⟨capacity.trans log.capacity, broker.trans log.broker, ?_, ?_, log.path.snoc step⟩
  · simp [sent, log.sent]
  · rw [log.broker] at read
    simp only [List.flatMap_append, List.flatMap_cons, List.flatMap_nil, List.append_nil,
      ← List.append_assoc, log.read]
    simp only [List.append_assoc, read]

theorem Logged.congr (log : Logged s₀ E u m) (capacity : t.capacity = u.capacity)
    (broker : t.link.broker = u.link.broker) (sent : t.link.sent = u.link.sent)
    (read : m.rest t = m.rest u) : Logged s₀ E t m :=
  ⟨capacity.trans log.capacity, broker.trans log.broker, sent.trans log.sent,
    read ▸ log.read, log.path⟩

theorem Logged.pulled (log : Logged s₀ E u u.slot) (idle : u.held = .nothing) (pulled : u.Pulled t) :
    Logged s₀ E t t.slot := by
  obtain ⟨incoming, bs, rfl, moved, -⟩ := pulled
  have same : ({ u with rx := u.rx ++ bs, link := { u.link with incoming } } : Session).slot = u.slot :=
    Session.slot_congr rfl rfl
  rw [same]
  refine log.congr rfl rfl rfl ?_
  rw [Slot.rest_of_settled u.slot_settled, Slot.rest_of_settled u.slot_settled,
    Session.pending_of_idle idle, Session.pending_of_idle (t := { u with rx := u.rx ++ bs, link := { u.link with incoming } }) idle]
  simp [Session.unread, ← moved]

theorem Logged.wrote (log : Logged s₀ E u u.slot) (idle : u.held = .nothing) {p : Outbound}
    (own : p.isOwn = true) (encoded : p.encode u.capacity = .ok bytes)
    (sent : u.link.send bytes = (link, .ok ())) (now : Nat) :
    Logged s₀ (E ++ [.wrote bytes]) { u with link, lastTx := now } u.slot := by
  have writable := Link.send_of_ok sent
  have log' : link.sent = bytes :: u.link.sent := by rw [← Link.send_sent writable bytes, sent]
  have stream : link.stream = u.link.stream ++ u.link.broker.queued bytes := by
    rw [← Link.send_stream writable bytes, sent]
  have broker : link.broker = u.link.broker := by rw [← Link.send_broker u.link bytes, sent]
  refine log.extend (.wrote p u.capacity own encoded u.slot_settled) rfl broker
    (by simp [log', Event.writes]) ?_
  rw [Slot.rest_of_settled u.slot_settled, Slot.rest_of_settled u.slot_settled,
    Session.pending_of_idle idle, Session.pending_of_idle (t := { u with link, lastTx := now }) idle]
  simp [Event.writes, Event.bytes, Session.unread, stream]

theorem Logged.refused {f : LinkFault} (log : Logged s₀ E u u.slot) (idle : u.held = .nothing)
    (sent : u.link.send bytes = (link, .error f)) : Logged s₀ E { u with link } u.slot := by
  obtain ⟨log', stream⟩ := Link.send_of_error sent
  have broker : link.broker = u.link.broker := by rw [← Link.send_broker u.link bytes, sent]
  refine log.congr rfl broker log' ?_
  rw [Slot.rest_of_settled u.slot_settled, Slot.rest_of_settled u.slot_settled,
    Session.pending_of_idle idle, Session.pending_of_idle (t := { u with link }) idle]
  simp [Session.unread, stream]

theorem Logged.past (log : Logged s₀ E u u.slot) (idle : u.held = .nothing) {len : Nat} {f : Frame}
    (whole : VarInt.frameLength u.rx = .ok (some len)) (read : classify (u.rx.take len) = .ok f)
    (other : f.isPublish = false) (answered : (u.consume len).Answered (u.rx.take len) t) :
    Logged s₀ (E ++ [.took (u.rx.take len) .past]) t t.slot := by
  obtain ⟨sent, stream, broker, rx, stash, held, capacity, -⟩ := answered.effects
  have same : t.slot = u.slot := Session.slot_congr stash held
  rw [same]
  refine log.extend (.past (VarInt.isFrame_take_of_some whole) read other u.slot_settled) capacity
    broker (by rw [Event.writes_took_reverse, sent]; simp [Event.writes, Session.consume]) ?_
  rw [Slot.rest_of_settled u.slot_settled, Slot.rest_of_settled u.slot_settled,
    Session.pending_of_idle idle, Session.pending_of_idle (held.trans idle)]
  simp only [Event.writes, Event.bytes, reduceCtorEq, if_false, replies_queued, List.append_nil]
  rw [Session.unread_consume u len]
  simp [Session.unread, rx, stream]

theorem Logged.stashed (log : Logged s₀ E u u.slot) (idle : u.held = .nothing) {len : Nat}
    {q : QoS} {id : Option UInt16} {v : Session} (whole : VarInt.frameLength u.rx = .ok (some len))
    (read : classify (u.rx.take len) = .ok (.publish q id)) (answered : u.Answered (u.rx.take len) v) :
    Logged s₀ (E ++ [.took (u.rx.take len) (if u.stash = [] then .parked else .dropped)])
      (v.stashFrame len) (v.stashFrame len).slot := by
  obtain ⟨sent, stream, broker, rx, stash, held, capacity, -⟩ := answered.effects
  have frame := VarInt.isFrame_take_of_some whole
  have idle' : (v.stashFrame len).held = .nothing := by simp [held, idle]
  -- The frame leaves the buffer either way; only the slot tells parking from dropping.
  have read' : u.slot.rest u ++ (Event.took (u.rx.take len) .parked).writes.flatMap
      u.link.broker.queued = u.rx.take len ++ (v.stashFrame len).slot.rest (v.stashFrame len) := by
    rw [Slot.rest_of_settled u.slot_settled, Slot.rest_of_settled (Session.slot_settled _),
      Session.pending_of_idle idle, Session.pending_of_idle idle', Session.unread_consume u len]
    simp [Event.writes, replies_queued, Session.unread, rx, stream]
  have sent' : (v.stashFrame len).link.sent =
      (Event.took (u.rx.take len) .parked).writes.reverse ++ u.link.sent := by
    rw [Event.writes_took_reverse]
    simp [sent, Event.writes]
  by_cases free : u.stash = []
  · have slot : (v.stashFrame len).slot = .holds (u.rx.take len) := by
      simp [Session.slot, Session.stashFrame_stash, stash, free, rx, frame.ne_nil, held, idle]
    have before : u.slot = .free := by simp [Session.slot, free]
    rw [if_pos free]
    rw [before] at read' log
    rw [slot] at read' ⊢
    exact log.extend (.parked frame read) (by simp [capacity]) (by simp [broker]) sent' read'
  · have slot : (v.stashFrame len).slot = .holds u.stash := by
      simp [Session.slot, Session.stashFrame_stash, stash, free, held, idle]
    have before : u.slot = .holds u.stash := by simp [Session.slot, free, idle]
    rw [if_neg free]
    rw [before] at read' log
    rw [slot] at read' ⊢
    exact log.extend (.dropped frame read) (by simp [capacity]) (by simp [broker])
      (by simpa [Event.writes] using sent') (by simpa [Event.writes, Event.bytes] using read')

theorem Logged.found (log : Logged s₀ E u u.slot) (idle : u.held = .nothing) (free : u.stash = [])
    {len : Nat} {q : QoS} {id : Option UInt16} {v : Session}
    (whole : VarInt.frameLength u.rx = .ok (some len))
    (read : classify (u.rx.take len) = .ok (.publish q id)) (answered : u.Answered (u.rx.take len) v) :
    Logged s₀ (E ++ [.took (u.rx.take len) .found]) v (.found (u.rx.take len)) := by
  obtain ⟨sent, stream, broker, rx, -, -, capacity, -⟩ := answered.effects
  obtain ⟨-, -, -, -, within⟩ := VarInt.frameLength_some whole
  have before : u.slot = .free := by simp [Session.slot, free]
  rw [before] at log
  refine log.extend (.found (VarInt.isFrame_take_of_some whole) read) capacity broker
    (by rw [Event.writes_took_reverse, sent]; simp [Event.writes]) ?_
  rw [Slot.rest_of_settled (m := .free) trivial, Session.pending_of_idle idle,
    Session.unread_consume u len]
  simp [Slot.rest, Event.writes, Event.bytes, replies_queued, Session.unread, rx, stream,
    List.drop_append_of_le_length within, Nat.min_eq_left within]

theorem Logged.unanswered (log : Logged s₀ E u u.slot) (idle : u.held = .nothing) {len : Nat}
    {f : Frame} {a : Ack} {fault : LinkFault} (whole : VarInt.frameLength u.rx = .ok (some len))
    (read : classify (u.rx.take len) = .ok f) (reply : f.reply = some a)
    (sent : u.link.send a.bytes = (link, .error fault)) :
    Logged s₀ (E ++ [.took (u.rx.take len) .unanswered]) { u.consume len with link } (.cut u.slot) := by
  obtain ⟨log', stream⟩ := Link.send_of_error sent
  have broker : link.broker = u.link.broker := by rw [← Link.send_broker u.link a.bytes, sent]
  refine log.extend (.unanswered (VarInt.isFrame_take_of_some whole) read reply u.slot_settled) rfl
    broker (by simp [log', Event.writes]) ?_
  rw [Slot.rest_of_settled u.slot_settled, Session.pending_of_idle idle, Session.unread_consume u len]
  simp [Slot.rest, Session.pending, idle, Event.writes, Event.bytes, Session.unread, stream]

theorem Logged.handFound {F : List UInt8} {p : Publish} (log : Logged s₀ E u (.found F))
    (decoded : Publish.decode F = .ok p) :
    Logged s₀ (E ++ [.handed p]) { u with held := .rx F.length } .free := by
  refine log.extend (.handFound decoded) rfl rfl (by simp [Event.writes]) ?_
  simp [Slot.rest, Session.pending, Event.writes, Event.bytes, Session.unread]

theorem Logged.handParked {p : Publish} (log : Logged s₀ E u u.slot) (idle : u.held = .nothing)
    (parked : u.stash ≠ []) (decoded : Publish.decode u.stash = .ok p) :
    Logged s₀ (E ++ [.handed p]) { u with held := .stash } .free := by
  have before : u.slot = .holds u.stash := by simp [Session.slot, parked, idle]
  rw [before] at log
  refine log.extend (.handParked decoded) rfl rfl (by simp [Event.writes]) ?_
  simp [Slot.rest, Session.pending, idle, Event.writes, Event.bytes, Session.unread]

theorem Logged.cleared (log : Logged s₀ E u m) (pending : m.rest u = u.pending)
    (idle : u.held = .nothing) (rx : t.rx = []) (held : t.held = .nothing)
    (capacity : t.capacity = u.capacity) (broker : t.link.broker = u.link.broker)
    (sent : t.link.sent = u.link.sent) (stream : t.link.stream = u.link.stream) :
    Logged s₀ (E ++ [.cleared u.rx m.owed]) t .free := by
  refine log.extend (.cleared u.rx) capacity broker (by simp [sent, Event.writes]) ?_
  rw [pending, Session.pending_of_idle idle]
  simp [Slot.rest, Session.pending, held, Event.writes, Event.bytes, Session.unread, rx, stream]

theorem Logged.release (log : Logged s₀ E u u.slot) (sound : u.Sound) :
    Logged s₀ E u.release u.release.slot := by
  cases held : u.held with
  | nothing => simpa [Session.release, held] using log
  | rx n =>
    obtain ⟨within, -⟩ := sound.heldRx n held
    have same : u.release.slot = u.slot := by simp [Session.release, Session.slot, held]
    rw [same]
    refine log.congr (by simp [Session.release, held]) (by simp [Session.release, held])
      (by simp [Session.release, held]) ?_
    rw [Slot.rest_of_settled u.slot_settled, Slot.rest_of_settled u.slot_settled]
    simp [Session.release, Session.pending, held, Session.unread,
      List.drop_append_of_le_length within]
  | stash =>
    have free : u.slot = .free := by simp [Session.slot, held]
    have free' : u.release.slot = .free := by simp [Session.release, Session.slot, held]
    rw [free']
    rw [free] at log
    refine log.congr (by simp [Session.release, held]) (by simp [Session.release, held])
      (by simp [Session.release, held]) ?_
    simp [Slot.rest, Session.release, Session.pending, held, Session.unread]

end Steps

end Gateway.Mqtt
