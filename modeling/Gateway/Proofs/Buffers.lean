import Gateway.Proofs.Triple
import Gateway.Proofs.Requests

/-!
# The buffers of a session stay in range and on frame boundaries

Within the flow of a call every step keeps `Session.Kept s₀`, for the session `s₀` the flow started
from: the receive buffer and the parking slot fit the capacity, a parked publish is one whole
PUBLISH frame, nothing is handed out, the connection flag and the closes of the link stay as they
were, and the session wrote only whole packets and consumed only whole frames
(`Session.Accounts`). The triples below prove this of each building block whatever the link does:
it may cut its bytes anywhere, end the stream, fail a read or refuse a write.

The two reading loops are reasoned about once, by induction on their fuel (`WaitKeeps.waitFor`,
`SeekKeeps.seekPublish`): an invariant of a loop supplies only what a read and each way of taking
in a frame keep.
-/

namespace Gateway.Mqtt

open Gateway.Mqtt.Flow

def Whole (cap : Nat) (pkt : List UInt8) : Prop := ∃ p : Outbound, p.encode cap = .ok pkt

def IsPublishFrame (F : List UInt8) : Prop :=
  VarInt.IsFrame F ∧ ∃ q id, classify F = .ok (.publish q id)

namespace Link

theorem recv?_shape {l l' : Link} {room : Nat} {got : Received} (recv : l.recv? room = some (l', got)) :
    (∃ incoming, l' = { l with incoming }) ∧
      match got with
      | .bytes bs => bs.length ≤ room ∧ bs ++ l'.stream = l.stream
      | .fault _ => l'.stream = l.stream := by
  cases queued : l.incoming with
  | nil => simp [recv?, queued] at recv
  | cons first rest =>
    cases first with
    | data bs =>
      simp only [recv?, queued, Option.some.injEq, Prod.mk.injEq] at recv
      obtain ⟨rfl, rfl⟩ := recv
      refine ⟨⟨_, rfl⟩, List.length_take_le room bs, ?_⟩
      by_cases long : bs.length > room
      · simp [long, stream, queued, Chunk.bytes, ← List.append_assoc]
      · simp [long, stream, queued, Chunk.bytes, List.take_of_length_le (Nat.le_of_not_gt long)]
    | eof =>
      simp only [recv?, queued, Option.some.injEq, Prod.mk.injEq] at recv
      obtain ⟨rfl, rfl⟩ := recv
      exact ⟨⟨_, rfl⟩, by simp, by simp [stream, queued, Chunk.bytes]⟩
    | fault f =>
      simp only [recv?, queued, Option.some.injEq, Prod.mk.injEq] at recv
      obtain ⟨rfl, rfl⟩ := recv
      exact ⟨⟨_, rfl⟩, by simp [stream, queued, Chunk.bytes]⟩

@[simp] theorem send_closes (l : Link) (pkt : List UInt8) : (l.send pkt).1.closes = l.closes := by
  unfold send
  split <;> rfl

theorem send_of_error {l l' : Link} {pkt : List UInt8} {f : LinkFault}
    (sent : l.send pkt = (l', .error f)) : l'.sent = l.sent ∧ l'.stream = l.stream := by
  unfold send at sent
  split at sent
  · cases sent
    exact ⟨rfl, rfl⟩
  · cases sent

theorem send_of_ok {l l' : Link} {pkt : List UInt8} (sent : l.send pkt = (l', .ok ())) :
    l.failSend = 0 := by
  unfold send at sent
  split at sent
  · cases sent
  · omega

end Link

namespace Session

/-- The buffers fit the capacity, and a parked publish is one whole PUBLISH frame. -/
structure Tidy (s : Session) : Prop where
  fits : s.rx.length ≤ s.capacity
  stashFits : s.stash.length ≤ s.capacity
  stashed : s.stash ≠ [] → IsPublishFrame s.stash

theorem Tidy.of_eq {s t : Session} (tidy : s.Tidy) (rx : t.rx = s.rx) (stash : t.stash = s.stash)
    (capacity : t.capacity = s.capacity) : t.Tidy := by
  obtain ⟨fits, stashFits, stashed⟩ := tidy
  exact ⟨by rw [rx, capacity]; exact fits, by rw [stash, capacity]; exact stashFits,
    by rw [stash]; exact stashed⟩

/-- Since `s₀`, the session wrote only whole packets, `new` (the latest first), and consumed only
whole frames `Gs`: what it had unread, followed by the broker's answers to what it wrote, is those
frames followed by what it has unread now. -/
def Accounts (s₀ t : Session) : Prop :=
  ∃ (new Gs : List (List UInt8)), t.link.sent = new ++ s₀.link.sent ∧ (∀ pkt ∈ new, Whole s₀.capacity pkt) ∧
    (∀ G ∈ Gs, VarInt.IsFrame G) ∧
    s₀.unread ++ (new.reverse.flatMap s₀.link.broker.queued) = Gs.flatten ++ t.unread

/-- What the flow of a call keeps of the session `s₀` it started from. -/
structure Kept (s₀ t : Session) : Prop where
  tidy : t.Tidy
  idle : t.held = .nothing
  capacity : t.capacity = s₀.capacity
  connected : t.connected = s₀.connected
  closes : t.link.closes = s₀.link.closes
  broker : t.link.broker = s₀.link.broker
  accounts : s₀.Accounts t

section Steps
variable {s₀ s : Session}

theorem Kept.start (tidy : s.Tidy) (idle : s.held = .nothing) : Kept s s :=
  ⟨tidy, idle, rfl, rfl, rfl, rfl, [], [], by simp, by simp, by simp, by simp⟩

theorem Kept.pull (kept : Kept s₀ s) {link : Link} {bs : List UInt8}
    (same : ∃ incoming, link = { s.link with incoming })
    (room : bs.length ≤ s.capacity - s.rx.length) (moved : bs ++ link.stream = s.link.stream) :
    Kept s₀ { s with link, rx := s.rx ++ bs } := by
  obtain ⟨incoming, rfl⟩ := same
  obtain ⟨new, Gs, sent, whole, frames, total⟩ := kept.accounts
  have fits := kept.tidy.fits
  refine ⟨⟨?_, kept.tidy.stashFits, kept.tidy.stashed⟩, kept.idle, kept.capacity, kept.connected,
    kept.closes, kept.broker, new, Gs, sent, whole, frames, ?_⟩
  · simp only [List.length_append]
    omega
  · rw [total]
    simp [unread, ← moved]

theorem Kept.relink (kept : Kept s₀ s) {link : Link}
    (same : ∃ incoming, link = { s.link with incoming }) (moved : link.stream = s.link.stream) :
    Kept s₀ { s with link } := by
  obtain ⟨incoming, rfl⟩ := same
  obtain ⟨new, Gs, sent, whole, frames, total⟩ := kept.accounts
  exact ⟨kept.tidy.of_eq rfl rfl rfl, kept.idle, kept.capacity, kept.connected, kept.closes,
    kept.broker, new, Gs, sent, whole, frames, by rw [total]; simp [unread, ← moved]⟩

theorem Kept.wrote (kept : Kept s₀ s) {p : Outbound} {bytes : List UInt8} {link : Link} (now : Nat)
    (encoded : p.encode s.capacity = .ok bytes) (sent : s.link.send bytes = (link, .ok ())) :
    Kept s₀ { s with link, lastTx := now } := by
  have ready := Link.send_of_ok sent
  have log : link.sent = bytes :: s.link.sent := by
    rw [← Link.send_sent ready bytes, sent]
  have stream : link.stream = s.link.stream ++ s.link.broker.queued bytes := by
    rw [← Link.send_stream ready bytes, sent]
  have kept' : link.broker = s.link.broker ∧ link.closes = s.link.closes := by
    rw [← Link.send_broker s.link bytes, ← Link.send_closes s.link bytes, sent]
    exact ⟨rfl, rfl⟩
  obtain ⟨new, Gs, sentBefore, whole, frames, total⟩ := kept.accounts
  refine ⟨kept.tidy.of_eq rfl rfl rfl, kept.idle, kept.capacity, kept.connected,
    kept'.2.trans kept.closes, kept'.1.trans kept.broker, bytes :: new, Gs, ?_, ?_, frames, ?_⟩
  · simp [log, sentBefore]
  · intro pkt member
    rcases List.mem_cons.mp member with rfl | older
    · exact ⟨p, kept.capacity ▸ encoded⟩
    · exact whole pkt older
  · simp only [List.reverse_cons, List.flatMap_append, List.flatMap_singleton, ← List.append_assoc,
      total]
    simp [unread, stream, kept.broker]

theorem Kept.refused (kept : Kept s₀ s) {bytes : List UInt8} {link : Link} {f : LinkFault}
    (sent : s.link.send bytes = (link, .error f)) : Kept s₀ { s with link } := by
  obtain ⟨log, stream⟩ := Link.send_of_error sent
  have kept' : link.broker = s.link.broker ∧ link.closes = s.link.closes := by
    rw [← Link.send_broker s.link bytes, ← Link.send_closes s.link bytes, sent]
    exact ⟨rfl, rfl⟩
  obtain ⟨new, Gs, sentBefore, whole, frames, total⟩ := kept.accounts
  exact ⟨kept.tidy.of_eq rfl rfl rfl, kept.idle, kept.capacity, kept.connected,
    kept'.2.trans kept.closes, kept'.1.trans kept.broker, new, Gs, log.trans sentBefore, whole, frames,
    by rw [total]; simp [unread, stream]⟩

theorem Kept.consume (kept : Kept s₀ s) {len : Nat}
    (whole : VarInt.frameLength s.rx = .ok (some len)) : Kept s₀ (s.consume len) := by
  obtain ⟨new, Gs, sent, written, frames, total⟩ := kept.accounts
  have fits := kept.tidy.fits
  refine ⟨⟨?_, kept.tidy.stashFits, kept.tidy.stashed⟩, kept.idle, kept.capacity, kept.connected,
    kept.closes, kept.broker, new, Gs ++ [s.rx.take len], sent, written, ?_, ?_⟩
  · simp only [Session.consume, List.length_drop]
    omega
  · intro G member
    rcases List.mem_append.mp member with older | last
    · exact frames G older
    · rw [List.mem_singleton.mp last]
      exact VarInt.isFrame_take_of_some whole
  · rw [total]
    simp only [unread, Session.consume, List.flatten_append, List.flatten_singleton,
      List.append_assoc]
    rw [← List.append_assoc (s.rx.take len), List.take_append_drop]

theorem Kept.stashFrame (kept : Kept s₀ s) {len : Nat} {q : QoS} {id : Option UInt16}
    (whole : VarInt.frameLength s.rx = .ok (some len))
    (publish : classify (s.rx.take len) = .ok (.publish q id)) : Kept s₀ (s.stashFrame len) := by
  obtain ⟨-, -, -, -, within⟩ := VarInt.frameLength_some whole
  have fits := kept.tidy.fits
  by_cases free : s.stash.isEmpty
  · have parked : Kept s₀ { s with stash := s.rx.take len } :=
      ⟨⟨fits, by simp; omega,
        fun _ => ⟨VarInt.isFrame_take_of_some whole, q, id, publish⟩⟩,
        kept.idle, kept.capacity, kept.connected, kept.closes, kept.broker, kept.accounts⟩
    simpa [Session.stashFrame, free] using parked.consume whole
  · simpa [Session.stashFrame, free] using kept.consume whole

theorem Kept.tookId (kept : Kept s₀ s) (id : UInt16) : Kept s₀ { s with nextPacketId := id } :=
  ⟨kept.tidy.of_eq rfl rfl rfl, kept.idle, kept.capacity, kept.connected, kept.closes, kept.broker, kept.accounts⟩

end Steps

end Session

/-- What reads did to a session: they moved bytes from the front of the link's queue to the end
of the buffer, within its capacity, and changed nothing else. -/
def Session.Pulled (u t : Session) : Prop :=
  ∃ incoming bs, t = { u with rx := u.rx ++ bs, link := { u.link with incoming } } ∧
    bs ++ t.link.stream = u.link.stream ∧ (u.rx.length ≤ u.capacity → t.rx.length ≤ u.capacity)

namespace Session.Pulled
variable {u t v : Session}

theorem refl (u : Session) : u.Pulled u :=
  ⟨u.link.incoming, [], by simp, by simp, id⟩

theorem relink {link : Link} (same : ∃ incoming, link = { u.link with incoming })
    (moved : link.stream = u.link.stream) : u.Pulled { u with link } := by
  obtain ⟨incoming, rfl⟩ := same
  exact ⟨incoming, [], by simp, by simpa using moved, id⟩

theorem trans {link : Link} {bs : List UInt8} (same : ∃ incoming, link = { u.link with incoming })
    (room : bs.length ≤ u.capacity - u.rx.length) (moved : bs ++ link.stream = u.link.stream)
    (rest : Pulled { u with link, rx := u.rx ++ bs } t) : u.Pulled t := by
  obtain ⟨incoming, rfl⟩ := same
  obtain ⟨incoming', bs', rfl, moved', fits⟩ := rest
  refine ⟨incoming', bs ++ bs', by simp, ?_, ?_⟩
  · simp only [List.append_assoc] at moved' ⊢
    rw [moved']
    exact moved
  · intro within
    have fitted := fits (by simp; omega)
    simpa [List.append_assoc] using fitted

theorem unread (pulled : u.Pulled t) : t.unread = u.unread := by
  obtain ⟨incoming, bs, rfl, moved, -⟩ := pulled
  simp [Session.unread, ← moved]

theorem stash (pulled : u.Pulled t) : t.stash = u.stash := by
  obtain ⟨incoming, bs, rfl, -, -⟩ := pulled
  rfl

end Session.Pulled

theorem Session.Kept.pulled {s₀ u t : Session} (kept : s₀.Kept u) (pulled : u.Pulled t) : s₀.Kept t := by
  obtain ⟨incoming, bs, rfl, moved, fits⟩ := pulled
  have room : (u.rx ++ bs).length ≤ u.capacity := fits kept.tidy.fits
  simp only [List.length_append] at room
  exact kept.pull ⟨incoming, rfl⟩ (by omega) moved

section Blocks
variable {s₀ : Session} {x y : List UInt8}

theorem sendPacket_keeps (p : Outbound) :
    Triple (fun s => s₀.Kept s ∧ s.rx = x ∧ s.stash = y) (sendPacket p)
      (fun _ t => s₀.Kept t ∧ t.rx = x ∧ t.stash = y) := by
  intro s c r t c' ⟨kept, rx, stash⟩ run
  rw [sendPacket_run] at run
  cases encoded : p.encode s.capacity with
  | error e =>
    rw [encoded] at run
    cases run
    exact ⟨kept, rx, stash⟩
  | stops why =>
    rw [encoded] at run
    cases run
  | ok bytes =>
    rcases sent : s.link.send bytes with ⟨link, f | u⟩
    · simp only [encoded, sent] at run
      cases run
      exact ⟨kept.refused sent, rx, stash⟩
    · simp only [encoded, sent] at run
      cases run
      exact ⟨kept.wrote c.now encoded sent, rx, stash⟩

theorem acknowledge_keeps (q : QoS) (id : Option UInt16) :
    Triple (fun s => s₀.Kept s ∧ s.rx = x ∧ s.stash = y) (acknowledge q id)
      (fun _ t => s₀.Kept t ∧ t.rx = x ∧ t.stash = y) := by
  unfold acknowledge
  split
  · exact Triple.of_pure fun _ start => start
  · exact sendPacket_keeps _
  · exact sendPacket_keeps _
  · exact Triple.of_throw fun _ start => start

theorem answer_keeps (f : Frame) :
    Triple (fun s => s₀.Kept s ∧ s.rx = x ∧ s.stash = y) (answer f)
      (fun _ t => s₀.Kept t ∧ t.rx = x ∧ t.stash = y) := by
  unfold answer
  split
  · exact sendPacket_keeps _
  · exact Triple.of_pure fun _ start => start

theorem readFrame_pulls (deadline : Nat) :
    ∀ fuel (u : Session), Triple (· = u) (readFrame deadline fuel)
      (fun r t => u.Pulled t ∧ ∀ len, r = .ok (some len) →
        VarInt.frameLength t.rx = .ok (some len) ∧ len ≤ t.capacity)
  | 0, u => Triple.of_pure fun _ same => same ▸ ⟨.refl _, by simp⟩
  | fuel + 1, u => by
    intro s c r t c' same run
    subst same
    cases frame : VarInt.frameLength s.rx with
    | error e =>
      rw [readFrame_run_of_error frame] at run
      cases run
      exact ⟨.refl _, by simp⟩
    | ok found =>
      cases found with
      | some len =>
        by_cases fits : len ≤ s.capacity
        · rw [readFrame_run_of_some frame fits] at run
          cases run
          exact ⟨.refl _, fun _ same => by cases same; exact ⟨frame, fits⟩⟩
        · rw [readFrame_run_of_oversized frame (Nat.lt_of_not_le fits)] at run
          cases run
          exact ⟨.refl _, by simp⟩
      | none =>
        by_cases full : s.rx.length = s.capacity
        · rw [readFrame_run_of_full frame full] at run
          cases run
          exact ⟨.refl _, by simp⟩
        by_cases late : deadline ≤ c.now
        · rw [readFrame_run_of_late frame full late] at run
          cases run
          exact ⟨.refl _, by simp⟩
        have early : c.now < deadline := by omega
        cases got : s.link.recv? (s.capacity - s.rx.length) with
        | none =>
          rw [readFrame_run_of_silent frame full early got] at run
          have waited : Triple (· = s) (waitUntil deadline >>= fun _ => pure none)
              (fun r u => u = s ∧ r = .ok (none : Option Nat)) :=
            Triple.of_bind (R := fun r u => u = s ∧ r = .ok ())
              (Triple.of_waitUntil fun _ same => ⟨same, rfl⟩)
              (fun _ => Triple.of_pure fun _ start => ⟨start.1, rfl⟩)
              (fun _ _ failed => by cases failed.2)
          obtain ⟨rfl, rfl⟩ := waited rfl run
          exact ⟨.refl _, by simp⟩
        | some pair =>
          obtain ⟨link, received⟩ := pair
          obtain ⟨same, moved⟩ := Link.recv?_shape got
          cases received with
          | bytes bs =>
            obtain ⟨room, moved⟩ := moved
            cases bs with
            | nil =>
              rw [readFrame_run_of_closed frame full early got] at run
              cases run
              exact ⟨.relink same (by simpa using moved), by simp⟩
            | cons b rest =>
              rw [readFrame_run_of_bytes frame full early got (by simp)] at run
              obtain ⟨pulled, framed⟩ := readFrame_pulls deadline fuel _ rfl run
              exact ⟨.trans same room moved pulled, framed⟩
          | fault f =>
            rw [readFrame_run_of_fault frame full early got] at run
            cases run
            exact ⟨.relink same moved, by split <;> simp⟩

theorem readFrame_keeps (deadline : Nat) (fuel : Nat) : Triple s₀.Kept (readFrame deadline fuel)
    (fun r t => s₀.Kept t ∧ ∀ len, r = .ok (some len) → VarInt.frameLength t.rx = .ok (some len)) :=
  Triple.of_each fun u kept => (readFrame_pulls deadline fuel u).mono (fun _ same => same)
    fun _ _ ⟨pulled, framed⟩ => ⟨kept.pulled pulled, fun len found => (framed len found).1⟩

theorem classifyFront_keeps (len : Nat) {u : Session} :
    Triple (· = u) (classifyFront len) (fun r t => t = u ∧ r = classify (u.rx.take len)) := by
  intro s c r t c' same run
  subst same
  rw [classifyFront_run] at run
  cases run
  exact ⟨rfl, rfl⟩

/-! Reasoning about the reading loops once. A property of sessions that survives a read, which only
pulls bytes in, and each way a loop takes in the frame at the front of the buffer, holds from
round to round; each invariant of a loop then supplies only these steps. -/

/-- How a step of a loop may end: returning, with the loop going on from a session meeting `I`,
or failing, which ends the loop as `Q` says of that error. -/
def Proceeds {α : Type} (I : Session → Prop) (Q : Except SessionError α → Session → Prop) :
    Except SessionError Unit → Session → Prop
  | .ok _, t => I t
  | .error e, t => Q (.error e) t

section Proceeds
variable {α β : Type} {I I' : Session → Prop} {Q : Except SessionError α → Session → Prop}
  {Q' : Except SessionError β → Session → Prop} {r : Except SessionError Unit} {t : Session}

theorem Proceeds.of_both (ok : I t) (fail : ∀ e, Q (.error e) t) : Proceeds I Q r t := by
  cases r with
  | ok _ => exact ok
  | error e => exact fail e

theorem Proceeds.imp (post : Proceeds I Q r t) (ok : I t → I' t)
    (fail : ∀ e, Q (.error e) t → Q' (.error e) t) : Proceeds I' Q' r t := by
  cases r with
  | ok _ => exact ok post
  | error e => exact fail e post

end Proceeds

/-- What a wait for `want` needs of a property `I` of the sessions it reads from, to end as `Q`
says: the wait fails where it stands, a read keeps `I`, and each frame the wait takes in leads
back to `I` or ends the wait. The frame at the front of the buffer is whole and fits. -/
structure WaitKeeps (want : Frame → Bool) (I : Session → Prop)
    (Q : Except SessionError Frame → Session → Prop) : Prop where
  stops : ∀ e t, I t → Q (.error e) t
  pulled : ∀ u t, I u → u.Pulled t → I t
  publish : ∀ u len q id, I u → VarInt.frameLength u.rx = .ok (some len) → len ≤ u.capacity →
    classify (u.rx.take len) = .ok (.publish q id) →
    Triple (· = u) (acknowledge q id) (Proceeds (fun t => I (t.stashFrame len)) Q)
  wanted : ∀ u len f, I u → VarInt.frameLength u.rx = .ok (some len) → len ≤ u.capacity →
    classify (u.rx.take len) = .ok f → f.isPublish = false → want f = true →
    Q (.ok f) (u.consume len)
  answered : ∀ u len f, I u → VarInt.frameLength u.rx = .ok (some len) → len ≤ u.capacity →
    classify (u.rx.take len) = .ok f → f.isPublish = false → want f = false →
    Triple (· = u.consume len) (answer f) (Proceeds I Q)

/-- What a search for a publish needs of a property `I` of the sessions it reads from, to end as
`Q` says: the search fails or finds nothing where it stands, a read keeps `I`, a publish ends it,
and each other frame it takes in leads back to `I` or ends the search. -/
structure SeekKeeps (I : Session → Prop) (Q : Except SessionError (Option Nat) → Session → Prop) :
    Prop where
  stops : ∀ e t, I t → Q (.error e) t
  quiet : ∀ t, I t → Q (.ok none) t
  pulled : ∀ u t, I u → u.Pulled t → I t
  publish : ∀ u len q id, I u → VarInt.frameLength u.rx = .ok (some len) → len ≤ u.capacity →
    classify (u.rx.take len) = .ok (.publish q id) →
    Triple (· = u) (acknowledge q id) (Proceeds (Q (.ok (some len))) Q)
  answered : ∀ u len f, I u → VarInt.frameLength u.rx = .ok (some len) → len ≤ u.capacity →
    classify (u.rx.take len) = .ok f → f.isPublish = false →
    Triple (· = u.consume len) (answer f) (Proceeds I Q)

section Rules
variable {want : Frame → Bool} {I : Session → Prop}

/-- The rule of a wait: by induction on its fuel, each round reads, then takes in one frame. -/
theorem WaitKeeps.waitFor {Q : Except SessionError Frame → Session → Prop}
    (keeps : WaitKeeps want I Q) (deadline : Nat) : ∀ fuel, Triple I (waitFor deadline want fuel) Q
  | 0 => Triple.of_throw fun t start => keeps.stops _ t start
  | fuel + 1 => by
    have rest := keeps.waitFor deadline fuel
    rw [Mqtt.waitFor]
    refine Triple.of_state fun s start => ?_
    refine Triple.of_bind (readFrame_pulls deadline s.budget s) (fun found => ?_)
      (fun e t post => keeps.stops e t (keeps.pulled s t start post.1))
    refine Triple.of_each fun u post => ?_
    have kept := keeps.pulled s u start post.1
    cases found with
    | none => exact Triple.of_throw fun t same => same ▸ keeps.stops _ u kept
    | some len =>
      obtain ⟨whole, fits⟩ := post.2 len rfl
      refine Triple.of_bind (classifyFront_keeps len) (fun f => ?_)
        (fun e t post => post.1 ▸ keeps.stops e u kept)
      refine Triple.of_each fun v post => ?_
      obtain ⟨rfl, read⟩ := post
      -- Every frame but a publish is taken out, then returned if wanted and else answered.
      have other : ∀ f : Frame, classify (v.rx.take len) = .ok f → f.isPublish = false →
          Triple (· = v) (state >>= fun w => put (w.consume len) >>= fun _ =>
            if want f then pure f else answer f >>= fun _ => Mqtt.waitFor deadline want fuel) Q := by
        intro f read kind
        refine Triple.of_state fun w same => ?_
        subst same
        refine Triple.of_put_bind ?_
        cases wanted : want f with
        | true => exact Triple.of_pure fun _ same => same ▸ keeps.wanted _ len f kept whole fits read kind wanted
        | false =>
          exact Triple.of_bind (keeps.answered _ len f kept whole fits read kind wanted)
            (fun _ => rest) (fun _ _ post => post)
      cases f with
      | publish q id =>
        refine Triple.of_bind (keeps.publish _ len q id kept whole fits read.symm) (fun _ => ?_)
          (fun _ _ post => post)
        exact Triple.of_state fun w post => Triple.of_put_bind (Triple.at_start rest post)
      | connAck code => exact other _ read.symm rfl
      | ack a => exact other _ read.symm rfl
      | subAck id rejected => exact other _ read.symm rfl
      | pingResp => exact other _ read.symm rfl

/-- The rule of a search: by induction on its fuel, each round reads, then takes in one frame. -/
theorem SeekKeeps.seekPublish {Q : Except SessionError (Option Nat) → Session → Prop}
    (keeps : SeekKeeps I Q) (deadline : Nat) : ∀ fuel, Triple I (seekPublish deadline fuel) Q
  | 0 => Triple.of_pure fun t start => keeps.quiet t start
  | fuel + 1 => by
    have rest := keeps.seekPublish deadline fuel
    rw [Mqtt.seekPublish]
    refine Triple.of_state fun s start => ?_
    refine Triple.of_bind (readFrame_pulls deadline s.budget s) (fun found => ?_)
      (fun e t post => keeps.stops e t (keeps.pulled s t start post.1))
    refine Triple.of_each fun u post => ?_
    have kept := keeps.pulled s u start post.1
    cases found with
    | none => exact Triple.of_pure fun t same => same ▸ keeps.quiet u kept
    | some len =>
      obtain ⟨whole, fits⟩ := post.2 len rfl
      refine Triple.of_bind (classifyFront_keeps len) (fun f => ?_)
        (fun e t post => post.1 ▸ keeps.stops e u kept)
      refine Triple.of_each fun v post => ?_
      obtain ⟨rfl, read⟩ := post
      -- Every frame but a publish is taken out and answered, and the search goes on.
      have other : ∀ f : Frame, classify (v.rx.take len) = .ok f → f.isPublish = false →
          Triple (· = v) (state >>= fun w => put (w.consume len) >>= fun _ =>
            answer f >>= fun _ => Mqtt.seekPublish deadline fuel) Q := by
        intro f read kind
        refine Triple.of_state fun w same => ?_
        subst same
        exact Triple.of_put_bind (Triple.of_bind (keeps.answered _ len f kept whole fits read kind)
          (fun _ => rest) (fun _ _ post => post))
      cases f with
      | publish q id =>
        exact Triple.of_bind (keeps.publish _ len q id kept whole fits read.symm)
          (fun _ => Triple.of_pure fun _ post => post) (fun _ _ post => post)
      | connAck code => exact other _ read.symm rfl
      | ack a => exact other _ read.symm rfl
      | subAck id rejected => exact other _ read.symm rfl
      | pingResp => exact other _ read.symm rfl

end Rules

theorem waitFor_keeps (deadline : Nat) (want : Frame → Bool) : ∀ fuel, Triple s₀.Kept (waitFor deadline want fuel)
    (fun _ t => s₀.Kept t) :=
  WaitKeeps.waitFor
    { stops := fun _ _ kept => kept
      pulled := fun _ _ kept pulled => kept.pulled pulled
      publish := fun u len q id kept whole _ read =>
        (acknowledge_keeps (x := u.rx) (y := u.stash) q id).mono
          (fun _ same => by subst same; exact ⟨kept, rfl, rfl⟩)
          fun _ _ post => .of_both (post.1.stashFrame (post.2.1 ▸ whole) (post.2.1 ▸ read)) fun _ => post.1
      wanted := fun _ _ _ kept whole _ _ _ _ => kept.consume whole
      answered := fun u len f kept whole _ _ _ _ =>
        (answer_keeps (x := (u.consume len).rx) (y := u.stash) f).mono
          (fun _ same => by subst same; exact ⟨kept.consume whole, rfl, rfl⟩)
          fun _ _ post => .of_both post.1 fun _ => post.1 }
    deadline

theorem seekPublish_keeps (deadline : Nat) : ∀ fuel, Triple s₀.Kept (seekPublish deadline fuel)
    (fun r t => s₀.Kept t ∧ ∀ len, r = .ok (some len) → len ≤ t.rx.length ∧ IsPublishFrame (t.rx.take len)) :=
  SeekKeeps.seekPublish
    { stops := fun _ _ kept => ⟨kept, by simp⟩
      quiet := fun _ kept => ⟨kept, by simp⟩
      pulled := fun _ _ kept pulled => kept.pulled pulled
      publish := fun u len q id kept whole _ read => by
        -- The publish stays at the front of the buffer, whole.
        obtain ⟨-, -, -, -, within⟩ := VarInt.frameLength_some whole
        have found : len ≤ u.rx.length ∧ IsPublishFrame (u.rx.take len) :=
          ⟨within, VarInt.isFrame_take_of_some whole, q, id, read⟩
        refine (acknowledge_keeps (x := u.rx) (y := u.stash) q id).mono
          (fun _ same => by subst same; exact ⟨kept, rfl, rfl⟩) fun _ t post => ?_
        obtain ⟨kept', rx, -⟩ := post
        rw [← rx] at found
        exact .of_both ⟨kept', fun _ same => by cases same; exact found⟩ fun _ => ⟨kept', by simp⟩
      answered := fun u len f kept whole _ _ _ =>
        (answer_keeps (x := (u.consume len).rx) (y := u.stash) f).mono
          (fun _ same => by subst same; exact ⟨kept.consume whole, rfl, rfl⟩)
          fun _ _ post => .of_both post.1 fun _ => ⟨post.1, by simp⟩ }
    deadline

theorem awaitFrame_keeps (deadline : Nat) (want : Frame → Bool) :
    Triple s₀.Kept (awaitFrame deadline want) (fun _ t => s₀.Kept t) := by
  rw [awaitFrame]
  exact Triple.of_state fun s kept =>
    (waitFor_keeps deadline want s.budget).mono (fun _ same => same ▸ kept) (fun _ _ post => post)

theorem keepAlive_keeps : Triple s₀.Kept keepAlive (fun _ t => s₀.Kept t) := by
  rw [keepAlive]
  refine Triple.of_state fun s kept => ?_
  split
  · refine Triple.of_clock fun now => ?_
    split
    · exact (sendPacket_keeps (x := s.rx) (y := s.stash) _).mono
        (fun _ same => by rw [same]; exact ⟨kept, rfl, rfl⟩) (fun _ _ post => post.1)
    · exact Triple.of_pure fun _ same => same ▸ kept
  · exact Triple.of_pure fun _ same => same ▸ kept

theorem takeId_keeps : Triple s₀.Kept takeId (fun _ t => s₀.Kept t) := by
  intro s c r t c' kept run
  rw [run_takeId] at run
  cases run
  exact kept.tookId _

theorem nextPublish_keeps (deadline : Nat) : Triple s₀.Kept (nextPublish deadline)
    (fun r t => s₀.Kept t ∧ ∀ len, r = .ok (some len) → len ≤ t.rx.length ∧ IsPublishFrame (t.rx.take len)) := by
  rw [nextPublish]
  refine Triple.of_bind keepAlive_keeps (fun _ => ?_) (fun _ _ kept => ⟨kept, by simp⟩)
  exact Triple.of_state fun s kept =>
    (seekPublish_keeps deadline s.budget).mono (fun _ same => same ▸ kept) (fun _ _ post => post)

theorem subscribeFlow_keeps (topic : String) (qos : QoS) :
    Triple s₀.Kept (subscribeFlow topic qos) (fun _ t => s₀.Kept t) := by
  rw [subscribeFlow]
  refine Triple.of_bind takeId_keeps (fun id => ?_) (fun _ _ kept => kept)
  refine Triple.of_each fun u kept => ?_
  refine Triple.of_bind ((sendPacket_keeps (x := u.rx) (y := u.stash) _).mono
    (fun _ same => by rw [same]; exact ⟨kept, rfl, rfl⟩) (fun _ _ post => post.1)) (fun _ => ?_)
    (fun _ _ kept => kept)
  refine Triple.of_clock fun now => Triple.of_state fun s kept => ?_
  refine Triple.of_bind ((awaitFrame_keeps _ _).mono (fun _ same => same ▸ kept) (fun _ _ post => post))
    (fun frame => ?_) (fun _ _ kept => kept)
  split
  · exact Triple.of_throw fun _ kept => kept
  · exact Triple.of_pure fun _ kept => kept

theorem sent_keeps (p : Outbound) : Triple s₀.Kept (sendPacket p) (fun _ t => s₀.Kept t) :=
  Triple.of_each fun u kept =>
    (sendPacket_keeps (x := u.rx) (y := u.stash) p).mono
      (fun _ same => by rw [same]; exact ⟨kept, rfl, rfl⟩) (fun _ _ post => post.1)

theorem publishFlow_keeps (topic : String) (payload : List UInt8) (qos : QoS) :
    Triple s₀.Kept (publishFlow topic payload qos) (fun _ t => s₀.Kept t) := by
  -- The identity taken and the acknowledgements awaited depend on the level only.
  cases qos with
  | atMostOnce =>
    simp only [publishFlow, pure_bind]
    exact Triple.of_bind (sent_keeps _) (fun _ => Triple.of_pure fun _ kept => kept)
      (fun _ _ kept => kept)
  | atLeastOnce =>
    simp only [publishFlow, map_eq_pure_bind, bind_assoc, pure_bind]
    refine Triple.of_bind takeId_keeps (fun id => ?_) (fun _ _ kept => kept)
    refine Triple.of_bind (sent_keeps _) (fun _ => ?_) (fun _ _ kept => kept)
    refine Triple.of_clock fun now => Triple.of_state fun s kept => ?_
    exact Triple.of_bind (Triple.at_start (awaitFrame_keeps _ _) kept)
      (fun _ => Triple.of_pure fun _ kept => kept) (fun _ _ kept => kept)
  | exactlyOnce =>
    simp only [publishFlow, map_eq_pure_bind, bind_assoc, pure_bind]
    refine Triple.of_bind takeId_keeps (fun id => ?_) (fun _ _ kept => kept)
    refine Triple.of_bind (sent_keeps _) (fun _ => ?_) (fun _ _ kept => kept)
    refine Triple.of_clock fun now => Triple.of_state fun s kept => ?_
    refine Triple.of_bind (Triple.at_start (awaitFrame_keeps _ _) kept) (fun _ => ?_)
      (fun _ _ kept => kept)
    refine Triple.of_bind (sent_keeps _) (fun _ => ?_) (fun _ _ kept => kept)
    exact Triple.of_bind (awaitFrame_keeps _ _) (fun _ => Triple.of_pure fun _ kept => kept)
      (fun _ _ kept => kept)

theorem handshake_keeps : Triple s₀.Kept handshake (fun _ t => s₀.Kept t) := by
  rw [handshake]
  refine Triple.of_state fun s kept => ?_
  refine Triple.of_bind (Triple.at_start (sent_keeps _) kept) (fun _ => ?_) (fun _ _ kept => kept)
  refine Triple.of_clock fun now => Triple.of_state fun u kept => ?_
  refine Triple.of_bind (Triple.at_start (awaitFrame_keeps _ _) kept) (fun frame => ?_)
    (fun _ _ kept => kept)
  split
  · exact Triple.of_pure fun _ kept => kept
  · exact Triple.of_throw fun _ kept => kept
  · exact Triple.of_throw fun _ kept => kept

end Blocks

end Gateway.Mqtt
