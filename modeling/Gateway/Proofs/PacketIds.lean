import Gateway.Proofs.Calls
/-!
# Packet ids

A session numbers its SUBSCRIBE requests, and the PUBLISH requests that ask for an acknowledgement,
from one counter: the ids run 1, 2, …, 65535 and start over at 1 (`packetIdAt`), so no request
carries id 0. Every flow of a call but the taking of an id leaves the counter alone (the `_keepsId`
lemmas), so a call moves it one place exactly when it makes a request on a session that is up
(`Call.perform_nextPacketId`): also when the request then fails to encode or to be written, and
never for a publish at QoS 0, a poll or a reconnect. The request is the first packet such a call
writes, if any (`Call.perform_issues`). Over every run from a new session (`Session.Requested`)
the requests therefore took the ids in turn, across any number of wraps
(`requests_take_packet_ids_in_turn`).
-/
namespace Gateway

theorem Timed.run_of_start {σ α : Type} {m : Timed σ α} {s : σ} {c : Clock}
    (finished : (Timed.start m s c).value.isSome) :
    ∃ a, m (s, c) = .ok a ((Timed.start m s c).state, (Timed.start m s c).clock) := by
  unfold Timed.start at *
  split at finished
  · rename_i a s' c' ran
    exact ⟨a, by rw [ran]⟩
  · cases finished

namespace Mqtt

open Gateway.Mqtt.Flow

/-- The `n`-th packet id a session hands out, counting from 0: the ids run 1, 2, …, 65535 and then
start over at 1. -/
def packetIdAt (n : Nat) : UInt16 := (n % 65535 + 1).toUInt16

theorem packetIdAt_toNat (n : Nat) : (packetIdAt n).toNat = n % 65535 + 1 := by
  have below := Nat.mod_lt n (show 0 < 65535 by norm_num)
  simp [packetIdAt]
  omega

theorem packetIdAt_ne_zero (n : Nat) : packetIdAt n ≠ 0 := fun zero => by
  have value := packetIdAt_toNat n
  rw [zero] at value
  simp at value

theorem nextId_packetIdAt (n : Nat) : Session.nextId (packetIdAt n) = packetIdAt (n + 1) := by
  apply UInt16.toNat_inj.mp
  have last : packetIdAt n = 65535 ↔ n % 65535 = 65534 := by
    rw [← UInt16.toNat_inj, packetIdAt_toNat]
    simp
  unfold Session.nextId
  split
  · rename_i wraps
    have := last.mp wraps
    rw [packetIdAt_toNat]
    simp
    omega
  · rename_i within
    have := mt last.mpr within
    rw [UInt16.toNat_add, packetIdAt_toNat, packetIdAt_toNat]
    simp
    omega

namespace Session

@[simp] theorem consume_nextPacketId (s : Session) (len : Nat) :
    (s.consume len).nextPacketId = s.nextPacketId := rfl

@[simp] theorem stashFrame_nextPacketId (s : Session) (len : Nat) :
    (s.stashFrame len).nextPacketId = s.nextPacketId := by
  unfold stashFrame
  split <;> rfl

@[simp] theorem settled_nextPacketId {α : Type} (r : Except SessionError α) (t : Session) :
    (t.settled r).nextPacketId = t.nextPacketId := by
  unfold settled dropped
  split
  · split <;> rfl
  · rfl

theorem Pulled.nextPacketId {u t : Session} (pulled : u.Pulled t) :
    t.nextPacketId = u.nextPacketId := by
  obtain ⟨incoming, bs, rfl, -, -⟩ := pulled
  rfl

end Session

/-! ### The flows that leave the counter alone -/

section Counter
variable (n : UInt16)

theorem sendPacket_keepsId (p : Outbound) :
    Triple (·.nextPacketId = n) (sendPacket p) (fun _ t => t.nextPacketId = n) := by
  intro s c r t c' start run
  rw [sendPacket_run] at run
  cases encoded : p.encode s.capacity with
  | error e =>
    rw [encoded] at run
    cases run
    exact start
  | stops why =>
    rw [encoded] at run
    cases run
  | ok bytes =>
    rcases sent : s.link.send bytes with ⟨link, f | u⟩
    · simp only [encoded, sent] at run
      cases run
      exact start
    · simp only [encoded, sent] at run
      cases run
      exact start

theorem acknowledge_keepsId (q : QoS) (id : Option UInt16) :
    Triple (·.nextPacketId = n) (acknowledge q id) (fun _ t => t.nextPacketId = n) := by
  unfold acknowledge
  split
  · exact Triple.of_pure fun _ start => start
  · exact sendPacket_keepsId n _
  · exact sendPacket_keepsId n _
  · exact Triple.of_throw fun _ start => start

theorem answer_keepsId (f : Frame) :
    Triple (·.nextPacketId = n) (answer f) (fun _ t => t.nextPacketId = n) := by
  unfold answer
  split
  · exact sendPacket_keepsId n _
  · exact Triple.of_pure fun _ start => start

theorem readFrame_keepsId (deadline fuel : Nat) :
    Triple (·.nextPacketId = n) (readFrame deadline fuel) (fun _ t => t.nextPacketId = n) :=
  Triple.of_each fun u start => (readFrame_pulls deadline fuel u).mono (fun _ same => same)
    fun _ _ post => post.1.nextPacketId.trans start

theorem waitFor_keepsId (deadline : Nat) (want : Frame → Bool) : ∀ fuel,
    Triple (·.nextPacketId = n) (waitFor deadline want fuel) (fun _ t => t.nextPacketId = n) :=
  WaitKeeps.waitFor
    { stops := fun _ _ start => start
      pulled := fun _ _ start pulled => pulled.nextPacketId.trans start
      publish := fun _ _ q id start _ _ _ => (Triple.at_start (acknowledge_keepsId n q id) start).mono
        (fun _ same => same) fun _ _ post => .of_both (by simpa using post) fun _ => post
      wanted := fun _ _ _ start _ _ _ _ _ => by simpa using start
      answered := fun _ _ f start _ _ _ _ _ =>
        (Triple.at_start (answer_keepsId n f) (by simpa using start)).mono (fun _ same => same)
          fun _ _ post => .of_both post fun _ => post }
    deadline

theorem seekPublish_keepsId (deadline : Nat) : ∀ fuel,
    Triple (·.nextPacketId = n) (seekPublish deadline fuel) (fun _ t => t.nextPacketId = n) :=
  SeekKeeps.seekPublish (Q := fun _ t => t.nextPacketId = n)
    { stops := fun _ _ start => start
      quiet := fun _ start => start
      pulled := fun _ _ start pulled => pulled.nextPacketId.trans start
      publish := fun _ _ q id start _ _ _ => (Triple.at_start (acknowledge_keepsId n q id) start).mono
        (fun _ same => same) fun _ _ post => .of_both post fun _ => post
      answered := fun _ _ f start _ _ _ _ =>
        (Triple.at_start (answer_keepsId n f) (by simpa using start)).mono (fun _ same => same)
          fun _ _ post => .of_both post fun _ => post }
    deadline

theorem awaitFrame_keepsId (deadline : Nat) (want : Frame → Bool) :
    Triple (·.nextPacketId = n) (awaitFrame deadline want) (fun _ t => t.nextPacketId = n) := by
  rw [awaitFrame]
  exact Triple.of_state fun s start =>
    Triple.at_start (waitFor_keepsId n deadline want s.budget) start

theorem keepAlive_keepsId :
    Triple (·.nextPacketId = n) keepAlive (fun _ t => t.nextPacketId = n) := by
  rw [keepAlive]
  refine Triple.of_state fun s start => ?_
  split
  · refine Triple.of_clock fun now => ?_
    split
    · exact Triple.at_start (sendPacket_keepsId n _) start
    · exact Triple.of_pure fun _ same => same ▸ start
  · exact Triple.of_pure fun _ same => same ▸ start

theorem nextPublish_keepsId (deadline : Nat) :
    Triple (·.nextPacketId = n) (nextPublish deadline) (fun _ t => t.nextPacketId = n) := by
  rw [nextPublish]
  refine Triple.of_bind (keepAlive_keepsId n) (fun _ => ?_) (fun _ _ post => post)
  exact Triple.of_state fun s start =>
    Triple.at_start (seekPublish_keepsId n deadline s.budget) start

theorem dropLink_keepsId :
    Triple (·.nextPacketId = n) dropLink (fun _ t => t.nextPacketId = n) := by
  intro s c r t c' start run
  rw [dropLink_run] at run
  cases run
  exact start

theorem settle_nextPacketId {α : Type} {P : Session → Prop} {m : Flow α}
    (flow : Triple P m (fun _ t => t.nextPacketId = n)) :
    Triple P (settle m) (fun _ t => t.nextPacketId = n) := by
  intro s c r t c' start run
  cases first : m.run (s, c) with
  | ok r' p =>
    obtain ⟨u, d⟩ := p
    rw [settle_run_of_run first] at run
    cases run
    simpa using flow start first
  | error h p =>
    rw [settle_run, first] at run
    cases run

theorem releaseHeld_keepsId :
    Triple (·.nextPacketId = n) releaseHeld (fun _ t => t.nextPacketId = n) := by
  rw [releaseHeld]
  exact Triple.of_state fun v start => Triple.of_put fun _ _ => by simpa using start

theorem requireConnected_keepsId :
    Triple (·.nextPacketId = n) requireConnected (fun _ t => t.nextPacketId = n) := by
  rw [requireConnected]
  refine Triple.of_state fun v start => ?_
  split
  · exact Triple.of_throw fun _ same => same ▸ start
  · exact Triple.of_pure fun _ same => same ▸ start

theorem decodeHeld_keepsId (bs : List UInt8) :
    Triple (·.nextPacketId = n) (decodeHeld bs) (fun _ t => t.nextPacketId = n) := by
  intro s c r t c' start run
  rw [decodeHeld_run] at run
  cases run
  exact start

theorem handshake_keepsId :
    Triple (·.nextPacketId = n) handshake (fun _ t => t.nextPacketId = n) := by
  rw [handshake]
  refine Triple.of_state fun s start => ?_
  refine Triple.of_bind (Triple.at_start (sendPacket_keepsId n _) start) (fun _ => ?_)
    (fun _ _ post => post)
  refine Triple.of_clock fun now => Triple.of_state fun u start => ?_
  refine Triple.of_bind (Triple.at_start (awaitFrame_keepsId n _ _) start) (fun frame => ?_)
    (fun _ _ post => post)
  split
  · exact Triple.of_pure fun _ start => start
  · exact Triple.of_throw fun _ start => start
  · exact Triple.of_throw fun _ start => start

theorem connect_keepsId :
    Triple (·.nextPacketId = n) connect (fun _ t => t.nextPacketId = n) := by
  rw [connect]
  refine Triple.of_state fun s start => ?_
  split
  · exact Triple.of_pure fun _ same => same ▸ start
  rcases opened : s.resetBuffers.link.establish with ⟨link, r⟩
  simp only [opened]
  refine Triple.of_put_bind ?_
  cases r with
  | error f => exact Triple.of_throw fun _ same => by subst same; exact start
  | ok u =>
    refine Triple.of_tryCatch (R := fun _ t => t.nextPacketId = n) ?_ (fun _ _ post => post) ?_
    · refine Triple.of_bind (Triple.at_start (handshake_keepsId n) start) (fun _ => ?_)
        (fun _ _ post => post)
      exact Triple.of_state fun v start => Triple.of_put fun _ _ => start
    · intro e
      exact Triple.of_state fun v start => Triple.of_put_bind
        (Triple.of_throw fun _ same => by subst same; exact start)

theorem disconnect_keepsId :
    Triple (·.nextPacketId = n) disconnect (fun _ t => t.nextPacketId = n) := by
  rw [disconnect]
  refine Triple.of_bind (releaseHeld_keepsId n) (fun _ => ?_) (fun _ _ post => post)
  refine Triple.of_state fun v start => ?_
  dsimp only
  split
  · refine Triple.of_bind (R := fun _ t => t.nextPacketId = n) ?_ (fun _ => dropLink_keepsId n)
      (fun _ _ post => post)
    exact Triple.of_tryCatch (Triple.at_start (sendPacket_keepsId n _) start) (fun _ _ post => post)
      (fun _ => Triple.of_pure fun _ post => post)
  · exact Triple.at_start (dropLink_keepsId n) start

theorem poll_keepsId (timeout : Nat) :
    Triple (·.nextPacketId = n) (poll timeout) (fun _ t => t.nextPacketId = n) := by
  rw [poll]
  refine Triple.of_bind (releaseHeld_keepsId n) (fun _ => ?_) (fun _ _ post => post)
  refine Triple.of_bind (requireConnected_keepsId n) (fun _ => ?_) (fun _ _ post => post)
  refine Triple.of_state fun u start => ?_
  split
  · exact Triple.of_put_bind (Triple.of_bind (Triple.at_start (decodeHeld_keepsId n _) start)
      (fun _ => Triple.of_pure fun _ post => post) (fun _ _ post => post))
  · refine Triple.of_clock fun now => Triple.of_bind
      (settle_nextPacketId n (Triple.at_start (nextPublish_keepsId n _) start)) (fun found => ?_)
      (fun _ _ post => post)
    cases found with
    | none => exact Triple.of_pure fun _ post => post
    | some len =>
      exact Triple.of_state fun v start => Triple.of_put_bind
        (Triple.of_bind (Triple.at_start (decodeHeld_keepsId n _) start)
          (fun _ => Triple.of_pure fun _ post => post) (fun _ _ post => post))

/-! ### The flows that take an id -/

theorem takeId_advances :
    Triple (·.nextPacketId = n) takeId (fun _ t => t.nextPacketId = Session.nextId n) := by
  intro s c r t c' start run
  rw [run_takeId] at run
  cases run
  rw [← start]

theorem subscribeFlow_advances (topic : String) (qos : QoS) :
    Triple (·.nextPacketId = n) (subscribeFlow topic qos)
      (fun _ t => t.nextPacketId = Session.nextId n) := by
  rw [subscribeFlow]
  refine Triple.of_bind (takeId_advances n) (fun id => ?_) (fun _ _ post => post)
  refine Triple.of_bind (sendPacket_keepsId _ _) (fun _ => ?_) (fun _ _ post => post)
  refine Triple.of_clock fun now => Triple.of_state fun s start => ?_
  refine Triple.of_bind (Triple.at_start (awaitFrame_keepsId _ _ _) start) (fun frame => ?_)
    (fun _ _ post => post)
  split
  · exact Triple.of_throw fun _ start => start
  · exact Triple.of_pure fun _ start => start

theorem publishFlow_advances (topic : String) (payload : List UInt8) (qos : QoS) :
    Triple (·.nextPacketId = n) (publishFlow topic payload qos)
      (fun _ t => t.nextPacketId = if qos = .atMostOnce then n else Session.nextId n) := by
  cases qos with
  | atMostOnce =>
    simp only [publishFlow, pure_bind, if_true]
    exact Triple.of_bind (sendPacket_keepsId n _) (fun _ => Triple.of_pure fun _ post => post)
      (fun _ _ post => post)
  | atLeastOnce =>
    simp only [publishFlow, map_eq_pure_bind, bind_assoc, pure_bind, reduceCtorEq, if_false]
    refine Triple.of_bind (takeId_advances n) (fun id => ?_) (fun _ _ post => post)
    refine Triple.of_bind (sendPacket_keepsId _ _) (fun _ => ?_) (fun _ _ post => post)
    refine Triple.of_clock fun now => Triple.of_state fun s start => ?_
    exact Triple.of_bind (Triple.at_start (awaitFrame_keepsId _ _ _) start)
      (fun _ => Triple.of_pure fun _ post => post) (fun _ _ post => post)
  | exactlyOnce =>
    simp only [publishFlow, map_eq_pure_bind, bind_assoc, pure_bind, reduceCtorEq, if_false]
    refine Triple.of_bind (takeId_advances n) (fun id => ?_) (fun _ _ post => post)
    refine Triple.of_bind (sendPacket_keepsId _ _) (fun _ => ?_) (fun _ _ post => post)
    refine Triple.of_clock fun now => Triple.of_state fun s start => ?_
    refine Triple.of_bind (Triple.at_start (awaitFrame_keepsId _ _ _) start) (fun _ => ?_)
      (fun _ _ post => post)
    refine Triple.of_bind (sendPacket_keepsId _ _) (fun _ => ?_) (fun _ _ post => post)
    exact Triple.of_bind (awaitFrame_keepsId _ _ _) (fun _ => Triple.of_pure fun _ post => post)
      (fun _ _ post => post)

end Counter

theorem request_nextPacketId {α : Type} {m : Flow α} {s : Session} {k : UInt16}
    (flow : Triple (·.nextPacketId = s.nextPacketId) m (fun _ t => t.nextPacketId = k)) :
    Triple (· = s) (releaseHeld >>= fun _ => requireConnected >>= fun _ => settle m)
      (fun _ t => t.nextPacketId = if s.connected then k else s.nextPacketId) := by
  intro s' c r t c' same run
  subst same
  cases up : s'.connected with
  | false =>
    rw [run_bind_ok (releaseHeld_run s' c),
      run_bind_error (requireConnected_run_of_down (by simpa using up) c)] at run
    cases run
    simp
  | true =>
    rw [release_then_connected up] at run
    simpa using settle_nextPacketId k flow (by simp) run

/-! ### Requests -/

def Outbound.packetId? : Outbound → Option UInt16
  | .publish p => p.packetId
  | .ack a => some a.packetId
  | .subscribe p => some p.packetId
  | _ => none

/-- The request a call makes with the packet id `id`: a SUBSCRIBE, or a PUBLISH that asks for an
acknowledgement. No other call takes an id. -/
def Call.request (id : UInt16) : Call → Option Outbound
  | .subscribe topic qos => some (.subscribe ⟨id, [(topic, qos)]⟩)
  | .publish topic payload qos =>
    match qos with
    | .atMostOnce => none
    | _ => some (.publish ⟨topic, qos, payload, some id⟩)
  | _ => none

/-- The request a call makes from the session `s`, with the id its counter holds; none on a
session that is down, where a request fails before it takes an id. -/
def Call.requestOf (call : Call) (s : Session) : Option Outbound :=
  if s.connected then call.request s.nextPacketId else none

theorem Call.requestOf_packetId? {call : Call} {s : Session} {p : Outbound}
    (made : call.requestOf s = some p) : p.packetId? = some s.nextPacketId := by
  unfold Call.requestOf at made
  split at made
  · cases call with
    | subscribe topic qos =>
      cases made
      rfl
    | publish topic payload qos =>
      cases qos <;> simp only [Call.request, reduceCtorEq, Option.some.injEq] at made <;>
        (subst made; rfl)
    | connect => cases made
    | disconnect => cases made
    | poll timeout => cases made
  · cases made

/-- A call moves the counter one place exactly when it makes a request, whether the request then
goes out or not; every other call leaves it alone. -/
theorem Call.perform_nextPacketId (call : Call) (s : Session) :
    Triple (· = s) call.perform (fun _ t => t.nextPacketId =
      if (call.requestOf s).isSome then Session.nextId s.nextPacketId else s.nextPacketId) := by
  -- Every call but `poll` ends as its flow ended, with nothing to hand out.
  have finished : ∀ {m : Flow Unit} {k : UInt16},
      Triple (· = s) m (fun _ t => t.nextPacketId = k) →
      Triple (· = s) (m >>= fun _ => (pure none : Flow (Option Publish)))
        (fun _ t => t.nextPacketId = k) := fun flow =>
    Triple.of_bind flow (fun _ => Triple.of_pure fun _ post => post) (fun _ _ post => post)
  have still : ∀ {m : Flow Unit},
      Triple (·.nextPacketId = s.nextPacketId) m (fun _ t => t.nextPacketId = s.nextPacketId) →
      Triple (· = s) (m >>= fun _ => (pure none : Flow (Option Publish)))
        (fun _ t => t.nextPacketId = s.nextPacketId) := fun flow =>
    finished (Triple.at_start flow rfl)
  cases call with
  | connect =>
    refine (still (connect_keepsId _)).mono (fun _ same => same) fun _ _ post => ?_
    simpa [Call.requestOf, Call.request] using post
  | disconnect =>
    refine (still (disconnect_keepsId _)).mono (fun _ same => same) fun _ _ post => ?_
    simpa [Call.requestOf, Call.request] using post
  | subscribe topic qos =>
    refine (finished (request_nextPacketId (subscribeFlow_advances _ topic qos))).mono
      (fun _ same => same) fun _ _ post => ?_
    simpa [Call.requestOf, Call.request] using post
  | publish topic payload qos =>
    refine (finished (request_nextPacketId (publishFlow_advances _ topic payload qos))).mono
      (fun _ same => same) fun _ _ post => ?_
    cases qos <;> simpa [Call.requestOf, Call.request] using post
  | poll timeout =>
    refine (Triple.at_start (poll_keepsId s.nextPacketId timeout) rfl).mono (fun _ same => same)
      fun _ _ post => ?_
    simpa [Call.requestOf, Call.request] using post

/-- How a flow from `s` went about the request `p`, the first packet it writes: `p` did not encode,
and the flow failed with that error having written nothing; or the link refused `p`, and the flow
failed with the link's fault having written nothing; or `p` went out first, before every other
packet the flow wrote. -/
def Session.Issued {α : Type} (s : Session) (p : Outbound) (r : Except SessionError α)
    (t : Session) : Prop :=
  (∃ e, p.encode s.capacity = .error e ∧ r = .error (.ofPacket e) ∧
      t.link.sent = s.link.sent) ∨
    ∃ bytes, p.encode s.capacity = .ok bytes ∧
      ((∃ f, r = .error (.transport f) ∧ t.link.sent = s.link.sent) ∨
        ∃ later, t.link.sent = later ++ bytes :: s.link.sent)

theorem Session.Issued.congr {α β : Type} {s s' t t' : Session} {p : Outbound}
    {r : Except SessionError α} {r' : Except SessionError β} (issued : s.Issued p r t)
    (capacity : s'.capacity = s.capacity) (before : s'.link.sent = s.link.sent)
    (after : t'.link.sent = t.link.sent) (same : ∀ e, r = .error e → r' = .error e) :
    s'.Issued p r' t' := by
  rcases issued with ⟨e, encoded, failed, sent⟩ |
    ⟨bytes, encoded, ⟨f, failed, sent⟩ | ⟨later, sent⟩⟩
  · exact .inl ⟨e, capacity ▸ encoded, same _ failed, by rw [after, before, sent]⟩
  · exact .inr ⟨bytes, capacity ▸ encoded,
      .inl ⟨f, same _ failed, by rw [after, before, sent]⟩⟩
  · exact .inr ⟨bytes, capacity ▸ encoded, .inr ⟨later, by rw [after, before, sent]⟩⟩

theorem issue_first {α : Type} {u : Session} (p : Outbound) {k : Unit → Flow α}
    (tidy : u.Tidy) (idle : u.held = .nothing)
    (rest : ∀ s₀ : Session, Triple s₀.Kept (k ()) (fun _ t => s₀.Kept t)) :
    Triple (· = u) (sendPacket p >>= k) (fun r t => u.Issued p r t) := by
  intro s c r t c' same run
  subst same
  rw [run_bind, sendPacket_run] at run
  cases encoded : p.encode s.capacity with
  | error e =>
    rw [encoded] at run
    cases run
    exact .inl ⟨e, encoded, rfl, rfl⟩
  | stops why =>
    rw [encoded] at run
    cases run
  | ok bytes =>
    rcases sent : s.link.send bytes with ⟨link, f | u⟩
    · simp only [encoded, sent] at run
      cases run
      exact .inr ⟨bytes, encoded, .inl ⟨f, rfl, (Link.send_of_error sent).1⟩⟩
    · simp only [encoded, sent] at run
      have log : link.sent = bytes :: s.link.sent := by
        rw [← Link.send_sent (Link.send_of_ok sent) bytes, sent]
      -- The rest runs from the session that just wrote `p`.
      have written :
          Session.Kept { s with link, lastTx := c.now } { s with link, lastTx := c.now } :=
        Session.Kept.start (tidy.of_eq rfl rfl rfl) idle
      obtain ⟨later, _, sentAfter, -⟩ := (rest _ written run).accounts
      exact .inr ⟨bytes, encoded, .inr ⟨later, by rw [sentAfter, ← log]⟩⟩

section Issue
variable {u : Session} (tidy : u.Tidy) (idle : u.held = .nothing)
include tidy idle

theorem issue_taken {α : Type} (request : UInt16 → Outbound) (k : UInt16 → Unit → Flow α)
    (rest : ∀ (id : UInt16) (s₀ : Session),
      Triple s₀.Kept (k id ()) (fun _ t => s₀.Kept t)) :
    Triple (· = u) (takeId >>= fun id => sendPacket (request id) >>= k id)
      (fun r t => u.Issued (request u.nextPacketId) r t) := by
  intro s c r t c' same run
  subst same
  rw [run_bind_ok (run_takeId (s, c))] at run
  -- The request is written from the session that took its id, which differs in nothing it reads.
  refine (issue_first _ ?_ ?_ (rest _) rfl run).congr rfl rfl rfl fun _ failed => failed
  · exact tidy.of_eq rfl rfl rfl
  · exact idle

theorem subscribeFlow_issues (topic : String) (qos : QoS) :
    Triple (· = u) (subscribeFlow topic qos)
      (fun r t => u.Issued (.subscribe ⟨u.nextPacketId, [(topic, qos)]⟩) r t) := by
  rw [subscribeFlow]
  refine issue_taken tidy idle _ _ fun id s₀ => ?_
  refine Triple.of_clock fun now => Triple.of_state fun s kept => ?_
  refine Triple.of_bind (Triple.at_start (awaitFrame_keeps _ _) kept) (fun frame => ?_)
    (fun _ _ kept => kept)
  split
  · exact Triple.of_throw fun _ kept => kept
  · exact Triple.of_pure fun _ kept => kept

theorem publishFlow_issues (topic : String) (payload : List UInt8) {qos : QoS}
    (level : qos ≠ .atMostOnce) :
    Triple (· = u) (publishFlow topic payload qos)
      (fun r t => u.Issued (.publish ⟨topic, qos, payload, some u.nextPacketId⟩) r t) := by
  cases qos with
  | atMostOnce => exact absurd rfl level
  | atLeastOnce =>
    simp only [publishFlow, map_eq_pure_bind, bind_assoc, pure_bind]
    refine issue_taken tidy idle _ _ fun id s₀ => ?_
    refine Triple.of_clock fun now => Triple.of_state fun s kept => ?_
    exact Triple.of_bind (Triple.at_start (awaitFrame_keeps _ _) kept)
      (fun _ => Triple.of_pure fun _ kept => kept) (fun _ _ kept => kept)
  | exactlyOnce =>
    simp only [publishFlow, map_eq_pure_bind, bind_assoc, pure_bind]
    refine issue_taken tidy idle _ _ fun id s₀ => ?_
    refine Triple.of_clock fun now => Triple.of_state fun s kept => ?_
    refine Triple.of_bind (Triple.at_start (awaitFrame_keeps _ _) kept) (fun _ => ?_)
      (fun _ _ kept => kept)
    refine Triple.of_bind (sent_keeps _) (fun _ => ?_) (fun _ _ kept => kept)
    exact Triple.of_bind (awaitFrame_keeps _ _) (fun _ => Triple.of_pure fun _ kept => kept)
      (fun _ _ kept => kept)

end Issue

theorem request_issues {m : Flow Unit} {s : Session} {p : Outbound} (up : s.connected = true)
    (flow : Triple (· = s.release) m (fun r t => s.release.Issued p r t)) :
    Triple (· = s)
      ((releaseHeld >>= fun _ => requireConnected >>= fun _ => settle m) >>= fun _ =>
        (pure none : Flow (Option Publish)))
      (fun r t => s.Issued p r t) := by
  refine Triple.of_bind (R := fun r t => s.Issued p r t) ?_
    (fun _ => Triple.of_pure fun _ issued =>
      issued.congr rfl rfl rfl fun _ failed => by cases failed)
    (fun _ _ issued => issued.congr rfl rfl rfl fun _ failed => by cases failed; rfl)
  intro s' c r t c' same run
  subst same
  rw [release_then_connected up] at run
  cases first : m.run (s'.release, c) with
  | ok r' p' =>
    obtain ⟨u, d⟩ := p'
    rw [settle_run_of_run first] at run
    cases run
    exact (flow rfl first).congr (by simp) (by simp) (by simp) fun _ failed => failed
  | error h p' =>
    rw [settle_run, first] at run
    cases run

/-- A call that makes a request from a sound session issues it. -/
theorem Call.perform_issues (call : Call) {s : Session} (sound : s.Sound) {p : Outbound}
    (made : call.requestOf s = some p) :
    Triple (· = s) call.perform (fun r t => s.Issued p r t) := by
  have up : s.connected = true := by
    unfold Call.requestOf at made
    split at made
    · assumption
    · cases made
  have kept := sound.kept_release
  simp only [Call.requestOf, up, if_true] at made
  cases call with
  | subscribe topic qos =>
    cases made
    exact request_issues up ((subscribeFlow_issues kept.tidy kept.idle topic qos).mono
      (fun _ same => same) fun _ _ issued => by simpa using issued)
  | publish topic payload qos =>
    cases qos with
    | atMostOnce => cases made
    | atLeastOnce | exactlyOnce =>
      cases made
      exact request_issues up ((publishFlow_issues kept.tidy kept.idle topic payload
        (by simp)).mono (fun _ same => same) fun _ _ issued => by simpa using issued)
  | connect => cases made
  | disconnect => cases made
  | poll timeout => cases made

/-! ### Runs -/

/-- The requests a program made on its way from a new session to `t`, in order, over calls that
returned and with the link free to change between calls, as `Session.Reachable` has them: every
SUBSCRIBE, and every PUBLISH that asks for an acknowledgement, made while the session was up,
whether it went out or not. -/
inductive Session.Requested : List Outbound → Session → Prop
  | fresh (options : SessionOptions) (capacity : Nat) (link : Link) :
      Requested [] { options, capacity, link }
  | relink {R : List Outbound} {s : Session} (link : Link) :
      Requested R s → Requested R { s with link }
  | call {R : List Outbound} {s t : Session} (call : Call) {c c' : Clock}
      {r : Except SessionError (Option Publish)} :
      Requested R s → call.perform.run (s, c) = .ok r (t, c') →
        Requested (R ++ (call.requestOf s).toList) t

namespace Session.Requested
variable {R : List Outbound} {t : Session}

theorem reachable (requested : t.Requested R) : t.Reachable := by
  induction requested with
  | fresh options capacity link => exact .fresh options capacity link
  | relink link _ reached => exact .relink link reached
  | call call _ run reached => exact .call call reached run

theorem ids_in_turn (requested : t.Requested R) :
    R.map Outbound.packetId? = (List.range R.length).map (fun n => some (packetIdAt n)) ∧
      t.nextPacketId = packetIdAt R.length := by
  induction requested with
  | fresh options capacity link => exact ⟨rfl, rfl⟩
  | relink link _ ih => exact ih
  | @call R s t call c c' r _ run ih =>
    obtain ⟨taken, counter⟩ := ih
    have moved := call.perform_nextPacketId s rfl run
    cases made : call.requestOf s with
    | none =>
      simp only [made, Option.isSome_none, Bool.false_eq_true, if_false] at moved
      exact ⟨by simpa using taken, by simpa [counter] using moved⟩
    | some p =>
      simp only [made, Option.isSome_some, if_true] at moved
      refine ⟨?_, ?_⟩
      · simp [List.range_succ, taken, Call.requestOf_packetId? made, counter]
      · simp [moved, counter, nextId_packetIdAt]

theorem started {s : Session} (call : Call) (c : Clock) (R' : List Outbound)
    (requested : s.Requested R) (finished : (Timed.start call.perform.run s c).value.isSome)
    (listed : R ++ (call.requestOf s).toList = R') :
    Session.Requested R' (Timed.start call.perform.run s c).state := by
  obtain ⟨a, ran⟩ := Timed.run_of_start finished
  exact listed ▸ .call call requested ran

end Session.Requested

/-- Over every run of a session, reconnects included, the requests carry the ids 1, 2, …, 65535,
1, 2, … in turn and never 0, and the counter holds the next one; each request is the first packet
its call writes, if the call writes one. -/
theorem requests_take_packet_ids_in_turn {R : List Outbound} {t : Session}
    (requested : t.Requested R) :
    R.map Outbound.packetId? = (List.range R.length).map (fun n => some (packetIdAt n)) ∧
      t.nextPacketId = packetIdAt R.length ∧
      (∀ p ∈ R, p.packetId? ≠ some 0) ∧ t.nextPacketId ≠ 0 ∧
      ∀ (call : Call) (p : Outbound), call.requestOf t = some p →
        Triple (· = t) call.perform (fun r u => t.Issued p r u) := by
  obtain ⟨taken, counter⟩ := requested.ids_in_turn
  refine ⟨taken, counter, fun p member zero => ?_, counter ▸ packetIdAt_ne_zero _,
    fun call p made => call.perform_issues requested.reachable.sound made⟩
  have carried : p.packetId? ∈ (List.range R.length).map (fun n => some (packetIdAt n)) :=
    taken ▸ List.mem_map_of_mem member
  obtain ⟨n, -, same⟩ := List.mem_map.mp carried
  rw [zero, Option.some.injEq] at same
  exact packetIdAt_ne_zero n same

/-- A session that connects to a broker that answers everything, subscribes at QoS 1, publishes
at QoS 0 and then at QoS 1: the SUBSCRIBE takes id 1, the publish at QoS 0 none, the second
publish id 2. -/
theorem requests_take_ids_one_then_two :
    ∃ t, Session.Requested [.subscribe ⟨1, [("a", .atLeastOnce)]⟩,
        .publish ⟨"a", .atLeastOnce, [1], some 2⟩] t ∧
      ([Outbound.subscribe ⟨1, [("a", .atLeastOnce)]⟩,
          .publish ⟨"a", .atLeastOnce, [1], some 2⟩].map Outbound.packetId? =
        (List.range 2).map (fun n => some (packetIdAt n)) ∧
      t.nextPacketId = packetIdAt 2 ∧
      (∀ p ∈ [Outbound.subscribe ⟨1, [("a", .atLeastOnce)]⟩,
          .publish ⟨"a", .atLeastOnce, [1], some 2⟩], p.packetId? ≠ some 0) ∧
      t.nextPacketId ≠ 0 ∧
      ∀ (call : Call) (p : Outbound), call.requestOf t = some p →
        Triple (· = t) call.perform (fun r u => t.Issued p r u)) := by
  have fresh := Session.Requested.fresh {} 64 { incoming := [], broker := { auto := true } }
  have connected := fresh.started .connect ⟨0, none⟩ [] (by decide +kernel) (by decide +kernel)
  have subscribed := connected.started (.subscribe "a" .atLeastOnce) ⟨0, none⟩
    [.subscribe ⟨1, [("a", .atLeastOnce)]⟩] (by decide +kernel) (by decide +kernel)
  have quick := subscribed.started (.publish "a" [1] .atMostOnce) ⟨0, none⟩
    [.subscribe ⟨1, [("a", .atLeastOnce)]⟩] (by decide +kernel) (by decide +kernel)
  have acknowledged := quick.started (.publish "a" [1] .atLeastOnce) ⟨0, none⟩
    [.subscribe ⟨1, [("a", .atLeastOnce)]⟩, .publish ⟨"a", .atLeastOnce, [1], some 2⟩]
    (by decide +kernel) (by decide +kernel)
  exact ⟨_, acknowledged, requests_take_packet_ids_in_turn acknowledged⟩

end Mqtt

end Gateway
