import Mathlib
import Gateway.Mqtt.Session
/-!
Running session flows. A flow is an exception layer over a timed state computation, so a run
from a session and a clock ends with a value or a session error, or halts when a bounded run
reaches its limit. The equations below run the monad's operations and each building block of
the session once, so that proofs about the calls cite them and never unfold the blocks again.
-/
namespace Gateway.Mqtt

namespace Flow
variable {α β : Type}

@[simp] theorem run_pure (a : α) (p : Session × Clock) :
    (pure a : Flow α).run p = .ok (.ok a) p := rfl

@[simp] theorem run_throw (e : SessionError) (p : Session × Clock) :
    (throw e : Flow α).run p = .ok (.error e) p := rfl

@[simp] theorem run_state (p : Session × Clock) : state.run p = .ok (.ok p.1) p := rfl

@[simp] theorem run_put (s : Session) (p : Session × Clock) :
    (put s).run p = .ok (.ok ()) (s, p.2) := rfl

@[simp] theorem run_clock (p : Session × Clock) : clock.run p = .ok (.ok p.2.now) p := rfl

@[simp] theorem run_halt (h : Halt) (p : Session × Clock) : (halt h : Flow α).run p = .error h p := rfl

theorem run_bind (x : Flow α) (f : α → Flow β) (p : Session × Clock) :
    (x >>= f).run p = match x.run p with
      | .ok (.ok a) p' => (f a).run p'
      | .ok (.error e) p' => .ok (.error e) p'
      | .error h p' => .error h p' := by
  simp only [ExceptT.run, bind, ExceptT.bind, ExceptT.mk, EStateM.bind]
  rcases x p with ⟨e | a, p'⟩ | ⟨h, p'⟩ <;> rfl

theorem run_bind_ok {x : Flow α} {f : α → Flow β} {p p' : Session × Clock} {a : α}
    (first : x.run p = .ok (.ok a) p') : (x >>= f).run p = (f a).run p' := by
  rw [run_bind, first]

theorem run_bind_error {x : Flow α} {f : α → Flow β} {p p' : Session × Clock}
    {e : SessionError} (first : x.run p = .ok (.error e) p') :
    (x >>= f).run p = .ok (.error e) p' := by
  rw [run_bind, first]

theorem run_bind_halt {x : Flow α} {f : α → Flow β} {p p' : Session × Clock} {h : Halt}
    (first : x.run p = .error h p') : (x >>= f).run p = .error h p' := by
  rw [run_bind, first]

theorem run_tryCatch (x : Flow α) (handle : SessionError → Flow α) (p : Session × Clock) :
    (tryCatch x handle).run p = match x.run p with
      | .ok (.error e) p' => (handle e).run p'
      | r => r := by
  simp only [tryCatch, tryCatchThe, MonadExceptOf.tryCatch, ExceptT.tryCatch, ExceptT.run,
    ExceptT.mk, bind, EStateM.bind]
  rcases x p with ⟨e | a, p'⟩ | ⟨h, p'⟩ <;> rfl

@[simp] theorem run_takeId (p : Session × Clock) :
    takeId.run p =
      .ok (.ok p.1.nextPacketId)
        ({ p.1 with nextPacketId := Session.nextId p.1.nextPacketId }, p.2) := rfl

theorem run_waitUntil (t : Nat) (s : Session) (c : Clock) :
    (waitUntil t).run (s, c) = match Timed.waitUntil t (s, c) with
      | .ok _ p => .ok (.ok ()) p
      | .error h p => .error h p := by
  simp only [waitUntil, ExceptT.run, ExceptT.lift, ExceptT.mk, Functor.map, EStateM.map]
  rcases Timed.waitUntil t (s, c) with ⟨_, p⟩ | ⟨h, p⟩ <;> rfl

theorem run_waitUntil_free (t : Nat) (s : Session) {c : Clock} (free : c.limit = none) :
    (waitUntil t).run (s, c) = .ok (.ok ()) (s, { c with now := max c.now t }) := by
  rw [run_waitUntil]
  simp [Timed.waitUntil, free]

end Flow

open Gateway.Mqtt.Flow

/-! The building blocks of the session calls. -/

theorem sendPacket_run (p : Outbound) (s : Session) (c : Clock) :
    (sendPacket p).run (s, c) =
      match p.encode s.capacity with
      | .error e => .ok (.error (.ofPacket e)) (s, c)
      | .stops why => .error (.panic why) (s, c)
      | .ok bytes =>
        match s.link.send bytes with
        | (link, .error f) => .ok (.error (.transport f)) ({ s with link }, c)
        | (link, .ok ()) => .ok (.ok ()) ({ s with link, lastTx := c.now }, c) := by
  unfold sendPacket
  cases henc : p.encode s.capacity with
  | error e => simp [run_bind, henc]
  | stops why => simp [run_bind, henc]
  | ok bytes =>
    rcases hsend : s.link.send bytes with ⟨link, f | u⟩
    · simp [run_bind, henc, hsend]
    · simp [run_bind, henc, hsend]

theorem sendPacket_run_of_encode_error {p : Outbound} {s : Session} {e : PacketError}
    (refused : p.encode s.capacity = .error e) (c : Clock) :
    (sendPacket p).run (s, c) = .ok (.error (.ofPacket e)) (s, c) := by
  rw [sendPacket_run, refused]

def Session.wrote (now : Nat) (s : Session) (bytes : List UInt8) : Session :=
  { s with link := (s.link.send bytes).1, lastTx := now }

@[simp] theorem Session.wrote_options (now : Nat) (s : Session) (bytes : List UInt8) :
    (s.wrote now bytes).options = s.options := rfl

@[simp] theorem Session.wrote_capacity (now : Nat) (s : Session) (bytes : List UInt8) :
    (s.wrote now bytes).capacity = s.capacity := rfl

@[simp] theorem Session.wrote_rx (now : Nat) (s : Session) (bytes : List UInt8) :
    (s.wrote now bytes).rx = s.rx := rfl

theorem sendPacket_run_of_written {p : Outbound} {s : Session} {bytes : List UInt8}
    (encoded : p.encode s.capacity = .ok bytes) (ready : s.link.failSend = 0) (c : Clock) :
    (sendPacket p).run (s, c) = .ok (.ok ()) (s.wrote c.now bytes, c) := by
  obtain ⟨link, taken⟩ : ∃ link, s.link.send bytes = (link, .ok ()) := by
    unfold Link.send
    rw [if_neg (by omega)]
    exact ⟨_, rfl⟩
  simp only [sendPacket_run, encoded, taken, Session.wrote]

theorem sendPacket_run_of_refused {p : Outbound} {s : Session} {bytes : List UInt8}
    (encoded : p.encode s.capacity = .ok bytes) (failing : 0 < s.link.failSend) (c : Clock) :
    (sendPacket p).run (s, c) =
      .ok (.error (.transport .reset))
        ({ s with link := { s.link with failSend := s.link.failSend - 1 } }, c) := by
  have refused : s.link.send bytes =
      ({ s.link with failSend := s.link.failSend - 1 }, .error .reset) := by
    simp [Link.send, failing]
  simp only [sendPacket_run, encoded, refused]

@[simp] theorem classifyFront_run (len : Nat) (s : Session) (c : Clock) :
    (classifyFront len).run (s, c) = .ok (classify (s.rx.take len)) (s, c) := by
  simp only [classifyFront, run_bind, run_state]
  cases classify (s.rx.take len) <;> rfl

theorem acknowledge_run_atMostOnce (id : Option UInt16) (p : Session × Clock) :
    (acknowledge .atMostOnce id).run p = .ok (.ok ()) p := rfl

theorem acknowledge_run_atLeastOnce (id : UInt16) (p : Session × Clock) :
    (acknowledge .atLeastOnce (some id)).run p = (sendPacket (.ack ⟨.pubAck, id⟩)).run p := rfl

theorem acknowledge_run_exactlyOnce (id : UInt16) (p : Session × Clock) :
    (acknowledge .exactlyOnce (some id)).run p = (sendPacket (.ack ⟨.pubRec, id⟩)).run p := rfl

theorem answer_run_pubRel (id : UInt16) (p : Session × Clock) :
    (answer (.ack ⟨.pubRel, id⟩)).run p = (sendPacket (.ack ⟨.pubComp, id⟩)).run p := rfl

@[simp] theorem releaseHeld_run (s : Session) (c : Clock) :
    releaseHeld.run (s, c) = .ok (.ok ()) (s.release, c) := rfl

theorem requireConnected_run_of_connected {s : Session} (up : s.connected = true) (c : Clock) :
    requireConnected.run (s, c) = .ok (.ok ()) (s, c) := by
  simp [requireConnected, run_bind, up]

theorem requireConnected_run_of_down {s : Session} (down : s.connected = false) (c : Clock) :
    requireConnected.run (s, c) = .ok (.error .notConnected) (s, c) := by
  simp [requireConnected, run_bind, down]

@[simp] theorem dropLink_run (s : Session) (c : Clock) :
    dropLink.run (s, c) =
      .ok (.ok ()) (({ s with connected := false, link := s.link.close }).resetBuffers, c) := rfl

def SessionError.keepsLink : SessionError → Bool
  | .bufferTooSmall | .rejected => true
  | _ => false

theorem settle_run {α : Type} (m : Flow α) (s : Session) (c : Clock) :
    (settle m).run (s, c) = match m.run (s, c) with
      | .ok (.error e) (t, c') =>
        if e.keepsLink then .ok (.error e) (t, c')
        else .ok (.error e)
          (({ t with connected := false, link := t.link.close }).resetBuffers, c')
      | r => r := by
  simp only [settle, run_tryCatch]
  rcases m.run (s, c) with ⟨e | a, t, c'⟩ | ⟨h, t, c'⟩
  · cases e <;> simp [SessionError.keepsLink, run_bind]
  · rfl
  · rfl

theorem decodeHeld_run (bs : List UInt8) (p : Session × Clock) :
    (decodeHeld bs).run p = .ok ((Publish.decode bs).mapError MqttError.ofPacket) p := by
  unfold decodeHeld
  cases Publish.decode bs <;> rfl

end Gateway.Mqtt
