import Gateway.Proofs.Requests
import Mathlib.Data.List.TakeWhile

/-!
# What each request owes its caller

A request writes its packet once and then waits, under one deadline, for the frame that answers
it. Cut what it can read before that deadline into frames (`splitFrames`): its result is decided
by the first frame the wait does not read past. `answeredBy` says that frame answers it,
`unanswered` that the deadline passes first. Publishes and answers of another kind or for another
packet id, read meanwhile, never complete a request.
-/

namespace Gateway.Mqtt

/-- The wait for `want` over the frames `Fs` completes on a frame read as `f`: every frame before
it is a publish or decodes to a frame the wait does not want, and `f` is wanted and no publish. -/
def answeredBy (want : Frame → Bool) (Fs : List (List UInt8)) (f : Frame) : Prop :=
  ∃ pre F more, Fs = pre ++ F :: more ∧ (∀ G ∈ pre, passesWait want G = true) ∧
    classify F = .ok f ∧ want f = true ∧ f.isPublish = false

/-- The wait for `want` reads past every frame of `Fs` and the stream ends inside a frame that
fits the buffer: the deadline passes before anything completes it. -/
def unanswered (want : Frame → Bool) (Fs : List (List UInt8)) (tail : StreamEnd) : Prop :=
  (∀ G ∈ Fs, passesWait want G = true) ∧ tail.fault = none

theorem classify_error_kind {F : List UInt8} {e : SessionError} (failed : classify F = .error e) :
    e = .bufferTooSmall ∨ ∃ p, e = .protocol p := by
  unfold classify at failed
  split at failed
  · cases failed
  · cases failed
    exact .inr ⟨_, rfl⟩
  · rename_i fault _
    cases failed
    cases fault <;> simp [MqttError.ofPacket]

section Outcomes
variable {want : Frame → Bool} {Fs : List (List UInt8)} {tail : StreamEnd} {f : Frame}

theorem stopFrame_eq_some_iff {F : List UInt8} :
    stopFrame want Fs = some F ↔
      ∃ pre more, Fs = pre ++ F :: more ∧ (∀ G ∈ pre, passesWait want G = true) ∧
        passesWait want F = false := by
  induction Fs with
  | nil => simp [stopFrame]
  | cons G Gs ih =>
    by_cases passes : passesWait want G = true
    · have skip : stopFrame want (G :: Gs) = stopFrame want Gs := by
        simp [stopFrame, passes]
      rw [skip, ih]
      constructor
      · rintro ⟨pre, more, rfl, before, stops⟩
        exact ⟨G :: pre, more, rfl, by simpa [passes] using before, stops⟩
      · rintro ⟨pre, more, same, before, stops⟩
        cases pre with
        | nil =>
          simp only [List.nil_append, List.cons.injEq] at same
          rw [same.1] at passes
          simp [passes] at stops
        | cons H pre =>
          simp only [List.cons_append, List.cons.injEq] at same
          exact ⟨pre, more, same.2, fun K member => before K (by simp [member]), stops⟩
    · have here : stopFrame want (G :: Gs) = some G := by
        simp [stopFrame, passes]
      rw [here]
      constructor
      · rintro ⟨⟩
        exact ⟨[], Gs, rfl, by simp, by simpa using passes⟩
      · rintro ⟨pre, more, same, before, -⟩
        cases pre with
        | nil =>
          simp only [List.nil_append, List.cons.injEq] at same
          rw [same.1]
        | cons H pre =>
          simp only [List.cons_append, List.cons.injEq] at same
          rw [same.1] at passes
          exact absurd (before H (by simp)) passes

theorem stopFrame_eq_none_iff : stopFrame want Fs = none ↔ ∀ G ∈ Fs, passesWait want G = true := by
  simp [stopFrame, List.dropWhile_eq_nil_iff]

theorem passesWait_eq_false {F : List UInt8} (read : classify F = .ok f) :
    passesWait want F = false ↔ want f = true ∧ f.isPublish = false := by
  cases kind : f.isPublish <;> simp [passesWait, read, kind]

theorem answeredBy_iff_stop :
    answeredBy want Fs f ↔ ∃ F, stopFrame want Fs = some F ∧ classify F = .ok f := by
  constructor
  · rintro ⟨pre, F, more, rfl, before, read, wanted, plain⟩
    have stops := (passesWait_eq_false read).mpr ⟨wanted, plain⟩
    exact ⟨F, stopFrame_eq_some_iff.mpr ⟨pre, more, rfl, before, stops⟩, read⟩
  · rintro ⟨F, stop, read⟩
    obtain ⟨pre, more, rfl, before, stops⟩ := stopFrame_eq_some_iff.mp stop
    obtain ⟨wanted, plain⟩ := (passesWait_eq_false read).mp stops
    exact ⟨pre, F, more, rfl, before, read, wanted, plain⟩

theorem waitOutcome_eq_ok_iff : waitOutcome want Fs tail = .ok f ↔ answeredBy want Fs f := by
  rw [answeredBy_iff_stop]
  unfold waitOutcome
  cases stop : stopFrame want Fs with
  | none => simp
  | some F => simp

theorem wanted_of_waitOutcome (answer : waitOutcome want Fs tail = .ok f) :
    want f = true ∧ f.isPublish = false := by
  obtain ⟨_, _, _, -, -, -, wanted, plain⟩ := waitOutcome_eq_ok_iff.mp answer
  exact ⟨wanted, plain⟩

theorem answeredBy_iff_of_waitOutcome {g : Frame} (outcome : waitOutcome want Fs tail = .ok f) :
    answeredBy want Fs g ↔ g = f := by
  constructor
  · intro answer
    have read : waitOutcome want Fs tail = .ok g := waitOutcome_eq_ok_iff.mpr answer
    rw [outcome] at read
    cases read
    rfl
  · rintro rfl
    exact waitOutcome_eq_ok_iff.mp outcome

theorem not_answeredBy_of_waitOutcome {g : Frame} {e : SessionError}
    (outcome : waitOutcome want Fs tail = .error e) : ¬answeredBy want Fs g := fun answer => by
  have read : waitOutcome want Fs tail = .ok g := waitOutcome_eq_ok_iff.mpr answer
  rw [outcome] at read
  cases read

theorem waitOutcome_error_kind {e : SessionError} (failed : waitOutcome want Fs tail = .error e) :
    e = .timeout ∨ e = .bufferTooSmall ∨ ∃ p, e = .protocol p := by
  unfold waitOutcome at failed
  cases stop : stopFrame want Fs with
  | some F =>
    rw [stop] at failed
    exact .inr (classify_error_kind failed)
  | none =>
    rw [stop] at failed
    cases tail <;> simp [StreamEnd.fault] at failed <;> simp [← failed]

theorem waitOutcome_eq_timeout_iff :
    waitOutcome want Fs tail = .error .timeout ↔ unanswered want Fs tail := by
  unfold waitOutcome unanswered
  rw [← stopFrame_eq_none_iff]
  cases stop : stopFrame want Fs with
  | some F =>
    have late : classify F ≠ .error .timeout := fun failed => by
      simpa using classify_error_kind failed
    simp [late]
  | none => cases tail <;> simp [StreamEnd.fault]

end Outcomes

/-! What each request waits for, and what it makes of the frame that ends its wait. -/

theorem isConnAck_eq_true {f : Frame} : isConnAck f = true ↔ ∃ code, f = .connAck code := by
  cases f <;> simp [isConnAck]

theorem isSubAckFor_eq_true {k : UInt16} {f : Frame} :
    isSubAckFor k f = true ↔ ∃ rejected, f = .subAck k rejected := by
  cases f <;> simp [isSubAckFor]

theorem isAck_eq_true {kind : AckKind} {k : UInt16} {f : Frame} :
    isAck kind k f = true ↔ f = .ack ⟨kind, k⟩ := by
  cases f with
  | ack a =>
    cases a
    simp [isAck]
  | _ => simp [isAck]

section Results
variable {Fs Gs : List (List UInt8)} {tail tail' : StreamEnd} {k : UInt16}

theorem connectResult_eq_ok_iff :
    connectResult (waitOutcome isConnAck Fs tail) = .ok () ↔ answeredBy isConnAck Fs (.connAck 0) := by
  cases outcome : waitOutcome isConnAck Fs tail with
  | error e => simp [connectResult, not_answeredBy_of_waitOutcome outcome]
  | ok f =>
    obtain ⟨code, rfl⟩ := isConnAck_eq_true.mp (wanted_of_waitOutcome outcome).1
    by_cases accepted : code = 0
    · subst accepted
      simp [connectResult, answeredBy_iff_of_waitOutcome outcome]
    · simp [connectResult, answeredBy_iff_of_waitOutcome outcome, Ne.symm accepted]

theorem connectResult_eq_refused_iff {reason : ConnectReasonCode} :
    connectResult (waitOutcome isConnAck Fs tail) = .error (.connectionRefused reason) ↔
      ∃ code, code ≠ 0 ∧ answeredBy isConnAck Fs (.connAck code) ∧
        reason = .ofCode code.toNat := by
  cases outcome : waitOutcome isConnAck Fs tail with
  | error e =>
    have kind := waitOutcome_error_kind outcome
    simp only [connectResult, Except.error.injEq, not_answeredBy_of_waitOutcome outcome,
      false_and, and_false, exists_false, iff_false]
    rintro rfl
    rcases kind with same | same | ⟨p, same⟩ <;> cases same
  | ok f =>
    obtain ⟨code, rfl⟩ := isConnAck_eq_true.mp (wanted_of_waitOutcome outcome).1
    by_cases accepted : code = 0
    · subst accepted
      simp only [connectResult, reduceCtorEq, false_iff, not_exists, not_and,
        answeredBy_iff_of_waitOutcome outcome, Frame.connAck.injEq]
      intro code nonzero same
      exact absurd same nonzero
    · have refused : connectResult (.ok (.connAck code)) =
          .error (.connectionRefused (.ofCode code.toNat)) := by
        simp only [connectResult]
      rw [refused]
      constructor
      · intro same
        cases same
        exact ⟨code, accepted, (answeredBy_iff_of_waitOutcome outcome).mpr rfl, rfl⟩
      · rintro ⟨code', -, answered, rfl⟩
        cases (answeredBy_iff_of_waitOutcome outcome).mp answered
        rfl

theorem connectResult_eq_timeout_iff :
    connectResult (waitOutcome isConnAck Fs tail) = .error .timeout ↔ unanswered isConnAck Fs tail := by
  rw [← waitOutcome_eq_timeout_iff]
  cases waitOutcome isConnAck Fs tail with
  | error e => simp [connectResult]
  | ok f =>
    cases f with
    | connAck code => by_cases accepted : code = 0 <;> simp [connectResult, accepted]
    | _ => simp [connectResult]

theorem subscribeResult_eq_ok_iff :
    subscribeResult (waitOutcome (isSubAckFor k) Fs tail) = .ok () ↔
      answeredBy (isSubAckFor k) Fs (.subAck k false) := by
  cases outcome : waitOutcome (isSubAckFor k) Fs tail with
  | error e => simp [subscribeResult, not_answeredBy_of_waitOutcome outcome]
  | ok f =>
    obtain ⟨rejected, rfl⟩ := isSubAckFor_eq_true.mp (wanted_of_waitOutcome outcome).1
    cases rejected <;> simp [subscribeResult, answeredBy_iff_of_waitOutcome outcome]

theorem subscribeResult_eq_rejected_iff :
    subscribeResult (waitOutcome (isSubAckFor k) Fs tail) = .error .rejected ↔
      answeredBy (isSubAckFor k) Fs (.subAck k true) := by
  cases outcome : waitOutcome (isSubAckFor k) Fs tail with
  | error e =>
    have kind := waitOutcome_error_kind outcome
    simp only [subscribeResult, Except.error.injEq, not_answeredBy_of_waitOutcome outcome,
      iff_false]
    rintro rfl
    rcases kind with same | same | ⟨p, same⟩ <;> cases same
  | ok f =>
    obtain ⟨rejected, rfl⟩ := isSubAckFor_eq_true.mp (wanted_of_waitOutcome outcome).1
    cases rejected <;> simp [subscribeResult, answeredBy_iff_of_waitOutcome outcome]

theorem subscribeResult_eq_timeout_iff :
    subscribeResult (waitOutcome (isSubAckFor k) Fs tail) = .error .timeout ↔
      unanswered (isSubAckFor k) Fs tail := by
  rw [← waitOutcome_eq_timeout_iff]
  cases waitOutcome (isSubAckFor k) Fs tail with
  | error e => simp [subscribeResult]
  | ok f =>
    cases f with
    | subAck i rejected => cases rejected <;> simp [subscribeResult]
    | _ => simp [subscribeResult]

theorem ackResult_eq_ok_iff {kind : AckKind} :
    (waitOutcome (isAck kind k) Fs tail).map (fun _ => ()) = .ok () ↔
      answeredBy (isAck kind k) Fs (.ack ⟨kind, k⟩) := by
  cases outcome : waitOutcome (isAck kind k) Fs tail with
  | error e => simp [Except.map, not_answeredBy_of_waitOutcome outcome]
  | ok f =>
    obtain rfl := isAck_eq_true.mp (wanted_of_waitOutcome outcome).1
    simp [Except.map, answeredBy_iff_of_waitOutcome outcome]

theorem ackResult_eq_timeout_iff {kind : AckKind} :
    (waitOutcome (isAck kind k) Fs tail).map (fun _ => ()) = .error .timeout ↔
      unanswered (isAck kind k) Fs tail := by
  rw [← waitOutcome_eq_timeout_iff]
  cases waitOutcome (isAck kind k) Fs tail <;> simp [Except.map]

theorem handoverResult_eq_ok_iff :
    ((waitOutcome (isAck .pubRec k) Fs tail).bind fun _ =>
        (waitOutcome (isAck .pubComp k) Gs tail').map fun _ => ()) = .ok () ↔
      answeredBy (isAck .pubRec k) Fs (.ack ⟨.pubRec, k⟩) ∧
        answeredBy (isAck .pubComp k) Gs (.ack ⟨.pubComp, k⟩) := by
  cases outcome : waitOutcome (isAck .pubRec k) Fs tail with
  | error e => simp [Except.bind, not_answeredBy_of_waitOutcome outcome]
  | ok f =>
    obtain rfl := isAck_eq_true.mp (wanted_of_waitOutcome outcome).1
    simp only [Except.bind]
    rw [ackResult_eq_ok_iff]
    simp [answeredBy_iff_of_waitOutcome outcome]

theorem handoverResult_eq_timeout_iff :
    ((waitOutcome (isAck .pubRec k) Fs tail).bind fun _ =>
        (waitOutcome (isAck .pubComp k) Gs tail').map fun _ => ()) = .error .timeout ↔
      unanswered (isAck .pubRec k) Fs tail ∨
        answeredBy (isAck .pubRec k) Fs (.ack ⟨.pubRec, k⟩) ∧
          unanswered (isAck .pubComp k) Gs tail' := by
  rw [← waitOutcome_eq_timeout_iff]
  cases outcome : waitOutcome (isAck .pubRec k) Fs tail with
  | error e => simp [Except.bind, not_answeredBy_of_waitOutcome outcome]
  | ok f =>
    obtain rfl := isAck_eq_true.mp (wanted_of_waitOutcome outcome).1
    simp only [Except.bind]
    rw [ackResult_eq_timeout_iff]
    simp [answeredBy_iff_of_waitOutcome outcome]

end Results

theorem headerGap_le_of_staged {size : Nat} {next : Stage → Except PacketError Stage} {header : UInt8}
    {bytes : List UInt8} (written : Stage.finishStaged ((Stage.start size).bind next) header = .ok bytes) :
    headerGap ≤ size := by
  by_contra small
  simp [Stage.start, small, Except.bind, Stage.finishStaged] at written

/-! The contract of each request, over the cut `Fs`/`tail` of what it can read before its
deadline. -/

/-- Connecting writes the CONNECT `bytes` and otherwise only replies to frames the wait reads past;
it succeeds exactly when the first CONNACK read accepts, is refused with that CONNACK's code
otherwise, and times out exactly when no CONNACK comes before the deadline. -/
def ConnectContract (s : Session) (c : Clock) (bytes : List UInt8) (Fs : List (List UInt8))
    (tail : StreamEnd) : Prop :=
  ∃ t c' r, connect.run (s, c) = .ok r (t, c') ∧
    t.link.sent = (replies (Fs.takeWhile (passesWait isConnAck))).reverse ++ bytes :: s.link.sent ∧
    (r = .ok () ↔ answeredBy isConnAck Fs (.connAck 0)) ∧
    (∀ reason, r = .error (.connectionRefused reason) ↔
      ∃ code, code ≠ 0 ∧ answeredBy isConnAck Fs (.connAck code) ∧ reason = .ofCode code.toNat) ∧
    (r = .error .timeout ↔ unanswered isConnAck Fs tail)

/-- Subscribing writes the SUBSCRIBE `bytes` with the session's next packet id `k`; it succeeds
on the SUBACK for `k` without the failure code, is rejected on the one with it, and times out
exactly when that SUBACK does not come before the deadline. -/
def SubscribeContract (s : Session) (c : Clock) (topic : String) (qos : QoS) (bytes : List UInt8)
    (Fs : List (List UInt8)) (tail : StreamEnd) : Prop :=
  ∃ t c' r, (subscribe topic qos).run (s, c) = .ok r (t, c') ∧
    t.link.sent = (replies (Fs.takeWhile (passesWait (isSubAckFor s.nextPacketId)))).reverse ++
      bytes :: s.link.sent ∧
    (r = .ok () ↔ answeredBy (isSubAckFor s.nextPacketId) Fs (.subAck s.nextPacketId false)) ∧
    (r = .error .rejected ↔ answeredBy (isSubAckFor s.nextPacketId) Fs (.subAck s.nextPacketId true)) ∧
    (r = .error .timeout ↔ unanswered (isSubAckFor s.nextPacketId) Fs tail)

def PublishAtMostOnceContract (s : Session) (c : Clock) (topic : String) (payload : List UInt8)
    (bytes : List UInt8) : Prop :=
  ∃ t, (publish topic payload .atMostOnce).run (s, c) = .ok (.ok ()) (t, c) ∧
    t.link.sent = bytes :: s.link.sent

/-- A QoS 1 publish writes its PUBLISH `bytes` with packet id `k`, succeeds exactly on PUBACK(k)
and times out exactly when PUBACK(k) does not come before the deadline. -/
def PublishAtLeastOnceContract (s : Session) (c : Clock) (topic : String) (payload : List UInt8)
    (bytes : List UInt8) (Fs : List (List UInt8)) (tail : StreamEnd) : Prop :=
  ∃ t c' r, (publish topic payload .atLeastOnce).run (s, c) = .ok r (t, c') ∧
    t.link.sent = (replies (Fs.takeWhile (passesWait (isAck .pubAck s.nextPacketId)))).reverse ++
      bytes :: s.link.sent ∧
    (r = .ok () ↔ answeredBy (isAck .pubAck s.nextPacketId) Fs (.ack ⟨.pubAck, s.nextPacketId⟩)) ∧
    (r = .error .timeout ↔ unanswered (isAck .pubAck s.nextPacketId) Fs tail)

/-- A QoS 2 publish writes its PUBLISH `bytes` with packet id `k`; once PUBREC(k) is read it
writes one PUBREL(k) and waits, under the same deadline, for PUBCOMP(k) in the frames `Gs` read
after it. It succeeds exactly when both come. -/
def PublishExactlyOnceContract (s : Session) (c : Clock) (topic : String) (payload : List UInt8)
    (bytes : List UInt8) (Fs Gs : List (List UInt8)) (tail tail' : StreamEnd) : Prop :=
  ∃ t c' r, (publish topic payload .exactlyOnce).run (s, c) = .ok r (t, c') ∧
    (answeredBy (isAck .pubRec s.nextPacketId) Fs (.ack ⟨.pubRec, s.nextPacketId⟩) →
      t.link.sent =
        (replies (Gs.takeWhile (passesWait (isAck .pubComp s.nextPacketId)))).reverse ++
          Ack.bytes ⟨.pubRel, s.nextPacketId⟩ ::
            (replies (Fs.takeWhile (passesWait (isAck .pubRec s.nextPacketId)))).reverse ++
              bytes :: s.link.sent) ∧
    (¬answeredBy (isAck .pubRec s.nextPacketId) Fs (.ack ⟨.pubRec, s.nextPacketId⟩) →
      t.link.sent = (replies (Fs.takeWhile (passesWait (isAck .pubRec s.nextPacketId)))).reverse ++
        bytes :: s.link.sent) ∧
    (r = .ok () ↔ answeredBy (isAck .pubRec s.nextPacketId) Fs (.ack ⟨.pubRec, s.nextPacketId⟩) ∧
      answeredBy (isAck .pubComp s.nextPacketId) Gs (.ack ⟨.pubComp, s.nextPacketId⟩)) ∧
    (r = .error .timeout ↔ unanswered (isAck .pubRec s.nextPacketId) Fs tail ∨
      answeredBy (isAck .pubRec s.nextPacketId) Fs (.ack ⟨.pubRec, s.nextPacketId⟩) ∧
        unanswered (isAck .pubComp s.nextPacketId) Gs tail')

section Calls
variable {s : Session} {c : Clock} {topic : String} {qos : QoS} {payload bytes : List UInt8}
  {Fs Gs : List (List UInt8)} {tail tail' : StreamEnd}

theorem connect_meets_contract (down : s.connected = false) (opening : s.link.failOpen = 0)
    (steady : s.link.Steady) (writable : s.link.failSend = 0) (free : c.limit = none)
    (encoded : s.connectPacket.encode s.capacity = .ok bytes)
    (split : splitFrames s.capacity ((s.opened.wrote c.now bytes).visible c.now
      (c.now + s.options.ackTimeout)) = (Fs, tail)) :
    ConnectContract s c bytes Fs tail := by
  have room : 4 ≤ s.capacity := by
    have gap := headerGap_le_of_staged encoded
    unfold headerGap at gap
    omega
  obtain ⟨t, u, c', run, moved, -, shape⟩ :=
    connect_run down opening (Session.opened_ready steady writable room) free encoded split
  refine ⟨t, c', _, run, ?_, connectResult_eq_ok_iff, fun _ => connectResult_eq_refused_iff,
    connectResult_eq_timeout_iff⟩
  -- Whether the handshake failed or not, the session keeps the log of the link it waited on.
  have sent : u.link.sent =
      (replies (Fs.takeWhile (passesWait isConnAck))).reverse ++ bytes :: s.link.sent := by
    rw [← Session.norm_sent, moved, waited_sent_after_write (u := s.opened) writable]
    rfl
  rw [shape]
  split <;> simp [sent, Link.close, Session.resetBuffers]

theorem subscribe_meets_contract (up : s.connected = true) (reading : s.Reading)
    (writable : s.link.failSend = 0) (free : c.limit = none)
    (encoded : (Outbound.subscribe ⟨s.nextPacketId, [(topic, qos)]⟩).encode s.capacity = .ok bytes)
    (split : splitFrames s.capacity ((s.release.tookId.wrote c.now bytes).visible c.now
      (c.now + s.options.ackTimeout)) = (Fs, tail)) :
    SubscribeContract s c topic qos bytes Fs tail := by
  have room : 4 ≤ s.capacity := by
    have gap := headerGap_le_of_staged encoded
    unfold headerGap at gap
    omega
  obtain ⟨t, c', run, sent⟩ := subscribe_run up ⟨reading, writable, room⟩ free encoded split
  exact ⟨t, c', _, run, sent, subscribeResult_eq_ok_iff, subscribeResult_eq_rejected_iff,
    subscribeResult_eq_timeout_iff⟩

theorem publish_meets_contract_atMostOnce (up : s.connected = true)
    (writable : s.link.failSend = 0)
    (encoded : (Outbound.publish ⟨topic, .atMostOnce, payload, none⟩).encode s.capacity = .ok bytes) :
    PublishAtMostOnceContract s c topic payload bytes := by
  obtain ⟨run, sent⟩ := publish_run_atMostOnce (c := c) up writable encoded
  exact ⟨_, run, sent⟩

theorem publish_meets_contract_atLeastOnce (up : s.connected = true) (reading : s.Reading)
    (writable : s.link.failSend = 0) (free : c.limit = none)
    (encoded : (Outbound.publish ⟨topic, .atLeastOnce, payload, some s.nextPacketId⟩).encode
      s.capacity = .ok bytes)
    (split : splitFrames s.capacity ((s.release.tookId.wrote c.now bytes).visible c.now
      (c.now + s.options.ackTimeout)) = (Fs, tail)) :
    PublishAtLeastOnceContract s c topic payload bytes Fs tail := by
  have room : 4 ≤ s.capacity := by
    have gap := headerGap_le_of_staged encoded
    unfold headerGap at gap
    omega
  obtain ⟨t, c', run, sent⟩ := publish_run_atLeastOnce up ⟨reading, writable, room⟩ free encoded split
  exact ⟨t, c', _, run, sent, ackResult_eq_ok_iff, ackResult_eq_timeout_iff⟩

theorem publish_meets_contract_exactlyOnce (up : s.connected = true) (reading : s.Reading)
    (writable : s.link.failSend = 0) (free : c.limit = none)
    (encoded : (Outbound.publish ⟨topic, .exactlyOnce, payload, some s.nextPacketId⟩).encode
      s.capacity = .ok bytes)
    (split : splitFrames s.capacity ((s.release.tookId.wrote c.now bytes).visible c.now
      (c.now + s.options.ackTimeout)) = (Fs, tail))
    (split' : splitFrames s.capacity
      (((s.release.tookId.wrote c.now bytes).visible c.now (c.now + s.options.ackTimeout)).drop
          (Fs.take ((Fs.takeWhile (passesWait (isAck .pubRec s.nextPacketId))).length + 1)).flatten.length ++
        if 0 < s.options.ackTimeout then s.link.broker.queued (Ack.bytes ⟨.pubRel, s.nextPacketId⟩)
        else []) = (Gs, tail')) :
    PublishExactlyOnceContract s c topic payload bytes Fs Gs tail tail' := by
  have room : 4 ≤ s.capacity := by
    have gap := headerGap_le_of_staged encoded
    unfold headerGap at gap
    omega
  obtain ⟨t, c', run, sent⟩ :=
    publish_run_exactlyOnce up ⟨reading, writable, room⟩ free encoded split split'
  refine ⟨t, c', _, run, ?_, ?_, handoverResult_eq_ok_iff, handoverResult_eq_timeout_iff⟩
  -- The log depends only on whether the PUBREC came, which is what the first wait ended on.
  · intro answer
    rw [waitOutcome_eq_ok_iff.mpr answer] at sent
    exact sent
  · intro unanswered
    cases outcome : waitOutcome (isAck .pubRec s.nextPacketId) Fs tail with
    | ok f =>
      obtain rfl := isAck_eq_true.mp (wanted_of_waitOutcome outcome).1
      exact absurd (waitOutcome_eq_ok_iff.mp outcome) unanswered
    | error e =>
      rw [outcome] at sent
      exact sent

end Calls

/-- Every request writes its packet once and completes on its own answer, read before one
deadline `now + ackTimeout`: connect on the first CONNACK, subscribe on the SUBACK for its id,
a QoS 1 publish on PUBACK for its id, a QoS 2 publish on PUBREC then, after one PUBREL, PUBCOMP
for its id; a QoS 0 publish completes once written. The link opens and writes, and the peer only
sends bytes. -/
theorem requests_meet_contracts :
    (∀ (s : Session) (c : Clock) (bytes : List UInt8) (Fs : List (List UInt8)) (tail : StreamEnd),
      s.connected = false → s.link.failOpen = 0 → s.link.Steady → s.link.failSend = 0 →
      c.limit = none → s.connectPacket.encode s.capacity = .ok bytes →
      splitFrames s.capacity ((s.opened.wrote c.now bytes).visible c.now
        (c.now + s.options.ackTimeout)) = (Fs, tail) →
      ConnectContract s c bytes Fs tail) ∧
    (∀ (s : Session) (c : Clock) (topic : String) (qos : QoS) (bytes : List UInt8)
        (Fs : List (List UInt8)) (tail : StreamEnd),
      s.connected = true → s.Reading → s.link.failSend = 0 → c.limit = none →
      (Outbound.subscribe ⟨s.nextPacketId, [(topic, qos)]⟩).encode s.capacity = .ok bytes →
      splitFrames s.capacity ((s.release.tookId.wrote c.now bytes).visible c.now
        (c.now + s.options.ackTimeout)) = (Fs, tail) →
      SubscribeContract s c topic qos bytes Fs tail) ∧
    (∀ (s : Session) (c : Clock) (topic : String) (payload bytes : List UInt8),
      s.connected = true → s.link.failSend = 0 →
      (Outbound.publish ⟨topic, .atMostOnce, payload, none⟩).encode s.capacity = .ok bytes →
      PublishAtMostOnceContract s c topic payload bytes) ∧
    (∀ (s : Session) (c : Clock) (topic : String) (payload bytes : List UInt8)
        (Fs : List (List UInt8)) (tail : StreamEnd),
      s.connected = true → s.Reading → s.link.failSend = 0 → c.limit = none →
      (Outbound.publish ⟨topic, .atLeastOnce, payload, some s.nextPacketId⟩).encode s.capacity =
        .ok bytes →
      splitFrames s.capacity ((s.release.tookId.wrote c.now bytes).visible c.now
        (c.now + s.options.ackTimeout)) = (Fs, tail) →
      PublishAtLeastOnceContract s c topic payload bytes Fs tail) ∧
    (∀ (s : Session) (c : Clock) (topic : String) (payload bytes : List UInt8)
        (Fs Gs : List (List UInt8)) (tail tail' : StreamEnd),
      s.connected = true → s.Reading → s.link.failSend = 0 → c.limit = none →
      (Outbound.publish ⟨topic, .exactlyOnce, payload, some s.nextPacketId⟩).encode s.capacity =
        .ok bytes →
      splitFrames s.capacity ((s.release.tookId.wrote c.now bytes).visible c.now
        (c.now + s.options.ackTimeout)) = (Fs, tail) →
      -- After PUBREC the second wait reads on from behind it, with the broker's answer to the
      -- PUBREL queued if the deadline has not passed.
      splitFrames s.capacity
        (((s.release.tookId.wrote c.now bytes).visible c.now (c.now + s.options.ackTimeout)).drop
            (Fs.take ((Fs.takeWhile (passesWait (isAck .pubRec s.nextPacketId))).length + 1)).flatten.length ++
          if 0 < s.options.ackTimeout then s.link.broker.queued (Ack.bytes ⟨.pubRel, s.nextPacketId⟩)
          else []) = (Gs, tail') →
      PublishExactlyOnceContract s c topic payload bytes Fs Gs tail tail') := by
  refine ⟨?_, ?_, ?_, ?_, ?_⟩
  · intro s c bytes Fs tail down opening steady writable free encoded split
    exact connect_meets_contract down opening steady writable free encoded split
  · intro s c topic qos bytes Fs tail up reading writable free encoded split
    exact subscribe_meets_contract up reading writable free encoded split
  · intro s c topic payload bytes up writable encoded
    exact publish_meets_contract_atMostOnce up writable encoded
  · intro s c topic payload bytes Fs tail up reading writable free encoded split
    exact publish_meets_contract_atLeastOnce up reading writable free encoded split
  · intro s c topic payload bytes Fs Gs tail tail' up reading writable free encoded split split'
    exact publish_meets_contract_exactlyOnce up reading writable free encoded split split'

/-- The contracts of every request, over a broker that answers each one at once. -/
theorem requests_meet_contracts_with_answering_broker :
    (∃ Fs tail, ConnectContract
      { options := {}, capacity := 64, link := { incoming := [], broker := { auto := true } } }
      ⟨0, none⟩ [16, 15, 0, 4, 77, 81, 84, 84, 4, 2, 0, 60, 0, 3, 100, 101, 118] Fs tail) ∧
    (∃ Fs tail, SubscribeContract
      { options := {}, capacity := 64, link := { incoming := [], broker := { auto := true } },
        connected := true }
      ⟨0, none⟩ "a" .atMostOnce [130, 6, 0, 1, 0, 1, 97, 0] Fs tail) ∧
    PublishAtMostOnceContract
      { options := {}, capacity := 64, link := { incoming := [], broker := { auto := true } },
        connected := true }
      ⟨0, none⟩ "a" [1] [48, 4, 0, 1, 97, 1] ∧
    (∃ Fs tail, PublishAtLeastOnceContract
      { options := {}, capacity := 64, link := { incoming := [], broker := { auto := true } },
        connected := true }
      ⟨0, none⟩ "a" [1] [50, 6, 0, 1, 97, 0, 1, 1] Fs tail) ∧
    (∃ Fs Gs tail tail', PublishExactlyOnceContract
      { options := {}, capacity := 64, link := { incoming := [], broker := { auto := true } },
        connected := true }
      ⟨0, none⟩ "a" [1] [52, 6, 0, 1, 97, 0, 1, 1] Fs Gs tail tail') := by
  have steady : Link.Steady { incoming := [], broker := { auto := true } } := by
    simp [Link.Steady]
  obtain ⟨connects, subscribes, quick, once, handover⟩ := requests_meet_contracts
  refine ⟨⟨_, _, connects _ _ _ _ _ rfl rfl steady rfl rfl (by decide +kernel) rfl⟩,
    ⟨_, _, subscribes _ _ _ _ _ _ _ rfl ⟨by simp, steady⟩ rfl rfl (by decide +kernel) rfl⟩,
    quick _ _ _ _ _ rfl rfl (by decide +kernel),
    ⟨_, _, once _ _ _ _ _ _ _ rfl ⟨by simp, steady⟩ rfl rfl (by decide +kernel) rfl⟩,
    ⟨_, _, _, _, handover _ _ _ _ _ _ _ _ _ rfl ⟨by simp, steady⟩ rfl rfl (by decide +kernel) rfl rfl⟩⟩

end Gateway.Mqtt
