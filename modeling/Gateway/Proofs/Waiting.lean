import Gateway.Proofs.Replies
/-!
The two reading loops of a session. `waitFor` reads frames until one is wanted, acknowledging
and parking the publishes it meets on the way and answering the rest; `seekPublish` reads until
a publish stands at the front of the buffer. Each is specified by the cut of the bytes it can
take into whole frames (`splitFrames` of `Session.visible`): it reads past a run of frames, each
by `Session.pass`, and then stops at the first frame it does not pass over, or, when the frames
run out, reports how the stream goes on. A loop's fuel only has to exceed the frames it passes.
-/
namespace Gateway.Mqtt
open Gateway.Mqtt.Flow

/-- What a read reports when the whole frames run out: nothing while the stream merely stops
inside a frame, else the refusal of the next frame. -/
def StreamEnd.fault : StreamEnd → Option SessionError
  | .pending _ => none
  | .oversized => some (.protocol .payloadTooLarge)
  | .malformed => some (.protocol .malformedPacket)

/-- A wait for `want` reads on past a publish and past a frame it does not want; it stops at a
wanted frame and at one that does not decode. -/
def passesWait (want : Frame → Bool) (F : List UInt8) : Bool :=
  match classify F with
  | .ok f => f.isPublish || !want f
  | .error _ => false

def passesSeek (F : List UInt8) : Bool :=
  match classify F with
  | .ok f => !f.isPublish
  | .error _ => false

theorem Session.stream_lt_budget (s : Session) : s.link.stream.length < s.budget := by
  simp only [Session.budget, Link.pendingBytes_eq]
  omega

section Reads
variable {deadline fuel : Nat} {s : Session} {c : Clock} {tail : StreamEnd}

theorem readFrame_of_split_fault {e : SessionError}
    (split : splitFrames s.capacity (s.visible c.now deadline) = ([], tail))
    (faulty : tail.fault = some e) (reading : s.Reading) (enough : s.link.stream.length < fuel) :
    ∃ t, (readFrame deadline fuel).run (s, c) = .ok (.error e) (t, c) ∧ t.norm = s.norm ∧
      t.Reading := by
  cases tail with
  | pending rest => cases faulty
  | oversized =>
    cases faulty
    exact readFrame_of_split_oversized split reading enough
  | malformed =>
    cases faulty
    exact readFrame_of_split_malformed split reading enough

end Reads

section WaitSteps
variable {deadline fuel len : Nat} {want : Frame → Bool} {s t : Session} {c c' : Clock}

theorem waitFor_run_of_none {p : Session × Clock}
    (read : (readFrame deadline s.budget).run (s, c) = .ok (.ok none) p) :
    (waitFor deadline want (fuel + 1)).run (s, c) = .ok (.error .timeout) p := by
  simp [waitFor, run_bind, read]

theorem waitFor_run_of_error {p : Session × Clock} {e : SessionError}
    (read : (readFrame deadline s.budget).run (s, c) = .ok (.error e) p) :
    (waitFor deadline want (fuel + 1)).run (s, c) = .ok (.error e) p := by
  simp [waitFor, run_bind, read]

theorem waitFor_run_of_refused {e : SessionError}
    (read : (readFrame deadline s.budget).run (s, c) = .ok (.ok (some len)) (t, c'))
    (refused : classify (t.rx.take len) = .error e) :
    (waitFor deadline want (fuel + 1)).run (s, c) = .ok (.error e) (t, c') := by
  simp [waitFor, run_bind, read, refused]

theorem waitFor_run_of_publish {q : QoS} {id : Option UInt16}
    (read : (readFrame deadline s.budget).run (s, c) = .ok (.ok (some len)) (t, c'))
    (classified : classify (t.rx.take len) = .ok (.publish q id)) :
    (waitFor deadline want (fuel + 1)).run (s, c) =
      (acknowledge q id >>= fun _ => state >>= fun u => put (u.stashFrame len) >>= fun _ =>
        waitFor deadline want fuel).run (t, c') := by
  simp [waitFor, run_bind, read, classified]

theorem waitFor_run_of_other {f : Frame}
    (read : (readFrame deadline s.budget).run (s, c) = .ok (.ok (some len)) (t, c'))
    (classified : classify (t.rx.take len) = .ok f) (other : f.isPublish = false) :
    (waitFor deadline want (fuel + 1)).run (s, c) =
      if want f then .ok (.ok f) (t.consume len, c')
      else (answer f >>= fun _ => waitFor deadline want fuel).run (t.consume len, c') := by
  simp only [waitFor, run_bind, run_state, read, classifyFront_run, classified]
  -- Every frame but a publish takes the second arm of the loop; only the return of a wanted
  -- frame is left to `rfl`, as `simp` leaves its state update mapped over the value.
  cases f with
  | publish q id => cases other
  | connAck code => by_cases wanted : want (.connAck code) <;> simp [run_bind, wanted]; rfl
  | ack a => by_cases wanted : want (.ack a) <;> simp [run_bind, wanted]; rfl
  | subAck id rejected =>
    by_cases wanted : want (.subAck id rejected) <;> simp [run_bind, wanted]; rfl
  | pingResp => by_cases wanted : want .pingResp <;> simp [run_bind, wanted]; rfl

end WaitSteps

section WaitRuns
variable {deadline fuel : Nat} {want : Frame → Bool} {s : Session} {c : Clock}
  {F : List UInt8} {Fs : List (List UInt8)} {tail : StreamEnd}

theorem waitFor_run_pass (fuel : Nat) (ready : s.Ready)
    (split : splitFrames s.capacity (s.visible c.now deadline) = (F :: Fs, tail))
    (passes : passesWait want F = true) :
    ∃ u, (waitFor deadline want (fuel + 1)).run (s, c) = (waitFor deadline want fuel).run (u, c) ∧
      u.norm = s.norm.pass c.now F ∧ u.Ready ∧
      u.visible c.now deadline = (s.visible c.now deadline).drop F.length ∧
      splitFrames u.capacity (u.visible c.now deadline) = (Fs, tail) := by
  obtain ⟨-, -, rest, front, restSplit⟩ := splitFrames_eq_cons split
  obtain ⟨t, read, same, reading, held, visible⟩ :=
    readFrame_of_split_cons split ready.reading s.stream_lt_budget
  have taken : t.rx.take F.length = F := (List.prefix_iff_eq_take.mp held).symm
  have long : F.length ≤ t.rx.length := held.length_le
  have ready' : t.Ready := ready.of_norm same reading
  have past : (t.pass c.now F).visible c.now deadline = (s.visible c.now deadline).drop F.length := by
    rw [Session.visible_pass long, visible]
  refine ⟨t.pass c.now F, ?_, by rw [Session.norm_pass long, same], ready'.pass _ _, past, ?_⟩
  · cases classified : classify F with
    | error e => simp [passesWait, classified] at passes
    | ok f =>
      cases kind : f.isPublish with
      | true =>
        obtain ⟨q, id, rfl⟩ := Frame.isPublish_iff.mp kind
        have pub : isPublish F = true := by simp [isPublish, classified, Frame.isPublish]
        rw [waitFor_run_of_publish read (by rw [taken]; exact classified),
          run_bind_ok (acknowledge_run_frame classified ready'.writable ready'.room c)]
        simp [run_bind, Session.pass, pub]
      | false =>
        have unwanted : want f = false := by simpa [passesWait, classified, kind] using passes
        have pub : isPublish F = false := by simp [isPublish, classified, kind]
        have consumed : (t.consume F.length).Ready := ready'.consume F.length
        rw [waitFor_run_of_other read (by rw [taken]; exact classified) kind, if_neg (by simp [unwanted]),
          run_bind_ok (answer_run_frame classified pub consumed.writable consumed.room c)]
        simp [Session.pass, pub, Session.answered_consume]
  · rw [past, front, List.drop_left, Session.pass_capacity, Session.capacity_eq_of_norm same]
    exact restSplit

theorem waitFor_run_passing (fuel : Nat) {pre : List (List UInt8)} (ready : s.Ready)
    (split : splitFrames s.capacity (s.visible c.now deadline) = (pre ++ Fs, tail))
    (passing : ∀ F ∈ pre, passesWait want F = true) :
    ∃ u, (waitFor deadline want (pre.length + fuel)).run (s, c) =
        (waitFor deadline want fuel).run (u, c) ∧
      u.norm = pre.foldl (Session.pass c.now) s.norm ∧ u.Ready ∧
      u.visible c.now deadline = (s.visible c.now deadline).drop pre.flatten.length ∧
      splitFrames u.capacity (u.visible c.now deadline) = (Fs, tail) := by
  induction pre generalizing s with
  | nil => exact ⟨s, by simp, rfl, ready, by simp, split⟩
  | cons F pre ih =>
    obtain ⟨u, step, moved, ready', past, split'⟩ :=
      waitFor_run_pass (pre.length + fuel) ready split (passing F (by simp))
    obtain ⟨v, run, moved', ready'', past', split''⟩ :=
      ih ready' split' (fun G member => passing G (by simp [member]))
    refine ⟨v, ?_, ?_, ready'', ?_, split''⟩
    · rw [List.length_cons, Nat.add_right_comm, step, run]
    · rw [moved', moved, List.foldl_cons]
    · rw [past', past, List.drop_drop, List.flatten_cons, List.length_append]

theorem waitFor_run_taken {f : Frame} (fuel : Nat) (ready : s.Ready)
    (split : splitFrames s.capacity (s.visible c.now deadline) = (F :: Fs, tail))
    (read : classify F = .ok f) (stops : passesWait want F = false) :
    ∃ t, (waitFor deadline want (fuel + 1)).run (s, c) = .ok (.ok f) (t, c) ∧
      t.norm = s.norm.consume F.length ∧ t.Ready ∧
      t.visible c.now deadline = (s.visible c.now deadline).drop F.length ∧
      splitFrames t.capacity (t.visible c.now deadline) = (Fs, tail) := by
  obtain ⟨-, -, rest, front, restSplit⟩ := splitFrames_eq_cons split
  obtain ⟨t, readRun, same, reading, held, visible⟩ :=
    readFrame_of_split_cons split ready.reading s.stream_lt_budget
  have taken : t.rx.take F.length = F := (List.prefix_iff_eq_take.mp held).symm
  have long : F.length ≤ t.rx.length := held.length_le
  obtain ⟨kind, wanted⟩ : f.isPublish = false ∧ want f = true := by
    simpa [passesWait, read] using stops
  have past : (t.consume F.length).visible c.now deadline =
      (s.visible c.now deadline).drop F.length := by
    rw [Session.visible_drop (t := t.consume F.length) long rfl rfl, visible]
  refine ⟨t.consume F.length, ?_, ?_, (ready.of_norm same reading).consume _, past, ?_⟩
  · rw [waitFor_run_of_other readRun (by rw [taken]; exact read) kind, if_pos wanted]
  · rw [Session.norm_consume long, same]
  · rw [past, front, List.drop_left, Session.consume, Session.capacity_eq_of_norm same]
    exact restSplit

theorem waitFor_run_refused {e : SessionError} (fuel : Nat) (ready : s.Ready)
    (split : splitFrames s.capacity (s.visible c.now deadline) = (F :: Fs, tail))
    (refused : classify F = .error e) :
    ∃ t, (waitFor deadline want (fuel + 1)).run (s, c) = .ok (.error e) (t, c) ∧
      t.norm = s.norm ∧ t.Ready := by
  obtain ⟨t, readRun, same, reading, held, -⟩ :=
    readFrame_of_split_cons split ready.reading s.stream_lt_budget
  have taken : t.rx.take F.length = F := (List.prefix_iff_eq_take.mp held).symm
  exact ⟨t, waitFor_run_of_refused readRun (by rw [taken]; exact refused), same,
    ready.of_norm same reading⟩

theorem waitFor_run_pending {rest : List UInt8} (fuel : Nat) (ready : s.Ready)
    (free : c.limit = none)
    (split : splitFrames s.capacity (s.visible c.now deadline) = ([], .pending rest)) :
    ∃ t, (waitFor deadline want (fuel + 1)).run (s, c) =
        .ok (.error .timeout) (t, { c with now := max c.now deadline }) ∧
      t.norm = s.norm ∧ t.Ready := by
  obtain ⟨t, readRun, same, reading⟩ :=
    readFrame_of_split_pending split ready.reading free s.stream_lt_budget
  exact ⟨t, waitFor_run_of_none readRun, same, ready.of_norm same reading⟩

theorem waitFor_run_fault {e : SessionError} (fuel : Nat) (ready : s.Ready)
    (split : splitFrames s.capacity (s.visible c.now deadline) = ([], tail))
    (faulty : tail.fault = some e) :
    ∃ t, (waitFor deadline want (fuel + 1)).run (s, c) = .ok (.error e) (t, c) ∧
      t.norm = s.norm ∧ t.Ready := by
  obtain ⟨t, readRun, same, reading⟩ :=
    readFrame_of_split_fault split faulty ready.reading s.stream_lt_budget
  exact ⟨t, waitFor_run_of_error readRun, same, ready.of_norm same reading⟩

end WaitRuns

section SeekSteps
variable {deadline fuel len : Nat} {s t : Session} {c c' : Clock}

theorem seekPublish_run_of_none {p : Session × Clock}
    (read : (readFrame deadline s.budget).run (s, c) = .ok (.ok none) p) :
    (seekPublish deadline (fuel + 1)).run (s, c) = .ok (.ok none) p := by
  simp [seekPublish, run_bind, read]

theorem seekPublish_run_of_error {p : Session × Clock} {e : SessionError}
    (read : (readFrame deadline s.budget).run (s, c) = .ok (.error e) p) :
    (seekPublish deadline (fuel + 1)).run (s, c) = .ok (.error e) p := by
  simp [seekPublish, run_bind, read]

theorem seekPublish_run_of_refused {e : SessionError}
    (read : (readFrame deadline s.budget).run (s, c) = .ok (.ok (some len)) (t, c'))
    (refused : classify (t.rx.take len) = .error e) :
    (seekPublish deadline (fuel + 1)).run (s, c) = .ok (.error e) (t, c') := by
  simp [seekPublish, run_bind, read, refused]

theorem seekPublish_run_of_publish {q : QoS} {id : Option UInt16}
    (read : (readFrame deadline s.budget).run (s, c) = .ok (.ok (some len)) (t, c'))
    (classified : classify (t.rx.take len) = .ok (.publish q id)) :
    (seekPublish deadline (fuel + 1)).run (s, c) =
      (acknowledge q id >>= fun _ => pure (some len)).run (t, c') := by
  simp [seekPublish, run_bind, read, classified]

theorem seekPublish_run_of_other {f : Frame}
    (read : (readFrame deadline s.budget).run (s, c) = .ok (.ok (some len)) (t, c'))
    (classified : classify (t.rx.take len) = .ok f) (other : f.isPublish = false) :
    (seekPublish deadline (fuel + 1)).run (s, c) =
      (answer f >>= fun _ => seekPublish deadline fuel).run (t.consume len, c') := by
  simp only [seekPublish, run_bind, run_state, read, classifyFront_run, classified]
  cases f with
  | publish q id => cases other
  | _ => simp [run_bind]

end SeekSteps


section SeekRuns
variable {deadline : Nat} {s : Session} {c : Clock}
  {F : List UInt8} {Fs : List (List UInt8)} {tail : StreamEnd}

theorem seekPublish_run_pass (fuel : Nat) (ready : s.Ready)
    (split : splitFrames s.capacity (s.visible c.now deadline) = (F :: Fs, tail))
    (passes : passesSeek F = true) :
    ∃ u, (seekPublish deadline (fuel + 1)).run (s, c) = (seekPublish deadline fuel).run (u, c) ∧
      u.norm = s.norm.pass c.now F ∧ u.Ready ∧
      u.visible c.now deadline = (s.visible c.now deadline).drop F.length ∧
      splitFrames u.capacity (u.visible c.now deadline) = (Fs, tail) := by
  obtain ⟨-, -, rest, front, restSplit⟩ := splitFrames_eq_cons split
  obtain ⟨t, read, same, reading, held, visible⟩ :=
    readFrame_of_split_cons split ready.reading s.stream_lt_budget
  have taken : t.rx.take F.length = F := (List.prefix_iff_eq_take.mp held).symm
  have long : F.length ≤ t.rx.length := held.length_le
  have ready' : t.Ready := ready.of_norm same reading
  obtain ⟨f, classified, kind⟩ : ∃ f, classify F = .ok f ∧ f.isPublish = false := by
    cases classified : classify F with
    | error e => simp [passesSeek, classified] at passes
    | ok f => exact ⟨f, rfl, by simpa [passesSeek, classified] using passes⟩
  have pub : isPublish F = false := by simp [isPublish, classified, kind]
  have consumed : (t.consume F.length).Ready := ready'.consume F.length
  have past : (t.pass c.now F).visible c.now deadline = (s.visible c.now deadline).drop F.length := by
    rw [Session.visible_pass long, visible]
  refine ⟨t.pass c.now F, ?_, by rw [Session.norm_pass long, same], ready'.pass _ _, past, ?_⟩
  · rw [seekPublish_run_of_other read (by rw [taken]; exact classified) kind,
      run_bind_ok (answer_run_frame classified pub consumed.writable consumed.room c)]
    simp [Session.pass, pub, Session.answered_consume]
  · rw [past, front, List.drop_left, Session.pass_capacity, Session.capacity_eq_of_norm same]
    exact restSplit

theorem seekPublish_run_passing (fuel : Nat) {pre : List (List UInt8)} (ready : s.Ready)
    (split : splitFrames s.capacity (s.visible c.now deadline) = (pre ++ Fs, tail))
    (passing : ∀ F ∈ pre, passesSeek F = true) :
    ∃ u, (seekPublish deadline (pre.length + fuel)).run (s, c) =
        (seekPublish deadline fuel).run (u, c) ∧
      u.norm = pre.foldl (Session.pass c.now) s.norm ∧ u.Ready ∧
      u.visible c.now deadline = (s.visible c.now deadline).drop pre.flatten.length ∧
      splitFrames u.capacity (u.visible c.now deadline) = (Fs, tail) := by
  induction pre generalizing s with
  | nil => exact ⟨s, by simp, rfl, ready, by simp, split⟩
  | cons F pre ih =>
    obtain ⟨u, step, moved, ready', past, split'⟩ :=
      seekPublish_run_pass (pre.length + fuel) ready split (passing F (by simp))
    obtain ⟨v, run, moved', ready'', past', split''⟩ :=
      ih ready' split' (fun G member => passing G (by simp [member]))
    refine ⟨v, ?_, ?_, ready'', ?_, split''⟩
    · rw [List.length_cons, Nat.add_right_comm, step, run]
    · rw [moved', moved, List.foldl_cons]
    · rw [past', past, List.drop_drop, List.flatten_cons, List.length_append]

theorem seekPublish_run_found {q : QoS} {id : Option UInt16} (fuel : Nat) (ready : s.Ready)
    (split : splitFrames s.capacity (s.visible c.now deadline) = (F :: Fs, tail))
    (read : classify F = .ok (.publish q id)) :
    ∃ t, (seekPublish deadline (fuel + 1)).run (s, c) = .ok (.ok (some F.length)) (t, c) ∧
      t.norm = s.norm.answered c.now F ∧ F <+: t.rx ∧ t.Ready ∧
      t.visible c.now deadline = s.visible c.now deadline := by
  obtain ⟨t, readRun, same, reading, held, visible⟩ :=
    readFrame_of_split_cons split ready.reading s.stream_lt_budget
  have taken : t.rx.take F.length = F := (List.prefix_iff_eq_take.mp held).symm
  have ready' : t.Ready := ready.of_norm same reading
  refine ⟨t.answered c.now F, ?_, by rw [Session.norm_answered, same], by simpa using held, ?_, ?_⟩
  · rw [seekPublish_run_of_publish readRun (by rw [taken]; exact read),
      run_bind_ok (acknowledge_run_frame read ready'.writable ready'.room c)]
    rfl
  · exact ready'.answered c.now F
  · rw [Session.visible_answered, visible]

theorem seekPublish_run_refused {e : SessionError} (fuel : Nat) (ready : s.Ready)
    (split : splitFrames s.capacity (s.visible c.now deadline) = (F :: Fs, tail))
    (refused : classify F = .error e) :
    ∃ t, (seekPublish deadline (fuel + 1)).run (s, c) = .ok (.error e) (t, c) ∧
      t.norm = s.norm ∧ t.Ready := by
  obtain ⟨t, readRun, same, reading, held, -⟩ :=
    readFrame_of_split_cons split ready.reading s.stream_lt_budget
  have taken : t.rx.take F.length = F := (List.prefix_iff_eq_take.mp held).symm
  exact ⟨t, seekPublish_run_of_refused readRun (by rw [taken]; exact refused), same,
    ready.of_norm same reading⟩

theorem seekPublish_run_pending {rest : List UInt8} (fuel : Nat) (ready : s.Ready)
    (free : c.limit = none)
    (split : splitFrames s.capacity (s.visible c.now deadline) = ([], .pending rest)) :
    ∃ t, (seekPublish deadline (fuel + 1)).run (s, c) =
        .ok (.ok none) (t, { c with now := max c.now deadline }) ∧ t.norm = s.norm ∧ t.Ready := by
  obtain ⟨t, readRun, same, reading⟩ :=
    readFrame_of_split_pending split ready.reading free s.stream_lt_budget
  exact ⟨t, seekPublish_run_of_none readRun, same, ready.of_norm same reading⟩

theorem seekPublish_run_fault {e : SessionError} (fuel : Nat) (ready : s.Ready)
    (split : splitFrames s.capacity (s.visible c.now deadline) = ([], tail))
    (faulty : tail.fault = some e) :
    ∃ t, (seekPublish deadline (fuel + 1)).run (s, c) = .ok (.error e) (t, c) ∧
      t.norm = s.norm ∧ t.Ready := by
  obtain ⟨t, readRun, same, reading⟩ :=
    readFrame_of_split_fault split faulty ready.reading s.stream_lt_budget
  exact ⟨t, seekPublish_run_of_error readRun, same, ready.of_norm same reading⟩

end SeekRuns

def stopFrame (want : Frame → Bool) (Fs : List (List UInt8)) : Option (List UInt8) :=
  (Fs.dropWhile (passesWait want)).head?

def waitOutcome (want : Frame → Bool) (Fs : List (List UInt8)) (tail : StreamEnd) :
    Except SessionError Frame :=
  match stopFrame want Fs with
  | some F => classify F
  | none => .error (tail.fault.getD .timeout)

end Gateway.Mqtt

namespace Gateway

/-- The clock a read loop leaves: at its deadline when it found no frame to stop at and the
stream merely stops inside a frame, else where it was. -/
def Clock.after (c : Clock) (deadline : Nat) (stop : Option (List UInt8))
    (tail : Mqtt.StreamEnd) : Clock :=
  match stop, tail.fault with
  | none, none => { c with now := max c.now deadline }
  | _, _ => c

end Gateway

namespace Gateway.Mqtt
open Gateway.Mqtt.Flow

/-- Where a wait for `want` leaves a session, in normal form: past the frames it passed over,
and past the frame it stopped at when that frame was taken. -/
def Session.waited (now : Nat) (want : Frame → Bool) (s : Session) (Fs : List (List UInt8)) :
    Session :=
  let past := (Fs.takeWhile (passesWait want)).foldl (Session.pass now) s
  match stopFrame want Fs with
  | some F => if (classify F).isOk then past.consume F.length else past
  | none => past

theorem Session.frames_lt_budget {s : Session} {now deadline : Nat} {Fs : List (List UInt8)}
    {tail : StreamEnd} (split : splitFrames s.capacity (s.visible now deadline) = (Fs, tail)) :
    Fs.length < s.budget := by
  have count := splitFrames_length_le s.capacity (s.visible now deadline)
  have within := (s.visible_prefix now deadline).length_le
  have below : s.unread.length < s.budget := by
    simp only [Session.unread, List.length_append, Session.budget, Link.pendingBytes_eq]
    omega
  rw [split] at count
  simp only at count
  omega

theorem Session.fuel_past {s : Session} {now deadline : Nat} {Fs : List (List UInt8)}
    {tail : StreamEnd} (pass : List UInt8 → Bool)
    (split : splitFrames s.capacity (s.visible now deadline) = (Fs, tail)) :
    ∃ fuel, s.budget = (Fs.takeWhile pass).length + (fuel + 1) := by
  have below := Session.frames_lt_budget split
  have within := (List.takeWhile_prefix pass (l := Fs)).length_le
  exact ⟨s.budget - (Fs.takeWhile pass).length - 1, by omega⟩

theorem awaitFrame_run_eq (deadline : Nat) (want : Frame → Bool) (p : Session × Clock) :
    (awaitFrame deadline want).run p = (waitFor deadline want p.1.budget).run p := by
  simp [awaitFrame, run_bind]

section Await
variable {deadline : Nat} {want : Frame → Bool} {s : Session} {c : Clock}
  {Fs : List (List UInt8)} {tail : StreamEnd}

theorem awaitFrame_run (want : Frame → Bool) (ready : s.Ready) (free : c.limit = none)
    (split : splitFrames s.capacity (s.visible c.now deadline) = (Fs, tail)) :
    ∃ t, (awaitFrame deadline want).run (s, c) =
        .ok (waitOutcome want Fs tail) (t, c.after deadline (stopFrame want Fs) tail) ∧
      t.norm = s.norm.waited c.now want Fs ∧ t.Ready ∧
      ((waitOutcome want Fs tail).isOk →
        t.visible c.now deadline = (s.visible c.now deadline).drop
          (Fs.take ((Fs.takeWhile (passesWait want)).length + 1)).flatten.length ∧
        splitFrames t.capacity (t.visible c.now deadline) =
          (Fs.drop ((Fs.takeWhile (passesWait want)).length + 1), tail)) := by
  obtain ⟨fuel, fuelDef⟩ := Session.fuel_past (passesWait want) split
  -- The wait passes over `pre` and then looks at the first frame of `post`, if any.
  obtain ⟨pre, post, preDef, postDef⟩ : ∃ pre post, Fs.takeWhile (passesWait want) = pre ∧
      Fs.dropWhile (passesWait want) = post := ⟨_, _, rfl, rfl⟩
  have whole : pre ++ post = Fs := by rw [← preDef, ← postDef, List.takeWhile_append_dropWhile]
  have passing : ∀ F ∈ pre, passesWait want F = true := fun F member =>
    List.all_eq_true.mp (preDef ▸ List.all_takeWhile) F member
  have stop : stopFrame want Fs = post.head? := by rw [stopFrame, postDef]
  rw [preDef] at fuelDef
  obtain ⟨u, run, moved, ready', past, split'⟩ :=
    waitFor_run_passing (fuel + 1) ready (by rw [whole]; exact split) passing
  rw [awaitFrame_run_eq, fuelDef, run]
  simp only [waitOutcome, Session.waited, stop, preDef, ← moved]
  cases post with
  | nil =>
    simp only [List.head?_nil]
    cases tail with
    | pending rest =>
      obtain ⟨t, last, same, ready''⟩ := waitFor_run_pending fuel ready' free split'
      exact ⟨t, last, same, ready'', by simp [Except.isOk, Except.toBool]⟩
    | oversized =>
      obtain ⟨t, last, same, ready''⟩ := waitFor_run_fault fuel ready' split' rfl
      exact ⟨t, last, same, ready'', by simp [Except.isOk, Except.toBool]⟩
    | malformed =>
      obtain ⟨t, last, same, ready''⟩ := waitFor_run_fault fuel ready' split' rfl
      exact ⟨t, last, same, ready'', by simp [Except.isOk, Except.toBool]⟩
  | cons F more =>
    have stops : passesWait want F = false := by
      have first := List.head?_dropWhile_not (passesWait want) Fs
      rw [postDef] at first
      exact first
    simp only [List.head?_cons, Clock.after]
    cases read : classify F with
    | ok f =>
      obtain ⟨t, last, same, ready'', past', split''⟩ :=
        waitFor_run_taken fuel ready' split' read stops
      have taken : Fs.take (pre.length + 1) = pre ++ [F] := by
        rw [← whole, List.take_append, List.take_of_length_le (by omega), Nat.add_sub_cancel_left]
        rfl
      have left : Fs.drop (pre.length + 1) = more := by
        rw [← whole]
        simp
      refine ⟨t, last, by simp [same, Except.isOk, Except.toBool], ready'', fun _ => ⟨?_, ?_⟩⟩
      · rw [past', past, List.drop_drop, taken]
        simp [Nat.add_comm]
      · rw [left]
        exact split''
    | error e =>
      obtain ⟨t, last, same, ready''⟩ := waitFor_run_refused fuel ready' split' read
      exact ⟨t, last, by simp [same, Except.isOk, Except.toBool], ready'',
        by simp [Except.isOk, Except.toBool]⟩

end Await

def seekStop (Fs : List (List UInt8)) : Option (List UInt8) := (Fs.dropWhile passesSeek).head?

/-- How a search for a publish ends on the frames `Fs` followed by `tail`: the length of the
publish it found, nothing at the deadline, or an error. -/
def seekOutcome (Fs : List (List UInt8)) (tail : StreamEnd) : Except SessionError (Option Nat) :=
  match seekStop Fs with
  | some F => (classify F).map fun _ => some F.length
  | none =>
    match tail.fault with
    | none => .ok none
    | some e => .error e

/-- Where a search leaves a session, in normal form: past the frames it passed over, and with
the publish it found acknowledged. -/
def Session.sought (now : Nat) (s : Session) (Fs : List (List UInt8)) : Session :=
  let past := (Fs.takeWhile passesSeek).foldl (Session.pass now) s
  match seekStop Fs with
  | some F => if (classify F).isOk then past.answered now F else past
  | none => past

section Seek
variable {deadline : Nat} {s : Session} {c : Clock} {Fs : List (List UInt8)} {tail : StreamEnd}

theorem seekPublish_run (ready : s.Ready) (free : c.limit = none)
    (split : splitFrames s.capacity (s.visible c.now deadline) = (Fs, tail)) :
    ∃ t, (seekPublish deadline s.budget).run (s, c) =
        .ok (seekOutcome Fs tail) (t, c.after deadline (seekStop Fs) tail) ∧
      t.norm = s.norm.sought c.now Fs ∧ t.Ready ∧
      ∀ F, seekStop Fs = some F → (classify F).isOk → F <+: t.rx ∧
        t.visible c.now deadline = (s.visible c.now deadline).drop (Fs.takeWhile passesSeek).flatten.length := by
  obtain ⟨fuel, fuelDef⟩ := Session.fuel_past passesSeek split
  -- The search passes over `pre` and then looks at the first frame of `post`, if any.
  obtain ⟨pre, post, preDef, postDef⟩ : ∃ pre post, Fs.takeWhile passesSeek = pre ∧
      Fs.dropWhile passesSeek = post := ⟨_, _, rfl, rfl⟩
  have whole : pre ++ post = Fs := by rw [← preDef, ← postDef, List.takeWhile_append_dropWhile]
  have passing : ∀ F ∈ pre, passesSeek F = true := fun F member =>
    List.all_eq_true.mp (preDef ▸ List.all_takeWhile) F member
  have stop : seekStop Fs = post.head? := by rw [seekStop, postDef]
  rw [preDef] at fuelDef
  obtain ⟨u, run, moved, ready', past, split'⟩ :=
    seekPublish_run_passing (fuel + 1) ready (by rw [whole]; exact split) passing
  rw [fuelDef, run]
  simp only [seekOutcome, Session.sought, stop, preDef, ← moved]
  cases post with
  | nil =>
    simp only [List.head?_nil, reduceCtorEq, false_implies, implies_true, and_true]
    cases tail with
    | pending rest =>
      obtain ⟨t, last, same, ready''⟩ := seekPublish_run_pending fuel ready' free split'
      exact ⟨t, last, same, ready''⟩
    | oversized =>
      obtain ⟨t, last, same, ready''⟩ := seekPublish_run_fault fuel ready' split' rfl
      exact ⟨t, last, same, ready''⟩
    | malformed =>
      obtain ⟨t, last, same, ready''⟩ := seekPublish_run_fault fuel ready' split' rfl
      exact ⟨t, last, same, ready''⟩
  | cons F more =>
    have stops : passesSeek F = false := by
      have first := List.head?_dropWhile_not passesSeek Fs
      rw [postDef] at first
      exact first
    simp only [List.head?_cons, Clock.after, Option.some.injEq, forall_eq']
    cases read : classify F with
    | ok f =>
      have kind : f.isPublish = true := by simpa [passesSeek, read] using stops
      obtain ⟨q, id, rfl⟩ := Frame.isPublish_iff.mp kind
      -- The publish found stays at the front of the buffer, where the search found it.
      obtain ⟨t, last, same, held, ready'', visible⟩ := seekPublish_run_found fuel ready' split' read
      exact ⟨t, last, by simp [same, Except.isOk, Except.toBool], ready'', fun _ => ⟨held, visible.trans past⟩⟩
    | error e =>
      obtain ⟨t, last, same, ready''⟩ := seekPublish_run_refused fuel ready' split' read
      exact ⟨t, last, by simp [same, Except.isOk, Except.toBool], ready'',
        by simp [Except.isOk, Except.toBool]⟩

end Seek

/-- Whether a ping is due at `now`: keep-alive is on and half its interval has passed since the
last write. -/
def Session.pingDue (s : Session) (now : Nat) : Prop :=
  s.options.keepAlive ≠ 0 ∧ now - s.lastTx ≥ s.options.keepAlive.toNat * 1000000 / 2

instance (s : Session) (now : Nat) : Decidable (s.pingDue now) :=
  inferInstanceAs (Decidable (_ ∧ _))

def Session.keptAlive (now : Nat) (s : Session) : Session :=
  if s.pingDue now then { s with link := (s.link.send [0xC0, 0x00]).1, lastTx := now } else s

theorem keepAlive_run {s : Session} (ready : s.Ready) (c : Clock) :
    keepAlive.run (s, c) = .ok (.ok ()) (s.keptAlive c.now, c) := by
  have ping : Outbound.pingReq.encode s.capacity = .ok [0xC0, 0x00] := by
    simp [Outbound.encode, writeInPlace]
    have := ready.room
    omega
  by_cases due : s.pingDue c.now
  · obtain ⟨on, late⟩ := due
    simp [keepAlive, run_bind, on, Session.keptAlive, Session.pingDue, late,
      sendPacket_run_of_written ping ready.writable, Session.wrote]
  · by_cases on : s.options.keepAlive = 0
    · simp [keepAlive, run_bind, on, Session.keptAlive, Session.pingDue]
    · have early : c.now - s.lastTx < s.options.keepAlive.toNat * 1000000 / 2 := by
        simp only [Session.pingDue, not_and, Nat.not_le] at due
        exact due on
      simp [keepAlive, run_bind, on, Session.keptAlive, Session.pingDue, Nat.not_le.mpr early]

@[simp] theorem Session.keptAlive_capacity (s : Session) (now : Nat) :
    (s.keptAlive now).capacity = s.capacity := by
  unfold Session.keptAlive
  split <;> rfl

@[simp] theorem Session.keptAlive_rx (s : Session) (now : Nat) :
    (s.keptAlive now).rx = s.rx := by
  unfold Session.keptAlive
  split <;> rfl

theorem Session.Ready.keptAlive {s : Session} (ready : s.Ready) (now : Nat) :
    (s.keptAlive now).Ready := by
  unfold Session.keptAlive
  split
  · exact ⟨⟨ready.reading.fits, Link.send_steady ready.reading.steady _⟩,
      by simp [Link.send_failSend, ready.writable], ready.room⟩
  · exact ready

section NextPublish
variable {deadline : Nat} {s : Session} {c : Clock} {Fs : List (List UInt8)} {tail : StreamEnd}

theorem nextPublish_run (ready : s.Ready) (free : c.limit = none)
    (split : splitFrames s.capacity ((s.keptAlive c.now).visible c.now deadline) = (Fs, tail)) :
    ∃ t, (nextPublish deadline).run (s, c) =
        .ok (seekOutcome Fs tail) (t, c.after deadline (seekStop Fs) tail) ∧
      t.norm = (s.keptAlive c.now).norm.sought c.now Fs ∧ t.Ready ∧
      ∀ F, seekStop Fs = some F → (classify F).isOk → F <+: t.rx ∧
        t.visible c.now deadline =
          ((s.keptAlive c.now).visible c.now deadline).drop (Fs.takeWhile passesSeek).flatten.length := by
  rw [← Session.keptAlive_capacity s c.now] at split
  obtain ⟨t, run, rest⟩ := seekPublish_run (ready.keptAlive c.now) free split
  refine ⟨t, ?_, rest⟩
  simp only [nextPublish, run_bind_ok (keepAlive_run ready c)]
  simpa [run_bind] using run

end NextPublish

end Gateway.Mqtt
