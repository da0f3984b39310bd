import Gateway.Proofs.Ledger
/-!
# The reading loops end

The reading loops of a session, `readFrame`, `waitFor` and `seekPublish`, run on fuel, and the
calls give them the session's budget. Each loop is here a round run again and again: a round is
the loop's body with `more` standing for the rounds after it, and `round^[n] more` runs `n`
rounds and then `more`. A round at a state either ends the loop, the same way whatever `more`
would do, or hands `more` a state where less is left to read (`Progress`). Less to read is one
order for all three loops, `Session.toRead`: the bytes the peer queued together with those in
the buffer, then the bytes the peer queued alone, compared lexicographically. A round of
`readFrame` goes on only after a read returned bytes, which moved from the peer into the buffer;
a round of the other two goes on only after it consumed or parked a whole frame, of at least two
bytes, and wrote at most a reply, which the broker never answers.

So the loop on fuel ends, within the budget, by one of its own exits: the budget exceeds the
measure, and `n` rounds above the measure never run what comes after them
(`iterate_run_of_progress`), in particular not what a loop does once its fuel is spent.
-/
namespace Gateway.Mqtt
open Gateway.Mqtt.Flow

/-! Loops as rounds. -/

section Rounds
variable {α : Type}

/-- A round of a loop at `p`: it ends the loop the same way whatever the rounds after it would do,
or it hands those rounds a state `p'` with `next p p'`. -/
def Progress (round : Flow α → Flow α) (next : Session × Clock → Session × Clock → Prop)
    (p : Session × Clock) : Prop :=
  (∀ more more', (round more).run p = (round more').run p) ∨
    ∃ p', next p p' ∧ ∀ more, (round more).run p = more.run p'

variable {round g : Flow α → Flow α} {next next' : Session × Clock → Session × Clock → Prop}
  {p : Session × Clock}

theorem Progress.mono (progress : Progress round next p) (weaker : ∀ p', next p p' → next' p p') :
    Progress round next' p := by
  rcases progress with ends | ⟨p', step, goes⟩
  · exact .inl ends
  · exact .inr ⟨p', weaker p' step, goes⟩

theorem Progress.of_run {p' : Session × Clock} (same : ∀ more, (round more).run p = (g more).run p')
    (progress : Progress g next' p') (lower : ∀ q, next' p' q → next p q) :
    Progress round next p := by
  rcases progress with ends | ⟨q, step, goes⟩
  · exact .inl fun more more' => by rw [same, same]; exact ends more more'
  · exact .inr ⟨q, lower q step, fun more => by rw [same]; exact goes more⟩

theorem Progress.after {m : Flow Unit}
    (goes : ∀ p', m.run p = .ok (.ok ()) p' → ∃ q, next p q ∧ ∀ more, (g more).run p' = more.run q) :
    Progress (fun more => m >>= fun _ => g more) next p := by
  cases ran : m.run p with
  | error h p' => exact .inl fun _ _ => by rw [run_bind_halt ran, run_bind_halt ran]
  | ok r p' =>
    cases r with
    | error e => exact .inl fun _ _ => by rw [run_bind_error ran, run_bind_error ran]
    | ok u =>
      obtain ⟨q, step, rest⟩ := goes p' ran
      exact .inr ⟨q, step, fun more => by rw [run_bind_ok ran, rest]⟩

/-- Rounds that each lower a measure end the loop before as many rounds as the measure counts:
what would come after those rounds is never run. -/
theorem iterate_run_of_progress {μ : Session × Clock → Nat}
    (progress : ∀ p, Progress round (fun p p' => μ p' < μ p) p) :
    ∀ n p, μ p < n → ∀ more more', (round^[n] more).run p = (round^[n] more').run p := by
  intro n
  induction n with
  | zero => exact fun p below => absurd below (Nat.not_lt_zero _)
  | succ n ih =>
    intro p below more more'
    rw [Function.iterate_succ_apply', Function.iterate_succ_apply']
    rcases progress p with ends | ⟨p', lower, goes⟩
    · exact ends _ _
    · rw [goes, goes]
      exact ih p' (by omega) more more'

theorem eq_iterate {loop : Nat → Flow α} (succ : ∀ fuel, loop (fuel + 1) = round (loop fuel)) :
    ∀ n, loop n = round^[n] (loop 0)
  | 0 => rfl
  | n + 1 => by rw [succ, eq_iterate succ n, Function.iterate_succ_apply']

theorem run_of_progress {loop : Nat → Flow α} {μ : Session × Clock → Nat}
    (succ : ∀ fuel, loop (fuel + 1) = round (loop fuel))
    (progress : ∀ p, Progress round (fun p p' => μ p' < μ p) p) {n : Nat} (enough : μ p < n)
    (more : Flow α) : (round^[n] more).run p = (loop n).run p := by
  rw [eq_iterate succ n]
  exact iterate_run_of_progress progress n p enough more (loop 0)

end Rounds

/-! What is left to read. -/

namespace Session

/-- What is left to read: the bytes the peer queued and those in the buffer, then the bytes the
peer queued alone, in lexicographic order. -/
def toRead (s : Session) : ℕ ×ₗ ℕ := toLex (s.link.pendingBytes + s.rx.length, s.link.pendingBytes)

theorem unread_length (s : Session) : s.unread.length = s.link.pendingBytes + s.rx.length := by
  simp [unread, Link.pendingBytes_eq, Nat.add_comm]

theorem unread_lt_budget (s : Session) : s.unread.length < s.budget := by
  rw [unread_length, budget]
  omega

theorem toRead_lt_of_pulled {s t : Session} (queued : t.link.pendingBytes < s.link.pendingBytes)
    (same : t.unread = s.unread) : t.toRead < s.toRead := by
  have total := congrArg List.length same
  rw [unread_length, unread_length] at total
  exact Prod.Lex.toLex_lt_toLex.mpr (.inr ⟨total, queued⟩)

theorem toRead_lt_of_took {s t : Session} (took : t.unread.length < s.unread.length) :
    t.toRead < s.toRead := by
  rw [unread_length, unread_length] at took
  exact Prod.Lex.toLex_lt_toLex.mpr (.inl took)

def Grown (u : Session) (n : Nat) (t : Session) : Prop :=
  t.rx = u.rx ∧ t.stash = u.stash ∧ t.link.pendingBytes ≤ u.link.pendingBytes + n

theorem Grown.refl (u : Session) (n : Nat) : u.Grown n u := ⟨rfl, rfl, by omega⟩

theorem Grown.unread {u t : Session} {n : Nat} (grown : u.Grown n t) :
    t.unread.length ≤ u.unread.length + n := by
  obtain ⟨rx, -, queued⟩ := grown
  rw [unread_length, unread_length, rx]
  omega

end Session

/-! Writes queue no more than the broker's answer. -/

theorem VarInt.frameLength_two_le {bs : List UInt8} {n : Nat}
    (h : VarInt.frameLength bs = .ok (some n)) : 2 ≤ n ∧ n ≤ bs.length := by
  obtain ⟨w, r, found, rfl, within⟩ := VarInt.frameLength_some h
  have wide := (VarInt.scanWithin_width found).1
  exact ⟨by omega, within⟩

theorem Outbound.encode_ack {a : Ack} {n : Nat} {bytes : List UInt8}
    (h : (Outbound.ack a).encode n = .ok bytes) : bytes = a.bytes := by
  simp only [Outbound.encode, Ack.encode, writeInPlace] at h
  split at h
  · cases h
    rfl
  · cases h

theorem Broker.queued_ack (b : Broker) {a : Ack} (kind : a.kind ≠ .pubRel) {n : Nat}
    {bytes : List UInt8} (h : (Outbound.ack a).encode n = .ok bytes) :
    (b.queued bytes).length ≤ 0 := by
  simp [Outbound.encode_ack h, Broker.queued, Broker.answer_reply b kind]

theorem Broker.queued_ping (b : Broker) {n : Nat} {bytes : List UInt8}
    (h : Outbound.pingReq.encode n = .ok bytes) : (b.queued bytes).length ≤ 2 := by
  simp only [Outbound.encode, writeInPlace] at h
  split at h
  · cases h
    have answer : b.answer [0xC0, 0x00] = some [0xD0, 0x00] := rfl
    unfold Broker.queued
    split <;> simp_all
  · cases h

theorem sendPacket_grown (p : Outbound) {u : Session} {n : Nat}
    (answers : ∀ bytes, p.encode u.capacity = .ok bytes → (u.link.broker.queued bytes).length ≤ n) :
    Triple (· = u) (sendPacket p) (fun _ t => u.Grown n t) := by
  intro s c r t c' same run
  subst same
  rw [sendPacket_run] at run
  cases encoded : p.encode s.capacity with
  | error e =>
    rw [encoded] at run
    cases run
    exact .refl _ _
  | stops why =>
    rw [encoded] at run
    cases run
  | ok bytes =>
    rcases sent : s.link.send bytes with ⟨link, f | ⟨⟩⟩
    · simp only [encoded, sent] at run
      cases run
      have kept := (Link.send_of_error sent).2
      exact ⟨rfl, rfl, by simp [Link.pendingBytes_eq, kept]⟩
    · simp only [encoded, sent] at run
      cases run
      have stream := Link.send_stream (Link.send_of_ok sent) bytes
      have bound := answers bytes encoded
      rw [sent] at stream
      refine ⟨rfl, rfl, ?_⟩
      simp only [Link.pendingBytes_eq, stream, List.length_append]
      omega

theorem acknowledge_grown (q : QoS) (id : Option UInt16) {u : Session} :
    Triple (· = u) (acknowledge q id) (fun _ t => u.Grown 0 t) := by
  unfold acknowledge
  split
  · exact Triple.of_pure fun _ same => same ▸ .refl _ _
  · exact sendPacket_grown _ fun _ => Broker.queued_ack _ (by simp)
  · exact sendPacket_grown _ fun _ => Broker.queued_ack _ (by simp)
  · exact Triple.of_throw fun _ same => same ▸ .refl _ _

theorem answer_grown (f : Frame) {u : Session} :
    Triple (· = u) (answer f) (fun _ t => u.Grown 0 t) := by
  unfold answer
  split
  · exact sendPacket_grown _ fun _ => Broker.queued_ack _ (by simp)
  · exact Triple.of_pure fun _ same => same ▸ .refl _ _

/-! The round of `readFrame`. -/

def readRound (deadline : Nat) (more : Flow (Option Nat)) : Flow (Option Nat) := do
  let s ← state
  match VarInt.frameLength s.rx with
  | .error e => throw (.ofPacket e)
  | .ok (some len) =>
    if len > s.capacity then throw (.protocol .payloadTooLarge) else pure (some len)
  | .ok none =>
    if s.rx.length = s.capacity then throw (.protocol .payloadTooLarge)
    let t ← clock
    if deadline ≤ t then return none
    match s.link.recv? (s.capacity - s.rx.length) with
    | none => do waitUntil deadline; pure none
    | some (link, .bytes []) => do put { s with link }; throw (.protocol .connectionClosed)
    | some (link, .bytes bs) => do
      put { s with link, rx := s.rx ++ bs }
      more
    | some (link, .fault f) => do
      put { s with link }
      if f.isTimeout then pure none else throw (.transport f)

theorem readFrame_succ (deadline fuel : Nat) :
    readFrame deadline (fuel + 1) = readRound deadline (readFrame deadline fuel) := rfl

theorem readRound_progress (deadline : Nat) (p : Session × Clock) :
    Progress (readRound deadline) (fun p p' => p'.1.link.pendingBytes < p.1.link.pendingBytes ∧
      p'.1.unread = p.1.unread) p := by
  obtain ⟨s, c⟩ := p
  -- Every exit but a read of bytes leaves `more` unrun.
  cases frame : VarInt.frameLength s.rx with
  | error e => exact .inl fun _ _ => by simp [readRound, run_bind, frame]
  | ok found =>
    cases found with
    | some len => exact .inl fun _ _ => by simp [readRound, run_bind, frame]
    | none =>
      by_cases full : s.rx.length = s.capacity
      · exact .inl fun _ _ => by simp [readRound, run_bind, frame, full]
      by_cases late : deadline ≤ c.now
      · exact .inl fun _ _ => by simp [readRound, run_bind, frame, full, late]
      cases got : s.link.recv? (s.capacity - s.rx.length) with
      | none => exact .inl fun _ _ => by simp [readRound, run_bind, frame, full, late, got]
      | some pair =>
        obtain ⟨link, received⟩ := pair
        obtain ⟨⟨incoming, rfl⟩, moved⟩ := Link.recv?_shape got
        cases received with
        | fault f => exact .inl fun _ _ => by simp [readRound, run_bind, frame, full, late, got]
        | bytes bs =>
          obtain ⟨-, moved⟩ := moved
          cases bs with
          | nil => exact .inl fun _ _ => by simp [readRound, run_bind, frame, full, late, got]
          | cons b rest =>
            refine .inr ⟨({ s with link := { s.link with incoming }, rx := s.rx ++ b :: rest }, c),
              ⟨?_, ?_⟩, fun more => by simp [readRound, run_bind, frame, full, late, got]⟩
            · have total := congrArg List.length moved
              simp only [List.length_append, List.length_cons] at total
              simp only [Link.pendingBytes_eq]
              omega
            · simp [Session.unread, ← moved]

/-! The rounds of `waitFor` and `seekPublish`. -/

def readThen {β : Type} (deadline : Nat) (quiet : Flow β) (take : Nat → Flow β) : Flow β := do
  match ← readFrame deadline (← state).budget with
  | none => quiet
  | some len => take len

theorem readThen_run {β : Type} (deadline : Nat) (quiet : Flow β) (take : Nat → Flow β)
    (s : Session) (c : Clock) :
    (readThen deadline quiet take).run (s, c) = match (readFrame deadline s.budget).run (s, c) with
      | .ok (.ok none) p => quiet.run p
      | .ok (.ok (some len)) p => (take len).run p
      | .ok (.error e) p => .ok (.error e) p
      | .error h p => .error h p := by
  simp only [readThen, run_bind, run_state]
  rcases (readFrame deadline s.budget).run (s, c) with ⟨e | _ | len, p⟩ | ⟨h, p⟩ <;> rfl

def waitTake (want : Frame → Bool) (len : Nat) (more : Flow Frame) : Flow Frame := do
  match ← classifyFront len with
  | .publish qos id => do
    acknowledge qos id
    put ((← state).stashFrame len)
    more
  | frame => do
    put ((← state).consume len)
    if want frame then pure frame
    else do
      answer frame
      more

def waitRound (deadline : Nat) (want : Frame → Bool) (more : Flow Frame) : Flow Frame :=
  readThen deadline (throw .timeout) fun len => waitTake want len more

theorem waitFor_succ (deadline : Nat) (want : Frame → Bool) (fuel : Nat) :
    waitFor deadline want (fuel + 1) = waitRound deadline want (waitFor deadline want fuel) := rfl

def seekTake (len : Nat) (more : Flow (Option Nat)) : Flow (Option Nat) := do
  match ← classifyFront len with
  | .publish qos id => do
    acknowledge qos id
    pure (some len)
  | frame => do
    put ((← state).consume len)
    answer frame
    more

def seekRound (deadline : Nat) (more : Flow (Option Nat)) : Flow (Option Nat) :=
  readThen deadline (pure none) fun len => seekTake len more

theorem seekPublish_succ (deadline fuel : Nat) :
    seekPublish deadline (fuel + 1) = seekRound deadline (seekPublish deadline fuel) := rfl

section Take
variable {u : Session} {c : Clock} {len : Nat}

theorem waitTake_run_of_refused {want : Frame → Bool} {e : SessionError}
    (refused : classify (u.rx.take len) = .error e) (more : Flow Frame) :
    (waitTake want len more).run (u, c) = .ok (.error e) (u, c) := by
  simp [waitTake, run_bind, refused]

theorem waitTake_run_of_publish {want : Frame → Bool} {q : QoS} {id : Option UInt16}
    (read : classify (u.rx.take len) = .ok (.publish q id)) (more : Flow Frame) :
    (waitTake want len more).run (u, c) =
      (acknowledge q id >>= fun _ => state >>= fun v => put (v.stashFrame len) >>= fun _ =>
        more).run (u, c) := by
  simp [waitTake, run_bind, read]

theorem waitTake_run_of_other {want : Frame → Bool} {f : Frame}
    (read : classify (u.rx.take len) = .ok f) (other : f.isPublish = false) (more : Flow Frame) :
    (waitTake want len more).run (u, c) =
      if want f then .ok (.ok f) (u.consume len, c)
      else (answer f >>= fun _ => more).run (u.consume len, c) := by
  -- Every frame but a publish takes the second arm.
  cases f with
  | publish q id => cases other
  | _ =>
    simp only [waitTake, run_bind, run_state, run_put, read, classifyFront_run]
    split <;> simp only [run_bind, run_pure]

theorem seekTake_run_of_refused {e : SessionError} (refused : classify (u.rx.take len) = .error e)
    (more : Flow (Option Nat)) : (seekTake len more).run (u, c) = .ok (.error e) (u, c) := by
  simp [seekTake, run_bind, refused]

theorem seekTake_run_of_publish {q : QoS} {id : Option UInt16}
    (read : classify (u.rx.take len) = .ok (.publish q id)) (more : Flow (Option Nat)) :
    (seekTake len more).run (u, c) = (acknowledge q id >>= fun _ => pure (some len)).run (u, c) := by
  simp [seekTake, run_bind, read]

theorem seekTake_run_of_other {f : Frame} (read : classify (u.rx.take len) = .ok f)
    (other : f.isPublish = false) (more : Flow (Option Nat)) :
    (seekTake len more).run (u, c) = (answer f >>= fun _ => more).run (u.consume len, c) := by
  simp only [seekTake, run_bind, read, classifyFront_run]
  cases f with
  | publish q id => cases other
  | _ => simp [run_bind]

def Takes (p p' : Session × Clock) : Prop := p'.1.unread.length + 2 ≤ p.1.unread.length

theorem takes_of_dropped {v : Session} (whole : VarInt.frameLength u.rx = .ok (some len))
    (rx : v.rx = u.rx.drop len) (queued : v.link.pendingBytes ≤ u.link.pendingBytes)
    (c' : Clock) : Takes (u, c) (v, c') := by
  have bounds := VarInt.frameLength_two_le whole
  simp only [Takes, Session.unread_length, rx, List.length_drop]
  omega

theorem answered_progress {α : Type} {f : Frame} (whole : VarInt.frameLength u.rx = .ok (some len)) :
    Progress (fun more : Flow α => answer f >>= fun _ => more) (fun _ q => Takes (u, c) q)
      (u.consume len, c) :=
  Progress.after fun ⟨v, c'⟩ answered => by
    obtain ⟨rx, -, queued⟩ := answer_grown f rfl answered
    exact ⟨(v, c'), takes_of_dropped whole (by simp [rx]) (by simpa using queued) c',
      fun _ => rfl⟩

theorem waitTake_progress (want : Frame → Bool) (whole : VarInt.frameLength u.rx = .ok (some len)) :
    Progress (waitTake want len) Takes (u, c) := by
  cases read : classify (u.rx.take len) with
  | error e =>
    exact .inl fun _ _ => by rw [waitTake_run_of_refused read, waitTake_run_of_refused read]
  | ok f =>
    cases kind : f.isPublish with
    | true =>
      -- A publish is acknowledged, then parked or dropped.
      obtain ⟨q, id, rfl⟩ := Frame.isPublish_iff.mp kind
      refine Progress.of_run (fun more => waitTake_run_of_publish read more)
        (Progress.after fun ⟨v, c'⟩ acked => ?_) fun _ took => took
      obtain ⟨rx, -, queued⟩ := acknowledge_grown q id rfl acked
      exact ⟨(v.stashFrame len, c'), takes_of_dropped whole (by simp [rx]) (by simpa using queued) c',
        fun _ => by simp [run_bind]⟩
    | false =>
      by_cases wanted : want f
      · exact .inl fun _ _ => by
          rw [waitTake_run_of_other read kind, waitTake_run_of_other read kind, if_pos wanted,
            if_pos wanted]
      · exact Progress.of_run
          (fun more => by rw [waitTake_run_of_other read kind, if_neg wanted])
          (answered_progress whole) fun _ took => took

theorem seekTake_progress (whole : VarInt.frameLength u.rx = .ok (some len)) :
    Progress (seekTake len) Takes (u, c) := by
  cases read : classify (u.rx.take len) with
  | error e =>
    exact .inl fun _ _ => by rw [seekTake_run_of_refused read, seekTake_run_of_refused read]
  | ok f =>
    cases kind : f.isPublish with
    | true =>
      -- The search ends at a publish.
      obtain ⟨q, id, rfl⟩ := Frame.isPublish_iff.mp kind
      exact .inl fun _ _ => by rw [seekTake_run_of_publish read, seekTake_run_of_publish read]
    | false =>
      exact Progress.of_run (fun more => seekTake_run_of_other read kind more)
        (answered_progress whole) fun _ took => took

end Take

theorem readThen_progress {β : Type} (deadline : Nat) (quiet : Flow β)
    {take : Nat → Flow β → Flow β} {s : Session} {c : Clock}
    (taken : ∀ u c' len, VarInt.frameLength u.rx = .ok (some len) → Progress (take len) Takes (u, c')) :
    Progress (fun more => readThen deadline quiet (take · more)) Takes (s, c) := by
  cases read : (readFrame deadline s.budget).run (s, c) with
  | error h p => exact .inl fun _ _ => by rw [readThen_run, readThen_run, read]
  | ok r p =>
    obtain ⟨u, c'⟩ := p
    cases r with
    | error e => exact .inl fun _ _ => by rw [readThen_run, readThen_run, read]
    | ok found =>
      cases found with
      | none => exact .inl fun _ _ => by rw [readThen_run, readThen_run, read]
      | some len =>
        obtain ⟨pulled, framed⟩ := readFrame_pulls deadline s.budget s rfl read
        refine Progress.of_run (fun more => by rw [readThen_run, read])
          (taken u c' len (framed len rfl).1) fun q took => ?_
        simpa [Takes, pulled.unread] using took

theorem waitRound_progress (deadline : Nat) (want : Frame → Bool) (p : Session × Clock) :
    Progress (waitRound deadline want) Takes p :=
  readThen_progress deadline _ fun _ _ _ whole => waitTake_progress want whole

theorem seekRound_progress (deadline : Nat) (p : Session × Clock) :
    Progress (seekRound deadline) Takes p :=
  readThen_progress deadline _ fun _ _ _ whole => seekTake_progress whole

/-! Every round lowers what is left to read, and the budget outlasts the rounds. -/

theorem Takes.toRead_lt {p p' : Session × Clock} (took : Takes p p') : p'.1.toRead < p.1.toRead :=
  Session.toRead_lt_of_took (by unfold Takes at took; omega)

theorem readFrame_ends (deadline : Nat) (s : Session) (c : Clock) (more : Flow (Option Nat)) :
    ((readRound deadline)^[s.budget] more).run (s, c) = (readFrame deadline s.budget).run (s, c) := by
  have enough : s.link.pendingBytes < s.budget := by
    rw [Session.budget]
    omega
  exact run_of_progress (readFrame_succ deadline)
    (fun p => (readRound_progress deadline p).mono fun _ pulled => pulled.1) enough more

theorem Takes.unread_lt {p p' : Session × Clock} (took : Takes p p') :
    p'.1.unread.length < p.1.unread.length := by
  unfold Takes at took
  omega

theorem awaitFrame_ends (deadline : Nat) (want : Frame → Bool) (s : Session) (c : Clock)
    (more : Flow Frame) :
    ((waitRound deadline want)^[s.budget] more).run (s, c) = (awaitFrame deadline want).run (s, c) := by
  rw [awaitFrame_run_eq]
  exact run_of_progress (waitFor_succ deadline want)
    (fun p => (waitRound_progress deadline want p).mono fun _ took => took.unread_lt)
    s.unread_lt_budget more

theorem seekPublish_ends (deadline : Nat) (s : Session) (c : Clock) (more : Flow (Option Nat)) :
    ((seekRound deadline)^[s.budget] more).run (s, c) = (seekPublish deadline s.budget).run (s, c) :=
  run_of_progress (seekPublish_succ deadline)
    (fun p => (seekRound_progress deadline p).mono fun _ took => took.unread_lt)
    s.unread_lt_budget more

end Gateway.Mqtt
