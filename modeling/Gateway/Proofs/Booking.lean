import Gateway.Proofs.Ledger
/-!
# The ledger through the flows of a call

Within the flow of a call a session is `Booked`: nothing is handed out, and its ledger since the
first session hands out the publishes `poll` returned so far. Each reading loop keeps it frame by
frame, writing the reply a frame calls for at the moment it takes the frame in. A reply the link
refuses cuts the ledger, and the call then fails with an error that drops the link (`Settles`);
the search of `poll` ends at the publish it found (`Sought`). No flow needs room for its replies
from its caller: a frame that calls for a reply is at least as long as the reply, and it fit.
-/
namespace Gateway.Mqtt
open Gateway.Mqtt.Flow

/-- What writing the reply to the frame `F` leaves: the reply written, if the frame calls for one,
or refused by the link, which fails the call. -/
def Session.Replied (u : Session) (F : List UInt8) (r : Except SessionError Unit) (v : Session) :
    Prop :=
  (r = .ok () ∧ u.Answered F v) ∨
    ∃ a link fault, replyOf F = some a ∧ u.link.send a.bytes = (link, .error fault) ∧
      r = .error (.transport fault) ∧ v = { u with link }

section Replies
variable {u : Session} {F : List UInt8}

theorem Session.Replied.of_none (none : replyOf F = none) : u.Replied F (.ok ()) u :=
  .inl ⟨rfl, .inl ⟨none, rfl⟩⟩

theorem sendAck_replied {a : Ack} (reply : replyOf F = some a) (room : 4 ≤ u.capacity) :
    Triple (· = u) (sendPacket (.ack a)) (fun r v => u.Replied F r v) := by
  intro s c r v c' same run
  subst same
  rw [sendPacket_run, Ack.encode_of_room a room] at run
  rcases sent : s.link.send a.bytes with ⟨link, fault | ⟨⟩⟩
  · simp only [sent] at run
    cases run
    exact .inr ⟨a, link, fault, reply, sent, rfl, rfl⟩
  · simp only [sent] at run
    cases run
    exact .inl ⟨rfl, .inr ⟨a, link, c.now, reply, sent, rfl⟩⟩

theorem acknowledge_replied {q : QoS} {id : Option UInt16} (read : classify F = .ok (.publish q id))
    (fits : F.length ≤ u.capacity) :
    Triple (· = u) (acknowledge q id) (fun r v => u.Replied F r v) := by
  obtain ⟨p, decoded, rfl, rfl⟩ := classify_publish read
  have carried := Publish.decode_packetId decoded
  have reply : replyOf F = (Frame.publish p.qos p.packetId).reply := by simp [replyOf, read]
  -- A packet id travels with the publish exactly when its QoS asks for an acknowledgement.
  cases qos : p.qos with
  | atMostOnce =>
    simp only [qos, Frame.reply] at reply
    exact Triple.of_pure fun _ same => same ▸ .of_none reply
  | atLeastOnce =>
    have present : p.packetId ≠ none := fun absent => by simp [carried.mp absent] at qos
    obtain ⟨i, carriedId⟩ := Option.ne_none_iff_exists'.mp present
    simp only [qos, carriedId, Frame.reply] at reply
    rw [carriedId]
    exact sendAck_replied reply (Nat.le_trans (replyOf_length reply) fits)
  | exactlyOnce =>
    have present : p.packetId ≠ none := fun absent => by simp [carried.mp absent] at qos
    obtain ⟨i, carriedId⟩ := Option.ne_none_iff_exists'.mp present
    simp only [qos, carriedId, Frame.reply] at reply
    rw [carriedId]
    exact sendAck_replied reply (Nat.le_trans (replyOf_length reply) fits)

theorem answer_replied {f : Frame} (read : classify F = .ok f) (other : f.isPublish = false)
    (fits : F.length ≤ u.capacity) : Triple (· = u) (answer f) (fun r v => u.Replied F r v) := by
  have reply : replyOf F = f.reply := by simp [replyOf, read]
  unfold answer
  split
  · rename_i id
    have completes : replyOf F = some ⟨.pubComp, id⟩ := by rw [reply]; rfl
    exact sendAck_replied completes (Nat.le_trans (replyOf_length completes) fits)
  · rename_i unpaired
    refine Triple.of_pure fun _ same => same ▸ .of_none ?_
    rw [reply]
    -- Only a PUBREL has a reply, and `answer` writes that one in its first arm.
    cases f with
    | publish q id => cases other
    | ack a =>
      rcases a with ⟨kind, id⟩
      cases kind with
      | pubRel => exact absurd rfl (unpaired id)
      | _ => rfl
    | _ => rfl

theorem Session.Replied.answered (replied : u.Replied F (.ok ()) v) : u.Answered F v := by
  rcases replied with ⟨-, answered⟩ | ⟨a, link, fault, -, -, wrong, -⟩
  · exact answered
  · cases wrong

theorem Session.Replied.refused {e : SessionError} (replied : u.Replied F (.error e) v) :
    ∃ a link fault, replyOf F = some a ∧ u.link.send a.bytes = (link, .error fault) ∧
      e = .transport fault ∧ v = { u with link } := by
  rcases replied with ⟨wrong, -⟩ | ⟨a, link, fault, reply, sent, failed, rfl⟩
  · cases wrong
  · cases failed
    exact ⟨a, link, fault, reply, sent, rfl, rfl⟩

end Replies

/-- A session within a call, as its ledger since `s₀` has it: nothing handed out, and a log that
hands out `P` and leaves the slot at `m`. -/
def Booked (s₀ : Session) (P : List Publish) (m : Slot) (t : Session) : Prop :=
  t.held = .nothing ∧ ∃ E, Logged s₀ E t m ∧ E.filterMap Event.handed? = P

/-- How a flow within a call leaves the ledger: balanced, or cut by a reply the link refused, and
then the call fails with an error that drops the link. -/
def Settles {α : Type} (s₀ : Session) (P : List Publish) (r : Except SessionError α) (t : Session) :
    Prop :=
  Booked s₀ P t.slot t ∨ ∃ e, r = .error e ∧ e.keepsLink = false ∧ Booked s₀ P (.cut t.slot) t

/-- How a search of `poll` leaves the ledger: at the whole publish it found at the front of the
buffer, with the slot free, or as any flow leaves it. -/
def Sought (s₀ : Session) (P : List Publish) : Except SessionError (Option Nat) → Session → Prop
  | .ok (some len), t => t.stash = [] ∧ len ≤ t.rx.length ∧ IsPublishFrame (t.rx.take len) ∧
      Booked s₀ P (.found (t.rx.take len)) t
  | r, t => Settles s₀ P r t

section Booking
variable {s₀ u t : Session} {P : List Publish} {E : List Event} {m : Slot}

theorem Settles.of_ok {α : Type} {a : α} (settles : Settles s₀ P (.ok a) t) : Booked s₀ P t.slot t := by
  rcases settles with booked | ⟨e, wrong, -⟩
  · exact booked
  · cases wrong

theorem Settles.error {α β : Type} {e : SessionError}
    (settles : Settles s₀ P (.error e : Except SessionError α) t) :
    Settles s₀ P (.error e : Except SessionError β) t := by
  rcases settles with booked | ⟨e', same, drops, cut⟩
  · exact .inl booked
  · cases same
    exact .inr ⟨e, rfl, drops, cut⟩

theorem Booked.grow {e : Event} (idle : t.held = .nothing) (log : Logged s₀ (E ++ [e]) t m)
    (handed : E.filterMap Event.handed? = P) (quiet : e.handed? = none) : Booked s₀ P m t :=
  ⟨idle, E ++ [e], log, by rw [Slot.filterMap_snoc, handed, quiet, Option.toList_none, List.append_nil]⟩

theorem Booked.pulled (booked : Booked s₀ P u.slot u) (pulled : u.Pulled t) :
    Booked s₀ P t.slot t := by
  obtain ⟨idle, E, log, handed⟩ := booked
  refine ⟨?_, E, log.pulled idle pulled, handed⟩
  obtain ⟨incoming, bs, rfl, -, -⟩ := pulled
  exact idle

theorem Booked.congr (booked : Booked s₀ P u.slot u) (idle : t.held = .nothing)
    (capacity : t.capacity = u.capacity) (broker : t.link.broker = u.link.broker)
    (sent : t.link.sent = u.link.sent) (unread : t.unread = u.unread) (stash : t.stash = u.stash) :
    Booked s₀ P t.slot t := by
  obtain ⟨idle', E, log, handed⟩ := booked
  have same : t.slot = u.slot := Session.slot_congr stash (idle.trans idle'.symm)
  refine ⟨idle, E, same ▸ log.congr capacity broker sent ?_, handed⟩
  rw [Slot.rest_of_settled u.slot_settled, Slot.rest_of_settled u.slot_settled,
    Session.pending_of_idle idle, Session.pending_of_idle idle', unread]

variable {y : List UInt8}

theorem sendPacket_booked {p : Outbound} (own : p.isOwn = true) :
    Triple (fun t => Booked s₀ P t.slot t ∧ t.stash = y) (sendPacket p)
      (fun _ t => Booked s₀ P t.slot t ∧ t.stash = y) := by
  intro s c r t c' ⟨⟨idle, E, log, handed⟩, stash⟩ run
  -- A packet too large to encode is not written, and one the link refuses is not recorded.
  rw [sendPacket_run] at run
  cases encoded : p.encode s.capacity with
  | error e =>
    rw [encoded] at run
    cases run
    exact ⟨⟨idle, E, log, handed⟩, stash⟩
  | stops why =>
    rw [encoded] at run
    cases run
  | ok bytes =>
    rcases sent : s.link.send bytes with ⟨link, fault | ⟨⟩⟩
    · simp only [encoded, sent] at run
      cases run
      exact ⟨⟨idle, E, log.refused idle sent, handed⟩, stash⟩
    · simp only [encoded, sent] at run
      cases run
      exact ⟨Booked.grow idle (log.wrote idle own encoded sent c.now) handed rfl, stash⟩

theorem sent_booked {p : Outbound} (own : p.isOwn = true) :
    Triple (fun t => Booked s₀ P t.slot t) (sendPacket p) (fun _ t => Booked s₀ P t.slot t) :=
  Triple.of_each fun u booked => (sendPacket_booked (y := u.stash) own).mono
    (fun _ same => by subst same; exact ⟨booked, rfl⟩) (fun _ _ post => post.1)

theorem answer_booked {α : Type} {f : Frame} {len : Nat} (booked : Booked s₀ P u.slot u)
    (whole : VarInt.frameLength u.rx = .ok (some len)) (fits : len ≤ u.capacity)
    (read : classify (u.rx.take len) = .ok f) (kind : f.isPublish = false) :
    Triple (· = u.consume len) (answer f)
      (Proceeds (fun t => Booked s₀ P t.slot t ∧ t.stash = u.stash)
        (Settles s₀ P : Except SessionError α → Session → Prop)) := by
  obtain ⟨idle, E, log, handed⟩ := booked
  refine (answer_replied (u := u.consume len) read kind ((List.length_take_le len u.rx).trans fits)).mono
    (fun _ same => same) fun r w replied => ?_
  cases r with
  | ok _ =>
    have answered := replied.answered
    obtain ⟨-, -, -, -, stash, held, -, -⟩ := answered.effects
    exact ⟨Booked.grow (held.trans idle) (log.past idle whole read kind answered) handed rfl, stash⟩
  | error e =>
    obtain ⟨a, link, fault, reply, sent, rfl, rfl⟩ := replied.refused
    have reply' : f.reply = some a := by rw [← reply]; simp [replyOf, read]
    exact .inr ⟨_, rfl, rfl, Booked.grow idle (log.unanswered idle whole read reply' sent) handed rfl⟩

theorem waitFor_booked (deadline : Nat) (want : Frame → Bool)
    (plain : ∀ f, want f = true → f.reply = none) :
    ∀ fuel, Triple (fun t => Booked s₀ P t.slot t) (waitFor deadline want fuel) (Settles s₀ P) :=
  WaitKeeps.waitFor (I := fun t => Booked s₀ P t.slot t) (Q := Settles s₀ P)
    { stops := fun _ _ booked => .inl booked
      pulled := fun _ _ booked pulled => booked.pulled pulled
      publish := fun u len q id booked whole fits read => by
        -- The publish is acknowledged, then parked or dropped; a refused reply cuts nothing.
        obtain ⟨idle, E, log, handed⟩ := booked
        refine (acknowledge_replied read ((List.length_take_le len u.rx).trans fits)).mono
          (fun _ same => same) fun r w replied => ?_
        cases r with
        | ok _ =>
          have answered := replied.answered
          obtain ⟨-, -, -, -, -, held, -, -⟩ := answered.effects
          exact Booked.grow (by simp [held, idle]) (log.stashed idle whole read answered) handed rfl
        | error e =>
          obtain ⟨a, link, fault, reply, sent, rfl, rfl⟩ := replied.refused
          exact .inl ⟨idle, E, log.refused idle sent, handed⟩
      wanted := fun u len f booked whole _ read kind wanted => by
        -- A wanted frame calls for no reply.
        obtain ⟨idle, E, log, handed⟩ := booked
        have quiet : replyOf (u.rx.take len) = none := by simp [replyOf, read, plain f wanted]
        exact .inl (Booked.grow idle (log.past idle whole read kind (.inl ⟨quiet, rfl⟩)) handed rfl)
      answered := fun _ _ _ booked whole fits read kind _ =>
        (answer_booked booked whole fits read kind).mono (fun _ same => same)
          fun _ _ post => post.imp And.left fun _ settles => settles }
    deadline

theorem seekPublish_booked (deadline : Nat) :
    ∀ fuel, Triple (fun t => Booked s₀ P t.slot t ∧ t.stash = []) (seekPublish deadline fuel)
      (Sought s₀ P) :=
  SeekKeeps.seekPublish (I := fun t => Booked s₀ P t.slot t ∧ t.stash = []) (Q := Sought s₀ P)
    { stops := fun _ _ start => .inl start.1
      quiet := fun _ start => .inl start.1
      pulled := fun _ _ start pulled => ⟨start.1.pulled pulled, pulled.stash.trans start.2⟩
      publish := fun u len q id start whole fits read => by
        -- The publish is acknowledged and found, at the front of the buffer with the slot free.
        obtain ⟨⟨idle, E, log, handed⟩, free⟩ := start
        refine (acknowledge_replied read ((List.length_take_le len u.rx).trans fits)).mono
          (fun _ same => same) fun r w replied => ?_
        cases r with
        | ok _ =>
          have answered := replied.answered
          obtain ⟨-, -, -, rx, stash, held, -, -⟩ := answered.effects
          have found := log.found idle free whole read answered
          obtain ⟨-, -, -, -, within⟩ := VarInt.frameLength_some whole
          have publish : IsPublishFrame _ := ⟨VarInt.isFrame_take_of_some whole, q, id, read⟩
          rw [← rx] at found within publish
          exact ⟨stash.trans free, within, publish, Booked.grow (held.trans idle) found handed rfl⟩
        | error e =>
          obtain ⟨a, link, fault, reply, sent, rfl, rfl⟩ := replied.refused
          exact .inl ⟨idle, E, log.refused idle sent, handed⟩
      answered := fun _ _ _ start whole fits read kind =>
        (answer_booked start.1 whole fits read kind).mono (fun _ same => same)
          fun _ _ post => post.imp (fun kept => ⟨kept.1, kept.2.trans start.2⟩) fun _ settles => settles }
    deadline

theorem Frame.reply_of_wanted (want : Frame → Bool) (noPublish : ∀ q id, want (.publish q id) = false)
    (noRelease : ∀ id, want (.ack ⟨.pubRel, id⟩) = false) : ∀ f, want f = true → f.reply = none := by
  intro f wanted
  unfold Frame.reply
  split
  · rw [noPublish] at wanted
    cases wanted
  · rw [noPublish] at wanted
    cases wanted
  · rw [noRelease] at wanted
    cases wanted
  · rfl

theorem awaitFrame_booked (deadline : Nat) (want : Frame → Bool)
    (plain : ∀ f, want f = true → f.reply = none) :
    Triple (fun t => Booked s₀ P t.slot t) (awaitFrame deadline want) (Settles s₀ P) := by
  rw [awaitFrame]
  exact Triple.of_state fun s booked =>
    Triple.at_start (waitFor_booked deadline want plain s.budget) booked

theorem keepAlive_booked :
    Triple (fun t => Booked s₀ P t.slot t ∧ t.stash = y) keepAlive
      (fun _ t => Booked s₀ P t.slot t ∧ t.stash = y) := by
  rw [keepAlive]
  refine Triple.of_state fun s start => ?_
  split
  · refine Triple.of_clock fun now => ?_
    split
    · exact Triple.at_start (sendPacket_booked rfl) start
    · exact Triple.of_pure fun _ same => same ▸ start
  · exact Triple.of_pure fun _ same => same ▸ start

theorem takeId_booked :
    Triple (fun t => Booked s₀ P t.slot t) takeId (fun _ t => Booked s₀ P t.slot t) := by
  intro s c r t c' booked run
  rw [run_takeId] at run
  cases run
  exact booked.congr booked.1 rfl rfl rfl rfl rfl

theorem nextPublish_booked (deadline : Nat) :
    Triple (fun t => Booked s₀ P t.slot t ∧ t.stash = []) (nextPublish deadline) (Sought s₀ P) := by
  rw [nextPublish]
  refine Triple.of_bind keepAlive_booked (fun _ => ?_) (fun _ _ post => .inl post.1)
  exact Triple.of_state fun s start =>
    Triple.at_start (seekPublish_booked deadline s.budget) start

theorem subscribeFlow_booked (topic : String) (qos : QoS) :
    Triple (fun t => Booked s₀ P t.slot t) (subscribeFlow topic qos) (Settles s₀ P) := by
  rw [subscribeFlow]
  refine Triple.of_bind takeId_booked (fun id => ?_) (fun _ _ booked => .inl booked)
  refine Triple.of_bind (sent_booked rfl) (fun _ => ?_) (fun _ _ booked => .inl booked)
  refine Triple.of_clock fun now => Triple.of_state fun s booked => ?_
  have plain := Frame.reply_of_wanted (isSubAckFor id)
    (fun _ _ => rfl) (fun _ => rfl)
  refine Triple.of_bind (Triple.at_start (awaitFrame_booked _ _ plain) booked)
    (fun frame => Triple.of_each fun v settles => ?_) (fun _ _ settles => settles.error)
  split
  · exact Triple.of_throw fun _ same => same ▸ .inl settles.of_ok
  · exact Triple.of_pure fun _ same => same ▸ .inl settles.of_ok

theorem publishFlow_booked (topic : String) (payload : List UInt8) (qos : QoS)
    :
    Triple (fun t => Booked s₀ P t.slot t) (publishFlow topic payload qos) (Settles s₀ P) := by
  -- The acknowledgements awaited are never frames that call for a reply.
  have plain : ∀ kind id, kind ≠ .pubRel → ∀ f, isAck kind id f = true → f.reply = none :=
    fun kind id other => Frame.reply_of_wanted _ (fun _ _ => rfl) fun i => by
      simp [isAck, Ne.symm other]
  cases qos with
  | atMostOnce =>
    simp only [publishFlow, pure_bind]
    exact Triple.of_bind (sent_booked rfl) (fun _ => Triple.of_pure fun _ booked => .inl booked)
      (fun _ _ booked => .inl booked)
  | atLeastOnce =>
    simp only [publishFlow, map_eq_pure_bind, bind_assoc, pure_bind]
    refine Triple.of_bind takeId_booked (fun id => ?_) (fun _ _ booked => .inl booked)
    refine Triple.of_bind (sent_booked rfl) (fun _ => ?_) (fun _ _ booked => .inl booked)
    refine Triple.of_clock fun now => Triple.of_state fun s booked => ?_
    exact Triple.of_bind (Triple.at_start (awaitFrame_booked _ _ (plain _ _ (by decide))) booked)
      (fun _ => Triple.of_pure fun _ settles => .inl settles.of_ok) (fun _ _ settles => settles.error)
  | exactlyOnce =>
    simp only [publishFlow, map_eq_pure_bind, bind_assoc, pure_bind]
    refine Triple.of_bind takeId_booked (fun id => ?_) (fun _ _ booked => .inl booked)
    refine Triple.of_bind (sent_booked rfl) (fun _ => ?_) (fun _ _ booked => .inl booked)
    refine Triple.of_clock fun now => Triple.of_state fun s booked => ?_
    refine Triple.of_bind (Triple.at_start (awaitFrame_booked _ _ (plain _ _ (by decide))) booked)
      (fun _ => Triple.of_each fun v settles => ?_) (fun _ _ settles => settles.error)
    refine Triple.of_bind (Triple.at_start (sent_booked rfl) settles.of_ok) (fun _ => ?_)
      (fun _ _ booked => .inl booked)
    exact Triple.of_bind (awaitFrame_booked _ _ (plain _ _ (by decide)))
      (fun _ => Triple.of_pure fun _ settles => .inl settles.of_ok) (fun _ _ settles => settles.error)

theorem handshake_booked : Triple (fun t => Booked s₀ P t.slot t) handshake (Settles s₀ P) := by
  rw [handshake]
  refine Triple.of_state fun s booked => ?_
  refine Triple.of_bind (Triple.at_start (sent_booked rfl) booked) (fun _ => ?_)
    (fun _ _ booked => .inl booked)
  refine Triple.of_clock fun now => Triple.of_state fun u booked => ?_
  have plain := Frame.reply_of_wanted isConnAck
    (fun _ _ => rfl) (fun _ => rfl)
  refine Triple.of_bind (Triple.at_start (awaitFrame_booked _ _ plain) booked)
    (fun frame => Triple.of_each fun v settles => ?_) (fun _ _ settles => settles.error)
  split
  · exact Triple.of_pure fun _ same => same ▸ .inl settles.of_ok
  · exact Triple.of_throw fun _ same => same ▸ .inl settles.of_ok
  · exact Triple.of_throw fun _ same => same ▸ .inl settles.of_ok

end Booking

end Gateway.Mqtt
