import Gateway.Proofs.FlowRun
/-!
Framing of the inbound byte stream. A frame is a type byte, a remaining-length field of at most
four bytes, and the body that field announces; `VarInt.frameLength` finds it at the front of the
bytes received so far. The first part shows that it answers "not yet" on every proper prefix of a
frame and the frame's own length on anything that starts with the frame. The second part reads
the peer's queued chunks as one stream and shows what the receiving loop `readFrame` makes of
it, whatever the chunk boundaries: the length of the first whole frame with that frame at the
front of the buffer, a refusal of a frame longer than the buffer or of a malformed length field,
or a wait for the deadline when no whole frame has arrived. The last part cuts any stream into
its whole frames and what follows them (`splitFrames`), and restates the four outcomes of a read
by that cut alone.
-/
namespace Gateway.Mqtt.VarInt

theorem extend_eq_value {b : UInt8} {s : Scan} {v w : Nat} (h : s.extend b = .value v w) :
    ∃ v' w', s = .value v' w' ∧ v = b.toNat % 128 + 128 * v' ∧ w = w' + 1 := by
  cases s with
  | value v' w' =>
    simp only [Scan.extend, Scan.value.injEq] at h
    exact ⟨v', w', rfl, h.1.symm, h.2.symm⟩
  | short => simp [Scan.extend] at h
  | overlong => simp [Scan.extend] at h

theorem scanWithin_cons (slots : Nat) (b : UInt8) (rest : List UInt8) :
    scanWithin slots (b :: rest) =
      if b < 128 then .value b.toNat 1
      else if slots < 2 then .overlong else (scanWithin (slots - 1) rest).extend b := by
  rcases slots with _ | _ | k
  · simp [scanWithin]
  · simp [scanWithin]
  · have many : ¬ k + 1 + 1 < 2 := by omega
    simp [scanWithin, many]

theorem scanWithin_append {slots : Nat} {l : List UInt8} (t : List UInt8)
    (decided : scanWithin slots l ≠ .short) : scanWithin slots (l ++ t) = scanWithin slots l := by
  induction l generalizing slots with
  | nil => simp [scanWithin] at decided
  | cons b rest ih =>
    rw [List.cons_append, scanWithin_cons, scanWithin_cons]
    rw [scanWithin_cons] at decided
    by_cases low : b < 128
    · simp [low]
    · by_cases few : slots < 2
      · simp [low, few]
      · simp only [low, few, if_false] at decided ⊢
        have inner : scanWithin (slots - 1) rest ≠ .short := by
          intro h
          simp [h, Scan.extend] at decided
        rw [ih inner]

theorem scanWithin_width {slots : Nat} {l : List UInt8} {v w : Nat}
    (h : scanWithin slots l = .value v w) : 1 ≤ w ∧ w ≤ l.length := by
  induction l generalizing slots v w with
  | nil => simp [scanWithin] at h
  | cons b rest ih =>
    rw [scanWithin_cons] at h
    by_cases low : b < 128
    · simp only [low, if_true, Scan.value.injEq] at h
      simp; omega
    · by_cases few : slots < 2
      · simp [low, few] at h
      · simp only [low, few, if_false] at h
        obtain ⟨v', w', inner, -, rfl⟩ := extend_eq_value h
        have := ih inner
        simp; omega

theorem scanWithin_take {slots : Nat} {l : List UInt8} {v w : Nat}
    (h : scanWithin slots l = .value v w) (n : Nat) :
    scanWithin slots (l.take n) = if w ≤ n then .value v w else .short := by
  induction l generalizing slots v w n with
  | nil => simp [scanWithin] at h
  | cons b rest ih =>
    cases n with
    | zero =>
      have := (scanWithin_width h).1
      simp [scanWithin]
      omega
    | succ n =>
      rw [List.take_succ_cons, scanWithin_cons]
      rw [scanWithin_cons] at h
      by_cases low : b < 128
      · simp only [low, if_true, Scan.value.injEq] at h ⊢
        obtain ⟨rfl, rfl⟩ := h
        simp
      · by_cases few : slots < 2
        · simp [low, few] at h
        · simp only [low, few, if_false] at h ⊢
          obtain ⟨v', w', inner, rfl, rfl⟩ := extend_eq_value h
          rw [ih inner n]
          by_cases fits : w' ≤ n
          · simp [fits, Scan.extend]
          · simp [fits, Scan.extend]

theorem scanWithin_take_of_short {slots : Nat} {l : List UInt8} (h : scanWithin slots l = .short)
    (n : Nat) : scanWithin slots (l.take n) = .short := by
  induction l generalizing slots n with
  | nil => simp [scanWithin]
  | cons b rest ih =>
    cases n with
    | zero => simp [scanWithin]
    | succ n =>
      rw [List.take_succ_cons, scanWithin_cons]
      rw [scanWithin_cons] at h
      by_cases low : b < 128
      · simp [low] at h
      · by_cases few : slots < 2
        · simp [low, few] at h
        · simp only [low, few, if_false] at h ⊢
          have inner : scanWithin (slots - 1) rest = .short := by
            cases hs : scanWithin (slots - 1) rest <;> simp_all [Scan.extend]
          simp [ih inner n, Scan.extend]

theorem scan_append {l : List UInt8} (t : List UInt8) (decided : scan l ≠ .short) :
    scan (l ++ t) = scan l :=
  scanWithin_append t decided

theorem scan_take {l : List UInt8} {v w : Nat} (h : scan l = .value v w) (n : Nat) :
    scan (l.take n) = if w ≤ n then .value v w else .short :=
  scanWithin_take h n

theorem scan_take_of_short {l : List UInt8} (h : scan l = .short) (n : Nat) :
    scan (l.take n) = .short :=
  scanWithin_take_of_short h n

def IsFrame (F : List UInt8) : Prop := frameLength F = .ok (some F.length)

theorem frameLength_error {bs : List UInt8} {e : PacketError} (h : frameLength bs = .error e) :
    e = .malformed := by
  unfold frameLength at h
  split at h <;> simp_all

theorem frameLength_some {bs : List UInt8} {n : Nat} (h : frameLength bs = .ok (some n)) :
    ∃ w r, scan (bs.drop 1) = .value r w ∧ n = 1 + w + r ∧ n ≤ bs.length := by
  unfold frameLength at h
  split at h
  · rename_i r w found
    split at h
    · simp only [Except.ok.injEq, Option.some.injEq] at h
      exact ⟨w, r, found, h.symm, by omega⟩
    · simp at h
  · simp at h
  · simp at h

theorem frameLength_append_of_some {bs : List UInt8} {n : Nat} (h : frameLength bs = .ok (some n))
    (t : List UInt8) : frameLength (bs ++ t) = .ok (some n) := by
  obtain ⟨w, r, found, rfl, within⟩ := frameLength_some h
  have nonempty : 1 ≤ bs.length := by omega
  have decided : scan (bs.drop 1) ≠ .short := by rw [found]; simp
  unfold frameLength
  rw [List.drop_append_of_le_length nonempty, scan_append t decided, found]
  simp
  omega

theorem frameLength_append_of_error {bs : List UInt8} {e : PacketError}
    (h : frameLength bs = .error e) (t : List UInt8) : frameLength (bs ++ t) = .error e := by
  unfold frameLength at h ⊢
  split at h
  · simp at h
  · simp at h
  · rename_i overlong
    have nonempty : 1 ≤ bs.length := by
      rcases bs with _ | ⟨b, rest⟩
      · simp [scan, scanWithin] at overlong
      · simp
    have decided : scan (bs.drop 1) ≠ .short := by rw [overlong]; simp
    rw [List.drop_append_of_le_length nonempty, scan_append t decided, overlong]
    exact h

theorem frameLength_take_of_none {bs : List UInt8} (h : frameLength bs = .ok none) (m : Nat) :
    frameLength (bs.take m) = .ok none := by
  unfold frameLength at h ⊢
  rw [List.drop_take]
  cases found : scan (bs.drop 1) with
  | value r w =>
    rw [found] at h
    have long : ¬ 1 + w + r ≤ bs.length := by simpa using h
    rw [scan_take found]
    by_cases within : w ≤ m - 1
    · rw [if_pos within]
      simp
      omega
    · rw [if_neg within]
  | short => rw [scan_take_of_short found]
  | overlong => rw [found] at h; simp at h

theorem IsFrame.append {F : List UInt8} (frame : IsFrame F) (t : List UInt8) :
    frameLength (F ++ t) = .ok (some F.length) :=
  frameLength_append_of_some frame t

theorem IsFrame.take_of_lt {F : List UInt8} (frame : IsFrame F) {m : Nat} (short : m < F.length) :
    frameLength (F.take m) = .ok none := by
  obtain ⟨w, r, found, total, -⟩ := frameLength_some frame
  unfold frameLength
  rw [List.drop_take, scan_take found]
  by_cases within : w ≤ m - 1
  · rw [if_pos within]
    simp
    omega
  · rw [if_neg within]

theorem isFrame_take_of_some {bs : List UInt8} {n : Nat} (h : frameLength bs = .ok (some n)) :
    IsFrame (bs.take n) := by
  obtain ⟨w, r, found, rfl, within⟩ := frameLength_some h
  unfold IsFrame frameLength
  rw [List.drop_take, scan_take found]
  have := (scanWithin_width found).1
  simp [show w ≤ 1 + w + r - 1 by omega]
  omega

end Gateway.Mqtt.VarInt

namespace Gateway.Mqtt
open Gateway.Mqtt.Flow

def Chunk.bytes : Chunk → List UInt8
  | .data bs => bs
  | _ => []

namespace Link

def stream (l : Link) : List UInt8 := l.incoming.flatMap Chunk.bytes

def Steady (l : Link) : Prop := ∀ c ∈ l.incoming, ∃ bs, c = .data bs ∧ bs ≠ []

theorem pendingBytes_eq (l : Link) : l.pendingBytes = l.stream.length := by
  unfold pendingBytes stream
  generalize l.incoming = cs
  rw [show (cs.flatMap Chunk.bytes).length = 0 + (cs.flatMap Chunk.bytes).length by simp]
  generalize 0 = n
  induction cs generalizing n with
  | nil => simp
  | cons c rest ih =>
    cases c with
    | data bs => simp [ih, Chunk.bytes]; omega
    | eof | fault _ => simp [ih, Chunk.bytes]

theorem recv?_of_silent {l : Link} (silent : l.incoming = []) (room : Nat) : l.recv? room = none := by
  simp [recv?, silent]

theorem recv?_of_steady {l : Link} (steady : l.Steady) (queued : l.incoming ≠ []) {room : Nat}
    (open_ : 0 < room) :
    ∃ got rest, l.recv? room = some ({ l with incoming := rest }, .bytes got) ∧ got ≠ [] ∧
      got.length ≤ room ∧ got ++ stream { l with incoming := rest } = l.stream ∧
      Steady { l with incoming := rest } := by
  obtain ⟨first, tail, split⟩ := List.exists_cons_of_ne_nil queued
  obtain ⟨bs, rfl, nonempty⟩ := steady first (by simp [split])
  have tailSteady : ∀ c ∈ tail, ∃ bs, c = .data bs ∧ bs ≠ [] :=
    fun c mem => steady c (by simp [split, mem])
  have taken : bs.take room ≠ [] := by
    simp [List.take_eq_nil_iff, nonempty]
    omega
  by_cases longer : bs.length > room
  · refine ⟨bs.take room, .data (bs.drop room) :: tail, ?_, taken, ?_, ?_, ?_⟩
    · simp [recv?, split, longer]
    · exact List.length_take_le _ _
    · simp only [stream, split, List.flatMap_cons, Chunk.bytes]
      rw [← List.append_assoc, List.take_append_drop]
    · intro c mem
      simp only [List.mem_cons] at mem
      rcases mem with rfl | mem
      · exact ⟨_, rfl, by simp; omega⟩
      · exact tailSteady c mem
  · refine ⟨bs.take room, tail, ?_, taken, ?_, ?_, ?_⟩
    · simp [recv?, split, longer]
    · exact List.length_take_le _ _
    · simp [stream, split, Chunk.bytes, List.take_of_length_le (by omega : bs.length ≤ room)]
    · exact tailSteady

end Link

namespace Session

def unread (s : Session) : List UInt8 := s.rx ++ s.link.stream

/-- The session with every queued byte moved into its buffer: what is left of it once the
chunking of the peer's bytes is forgotten. -/
def norm (s : Session) : Session := { s with rx := s.unread, link := { s.link with incoming := [] } }

/-- A buffer within its capacity, fed by a peer that queues only bytes. -/
structure Reading (s : Session) : Prop where
  fits : s.rx.length ≤ s.capacity
  steady : s.link.Steady

theorem norm_pull (s : Session) {got : List UInt8} {rest : List Chunk}
    (moved : got ++ Link.stream { s.link with incoming := rest } = s.link.stream) :
    ({ s with link := { s.link with incoming := rest }, rx := s.rx ++ got } : Session).norm = s.norm := by
  simp [norm, unread, ← moved]

theorem unread_eq_of_norm {s t : Session} (same : t.norm = s.norm) : t.unread = s.unread := by
  simpa [norm] using congrArg Session.rx same

theorem capacity_eq_of_norm {s t : Session} (same : t.norm = s.norm) : t.capacity = s.capacity := by
  simpa [norm] using congrArg Session.capacity same

theorem incoming_ne_nil {s : Session} (longer : s.rx.length < s.unread.length) :
    s.link.incoming ≠ [] := by
  intro silent
  simp [unread, Link.stream, silent] at longer

end Session

section ReadFrame
variable {deadline fuel : Nat} {s : Session} {c : Clock}

theorem readFrame_run_of_error {e : PacketError} (bad : VarInt.frameLength s.rx = .error e) :
    (readFrame deadline (fuel + 1)).run (s, c) = .ok (.error (.ofPacket e)) (s, c) := by
  simp [readFrame, run_bind, bad]

theorem readFrame_run_of_some {len : Nat} (whole : VarInt.frameLength s.rx = .ok (some len))
    (fits : len ≤ s.capacity) :
    (readFrame deadline (fuel + 1)).run (s, c) = .ok (.ok (some len)) (s, c) := by
  simp [readFrame, run_bind, whole, Nat.not_lt.mpr fits]

theorem readFrame_run_of_oversized {len : Nat} (whole : VarInt.frameLength s.rx = .ok (some len))
    (large : s.capacity < len) :
    (readFrame deadline (fuel + 1)).run (s, c) = .ok (.error (.protocol .payloadTooLarge)) (s, c) := by
  simp [readFrame, run_bind, whole, large]

theorem readFrame_run_of_full (pending : VarInt.frameLength s.rx = .ok none)
    (full : s.rx.length = s.capacity) :
    (readFrame deadline (fuel + 1)).run (s, c) =
      .ok (.error (.protocol .payloadTooLarge)) (s, c) := by
  simp [readFrame, run_bind, pending, full]

theorem readFrame_run_of_late (pending : VarInt.frameLength s.rx = .ok none)
    (room : s.rx.length ≠ s.capacity) (late : deadline ≤ c.now) :
    (readFrame deadline (fuel + 1)).run (s, c) = .ok (.ok none) (s, c) := by
  simp [readFrame, run_bind, pending, room, late]

theorem readFrame_run_of_silent (pending : VarInt.frameLength s.rx = .ok none)
    (room : s.rx.length ≠ s.capacity) (early : c.now < deadline)
    (silent : s.link.recv? (s.capacity - s.rx.length) = none) :
    (readFrame deadline (fuel + 1)).run (s, c) = (waitUntil deadline >>= fun _ => pure none).run (s, c) := by
  simp [readFrame, run_bind, pending, room, Nat.not_le.mpr early, silent]

theorem readFrame_run_of_bytes {link : Link} {bs : List UInt8}
    (pending : VarInt.frameLength s.rx = .ok none)
    (room : s.rx.length ≠ s.capacity) (early : c.now < deadline)
    (got : s.link.recv? (s.capacity - s.rx.length) = some (link, .bytes bs)) (nonempty : bs ≠ []) :
    (readFrame deadline (fuel + 1)).run (s, c) =
      (readFrame deadline fuel).run ({ s with link, rx := s.rx ++ bs }, c) := by
  obtain ⟨b, rest, rfl⟩ := List.exists_cons_of_ne_nil nonempty
  simp [readFrame, run_bind, pending, room, Nat.not_le.mpr early, got]

theorem readFrame_run_of_closed {link : Link} (pending : VarInt.frameLength s.rx = .ok none)
    (room : s.rx.length ≠ s.capacity) (early : c.now < deadline)
    (got : s.link.recv? (s.capacity - s.rx.length) = some (link, .bytes [])) :
    (readFrame deadline (fuel + 1)).run (s, c) =
      .ok (.error (.protocol .connectionClosed)) ({ s with link }, c) := by
  simp [readFrame, run_bind, pending, room, Nat.not_le.mpr early, got]

theorem readFrame_run_of_fault {link : Link} {f : LinkFault}
    (pending : VarInt.frameLength s.rx = .ok none) (room : s.rx.length ≠ s.capacity)
    (early : c.now < deadline) (got : s.link.recv? (s.capacity - s.rx.length) = some (link, .fault f)) :
    (readFrame deadline (fuel + 1)).run (s, c) =
      .ok (if f.isTimeout then .ok none else .error (.transport f)) ({ s with link }, c) := by
  by_cases timeout : f.isTimeout
  · simp [readFrame, run_bind, pending, room, Nat.not_le.mpr early, got, timeout]
    rfl
  · simp [readFrame, run_bind, pending, room, Nat.not_le.mpr early, got, timeout]

theorem readFrame_run_pull (fuel : Nat) (reading : s.Reading)
    (pending : VarInt.frameLength s.rx = .ok none) (room : s.rx.length < s.capacity)
    (early : c.now < deadline) (queued : s.link.incoming ≠ []) :
    ∃ u, (readFrame deadline (fuel + 1)).run (s, c) = (readFrame deadline fuel).run (u, c) ∧
      u.norm = s.norm ∧ u.Reading ∧ s.rx.length < u.rx.length ∧ s.rx <+: u.rx ∧
      u.link.stream.length < s.link.stream.length := by
  obtain ⟨got, rest, received, nonempty, within, moved, steady⟩ :=
    Link.recv?_of_steady reading.steady queued (by omega : 0 < s.capacity - s.rx.length)
  refine ⟨{ s with link := { s.link with incoming := rest }, rx := s.rx ++ got }, ?_,
    Session.norm_pull s moved, ⟨?_, steady⟩, ?_, ?_, ?_⟩
  · exact readFrame_run_of_bytes pending (by omega) early received nonempty
  · simp; omega
  · simp [List.length_pos_iff.mpr nonempty]
  · simp
  · have total := congrArg List.length moved
    have positive := List.length_pos_iff.mpr nonempty
    simp only [List.length_append] at total
    simp only
    omega

theorem readFrame_frame {F rest : List UInt8}
    (frame : VarInt.IsFrame F) (fits : F.length ≤ s.capacity) (front : s.unread = F ++ rest)
    (reading : s.Reading) (seen : F.length ≤ s.rx.length ∨ c.now < deadline)
    (enough : s.link.stream.length < fuel) :
    ∃ t, (readFrame deadline fuel).run (s, c) = .ok (.ok (some F.length)) (t, c) ∧
      t.norm = s.norm ∧ t.Reading ∧ F <+: t.rx ∧ (c.now < deadline ∨ t = s) := by
  induction fuel generalizing s with
  | zero => omega
  | succ fuel ih =>
    have inFront : F <+: s.unread := front ▸ List.prefix_append F rest
    have rxFront : s.rx <+: s.unread := List.prefix_append _ _
    by_cases arrived : F.length ≤ s.rx.length
    · have held : F <+: s.rx := List.prefix_of_prefix_length_le inFront rxFront arrived
      obtain ⟨more, filled⟩ := held
      have whole : VarInt.frameLength s.rx = .ok (some F.length) := by
        rw [← filled]
        exact frame.append more
      exact ⟨s, readFrame_run_of_some whole fits, rfl, reading, ⟨more, filled⟩, .inr rfl⟩
    · have started : s.rx <+: F := List.prefix_of_prefix_length_le rxFront inFront (by omega)
      have pending : VarInt.frameLength s.rx = .ok none := by
        rw [List.prefix_iff_eq_take.mp started]
        exact frame.take_of_lt (by omega)
      have longer : s.rx.length < s.unread.length := by
        rw [front, List.length_append]
        omega
      obtain ⟨u, step, same, reading', -, -, shorter⟩ :=
        readFrame_run_pull fuel reading pending (by omega) (seen.resolve_left arrived)
          (Session.incoming_ne_nil longer)
      have capacity := Session.capacity_eq_of_norm same
      obtain ⟨t, run, settled, reading'', held, -⟩ :=
        ih (s := u) (by omega) ((Session.unread_eq_of_norm same).trans front) reading'
          (.inr (seen.resolve_left arrived)) (by omega)
      exact ⟨t, step.trans run, settled.trans same, reading'', held, .inl (seen.resolve_left arrived)⟩

theorem readFrame_dry (reading : s.Reading)
    (pending : VarInt.frameLength s.unread = .ok none) (room : s.unread.length < s.capacity)
    (free : c.limit = none) (enough : s.link.stream.length < fuel) :
    ∃ t, (readFrame deadline fuel).run (s, c) =
        .ok (.ok none) (t, { c with now := max c.now deadline }) ∧
      t.norm = s.norm ∧ t.Reading ∧ (c.now < deadline → t.link.stream = []) := by
  induction fuel generalizing s with
  | zero => omega
  | succ fuel ih =>
    have buffered : VarInt.frameLength s.rx = .ok none := by
      have cut := VarInt.frameLength_take_of_none pending s.rx.length
      simpa [Session.unread] using cut
    have below : s.rx.length < s.capacity := by
      simp [Session.unread] at room
      omega
    by_cases early : c.now < deadline
    · by_cases silent : s.link.incoming = []
      · refine ⟨s, ?_, rfl, reading, fun _ => by simp [Link.stream, silent]⟩
        rw [readFrame_run_of_silent buffered (by omega) early (Link.recv?_of_silent silent _),
          run_bind_ok (run_waitUntil_free deadline s free)]
        rfl
      · obtain ⟨u, step, same, reading', -, -, shorter⟩ :=
          readFrame_run_pull fuel reading buffered below early silent
        have capacity := Session.capacity_eq_of_norm same
        have unread := Session.unread_eq_of_norm same
        obtain ⟨t, run, settled, reading'', drained⟩ :=
          ih (s := u) reading' (unread ▸ pending) (by rw [unread, capacity]; exact room)
            (by omega)
        exact ⟨t, step.trans run, settled.trans same, reading'', drained⟩
    · have stays : ({ c with now := max c.now deadline } : Clock) = c := by
        cases c with
        | mk now limit =>
          simp only [Clock.mk.injEq, and_true] at early ⊢
          omega
      refine ⟨s, ?_, rfl, reading, fun early' => absurd early' early⟩
      rw [stays]
      exact readFrame_run_of_late buffered (by omega) (by omega)

theorem readFrame_overflow (reading : s.Reading)
    (pending : VarInt.frameLength (s.unread.take s.capacity) = .ok none)
    (plenty : s.capacity ≤ s.unread.length)
    (seen : s.rx.length = s.capacity ∨ c.now < deadline) (enough : s.link.stream.length < fuel) :
    ∃ t, (readFrame deadline fuel).run (s, c) =
        .ok (.error (.protocol .payloadTooLarge)) (t, c) ∧
      t.norm = s.norm ∧ t.Reading ∧ t.rx.length = t.capacity := by
  induction fuel generalizing s with
  | zero => omega
  | succ fuel ih =>
    have buffered : VarInt.frameLength s.rx = .ok none := by
      have cut := VarInt.frameLength_take_of_none pending s.rx.length
      rwa [List.take_take, Nat.min_eq_left reading.fits, Session.unread,
        List.take_left' rfl] at cut
    by_cases full : s.rx.length = s.capacity
    · exact ⟨s, readFrame_run_of_full buffered full, rfl, reading, full⟩
    · have early := seen.resolve_left full
      have longer : s.rx.length < s.unread.length := by
        have := reading.fits
        omega
      obtain ⟨u, step, same, reading', -, -, shorter⟩ :=
        readFrame_run_pull fuel reading buffered (by have := reading.fits; omega) early
          (Session.incoming_ne_nil longer)
      have capacity := Session.capacity_eq_of_norm same
      have unread := Session.unread_eq_of_norm same
      obtain ⟨t, run, settled, reading'', full'⟩ :=
        ih (s := u) reading' (by rw [unread, capacity]; exact pending)
          (by rw [unread, capacity]; exact plenty) (.inr early) (by omega)
      exact ⟨t, step.trans run, settled.trans same, reading'', full'⟩

theorem readFrame_malformed {m : Nat} {e : PacketError} (reading : s.Reading)
    (bad : VarInt.frameLength (s.unread.take m) = .error e) (within : m ≤ s.capacity)
    (seen : m ≤ s.rx.length ∨ c.now < deadline) (enough : s.link.stream.length < fuel) :
    ∃ t, (readFrame deadline fuel).run (s, c) =
        .ok (.error (.protocol .malformedPacket)) (t, c) ∧ t.norm = s.norm ∧ t.Reading := by
  induction fuel generalizing s with
  | zero => omega
  | succ fuel ih =>
    have rxFront : s.rx <+: s.unread := List.prefix_append _ _
    -- A buffer holding the first `m` bytes already reads as malformed.
    have caught : m ≤ s.rx.length → VarInt.frameLength s.rx = .error e := by
      intro enoughHeld
      have cut : s.unread.take m <+: s.rx :=
        List.prefix_of_prefix_length_le (List.take_prefix m _) rxFront (by simp; omega)
      obtain ⟨more, filled⟩ := cut
      rw [← filled]
      exact VarInt.frameLength_append_of_error bad more
    cases scanned : VarInt.frameLength s.rx with
    | error e' =>
      have malformed := VarInt.frameLength_error scanned
      subst malformed
      exact ⟨s, readFrame_run_of_error scanned, rfl, reading⟩
    | ok found =>
      have short : s.rx.length < m := by
        apply Nat.lt_of_not_le
        intro held
        rw [caught held] at scanned
        cases scanned
      cases found with
      | some n =>
        have cut : s.rx <+: s.unread.take m := List.prefix_take_iff.mpr ⟨rxFront, by omega⟩
        obtain ⟨more, filled⟩ := cut
        rw [← filled, VarInt.frameLength_append_of_some scanned more] at bad
        cases bad
      | none =>
        have longer : s.rx.length < s.unread.length := by
          apply Nat.lt_of_not_le
          intro drained
          have empty : s.link.stream = [] := by
            simp only [Session.unread, List.length_append] at drained
            exact List.eq_nil_of_length_eq_zero (by omega)
          have whole : s.unread.take m = s.rx := by
            rw [List.take_of_length_le (by simp [Session.unread, empty]; omega)]
            simp [Session.unread, empty]
          rw [whole, scanned] at bad
          cases bad
        obtain ⟨u, step, same, reading', -, -, shorter⟩ :=
          readFrame_run_pull fuel reading scanned (by omega) (seen.resolve_left (by omega))
            (Session.incoming_ne_nil longer)
        have capacity := Session.capacity_eq_of_norm same
        have unread := Session.unread_eq_of_norm same
        obtain ⟨t, run, settled, reading''⟩ :=
          ih (s := u) reading' (by rw [unread]; exact bad) (by rw [capacity]; exact within)
            (.inr (seen.resolve_left (by omega))) (by omega)
        exact ⟨t, step.trans run, settled.trans same, reading''⟩

end ReadFrame

end Gateway.Mqtt

namespace Gateway.Mqtt
open VarInt

/-- How a stream goes on behind its whole frames, read through a buffer of fixed size. -/
inductive StreamEnd where
  | pending (rest : List UInt8)
  | oversized
  | malformed
  deriving DecidableEq, Repr

/-- The whole frames at the front of `bytes` that fit a buffer of `cap` bytes, in order, and
how the stream goes on behind them. -/
def splitFrames (cap : Nat) (bytes : List UInt8) : List (List UInt8) × StreamEnd :=
  match _found : frameLength (bytes.take cap) with
  | .error _ => ([], .malformed)
  | .ok none => ([], if cap ≤ bytes.length then .oversized else .pending bytes)
  | .ok (some n) =>
    let more := splitFrames cap (bytes.drop n)
    (bytes.take n :: more.1, more.2)
termination_by bytes.length
decreasing_by
  obtain ⟨w, r, -, total, within⟩ := frameLength_some _found
  simp only [List.length_take] at within
  simp only [List.length_drop]
  omega

theorem splitFrames_eq_cons {cap : Nat} {bytes F : List UInt8} {Fs : List (List UInt8)}
    {tail : StreamEnd} (split : splitFrames cap bytes = (F :: Fs, tail)) :
    IsFrame F ∧ F.length ≤ cap ∧ ∃ rest, bytes = F ++ rest ∧ splitFrames cap rest = (Fs, tail) := by
  rw [splitFrames] at split
  split at split
  · cases split
  · cases split
  · rename_i n found
    simp only [Prod.mk.injEq, List.cons.injEq] at split
    obtain ⟨⟨rfl, rfl⟩, rfl⟩ := split
    obtain ⟨w, r, -, -, within⟩ := frameLength_some found
    have frame : IsFrame (bytes.take n) := by
      have := isFrame_take_of_some found
      rwa [List.take_take, Nat.min_eq_left (by simp at within; omega)] at this
    refine ⟨frame, by simp at within ⊢; omega, bytes.drop n, (List.take_append_drop n bytes).symm, rfl⟩

theorem splitFrames_eq_nil {cap : Nat} {bytes : List UInt8} {tail : StreamEnd}
    (split : splitFrames cap bytes = ([], tail)) :
    (∃ e, frameLength (bytes.take cap) = .error e) ∧ tail = .malformed ∨
      frameLength (bytes.take cap) = .ok none ∧ cap ≤ bytes.length ∧ tail = .oversized ∨
      frameLength bytes = .ok none ∧ bytes.length < cap ∧ tail = .pending bytes := by
  rw [splitFrames] at split
  split at split
  · rename_i e bad
    simp only [Prod.mk.injEq] at split
    exact .inl ⟨⟨e, bad⟩, split.2.symm⟩
  · rename_i pending
    simp only [Prod.mk.injEq] at split
    by_cases plenty : cap ≤ bytes.length
    · simp only [plenty, if_true] at split
      exact .inr (.inl ⟨pending, plenty, split.2.symm⟩)
    · simp only [plenty, if_false] at split
      rw [List.take_of_length_le (by omega)] at pending
      exact .inr (.inr ⟨pending, by omega, split.2.symm⟩)
  · cases split

theorem splitFrames_length_le (cap : Nat) (bytes : List UInt8) :
    (splitFrames cap bytes).1.length ≤ bytes.length := by
  fun_induction splitFrames cap bytes with
  | case1 bytes e bad => simp
  | case2 bytes pending => simp
  | case3 bytes n found more ih =>
    obtain ⟨w, r, -, total, within⟩ := VarInt.frameLength_some found
    simp only [more, List.length_cons, List.length_drop] at ih ⊢
    simp only [List.length_take] at within
    omega

namespace Session

/-- What a reading loop with this deadline can still take: everything queued while the deadline
is ahead, only the buffer once it has passed. -/
def visible (s : Session) (now deadline : Nat) : List UInt8 :=
  if now < deadline then s.unread else s.rx

theorem visible_of_norm {s t : Session} {now deadline : Nat} (same : t.norm = s.norm)
    (moved : now < deadline ∨ t = s) : t.visible now deadline = s.visible now deadline := by
  rcases moved with early | rfl
  · simp [visible, early, unread_eq_of_norm same]
  · rfl

theorem visible_prefix (s : Session) (now deadline : Nat) : s.visible now deadline <+: s.unread := by
  unfold visible
  split
  · exact List.prefix_refl _
  · exact List.prefix_append _ _

end Session

section ReadSplit
variable {deadline fuel : Nat} {s : Session} {c : Clock}

theorem readFrame_of_split_cons {F : List UInt8} {Fs : List (List UInt8)} {tail : StreamEnd}
    (split : splitFrames s.capacity (s.visible c.now deadline) = (F :: Fs, tail))
    (reading : s.Reading) (enough : s.link.stream.length < fuel) :
    ∃ t, (readFrame deadline fuel).run (s, c) = .ok (.ok (some F.length)) (t, c) ∧
      t.norm = s.norm ∧ t.Reading ∧ F <+: t.rx ∧
      t.visible c.now deadline = s.visible c.now deadline := by
  obtain ⟨frame, fits, rest, front, -⟩ := splitFrames_eq_cons split
  obtain ⟨more, whole⟩ := s.visible_prefix c.now deadline
  have seen : F.length ≤ s.rx.length ∨ c.now < deadline := by
    by_cases early : c.now < deadline
    · exact .inr early
    · simp only [Session.visible, early, if_false] at front
      simp [front]
  obtain ⟨t, run, same, reading', held, moved⟩ :=
    readFrame_frame frame fits (by rw [← whole, front, List.append_assoc]) reading seen enough
  exact ⟨t, run, same, reading', held, Session.visible_of_norm same moved⟩

theorem readFrame_of_split_pending {rest : List UInt8}
    (split : splitFrames s.capacity (s.visible c.now deadline) = ([], .pending rest))
    (reading : s.Reading) (free : c.limit = none) (enough : s.link.stream.length < fuel) :
    ∃ t, (readFrame deadline fuel).run (s, c) =
        .ok (.ok none) (t, { c with now := max c.now deadline }) ∧ t.norm = s.norm ∧ t.Reading := by
  obtain ⟨pending, room, -⟩ : VarInt.frameLength (s.visible c.now deadline) = .ok none ∧
      (s.visible c.now deadline).length < s.capacity ∧ _ := by
    rcases splitFrames_eq_nil split with ⟨-, bad⟩ | ⟨-, -, bad⟩ | found
    · cases bad
    · cases bad
    · exact found
  by_cases early : c.now < deadline
  · simp only [Session.visible, early, if_true] at pending room
    obtain ⟨t, run, same, reading', -⟩ := readFrame_dry reading pending room free enough
    exact ⟨t, run, same, reading'⟩
  · simp only [Session.visible, early, if_false] at pending room
    have stays : ({ c with now := max c.now deadline } : Clock) = c := by
      cases c with
      | mk now limit =>
        simp only [Clock.mk.injEq, and_true] at early ⊢
        omega
    obtain ⟨fuel, rfl⟩ : ∃ k, fuel = k + 1 := ⟨fuel - 1, by omega⟩
    refine ⟨s, ?_, rfl, reading⟩
    rw [stays]
    exact readFrame_run_of_late pending (by omega) (by omega)

theorem readFrame_of_split_oversized
    (split : splitFrames s.capacity (s.visible c.now deadline) = ([], .oversized))
    (reading : s.Reading) (enough : s.link.stream.length < fuel) :
    ∃ t, (readFrame deadline fuel).run (s, c) =
        .ok (.error (.protocol .payloadTooLarge)) (t, c) ∧ t.norm = s.norm ∧ t.Reading := by
  obtain ⟨pending, plenty⟩ : VarInt.frameLength ((s.visible c.now deadline).take s.capacity) =
      .ok none ∧ s.capacity ≤ (s.visible c.now deadline).length := by
    rcases splitFrames_eq_nil split with ⟨-, bad⟩ | ⟨pending, plenty, -⟩ | ⟨-, -, bad⟩
    · cases bad
    · exact ⟨pending, plenty⟩
    · cases bad
  by_cases early : c.now < deadline
  · simp only [Session.visible, early, if_true] at pending plenty
    obtain ⟨t, run, same, reading', -⟩ := readFrame_overflow reading pending plenty (.inr early) enough
    exact ⟨t, run, same, reading'⟩
  · simp only [Session.visible, early, if_false] at pending plenty
    have full : s.rx.length = s.capacity := Nat.le_antisymm reading.fits plenty
    have cut : s.unread.take s.capacity = s.rx.take s.capacity := by
      simp [Session.unread, full, List.take_of_length_le (Nat.le_of_eq full)]
    obtain ⟨t, run, same, reading', -⟩ :=
      readFrame_overflow reading (cut ▸ pending) (by simp [Session.unread]; omega) (.inl full) enough
    exact ⟨t, run, same, reading'⟩

theorem readFrame_of_split_malformed
    (split : splitFrames s.capacity (s.visible c.now deadline) = ([], .malformed))
    (reading : s.Reading) (enough : s.link.stream.length < fuel) :
    ∃ t, (readFrame deadline fuel).run (s, c) =
        .ok (.error (.protocol .malformedPacket)) (t, c) ∧ t.norm = s.norm ∧ t.Reading := by
  obtain ⟨e, bad⟩ : ∃ e, VarInt.frameLength ((s.visible c.now deadline).take s.capacity) = .error e := by
    rcases splitFrames_eq_nil split with ⟨bad, -⟩ | ⟨-, -, wrong⟩ | ⟨-, -, wrong⟩
    · exact bad
    · cases wrong
    · cases wrong
  by_cases early : c.now < deadline
  · simp only [Session.visible, early, if_true] at bad
    exact readFrame_malformed reading bad (Nat.le_refl _) (.inr early) enough
  · simp only [Session.visible, early, if_false] at bad
    have cut : s.unread.take s.rx.length = s.rx.take s.capacity := by
      simp [Session.unread, List.take_of_length_le reading.fits]
    exact readFrame_malformed reading (cut ▸ bad) reading.fits (.inl (Nat.le_refl _)) enough

end ReadSplit

end Gateway.Mqtt
