import Gateway.Bridge.Table
import Gateway.Scenario.Events
import Gateway.Text.Blank
import Gateway.Text.Numeral
/-!
A topic table of 32-bit readings driven step by step, with a small catalogue of codecs:
encoders that render a reading as JSON, stamp it with the unit and the time, or repeat a
letter, and decoders that read a numeral, count the bytes or take the first. Two steps other
than registration may run together, the second starting after a delay.
-/
namespace Gateway.Scenario
open Gateway.Bridge Gateway.Sched Gateway.Mqtt Gateway.Text

inductive EncoderKind where
  | value
  | stamped
  | repeated
  | failing (e : CodecError)

inductive DecoderKind where
  | numeral
  | length
  | first
  | failing (e : CodecError)

def EncoderKind.encoder : EncoderKind → Encoder UInt32
  | .value => fun n _ => .ok ("\x7b\"value\": " ++ toString n.toNat ++ "\x7d")
  | .stamped => fun n ctx =>
    .ok ("\x7b\"id\":\"" ++ ctx.device.text ++ "\",\"ts\":" ++ toString ctx.timestamp ++
      ",\"value\":" ++ toString n.toNat ++ "\x7d")
  | .repeated => fun n _ =>
    if n.toNat ≤ maxPayloadLength then .ok (String.ofList (List.replicate n.toNat 'x'))
    else .error .bufferTooSmall
  | .failing e => fun _ _ => .error e

def DecoderKind.decoder : DecoderKind → Decoder UInt32
  | .numeral => fun bs =>
    match String.fromUTF8? (ByteArray.mk bs.toArray) with
    | some s => match readWord? (trimBlank s) with
      | some n => .ok n
      | none => .error .malformed
    | none => .error .malformed
  | .length => fun bs => .ok bs.length.toUInt32
  | .first => fun bs =>
    match bs with
    | b :: _ => .ok b.toUInt32
    | [] => .error .missingField
  | .failing e => fun _ => .error e

inductive CodecKind where
  | encoder (k : EncoderKind)
  | decoder (k : DecoderKind)

def CodecKind.codec : CodecKind → Codec UInt32
  | .encoder k => .encoder k.encoder
  | .decoder k => .decoder k.decoder

inductive TopicOp where
  | send (h : Nat) (x : UInt32)
  | receive (h : Nat) (timeout : Nat)
  | encodeNext (h : Nat) (timestamp : Nat) (device : Option DeviceId) (prefill : String)
  | dispatch (suffix : String) (payload : List UInt8)
  | len
  | isEmpty
  | isSealed
  | seal
  | namePrefix
  | handles (dir : Direction)
  | suffix (h : Nat)
  | qos (h : Nat)
  | sleep (d : Nat)
  | refused (why : String)

/-- A route to add, with a codec of the catalogue. -/
structure TopicRegistration where
  suffix : String
  direction : Direction
  qos : QoS
  codec : CodecKind

inductive TopicCall where
  | register (d : TopicRegistration)
  | single (op : TopicOp)
  | join (a b : TopicOp) (delay : Nat)

inductive TopicReply where
  | none
  | ok
  | failed (e : TopicError)
  | count (n : Nat)
  | flag (b : Bool)
  | item (x : Option UInt32)
  | encoded (fresh : Bool) (payload : String)
  | handle (h : Option Nat)
  | handles (hs : List Nat)
  | text (s : Option String)
  | qos (q : Option QoS)
  | both (a b : TopicReply)
  | refused (why : String)
  | stuck

def TopicReply.ofExcept {α : Type} (f : α → TopicReply) : Except TopicError α → TopicReply
  | .ok a => f a
  | .error e => .failed e

abbrev Readings := TopicTable UInt32

def atOnce (f : Readings → TopicReply × Readings) : Job Readings TopicReply :=
  .now (fun t => let (r, t) := f t; (t, r)) .done

def TopicOp.job (device : DeviceId) : TopicOp → Job Readings TopicReply
  | .send h x => TopicTable.sendJob selfLens h x (.done ∘ .ofExcept fun () => .ok)
  | .receive h timeout => TopicTable.receiveJob selfLens h timeout (.done ∘ .ofExcept .item)
  | .encodeNext h timestamp dev prefill =>
    TopicTable.encodeJob selfLens h ⟨dev.getD device, timestamp⟩ fun r =>
      .done (.ofExcept (fun p => match p with
        | some p => .encoded true p
        | none => .encoded false (payloadOf prefill)) r)
  | .dispatch name payload => TopicTable.dispatchJob selfLens name payload (.done ∘ .ofExcept .handle)
  | .len => atOnce fun t => (.count t.len, t)
  | .isEmpty => atOnce fun t => (.flag t.isEmpty, t)
  | .isSealed => atOnce fun t => (.flag t.sealed, t)
  | .seal => atOnce fun t => (.none, t.freeze)
  | .namePrefix => atOnce fun t => (.text (some t.space.pref), t)
  | .handles dir => atOnce fun t => (.handles (t.handles dir), t)
  | .suffix h => atOnce fun t => (.text (t.suffix? h), t)
  | .qos h => atOnce fun t => (.qos (t.qos? h), t)
  | .sleep d => .pause d (.done .none)
  | .refused why => .done (.refused why)

def registerAll (t : Readings) : List TopicRegistration → List (Except TopicError Nat) × Readings
  | [] => ([], t)
  | d :: rest =>
    match t.register ⟨d.suffix, d.direction, d.qos, d.codec.codec⟩ with
    | .ok (h, t) => let (rs, t) := registerAll t rest; (.ok h :: rs, t)
    | .error e => let (rs, t) := registerAll t rest; (.error e :: rs, t)

structure TableRun where
  table : Readings
  device : DeviceId
  now : Nat := 0

def TableRun.step (r : TableRun) : TopicCall → TopicReply × TableRun
  | .register d =>
    match r.table.register ⟨d.suffix, d.direction, d.qos, d.codec.codec⟩ with
    | .ok (h, t) => (.count h, { r with table := t })
    | .error e => (.failed e, r)
  | .single op =>
    match Job.solo r.now r.table (op.job r.device) with
    | some e => (e.first, { r with table := e.state, now := e.now })
    | none => (.stuck, r)
  | .join a b delay =>
    match Job.join r.now r.table (a.job r.device) (.pause delay (b.job r.device)) with
    | some e => (.both e.first e.second, { r with table := e.state, now := e.now })
    | none => (.stuck, r)

end Gateway.Scenario
