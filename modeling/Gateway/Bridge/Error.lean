/-!
Errors of the topic bridge: those of the payload codecs, and those of the topic table,
which wraps a codec error. Each has the sentence that names it.
-/
namespace Gateway.Bridge

/-- Failures of a payload encoder or decoder. -/
inductive CodecError where
  | malformed
  | bufferTooSmall
  | missingField
  deriving DecidableEq, Repr

def CodecError.message : CodecError → String
  | .malformed => "malformed payload"
  | .bufferTooSmall => "payload buffer is too small"
  | .missingField => "missing payload field"

def CodecError.tag : CodecError → String
  | .malformed => "Malformed"
  | .bufferTooSmall => "BufferTooSmall"
  | .missingField => "MissingField"

/-- Failures of the topic table and of the bridge. -/
inductive TopicError where
  | full
  | invalidArgument
  | codecMismatch
  | nameTooLong
  | sealed
  | unknownTopic
  | busy
  | queueFull
  | codec (e : CodecError)
  deriving DecidableEq, Repr

def TopicError.message : TopicError → String
  | .full => "topic table is full"
  | .invalidArgument => "invalid topic suffix"
  | .codecMismatch => "codec does not match topic direction"
  | .nameTooLong => "topic name is too long"
  | .sealed => "topic table is sealed"
  | .unknownTopic => "unknown topic handle"
  | .busy => "topic is busy"
  | .queueFull => "topic queue is full"
  | .codec e => "codec failure: " ++ e.message

def TopicError.tag : TopicError → String
  | .full => "Full"
  | .invalidArgument => "InvalidArgument"
  | .codecMismatch => "CodecMismatch"
  | .nameTooLong => "NameTooLong"
  | .sealed => "Sealed"
  | .unknownTopic => "UnknownTopic"
  | .busy => "Busy"
  | .queueFull => "QueueFull"
  | .codec e => s!"Codec({e.tag})"

end Gateway.Bridge
