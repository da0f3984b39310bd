import Gateway.Device
import Gateway.Bridge.Error
/-!
The topics of one unit: every topic is `/root/id/` followed by a suffix. A root and a suffix
hold no wildcard (`+`, `#`) and no NUL; the root holds no `/`, a suffix neither starts nor
ends with one. A suffix takes at most 32 bytes and a whole topic at most 64.
-/
namespace Gateway.Bridge

def maxTopicLength : Nat := 64

def maxSuffixLength : Nat := 32

def isPlainLevel (s : String) : Bool := !s.any fun c => c = '+' || c = '#' || c = '\x00'

structure Namespace where
  pref : String
  deriving DecidableEq, Repr

def Namespace.new (root : String) (device : DeviceId) : Except TopicError Namespace :=
  if root.isEmpty || !isPlainLevel root || root.any (· = '/') then .error .invalidArgument
  else
    let pref := "/" ++ root ++ "/" ++ device.text ++ "/"
    if pref.utf8ByteSize ≤ maxTopicLength then .ok ⟨pref⟩ else .error .nameTooLong

def Namespace.validate (ns : Namespace) (suffix : String) : Except TopicError Unit :=
  if suffix.isEmpty || suffix.startsWith "/" || suffix.endsWith "/" || !isPlainLevel suffix then
    .error .invalidArgument
  else if suffix.utf8ByteSize > maxSuffixLength ||
      ns.pref.utf8ByteSize + suffix.utf8ByteSize > maxTopicLength then .error .nameTooLong
  else .ok ()

def Namespace.topic (ns : Namespace) (suffix : String) : Except TopicError String :=
  match ns.validate suffix with
  | .ok () => .ok (ns.pref ++ suffix)
  | .error e => .error e

def Namespace.strip (ns : Namespace) (topic : String) : Option String :=
  if ns.pref.isPrefixOf topic then
    let rest := String.ofList (topic.toList.drop ns.pref.length)
    if rest.isEmpty then none else some rest
  else none

end Gateway.Bridge
