import Gateway.Hub.EventBits
import Gateway.Mqtt.Session
/-!
The broker connection a bridge drives, and the broker session as one. A call runs against the
clock and the unit's event bits, since a link driver may drop the uplink while a call runs.
The bridge goes on the same way whatever made a call fail, so a call reports only whether it
succeeded.
-/
namespace Gateway.Bridge
open Gateway.Hub Gateway.Mqtt

class BrokerClient (κ : Type) where
  isConnected : κ → Bool
  connect : Timed (κ × EventBits) Bool
  disconnect : Timed (κ × EventBits) Unit
  subscribe : String → QoS → Timed (κ × EventBits) Bool
  publish : String → String → QoS → Timed (κ × EventBits) Bool
  poll : Nat → Timed (κ × EventBits) (Option Publish)
  backlog : κ → Nat

def Flow.beside {α : Type} (m : Flow α) : Timed (Session × EventBits) (Except SessionError α) :=
  Timed.focus Prod.fst (fun p s => (s, p.2)) m.run

def succeeded {ε α : Type} : Except ε α → Bool
  | .ok _ => true
  | .error _ => false

instance : BrokerClient Session where
  isConnected s := s.connected
  connect := succeeded <$> Flow.beside Mqtt.connect
  disconnect := do let _ ← Flow.beside Mqtt.disconnect
  subscribe topic qos := succeeded <$> Flow.beside (Mqtt.subscribe topic qos)
  publish topic payload qos := succeeded <$> Flow.beside (Mqtt.publish topic payload.toUTF8.toList qos)
  poll timeout := do
    match ← Flow.beside (Mqtt.poll timeout) with
    | .ok m => pure m
    | .error _ => pure none
  backlog s := s.budget

end Gateway.Bridge
