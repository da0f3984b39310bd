import Gateway.Network.Credentials
import Gateway.Network.Error
/-!
The radio and wired drivers as the connectivity manager sees them. A driver call only starts an
operation and answers at once; how the link fares is reported later as link events.
-/
namespace Gateway.Network

/-- The local access point that serves the configuration page. -/
structure AccessPointConfig where
  ssid : String := "IoCloud"
  password : String := "root1234"
  channel : Nat := 1
  hidden : Bool := false
  maxClients : Nat := 1
  deriving DecidableEq, Repr

/-- The radio, running station and access point side by side. -/
class WifiDriver (ω : Type) where
  startAccessPoint : ω → AccessPointConfig → ω × Except DriverError Unit
  configureStation : ω → Credentials → ω × Except DriverError Unit
  connectStation : ω → ω × Except DriverError Unit

/-- The wired interface. -/
class WiredDriver (ε : Type) where
  start : ε → ε × Except DriverError Unit
  restartDhcp : ε → ε × Except DriverError Unit

end Gateway.Network
