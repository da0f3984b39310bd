/-!
Errors of the network drivers and of the connectivity manager, which names the interface a
driver error came from.
-/
namespace Gateway.Network

inductive DriverError where
  | noResources
  | invalidConfig
  | invalidState
  | other (code : Int)
  deriving DecidableEq, Repr

def DriverError.message : DriverError → String
  | .noResources => "driver is out of resources"
  | .invalidConfig => "driver rejected the configuration"
  | .invalidState => "driver is in the wrong state"
  | .other code => s!"driver error code {code}"

def DriverError.tag : DriverError → String
  | .noResources => "NoResources"
  | .invalidConfig => "InvalidConfig"
  | .invalidState => "InvalidState"
  | .other code => s!"Other({code})"

inductive NetworkError where
  | accessPoint (e : DriverError)
  | station (e : DriverError)
  | wired (e : DriverError)
  | storage
  deriving DecidableEq, Repr

def NetworkError.message : NetworkError → String
  | .accessPoint e => "access point failure: " ++ e.message
  | .station e => "station failure: " ++ e.message
  | .wired e => "wired interface failure: " ++ e.message
  | .storage => "credential storage failure"

def NetworkError.tag : NetworkError → String
  | .accessPoint e => s!"AccessPoint({e.tag})"
  | .station e => s!"Station({e.tag})"
  | .wired e => s!"Wired({e.tag})"
  | .storage => "Storage"

end Gateway.Network
