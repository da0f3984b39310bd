/-!
Errors of the shared hub.
-/
namespace Gateway.Hub

inductive HubError where
  | notInitialized
  | queueFull
  deriving DecidableEq, Repr

def HubError.message : HubError → String
  | .notInitialized => "hub is not initialized"
  | .queueFull => "queue is full"

def HubError.tag : HubError → String
  | .notInitialized => "NotInitialized"
  | .queueFull => "QueueFull"

end Gateway.Hub
