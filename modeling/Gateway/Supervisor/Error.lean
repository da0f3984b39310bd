/-!
Errors of the task supervisor.
-/
namespace Gateway.Supervisor

inductive SupervisorError where
  | full
  | invalidArgument
  | launchFailed (index : Nat)
  | unknownTask (index : Nat)
  deriving DecidableEq, Repr

def SupervisorError.message : SupervisorError → String
  | .full => "task table is full"
  | .invalidArgument => "malformed task descriptor"
  | .launchFailed i => s!"failed to launch task #{i}"
  | .unknownTask i => s!"no task registered at #{i}"

def SupervisorError.tag : SupervisorError → String
  | .full => "Full"
  | .invalidArgument => "InvalidArgument"
  | .launchFailed i => s!"LaunchFailed({i})"
  | .unknownTask i => s!"UnknownTask({i})"

end Gateway.Supervisor
