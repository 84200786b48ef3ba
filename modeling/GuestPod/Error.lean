/-
This file holds the errors of container creation and their wording.
-/

namespace GuestPod

/-- The stock runtime and the machine supervisor report errors of these kinds too. -/
inductive Error where
  | missingVariable (key : String)
  | invalidVariable (key value reason : String)
  | noEndpoint (sandbox : String)
  | alreadyRegistered (container : String)
  | notRegistered (container : String)
  | taskFailed (task reason : String)
  | runtime (operation reason : String)
  | supervisor (operation reason : String)
  | invalidSetting (field reason : String)
  | inputOutput (text : String)
  | serialization (text : String)
  | internal (text : String)
  deriving DecidableEq, Repr

def Error.message : Error → String
  | .missingVariable key =>
      "missing required environment variable '" ++ key ++ "' in workload container config"
  | .invalidVariable key value reason =>
      "invalid value '" ++ value ++ "' for environment variable '" ++ key ++ "': " ++ reason
  | .noEndpoint sandbox => "no VM configuration available for pod sandbox '" ++ sandbox ++ "'"
  | .alreadyRegistered container => "VM already registered for container: " ++ container
  | .notRegistered container => "no VM registered for container: " ++ container
  | .taskFailed task reason => task ++ " task failed: " ++ reason
  | .runtime operation reason => "stock runtime " ++ operation ++ " failed: " ++ reason
  | .supervisor operation reason => "VM supervisor " ++ operation ++ " failed: " ++ reason
  | .invalidSetting field reason => "invalid configuration for '" ++ field ++ "': " ++ reason
  | .inputOutput text => "I/O error: " ++ text
  | .serialization text => "serialization error: " ++ text
  | .internal text => "internal error: " ++ text

end GuestPod
