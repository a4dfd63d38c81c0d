import EvictionGate.Text.Quoted

/-!
# Errors

Everything that can go wrong between the gate and the world, with its wording.
-/

namespace EvictionGate

/-- What the API server says when it refuses a request. -/
structure ApiStatus where
  status : String
  message : String
  reason : String
  code : Nat
  deriving DecidableEq, Repr

/-- Why a call to the API server failed. -/
inductive ApiFailure
  /-- The server refused the request. -/
  | refused (answer : ApiStatus)
  /-- The server wants TLS, and there is none. -/
  | tlsRequired
  /-- No request can be written for the call; nothing was sent. -/
  | requestNotBuilt
  /-- The connection to the server broke. -/
  | connection
  /-- The body of the answer is not UTF-8. -/
  | notUtf8
  /-- The body of the answer is not the object asked for. -/
  | notDecoded
  deriving DecidableEq, Repr

/-- An error of the gate. -/
inductive GateError
  | api (failure : ApiFailure)
  | configuration (message : String)
  | tls (message : String)
  | invalidRequest (message : String)
  | missingTracker (pod ns resource : String)
  deriving DecidableEq, Repr

namespace ApiStatus

/-- The answer with its fields named, each text quoted. -/
def detail (a : ApiStatus) : String :=
  "ErrorResponse \x7b status: " ++ Text.quoted a.status ++ ", message: " ++ Text.quoted a.message
    ++ ", reason: " ++ Text.quoted a.reason ++ ", code: " ++ toString a.code ++ " \x7d"

end ApiStatus

namespace ApiFailure

/-- The wording of a failed call. -/
def message : ApiFailure → String
  | .refused a => "ApiError: " ++ a.message ++ ": " ++ a.reason ++ " (" ++ a.detail ++ ")"
  | .tlsRequired => "TLS required but no TLS stack selected"
  | .requestNotBuilt => "Failed to build request"
  | .connection => "ServiceError"
  | .notUtf8 => "UTF-8 Error"
  | .notDecoded => "Error deserializing response"

end ApiFailure

namespace GateError

/-- The wording of an error. -/
def message : GateError → String
  | .api f => "Kubernetes API error: " ++ f.message
  | .configuration m => "Invalid configuration: " ++ m
  | .tls m => "TLS setup failed: " ++ m
  | .invalidRequest m => "Invalid admission request: " ++ m
  | .missingTracker pod ns resource =>
    "Pod " ++ ns ++ "/" ++ pod ++ " has no " ++ resource ++ " tracking resource"

/-- Whether the API server answered that the object does not exist. It is the code
in the answer that counts. -/
def isAbsence : GateError → Bool
  | .api (.refused a) => a.code == 404
  | _ => false

end GateError

end EvictionGate
