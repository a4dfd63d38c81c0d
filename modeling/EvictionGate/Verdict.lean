/-!
# Verdicts

The outcome of an eviction decision. A pod of no concern to the gate may be
evicted. Every other eviction is denied, and the code tells the drain what to make
of it: 404, the pod is gone and the drain is done with it; 429, try again; 500,
something failed, try again.
-/

namespace EvictionGate

/-- Why an eviction is denied, with what has happened. -/
inductive Denial
  /-- The pod no longer exists. -/
  | podRescheduled
  /-- A new pod has taken the name of the one that was to go. -/
  | podRescheduledWithSameName
  /-- The pod has been asked to move and has not moved yet. -/
  | waitingForReschedule
  /-- The pod has been asked to move just now. -/
  | rescheduleRequested
  | failedToGetPod
  | failedToGetTrackingResource
  | failedToRemoveFlag
  | failedToAddFlag
  | failedToAddMarker
  | timedOut
  deriving DecidableEq, Repr

/-- The outcome of an eviction decision. -/
inductive Verdict
  | allow
  | deny (denial : Denial)
  deriving DecidableEq, Repr

/-- The reason of a denial as a client of the API reads it. -/
inductive DenyReason
  | notFound
  | tooManyRequests
  | internalError
  deriving DecidableEq, Repr

namespace DenyReason

/-- The name of a reason. -/
def name : DenyReason → String
  | .notFound => "NotFound"
  | .tooManyRequests => "TooManyRequests"
  | .internalError => "InternalError"

/-- The status code that goes with a reason. -/
def code : DenyReason → Nat
  | .notFound => 404
  | .tooManyRequests => 429
  | .internalError => 500

end DenyReason

namespace Denial

/-- The reason of a denial. -/
def reason : Denial → DenyReason
  | .podRescheduled => .notFound
  | .podRescheduledWithSameName => .notFound
  | .waitingForReschedule => .tooManyRequests
  | .rescheduleRequested => .tooManyRequests
  | _ => .internalError

/-- The status code of a denial. -/
def code (d : Denial) : Nat :=
  d.reason.code

/-- The message of a denial. -/
def message : Denial → String
  | .podRescheduled => "Pod has been rescheduled"
  | .podRescheduledWithSameName => "Pod has been rescheduled with the same name"
  | .waitingForReschedule => "Pod waiting to be rescheduled"
  | .rescheduleRequested => "Reschedule annotation added to pod"
  | .failedToGetPod => "Failed to get pod"
  | .failedToGetTrackingResource => "Failed to get rescheduled pods tracking resource"
  | .failedToRemoveFlag =>
    "Failed to remove tracking annotation from rescheduled pods tracking resource"
  | .failedToAddFlag => "Failed to add annotation to rescheduled pods tracking resource"
  | .failedToAddMarker => "Failed to add reschedule annotation to pod"
  | .timedOut => "Timed out handling eviction request"

end Denial

namespace Verdict

/-- Whether the eviction may proceed. -/
def isAllowed : Verdict → Bool
  | .allow => true
  | .deny _ => false

/-- The denial of a verdict, if it is one. -/
def denial? : Verdict → Option Denial
  | .allow => none
  | .deny d => some d

/-- The verdict in one line. -/
def text : Verdict → String
  | .allow => "allow"
  | .deny d => "deny " ++ toString d.code ++ " " ++ d.reason.name ++ ": " ++ d.message

end Verdict

end EvictionGate
