import EvictionGate.Settings
import EvictionGate.Decision.Tree

/-!
# Deciding about an eviction

A pod in the gate's care is never evicted. It is marked, so that its operator moves
it, and the eviction is denied until the pod is gone. An operator may bring a pod
back under its old name; so that the new pod is not taken for the old one, a moved
pod is flagged on its tracking object before it is marked, and a flag that is found
is taken back and answered by "the pod has moved", once.

The marker is looked at before any flag, a flag before the marker is set, and a
flag that this decision has set is taken back if the marker cannot be set.
-/

namespace EvictionGate

namespace Decision

/-- A line at level info, then a decision. -/
def info (text : String) (next : Decision) : Decision :=
  .log ⟨.info, text⟩ next

/-- A line at level error, then a decision. -/
def error (text : String) (next : Decision) : Decision :=
  .log ⟨.error, text⟩ next

/-- A denial. -/
def deny (d : Denial) : Decision :=
  .verdict (.deny d)

/-- The end of a decision that could not mark its pod. The flag it has set, if it has
set one, is taken back; the denial is the same whether that succeeds or not. -/
def markFailed (c : Settings) (t : Target) : Option Tracker → Decision
  | none => deny .failedToAddMarker
  | some tracker =>
    .call (.patchTracker c.trackerKind tracker t.flagKey none) fun
      | .ok _ => deny .failedToAddMarker
      | .error e =>
        error ("Failed to roll back tracking annotation " ++ t.flagKey ++ ": " ++ e.message)
          (deny .failedToAddMarker)

/-- Marks the pod. `flagged` is the object on which this decision has flagged it. -/
def mark (c : Settings) (t : Target) (flagged : Option Tracker) : Decision :=
  info "Adding reschedule annotation to pod" <|
  .call (.patchPod t c.marker.key c.marker.value) fun
    | .ok _ => deny .rescheduleRequested
    | .error e =>
      error ("Failed to add reschedule annotation to pod: " ++ e.message)
        (markFailed c t flagged)

/-- Takes back the flag of a pod that has come back. -/
def unflag (c : Settings) (t : Target) (tracker : Tracker) : Decision :=
  info "Pod has been rescheduled with the same name" <|
  .call (.patchTracker c.trackerKind tracker t.flagKey none) fun
    | .ok _ => deny .podRescheduledWithSameName
    | .error e =>
      error ("Failed to remove tracking annotation: " ++ e.message) (deny .failedToRemoveFlag)

/-- Flags the pod, then marks it. -/
def flag (c : Settings) (t : Target) (tracker : Tracker) : Decision :=
  info ("Pod will be rescheduled with the same name, adding annotation to tracking resource"
    ++ " tracking_resource=" ++ tracker.name) <|
  .call (.patchTracker c.trackerKind tracker t.flagKey (some flagValue)) fun
    | .ok _ => mark c t (some tracker)
    | .error e =>
      error ("Failed to add tracking annotation: " ++ e.message) (deny .failedToAddFlag)

/-- Goes on with the tracking object at hand. A flag counts whether or not new flags
would be set on the object. -/
def withTracking (c : Settings) (t : Target) (tracker : Tracker) (o : DynamicObject) :
    Decision :=
  if o.annotationAt? t.flagKey == some flagValue then unflag c t tracker
  else if c.trackerKind.recreatesPods o then flag c t tracker
  else
    .log ⟨.debug, c.trackerKind.name ++ " " ++ tracker.name
      ++ " does not recreate pods with the same name, not tracking"⟩ (mark c t none)

/-- Looks for the pod's flag on its tracking object. -/
def look (c : Settings) (t : Target) (tracker : Tracker) : Decision :=
  .call (.getTracker c.trackerKind tracker) fun
    | .ok o => withTracking c t tracker o
    | .error e =>
      error ("Failed to get " ++ c.trackerKind.name ++ " " ++ tracker.name ++ ": " ++ e.message)
        (deny .failedToGetTrackingResource)

/-- Goes on with the tracking object that the pod names. -/
def track (c : Settings) (t : Target) (pod : Pod) : Decision :=
  match c.trackerKind.trackerOf? pod with
  | none =>
    error (GateError.missingTracker t.name t.ns c.trackerKind.name).message
      (deny .failedToGetTrackingResource)
  | some tracker => look c t tracker

/-- Goes on with the pod at hand. -/
def withPod (c : Settings) (t : Target) (pod : Pod) : Decision :=
  if !c.selects pod then
    info ("Pod does not have the " ++ c.selector.key ++ "=" ++ c.selector.value
      ++ " label, eviction allowed") (.verdict .allow)
  else if c.markerIsOn pod then
    info "Pod waiting to be rescheduled" (deny .waitingForReschedule)
  else if c.tracks then track c t pod
  else mark c t none

end Decision

/-- The decision about the eviction of a pod. -/
def decideEviction (c : Settings) (t : Target) : Decision :=
  .info "Handling eviction request" <|
  .call (.getPod t) fun
    | .ok pod => Decision.withPod c t pod
    | .error e =>
      if e.isAbsence then .info "Pod no longer exists" (.deny .podRescheduled)
      else .error ("Failed to get pod: " ++ e.message) (.deny .failedToGetPod)

end EvictionGate
