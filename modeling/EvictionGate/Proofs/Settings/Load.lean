import EvictionGate.Proofs.Settings.Listen
import EvictionGate.Settings

/-!
# Where settings come from

Every setting has a variable of its own and does not depend on any other, but for the switch for
remembering pods, which has two: the old one counts where the new one is left out. A variable
that is empty is left out. Settings cannot be loaded exactly if the address to listen on is set
and is no socket address, whatever the other variables say.

Results:
1. `Settings.load_eq_error_iff`: which environments have no settings.
2. `Settings.load_eq_ok_iff`: what the settings of the others are.
3. `Settings.loads_by_variable`: both, and that no other variables count.
-/

namespace EvictionGate

namespace Environment

/-- The variable has the value `v`, which is not empty. -/
def Sets (env : Environment) (name v : String) : Prop := env name = some v ∧ v ≠ ""

/-- The variable is absent or empty. -/
def LeavesOut (env : Environment) (name : String) : Prop :=
  env name = none ∨ env name = some ""

/-- The variable is the same in both environments, or each `LeavesOut` it. -/
def Alike (env env' : Environment) (name : String) : Prop :=
  env name = env' name ∨ (env.LeavesOut name ∧ env'.LeavesOut name)

/-- `env.Decides name Means default x`: if the variable is set, `x` is what it means; if it is
left out, `x` is the default. -/
structure Decides {α : Type} (env : Environment) (name : String) (Means : String → α → Prop)
    (default x : α) : Prop where
  set : ∀ v, env.Sets name v → Means v x
  leftOut : env.LeavesOut name → x = default

end Environment

namespace Settings

variable {env env' : Environment} {name v : String}

theorem valueOf?_eq_some_iff : valueOf? env name = some v ↔ env.Sets name v := by
  unfold valueOf? Environment.Sets
  split
  · next empty => simp [empty]
  · next other => exact ⟨fun is => ⟨is, fun h => other (h ▸ is)⟩, And.left⟩

theorem valueOf?_eq_none_iff : valueOf? env name = none ↔ env.LeavesOut name := by
  unfold valueOf? Environment.LeavesOut
  split
  · next empty => simp [empty]
  · next other => exact ⟨.inl, fun out => out.resolve_right other⟩

theorem valueOf?_eq_of_alike (alike : env.Alike env' name) :
    valueOf? env name = valueOf? env' name := by
  rcases alike with same | ⟨out, out'⟩
  · simp only [valueOf?, same]
  · rw [valueOf?_eq_none_iff.mpr out, valueOf?_eq_none_iff.mpr out']

section

variable {α : Type} {Means : String → α → Prop} {fallback x : α}

/-- A variable that is left out decides for the default. -/
theorem decides_iff_of_none (value : valueOf? env name = none) :
    env.Decides name Means fallback x ↔ x = fallback := by
  refine ⟨fun decides => decides.leftOut (valueOf?_eq_none_iff.mp value), fun same =>
    ⟨fun v sets => ?_, fun _ => same⟩⟩
  cases value.symm.trans (valueOf?_eq_some_iff.mpr sets)

/-- A variable that is set decides for what it means. -/
theorem decides_iff_of_some (value : valueOf? env name = some v) :
    env.Decides name Means fallback x ↔ Means v x := by
  refine ⟨fun decides => decides.set v (valueOf?_eq_some_iff.mp value), fun means =>
    ⟨fun v' sets => ?_, fun out => ?_⟩⟩
  · cases value.symm.trans (valueOf?_eq_some_iff.mpr sets)
    exact means
  · cases value.symm.trans (valueOf?_eq_none_iff.mpr out)

/-- A function of a variable's value, with a default, is decided by the variable. -/
theorem getD_eq_iff (f : String → α) : ((valueOf? env name).map f).getD fallback = x ↔
    env.Decides name (fun v x => x = f v) fallback x := by
  cases value : valueOf? env name with
  | none =>
    rw [decides_iff_of_none value, Option.map_none, Option.getD_none]
    exact eq_comm
  | some v =>
    rw [decides_iff_of_some value, Option.map_some, Option.getD_some]
    exact eq_comm

/-- So is the value itself. -/
theorem text_eq_iff {fallback x : String} : (valueOf? env name).getD fallback = x ↔
    env.Decides name (fun v x => x = v) fallback x := by
  have copied : ((valueOf? env name).map id).getD fallback = x ↔ _ := getD_eq_iff id
  rwa [Option.map_id] at copied

end

/-- Every field of `Settings` is decided by a variable of its own. -/
structure LoadedFrom (registry : Registry) (env : Environment) (c : Settings) : Prop where
  selectorKey : env.Decides "POD_LABEL_SELECTOR_KEY" (fun v x => x = v) default.selector.key
    c.selector.key
  selectorValue : env.Decides "POD_LABEL_SELECTOR_VALUE" (fun v x => x = v)
    default.selector.value c.selector.value
  markerKey : env.Decides "RESCHEDULE_ANNOTATION_KEY" (fun v x => x = v) default.marker.key
    c.marker.key
  markerValue : env.Decides "RESCHEDULE_ANNOTATION_VALUE" (fun v x => x = v)
    default.marker.value c.marker.value
  /-- The switch is on for one text and for no other. -/
  tracks : ∀ v, env.Sets "TRACK_RESCHEDULED_PODS" v → c.tracks = (v == "true")
  /-- Without it its old, misspelled name counts. -/
  tracksOld : env.LeavesOut "TRACK_RESCHEDULED_PODS" →
    env.Decides "TRACK_RESCHEULED_PODS" (fun v x => x = (v == "true")) true c.tracks
  trackerKind : env.Decides "TRACKING_RESOURCE_TYPE" (fun v x => x = registry.choose v)
    registry.fallback c.trackerKind
  certFile : env.Decides "TLS_CERT_FILE" (fun v x => x = v) default.certFile c.certFile
  keyFile : env.Decides "TLS_KEY_FILE" (fun v x => x = v) default.keyFile c.keyFile
  listen : env.Decides "LISTEN_ADDR" (fun v x => SocketAddress.Writes v.toList x)
    default.listen c.listen

/-! ## The address to listen on -/

theorem listen?_eq_ok_iff {a : SocketAddress} : listen? env = .ok a ↔
    env.Decides "LISTEN_ADDR" (fun v x => SocketAddress.Writes v.toList x) default.listen a := by
  unfold listen?
  cases value : valueOf? env "LISTEN_ADDR" with
  | none => simp [decides_iff_of_none value, eq_comm]
  | some v =>
    rw [decides_iff_of_some value, ← SocketAddress.ofText?_eq_some_iff]
    cases found : SocketAddress.ofText? v with
    | none => simp [found]
    | some b => simp [found]

theorem listen?_eq_error_iff {fault : SettingsFault} : listen? env = .error fault ↔
    ∃ v, env.Sets "LISTEN_ADDR" v ∧ (∀ a, ¬ SocketAddress.Writes v.toList a) ∧
      fault = .listenAddress v := by
  unfold listen?
  simp only [← valueOf?_eq_some_iff, ← SocketAddress.ofText?_eq_some_iff]
  cases valueOf? env "LISTEN_ADDR" with
  | none => simp
  | some v =>
    cases found : SocketAddress.ofText? v with
    | none => simp [found, eq_comm]
    | some a => simp [found]

/-! ## Loading -/

/-- No settings can be loaded exactly if the address to listen on is none. -/
theorem load_eq_error_iff (registry : Registry) {fault : SettingsFault} :
    load registry env = .error fault ↔ ∃ v, env.Sets "LISTEN_ADDR" v ∧
      (∀ a, ¬ SocketAddress.Writes v.toList a) ∧ fault = .listenAddress v := by
  rw [← listen?_eq_error_iff, load]
  cases listen? env with
  | error _ => exact ⟨fun | rfl => rfl, fun | rfl => rfl⟩
  | ok a => exact ⟨nofun, nofun⟩

/-- The switch is decided by its variable, or else by the old one. -/
theorem tracks_eq_iff {x : Bool} :
    ((tracksValue? env).map (· == "true")).getD default.tracks = x ↔
      (∀ v, env.Sets "TRACK_RESCHEDULED_PODS" v → x = (v == "true")) ∧
        (env.LeavesOut "TRACK_RESCHEDULED_PODS" →
          env.Decides "TRACK_RESCHEULED_PODS" (fun v x => x = (v == "true")) true x) := by
  rw [← getD_eq_iff]
  simp only [← valueOf?_eq_some_iff, ← valueOf?_eq_none_iff, tracksValue?]
  cases valueOf? env "TRACK_RESCHEDULED_PODS" with
  | none => simp [default]
  | some v => simp [eq_comm]

/-- The settings that are loaded are those in which each variable decides its setting. -/
theorem load_eq_ok_iff (registry : Registry) {c : Settings} :
    load registry env = .ok c ↔ LoadedFrom registry env c := by
  rw [load]
  cases heard : listen? env with
  | error fault =>
    refine ⟨nofun, fun loaded => ?_⟩
    cases heard.symm.trans (listen?_eq_ok_iff.mpr loaded.listen)
  | ok a =>
    have listens : listen? env = .ok c.listen ↔ _ := listen?_eq_ok_iff
    rw [heard, Except.ok.injEq] at listens
    obtain ⟨⟨_, _⟩, ⟨_, _⟩, _, _, _, _, _⟩ := c
    change Except.ok _ = Except.ok _ ↔ _
    rw [Except.ok.injEq, Settings.mk.injEq, KeyValue.mk.injEq, KeyValue.mk.injEq, text_eq_iff,
      text_eq_iff, text_eq_iff, text_eq_iff, tracks_eq_iff, getD_eq_iff, text_eq_iff, text_eq_iff,
      listens]
    constructor
    · rintro ⟨⟨selectorKey, selectorValue⟩, ⟨markerKey, markerValue⟩, ⟨tracks, tracksOld⟩,
        trackerKind, certFile, keyFile, listen⟩
      exact ⟨selectorKey, selectorValue, markerKey, markerValue, tracks, tracksOld, trackerKind,
        certFile, keyFile, listen⟩
    · intro from_
      exact ⟨⟨from_.selectorKey, from_.selectorValue⟩, ⟨from_.markerKey, from_.markerValue⟩,
        ⟨from_.tracks, from_.tracksOld⟩, from_.trackerKind, from_.certFile, from_.keyFile,
        from_.listen⟩

/-- There are settings exactly if the address to listen on is one, or is left out. -/
theorem load_isOk_iff (registry : Registry) : (∃ c, load registry env = .ok c) ↔
    ∀ v, env.Sets "LISTEN_ADDR" v → ∃ a, SocketAddress.Writes v.toList a := by
  cases loaded : load registry env with
  | error fault =>
    obtain ⟨v, sets, unreadable, -⟩ := (load_eq_error_iff registry).mp loaded
    refine ⟨nofun, fun readable => ?_⟩
    obtain ⟨a, writes⟩ := readable v sets
    exact absurd writes (unreadable a)
  | ok c =>
    refine ⟨fun _ v sets => ?_, fun _ => ⟨c, rfl⟩⟩
    exact ⟨c.listen, ((load_eq_ok_iff registry).mp loaded).listen.set v sets⟩

/-- Only the variables in the list are looked at, and an empty one is as good as none. -/
theorem load_eq_of_alike (registry : Registry)
    (alike : ∀ name ∈ variableNames, env.Alike env' name) :
    load registry env = load registry env' ∧ loadLog registry env = loadLog registry env' := by
  have same : ∀ name ∈ variableNames, valueOf? env name = valueOf? env' name :=
    fun name listed => valueOf?_eq_of_alike (alike name listed)
  simp only [variableNames, List.forall_mem_cons] at same
  obtain ⟨selectorKey, selectorValue, markerKey, markerValue, tracks, tracksOld, trackerKind,
    certFile, keyFile, listen, -⟩ := same
  constructor
  · simp only [load, listen?, tracksValue?, selectorKey, selectorValue, markerKey, markerValue,
      tracks, tracksOld, trackerKind, certFile, keyFile, listen]
  · rw [loadLog, trackerKind, loadLog]

/-- Settings are loaded variable by variable, and all or none: there are none exactly if the
address to listen on is set and is no socket address, and the fault then names it; else every
setting is decided by its own variable. -/
theorem loads_by_variable (registry : Registry) (env : Environment) :
    ((∃ c, load registry env = .ok c) ↔
      ∀ v, env.Sets "LISTEN_ADDR" v → ∃ a, SocketAddress.Writes v.toList a) ∧
    (∀ fault, load registry env = .error fault ↔ ∃ v, env.Sets "LISTEN_ADDR" v ∧
      (∀ a, ¬ SocketAddress.Writes v.toList a) ∧ fault = .listenAddress v) ∧
    (∀ v, (SettingsFault.listenAddress v).message =
      "LISTEN_ADDR '" ++ v ++ "' is not a valid socket address: invalid socket address syntax") ∧
    (∀ c, load registry env = .ok c ↔ LoadedFrom registry env c) ∧
    ∀ env' : Environment, (∀ name ∈ variableNames, env.Alike env' name) →
      load registry env = load registry env' ∧ loadLog registry env = loadLog registry env' :=
  ⟨load_isOk_iff registry, fun _ => load_eq_error_iff registry, fun _ => rfl,
    fun _ => load_eq_ok_iff registry, fun _ => load_eq_of_alike registry⟩

namespace Sample

/-- The variable `TRACK_RESCHEDULED_PODS` is empty, and its old spelling is `false`. -/
def switchedOff : Environment
  | "TRACK_RESCHEDULED_PODS" => some ""
  | "TRACK_RESCHEULED_PODS" => some "false"
  | "LISTEN_ADDR" => some "[::1%3]:0443"
  | _ => none

/-- The same without the empty variable. -/
def switchedOffOnly : Environment
  | "TRACK_RESCHEDULED_PODS" => none
  | name => switchedOff name

end Sample

/-- An empty switch is no switch: the old one counts, with it and without it. -/
theorem loads_by_variable_of_switchedOff :
    (∀ name ∈ variableNames, Sample.switchedOff.Alike Sample.switchedOffOnly name) ∧
      load .standard Sample.switchedOff = load .standard Sample.switchedOffOnly ∧
      load .standard Sample.switchedOff = .ok { default with
        tracks := false
        listen := .v6 [0, 0, 0, 0, 0, 0, 0, 1] 3 443 } := by
  have alike : ∀ name ∈ variableNames,
      Sample.switchedOff.Alike Sample.switchedOffOnly name := by
    simp [variableNames, Environment.Alike, Environment.LeavesOut, Sample.switchedOff,
      Sample.switchedOffOnly]
  obtain ⟨-, -, -, -, only⟩ := loads_by_variable .standard Sample.switchedOff
  exact ⟨alike, (only _ alike).1, by decide +kernel⟩

end Settings

end EvictionGate
