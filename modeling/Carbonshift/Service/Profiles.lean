import Carbonshift.Engine.Config

/-!
# Profile registry

Profiles are registered once under a stable identifier and never change after
that, so a request keeps the policy it was accepted under.
-/

namespace Carbonshift

def TaskKindId.parse (value : String) : Except String TaskKindId :=
  if isValidStableIdentifier value then
    .ok ⟨value⟩
  else
    .error ("task_kind must be 1-64 lowercase ASCII letters, digits, " ++
      "'.', '_' or '-', and start with a letter or digit")

/-- Known task kinds, and the label of their error metric. -/
def defaultTaskErrorSemantics : List (String × String) :=
  [("text_generation", "relative-confidence-degradation-v1"),
    ("ner", "entity-set-f1-v1"),
    ("question_answering", "word-overlap-f1-v1")]

/-- The identifier of a task kind's default profile. -/
def defaultProfileIdFor (taskKind : TaskKindId) : String :=
  "default-" ++ String.ofList
    (taskKind.value.toList.map fun letter =>
      if letter = '_' then '-' else letter)

/-- The profile of a task kind that the global settings give. -/
def defaultProfileFor (cfg : Config) (taskKind errorSemantics : String) :
    QosProfile where
  profileId := ⟨defaultProfileIdFor ⟨taskKind⟩⟩
  taskKind := ⟨taskKind⟩
  flavours := cfg.flavours
  errorSemantics := errorSemantics
  maxErrorThreshold := cfg.maxErrorThreshold
  errorWindow :=
    { pastSlots := cfg.errorWindowPast
      futureSlots := cfg.errorWindowFuture
      pastDecaySlots := cfg.errorWindowPastDecaySlots }
  cumulativeError :=
    { enabled := cfg.globalErrorConstraintEnabled
      hard := cfg.globalErrorConstraintHard }

inductive ProfileRegistration where
  | created
  | alreadyRegistered
  deriving DecidableEq, Repr

inductive ProfileRegistryError where
  | invalid (message : String)
  | conflict (profileId : QosProfileId)
  deriving DecidableEq, Repr

/-- Registered profiles by identifier. -/
abbrev QosProfileRegistry := Dictionary QosProfileId QosProfile

namespace QosProfileRegistry

/-- The default profiles of the known task kinds. -/
def fromConfig (cfg : Config) : QosProfileRegistry :=
  Dictionary.ofPairs
    (defaultTaskErrorSemantics.map fun entry =>
      let profile := defaultProfileFor cfg entry.1 entry.2
      (profile.profileId, profile))

/-- Registering a profile again is fine, changing it is not. -/
def register (registry : QosProfileRegistry) (profile : QosProfile) :
    Except ProfileRegistryError (ProfileRegistration × QosProfileRegistry) :=
  match QosProfileId.parse profile.profileId.value with
  | .error message => .error (.invalid message)
  | .ok _ =>
      match profile.validate with
      | .error message => .error (.invalid message)
      | .ok _ =>
          match registry.lookup profile.profileId with
          | some existing =>
              if existing = profile then
                .ok (.alreadyRegistered, registry)
              else
                .error (.conflict profile.profileId)
          | none =>
              .ok (.created, registry.insert profile.profileId profile)

def defaultForTaskKind (registry : QosProfileRegistry)
    (taskKind : TaskKindId) : Option QosProfile :=
  match QosProfileId.parse (defaultProfileIdFor taskKind) with
  | .error _ => none
  | .ok profileId => registry.lookup profileId

/-- A registered profile is never replaced. -/
theorem lookup_register
    {registry after : QosProfileRegistry} {profile existing : QosProfile}
    {outcome : ProfileRegistration} {profileId : QosProfileId}
    (registered : registry.register profile = .ok (outcome, after))
    (found : registry.lookup profileId = some existing) :
    after.lookup profileId = some existing := by
  unfold register at registered
  split at registered
  · cases registered
  · split at registered
    · cases registered
    · split at registered
      · split at registered
        · cases registered
          exact found
        · cases registered
      · rename_i absent
        cases registered
        have other : profileId ≠ profile.profileId := by
          rintro rfl
          rw [absent] at found
          cases found
        rw [AList.lookup_insert_ne other, found]

end QosProfileRegistry

end Carbonshift
