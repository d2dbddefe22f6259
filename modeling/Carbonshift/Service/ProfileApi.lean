import Carbonshift.Library.Fallible
import Carbonshift.Service.Submission
import Mathlib.Data.List.Forall2

/-!
# The profile interface

Callers register profiles and name them in their submissions.  Both answers are
given here with the status codes that the callers see.
-/

namespace Carbonshift

/-- An answer to a call: its status code and its text. -/
structure HttpResponse where
  status : ℕ
  text : String
  deriving DecidableEq, Repr

namespace HttpResponse

def noContent : HttpResponse := ⟨204, ""⟩

def ofError (error : ApiError) : HttpResponse := ⟨error.status, error.error⟩

end HttpResponse

/-! ## Credentials -/

/-- Compare two secrets; every byte of secrets of one length is looked at. -/
def constantTimeEq (left right : String) : Bool :=
  let left := left.toByteArray.data.toList
  let right := right.toByteArray.data.toList
  if left.length ≠ right.length then
    false
  else
    (left.zip right).foldl (fun differences bytes =>
      differences ||| (bytes.1 ^^^ bytes.2)) 0 == 0

/-- The check of a header; without an expected secret there is none. -/
def requireHeader (expected provided : Option String) : Bool :=
  match expected with
  | none => true
  | some expected => provided.any fun provided => constantTimeEq provided expected

def unauthorized (headerName : String) : HttpResponse :=
  ⟨401, "missing or invalid " ++ headerName⟩

/-- No byte differs exactly if the fold of the differences is zero. -/
theorem foldl_differences_eq_zero_iff (pairs : List (UInt8 × UInt8))
    (differences : UInt8) :
    pairs.foldl (fun differences bytes =>
        differences ||| (bytes.1 ^^^ bytes.2)) differences = 0 ↔
      differences = 0 ∧ ∀ bytes ∈ pairs, bytes.1 = bytes.2 := by
  induction pairs generalizing differences with
  | nil => simp
  | cons bytes rest inductionHypothesis =>
      rw [List.foldl_cons, inductionHypothesis, UInt8.or_eq_zero_iff,
        UInt8.xor_eq_zero_iff, List.forall_mem_cons, and_assoc]

/-- The comparison is that of the secrets. -/
theorem constantTimeEq_eq_true_iff (left right : String) :
    constantTimeEq left right = true ↔ left = right := by
  have bytes : ∀ lefts rights : List UInt8,
      (if lefts.length ≠ rights.length then
          false
        else
          (lefts.zip rights).foldl (fun differences bytes =>
            differences ||| (bytes.1 ^^^ bytes.2)) 0 == 0) = true ↔
        lefts = rights := by
    intro lefts rights
    rw [← List.forall₂_eq_eq_eq, List.forall₂_iff_zip]
    split
    · rename_i lengths
      exact iff_of_false (by simp) fun same => lengths same.1
    · rename_i lengths
      rw [beq_iff_eq, foldl_differences_eq_zero_iff]
      exact ⟨fun same => ⟨not_not.mp lengths, fun member => same.2 _ member⟩,
        fun same => ⟨rfl, fun _ member => same.2 member⟩⟩
  refine (bytes _ _).trans ?_
  rw [Array.toList_inj, ← ByteArray.ext_iff, String.toByteArray_inj]

/-! ## Registration -/

/-- Body of a registration. -/
structure RegisterQosProfilePayload where
  profileId : String
  taskKind : String
  flavours : List Flavour
  errorSemantics : String
  maxErrorThreshold : ℚ
  errorWindow : ErrorWindowPolicy
  cumulativeError : CumulativeErrorPolicy
  deriving DecidableEq, Repr

/-- The profile of a body with well-formed identifiers. -/
def RegisterQosProfilePayload.profile (body : RegisterQosProfilePayload) :
    Except String QosProfile :=
  (QosProfileId.parse body.profileId).bind fun profileId =>
    (TaskKindId.parse body.taskKind).map fun taskKind =>
      { profileId := profileId
        taskKind := taskKind
        flavours := body.flavours
        errorSemantics := body.errorSemantics
        maxErrorThreshold := body.maxErrorThreshold
        errorWindow := body.errorWindow
        cumulativeError := body.cumulativeError }

/-- Answer a registration. -/
def registerQosProfile (registry : QosProfileRegistry)
    (body : RegisterQosProfilePayload) : HttpResponse × QosProfileRegistry :=
  match body.profile with
  | .error message => (.ofError (.badRequest message), registry)
  | .ok profile =>
      match registry.register profile with
      | .ok registered => (.noContent, registered.2)
      | .error (.invalid message) =>
          (.ofError (.badRequest message), registry)
      | .error (.conflict profileId) =>
          (.ofError (.conflict ("profile_id " ++ profileId.value ++
            " is already registered with different settings")), registry)

/-! ## What the answers say -/

theorem profile_profileId {body : RegisterQosProfilePayload}
    {profile : QosProfile} (decoded : body.profile = .ok profile) :
    QosProfileId.parse body.profileId = .ok profile.profileId := by
  unfold RegisterQosProfilePayload.profile at decoded
  cases parsed : QosProfileId.parse body.profileId with
  | error message =>
      rw [parsed] at decoded
      cases decoded
  | ok profileId =>
      rw [parsed] at decoded
      cases taskKind : TaskKindId.parse body.taskKind with
      | error message =>
          rw [taskKind] at decoded
          cases decoded
      | ok value =>
          rw [taskKind] at decoded
          cases decoded
          rfl

/-- The registry offers a profile exactly as the body defines it. -/
def QosProfileRegistry.Offers (registry : QosProfileRegistry)
    (body : RegisterQosProfilePayload) : Prop :=
  ∃ profile, body.profile = .ok profile ∧
    registry.lookup profile.profileId = some profile

/-- A registration replaces no profile. -/
theorem lookup_registerQosProfile {registry : QosProfileRegistry}
    (body : RegisterQosProfilePayload) {profileId : QosProfileId}
    {profile : QosProfile} (found : registry.lookup profileId = some profile) :
    (registerQosProfile registry body).2.lookup profileId = some profile := by
  unfold registerQosProfile
  split
  · exact found
  · split
    · rename_i registered accepted
      exact QosProfileRegistry.lookup_register accepted found
    · exact found
    · exact found

/-- A registered profile is found as it is. -/
theorem lookup_of_register {registry after : QosProfileRegistry}
    {profile : QosProfile} {outcome : ProfileRegistration}
    (registered : registry.register profile = .ok (outcome, after)) :
    after.lookup profile.profileId = some profile := by
  unfold QosProfileRegistry.register at registered
  split at registered
  · cases registered
  · split at registered
    · cases registered
    · split at registered
      · rename_i existing found
        split at registered
        · rename_i same
          cases registered
          rw [found, same]
        · cases registered
      · cases registered
        exact AList.lookup_insert _

/-- An accepted registration is offered. -/
theorem offers_of_noContent {registry : QosProfileRegistry}
    {body : RegisterQosProfilePayload}
    (accepted : (registerQosProfile registry body).1.status = 204) :
    (registerQosProfile registry body).2.Offers body := by
  unfold registerQosProfile at accepted ⊢
  cases decoded : body.profile with
  | error message =>
      rw [decoded] at accepted
      exact absurd accepted (by decide : (400 : ℕ) ≠ 204)
  | ok profile =>
      rw [decoded] at accepted
      dsimp only at accepted ⊢
      cases registered : registry.register profile with
      | ok outcome =>
          exact ⟨profile, decoded, lookup_of_register registered⟩
      | error refusal =>
          rw [registered] at accepted
          cases refusal with
          | invalid message =>
              exact absurd accepted (by decide : (400 : ℕ) ≠ 204)
          | conflict profileId =>
              exact absurd accepted (by decide : (409 : ℕ) ≠ 204)

/-- A registration is never answered as if something were unknown. -/
theorem registerQosProfile_ne_notFound (registry : QosProfileRegistry)
    (body : RegisterQosProfilePayload) :
    (registerQosProfile registry body).1.status ≠ 404 := by
  unfold registerQosProfile
  split
  · exact (by decide : (400 : ℕ) ≠ 404)
  · split
    · exact (by decide : (204 : ℕ) ≠ 404)
    · exact (by decide : (400 : ℕ) ≠ 404)
    · exact (by decide : (409 : ℕ) ≠ 404)

/-! ## Submissions that name a profile -/

/-- The named profile is looked up. -/
theorem explicitProfile_ok {registry : QosProfileRegistry}
    {body : SubmitRequestPayload} {selected : Option QosProfile}
    {named : String} (names : body.qosProfileId = some named)
    (chosen : explicitProfile registry body = .ok selected) :
    ∃ profileId profile, QosProfileId.parse named = .ok profileId ∧
      registry.lookup profileId = some profile ∧ selected = some profile := by
  rw [explicitProfile, names] at chosen
  dsimp only at chosen
  split at chosen
  · cases chosen
  · rename_i profileId parsed
    split at chosen
    · cases chosen
    · rename_i profile found
      cases chosen
      exact ⟨profileId, profile, parsed, found, rfl⟩

/-- Only an unknown profile is answered as not found. -/
theorem explicitProfile_error {registry : QosProfileRegistry}
    {body : SubmitRequestPayload} {error : ApiError}
    (refused : explicitProfile registry body = .error error) :
    error.status = 400 ∨ error.status = 404 ∧
      ∃ named profileId, body.qosProfileId = some named ∧
        QosProfileId.parse named = .ok profileId ∧
          registry.lookup profileId = none := by
  unfold explicitProfile at refused
  split at refused
  · cases refused
  · rename_i named names
    split at refused
    · cases refused
      exact Or.inl rfl
    · rename_i profileId parsed
      split at refused
      · rename_i unknown
        cases refused
        exact Or.inr ⟨rfl, named, profileId, names, parsed, unknown⟩
      · cases refused

/-- A task that is no string makes a bad request. -/
theorem payloadTaskKind_error {payload : Json} {error : ApiError}
    (refused : payloadTaskKind payload = .error error) :
    error.status = 400 := by
  unfold payloadTaskKind at refused
  split at refused
  · cases refused
  · split at refused
    · cases refused
      rfl
    · cases refused

/-- A task kind that is not well formed makes a bad request. -/
theorem requestedTaskKind_error {body : SubmitRequestPayload}
    {error : ApiError} (refused : requestedTaskKind body = .error error) :
    error.status = 400 := by
  unfold requestedTaskKind at refused
  rcases Fallible.bind_eq_error_iff.mp refused with
    inPayload | ⟨inPayload, _, later⟩
  · exact payloadTaskKind_error inPayload
  · dsimp only at later
    split at later
    -- Both places name a task kind.
    · split at later
      · cases later
        rfl
      · split at later
        · cases later
        · split at later
          · cases later
            rfl
          · cases later
    -- One of them does, or none.
    · split at later
      · cases later
      · split at later
        · cases later
          rfl
        · cases later

/-- A submission is accepted under the profile that it names. -/
theorem lookup_of_validateSubmission {settings : ServiceSettings}
    {runtime : ServiceRuntime} {registry : QosProfileRegistry}
    {body : SubmitRequestPayload} {profile : QosProfile} {named : String}
    (valid : validateSubmission settings runtime registry body = .ok profile)
    (names : body.qosProfileId = some named) :
    ∃ profileId, QosProfileId.parse named = .ok profileId ∧
      registry.lookup profileId = some profile := by
  unfold validateSubmission at valid
  split at valid
  · cases valid
  · split at valid
    · cases valid
    · obtain ⟨selected, chosen, later⟩ := Fallible.bind_eq_ok_iff.mp valid
      obtain ⟨profileId, offered, parsed, found, rfl⟩ :=
        explicitProfile_ok names chosen
      obtain ⟨requested, _, checked⟩ := Fallible.bind_eq_ok_iff.mp later
      simp only [Option.some_or, pure_bind] at checked
      split at checked
      · cases checked
      · cases checked
        exact ⟨profileId, parsed, found⟩

/-- Only a submission that names an unknown profile is answered so. -/
theorem unknown_of_validateSubmission {settings : ServiceSettings}
    {runtime : ServiceRuntime} {registry : QosProfileRegistry}
    {body : SubmitRequestPayload} {error : ApiError}
    (refused : validateSubmission settings runtime registry body =
      .error error) :
    error.status = 400 ∨ error.status = 404 ∧
      ∃ named profileId, body.qosProfileId = some named ∧
        QosProfileId.parse named = .ok profileId ∧
          registry.lookup profileId = none := by
  unfold validateSubmission at refused
  split at refused
  · cases refused
    exact Or.inl rfl
  · split at refused
    · cases refused
      exact Or.inl rfl
    · rcases Fallible.bind_eq_error_iff.mp refused with
        unknown | ⟨selected, _, later⟩
      · exact explicitProfile_error unknown
      · left
        rcases Fallible.bind_eq_error_iff.mp later with
          illFormed | ⟨requested, _, checked⟩
        · exact requestedTaskKind_error illFormed
        · dsimp only at checked
          split at checked
          · simp only [pure_bind] at checked
            split at checked
            · cases checked
              rfl
            · cases checked
          · cases checked
            rfl

end Carbonshift
