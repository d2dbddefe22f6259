import Carbonshift.Library.Fallible
import Carbonshift.Library.Iteration
import Carbonshift.Service.State

/-!
# Snapshot documents

A snapshot is a pair of JSON files whose names share a stem.  A reader takes a
snapshot file for real only if its summary is there and both belong together.
-/

namespace Carbonshift

namespace Snapshots

/-! ## Names and files -/

/-- A file of the snapshot directory. -/
structure Path where
  directory : String
  name : String
  deriving DecidableEq, Repr

/-- The files with their texts. -/
abbrev Files := Dictionary Path String

def hasSuffix (suffix name : String) : Bool :=
  suffix.toList.isSuffixOf name.toList

def removeSuffix (suffix name : String) : String :=
  if hasSuffix suffix name then
    String.ofList (name.toList.take (name.toList.length - suffix.toList.length))
  else
    name

def snapshotSuffix : String := "_snapshot.json"

def summarySuffix : String := "_summary.json"

def summaryPath (snapshotPath : Path) : Path :=
  { snapshotPath with
    name := removeSuffix snapshotSuffix snapshotPath.name ++ summarySuffix }

/-- The files below the directory whose names end in the suffix. -/
def matching (order : IterationOrder Path) (files : Files) (suffix : String) :
    List Path :=
  order.arrange (files.keys.filter fun path => hasSuffix suffix path.name)

/-! ## JSON -/

/-- The JSON library: what was written is read back. -/
structure JsonLibrary where
  dumps : Json → Except String String
  loads : String → Except String Json
  loads_dumps : ∀ {json : Json} {text : String},
    dumps json = .ok text → loads (text ++ "\n") = .ok json

def isObject : Json → Bool
  | .object _ => true
  | _ => false

/-- What an `or` takes for true. -/
def truthy : Json → Bool
  | .null => false
  | .bool value => value
  | .number value => value != 0
  | .string value => !value.isEmpty
  | .array items => !items.isEmpty
  | .object fields => !fields.isEmpty

/-- The value if there is a true one, else an empty text. -/
def orEmpty (value : Option Json) : Json :=
  match value with
  | some json => if truthy json then json else .string ""
  | none => .string ""

/-- Does the value equal the supported version?  `True` equals one. -/
def isFormatVersion : Option Json → Bool
  | some (.number value) => value = 1
  | some (.bool value) => value
  | _ => false

def isHexDigit (letter : Char) : Bool :=
  ('0' ≤ letter && letter ≤ '9') || ('a' ≤ letter && letter ≤ 'f')

/-- Thirty-two lowercase hexadecimal digits. -/
def isSnapshotId (text : String) : Bool :=
  text.toList.length = 32 && text.toList.all isHexDigit

def validateViews (views : Option Json) : Except String Unit :=
  (require (views.any isObject && (views.bind (Json.get "all")).any isObject)
    "snapshot views must contain an all-profile JSON object").bind fun _ =>
  match views.bind (Json.get "by_profile") with
  | some (.object fields) =>
      require (fields.all fun field => isObject field.2)
        "each profile-specific snapshot view must be a JSON object"
  | _ => .error "snapshot views must contain a by_profile JSON object"

/-! ## Reading -/

/-- What reading a snapshot may raise. -/
inductive ReadError where
  | snapshotError (message : String)
  | fileNotFound (message : String)
  | keyError (key : String)
  | typeError
  deriving DecidableEq, Repr

section Reading

variable (json : JsonLibrary) (order : IterationOrder Path) (files : Files)

/-- The parsed text of a file; a file that is gone cannot be opened. -/
def loadFile (path : Path) : Except ReadError Json :=
  match files.lookup path with
  | none => .error (.fileNotFound path.name)
  | some text =>
      (json.loads text).mapError fun message =>
        .snapshotError ("paired JSON is invalid: " ++ message)

/-- The checks on the two documents of a pair. -/
def checkPair (snapshot summary : Json) : Except String Unit :=
  (require (isObject snapshot && isObject summary)
    "paired snapshot and summary files must contain JSON objects").bind
      fun _ =>
  (require
    (isFormatVersion (snapshot.get "format_version") &&
      isFormatVersion (summary.get "format_version") &&
      ((snapshot.get "snapshot_id").bind Json.asStr).any fun snapshotId =>
        isSnapshotId snapshotId &&
          (summary.get "snapshot_id").bind Json.asStr = some snapshotId)
    "snapshot and summary metadata do not form a supported pair").bind
      fun _ =>
  (validateViews (snapshot.get "views")).bind fun _ =>
  match summary.get "clients" with
  | some (.array _) => .ok ()
  | _ => .error "summary clients must be a list"

/-- The documents of a snapshot file and of its summary. -/
def readSnapshotPair (snapshotPath : Path) : Except ReadError (Json × Json) :=
  if summaryPath snapshotPath ∈ files then
    (loadFile json files snapshotPath).bind fun snapshot =>
    (loadFile json files (summaryPath snapshotPath)).bind fun summary =>
    ((checkPair snapshot summary).mapError .snapshotError).bind fun _ =>
    .ok (snapshot, summary)
  else
    .error (.snapshotError "matching summary file is missing")

/-- One line of the list of snapshots. -/
structure SnapshotRecord where
  snapshotId : Json
  capturedAt : Json
  label : Json
  source : Json
  clientsCount : ℕ
  snapshotFilename : String
  summaryFilename : String

/-- The entry of a key that must be there. -/
def demand (key : String) (document : Json) : Except ReadError Json :=
  match document.get key with
  | some value => .ok value
  | none => .error (.keyError key)

def snapshotRecord (snapshotPath : Path) (snapshot summary : Json) :
    Except ReadError SnapshotRecord :=
  (demand "snapshot_id" snapshot).bind fun snapshotId =>
  (demand "captured_at_utc" snapshot).bind fun capturedAt =>
  (demand "clients" summary).bind fun clients =>
  .ok
    { snapshotId := snapshotId
      capturedAt := capturedAt
      label := orEmpty (snapshot.get "label")
      source := (snapshot.get "source").getD (.string "unknown")
      clientsCount :=
        match clients with
        | .array items => items.length
        | _ => 0
      snapshotFilename := snapshotPath.name
      summaryFilename := (summaryPath snapshotPath).name }

/-- Add the line of a snapshot file, or pass over what is no pair. -/
def collectRecord (records : List SnapshotRecord) (snapshotPath : Path) :
    Except ReadError (List SnapshotRecord) :=
  match readSnapshotPair json files snapshotPath with
  | .error _ => .ok records
  | .ok (snapshot, summary) =>
      (snapshotRecord snapshotPath snapshot summary).map fun record =>
        records ++ [record]

/-- The time at which a listed snapshot was captured. -/
def SnapshotRecord.captured (record : SnapshotRecord) : String :=
  (record.capturedAt.asStr).getD ""

/-- The complete snapshots, the latest first.  Only texts are compared. -/
def listSnapshots : Except ReadError (List SnapshotRecord) :=
  ((matching order files snapshotSuffix).foldlM (collectRecord json files)
    []).bind fun records =>
  if records.all fun record => record.capturedAt.asStr.isSome then
    .ok (records.insertionSort fun left right =>
      right.captured ≤ left.captured)
  else
    .error .typeError

/-- The documents of the snapshot with the identifier. -/
def loadSnapshot (snapshotId : String) : Except ReadError (Json × Json) :=
  if isSnapshotId snapshotId then
    match matching order files ("_" ++ snapshotId ++ snapshotSuffix) with
    | [] => .error (.fileNotFound "snapshot not found")
    | found :: _ =>
        if summaryPath found ∈ files then
          readSnapshotPair json files found
        else
          .error (.fileNotFound "complete snapshot not found")
  else
    .error (.fileNotFound "snapshot not found")

end Reading

/-! ## Dashboard views -/

/-- The identifier of an active profile. -/
def activeProfileId (profile : Json) : Except String String :=
  (require (isObject profile)
    "each active QoS profile must be a JSON object").bind fun _ =>
  match profile.get "profile_id" with
  | some (.string profileId) =>
      if profileId.isEmpty then
        .error "each active QoS profile must have a non-empty profile_id"
      else
        .ok profileId
  | _ => .error "each active QoS profile must have a non-empty profile_id"

/-- The view of one profile, fetched unless it is already there. -/
def collectProfileView (repr : String → String)
    (fetchView : Option String → Except String Json)
    (profileViews : List (String × Json)) (profile : Json) :
    Except String (List (String × Json)) :=
  (activeProfileId profile).bind fun profileId =>
  if (profileViews.lookup profileId).isSome then
    .ok profileViews
  else
    (fetchView (some profileId)).bind fun view =>
    (require (isObject view)
      ("the dashboard response for QoS profile " ++ repr profileId ++
        " must be a JSON object")).bind fun _ =>
    .ok (profileViews ++ [(profileId, view)])

/-- The view of all profiles and the view of every active one. -/
def collectDashboardViews (repr : String → String)
    (fetchView : Option String → Except String Json) : Except String Json :=
  (fetchView none).bind fun allProfilesView =>
  (require (isObject allProfilesView)
    "the dashboard all-profile response must be a JSON object").bind fun _ =>
  match (allProfilesView.get "active_profiles").getD (.array []) with
  | .array activeProfiles =>
      (activeProfiles.foldlM (collectProfileView repr fetchView) []).bind
        fun profileViews =>
          .ok (.object
            [("all", allProfilesView), ("by_profile", .object profileViews)])
  | _ => .error "the dashboard active_profiles field must be a list"

theorem require_eq_ok_iff {condition : Bool} {message : String} {done : Unit} :
    require condition message = .ok done ↔ condition = true := by
  cases condition <;> simp [require]

theorem isObject_of_collectProfileView {repr : String → String}
    {fetchView : Option String → Except String Json}
    {profileViews collected : List (String × Json)} {profile : Json}
    (objects : ∀ field ∈ profileViews, isObject field.2 = true)
    (taken : collectProfileView repr fetchView profileViews profile =
      .ok collected) :
    ∀ field ∈ collected, isObject field.2 = true := by
  obtain ⟨profileId, _, rest⟩ := Fallible.bind_eq_ok_iff.mp taken
  split at rest
  · cases rest
    exact objects
  · obtain ⟨view, _, checked⟩ := Fallible.bind_eq_ok_iff.mp rest
    obtain ⟨_, object, added⟩ := Fallible.bind_eq_ok_iff.mp checked
    cases added
    intro field member
    rcases List.mem_append.mp member with earlier | last
    · exact objects field earlier
    · rw [List.mem_singleton.mp last]
      exact require_eq_ok_iff.mp object

/-- Collected views pass the check of the writer. -/
theorem validateViews_of_collectDashboardViews {repr : String → String}
    {fetchView : Option String → Except String Json} {views : Json}
    (collected : collectDashboardViews repr fetchView = .ok views) :
    validateViews (some views) = .ok () := by
  obtain ⟨allProfilesView, _, rest⟩ := Fallible.bind_eq_ok_iff.mp collected
  obtain ⟨_, object, listed⟩ := Fallible.bind_eq_ok_iff.mp rest
  split at listed
  · obtain ⟨profileViews, folded, made⟩ := Fallible.bind_eq_ok_iff.mp listed
    cases made
    have objects : ∀ field ∈ profileViews, isObject field.2 = true := by
      refine Fallible.foldlM_induction
        (fun views => ∀ field ∈ views, isObject field.2 = true) ?_ ?_ folded
      · intro state profile next before taken
        exact isObject_of_collectProfileView before taken
      · intro field member
        cases member
    have whole := require_eq_ok_iff.mp object
    have every : profileViews.all (fun field => isObject field.2) = true :=
      List.all_eq_true.mpr objects
    refine Fallible.bind_eq_ok_iff.mpr
      ⟨(), require_eq_ok_iff.mpr whole, ?_⟩
    exact require_eq_ok_iff.mpr every
  · cases listed

end Snapshots

end Carbonshift
