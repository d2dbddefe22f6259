import Carbonshift.Engine.Types
import Mathlib.Algebra.Order.Ring.Rat
import Mathlib.Tactic.NormNum

/-!
# QoS identities and policies

A profile is an immutable policy snapshot that requests carry.  Validation
reports the first violated rule in the order of the source.
-/

namespace Carbonshift

/-- ASCII lower-case letters and digits. -/
def isLowerOrDigit (letter : Char) : Bool :=
  letter.isLower || letter.isDigit

/-- 1-64 lower-case ASCII letters, digits, `.`, `_` or `-`, starting with a
letter or digit. -/
def isValidStableIdentifier (value : String) : Bool :=
  decide (value.toList.length ≤ 64) &&
    value.toList.head?.any isLowerOrDigit &&
    value.toList.all fun letter =>
      isLowerOrDigit letter || letter == '-' || letter == '_' || letter == '.'

/-- Caller-chosen ID of a reusable QoS budget. -/
structure QosProfileId where
  value : String
  deriving DecidableEq, Repr

namespace QosProfileId

def parse (value : String) : Except String QosProfileId :=
  if isValidStableIdentifier value then
    .ok ⟨value⟩
  else
    .error ("profile_id must be 1-64 lowercase ASCII letters, digits, " ++
      "'.', '_' or '-', and start with a letter or digit")

/-- Profile of requests that carry none. -/
def defaultProfile : QosProfileId := ⟨"default-text-generation"⟩

/-- Identifiers are ordered by their text. -/
instance : LE QosProfileId where
  le left right := left.value ≤ right.value

instance : DecidableLE QosProfileId := fun left right =>
  inferInstanceAs (Decidable (left.value ≤ right.value))

end QosProfileId

/-- Identifier of an executor operation. -/
structure TaskKindId where
  value : String
  deriving DecidableEq, Repr

structure ErrorWindowPolicy where
  pastSlots : ℤ
  futureSlots : ℤ
  pastDecaySlots : ℤ
  deriving DecidableEq, Repr

structure CumulativeErrorPolicy where
  enabled : Bool
  hard : Bool
  deriving DecidableEq, Repr

/-- Scheduling and error-budget policy shared by compatible requests. -/
structure QosProfile where
  profileId : QosProfileId
  taskKind : TaskKindId
  flavours : List Flavour
  errorSemantics : String
  maxErrorThreshold : ℚ
  errorWindow : ErrorWindowPolicy
  cumulativeError : CumulativeErrorPolicy
  deriving DecidableEq, Repr

/-- Code points that a string trim removes. -/
def isTrimmed (letter : Char) : Bool :=
  let code := letter.toNat
  (9 ≤ code && code ≤ 13) || code == 32 || code == 0x85 || code == 0xA0 ||
    code == 0x1680 || (0x2000 ≤ code && code ≤ 0x200A) || code == 0x2028 ||
    code == 0x2029 || code == 0x202F || code == 0x205F || code == 0x3000

/-- Remove leading and trailing blanks. -/
def trimmed (text : String) : String :=
  String.ofList
    ((text.toList.dropWhile isTrimmed).reverse.dropWhile isTrimmed).reverse

/-- ASCII upper-case letters become lower-case. -/
def asciiLowercase (text : String) : String :=
  String.ofList (text.toList.map Char.toLower)

/-- The form in which configured names are compared. -/
def normalisedName (text : String) : String :=
  asciiLowercase (trimmed text)

/-- Reject with the message unless the condition holds. -/
def require (condition : Bool) (message : String) : Except String Unit :=
  if condition then .ok () else .error message

theorem require_bind_eq_ok_iff
    {condition : Bool} {message : String} {next : Except String Unit} :
    (require condition message).bind (fun _ => next) = .ok () ↔
      condition = true ∧ next = .ok () := by
  cases condition <;> simp [require, Except.bind]

namespace QosProfile

/-- The checks of one flavour, given the names seen before it, and then of
the flavours after it. -/
def validateFlavours (seen : List String) : List Flavour → Except String Unit
  | [] => .ok ()
  | flavour :: rest =>
      (require (!flavour.name.toList.all isTrimmed)
        "flavour names must not be empty").bind fun _ =>
      (require (!seen.contains (asciiLowercase flavour.name))
        ("duplicate flavour name: " ++ flavour.name)).bind fun _ =>
      (require (decide (0 ≤ flavour.error ∧ flavour.error ≤ 100))
        ("flavour " ++ flavour.name ++
          " error must be finite and between 0 and 100")).bind fun _ =>
      (require (decide (0 < flavour.duration))
        ("flavour " ++ flavour.name ++
          " duration must be positive")).bind fun _ =>
      validateFlavours (asciiLowercase flavour.name :: seen) rest

def validate (profile : QosProfile) : Except String Unit :=
  (require (!profile.flavours.isEmpty)
    "flavours must not be empty").bind fun _ =>
  (validateFlavours [] profile.flavours).bind fun _ =>
  (require (isValidStableIdentifier profile.errorSemantics)
    ("error_semantics must be a stable lowercase identifier such as " ++
      "word-overlap-f1-v1")).bind fun _ =>
  (require
    (decide (0 ≤ profile.maxErrorThreshold ∧ profile.maxErrorThreshold ≤ 100))
    "max_error_threshold must be finite and between 0 and 100").bind fun _ =>
  require
    (decide (0 ≤ profile.errorWindow.pastSlots ∧
      0 ≤ profile.errorWindow.futureSlots ∧
      0 ≤ profile.errorWindow.pastDecaySlots))
    "error-window slot counts must not be negative"

/-- Checked flavours have distinct names and positive durations. -/
theorem validateFlavours_spec
    {seen : List String} {flavours : List Flavour}
    (valid : validateFlavours seen flavours = .ok ()) :
    (flavours.map fun flavour => asciiLowercase flavour.name).Nodup ∧
      ∀ flavour ∈ flavours,
        asciiLowercase flavour.name ∉ seen ∧ 0 < flavour.duration := by
  induction flavours generalizing seen with
  | nil => simp
  | cons flavour rest inductionHypothesis =>
      rw [validateFlavours, require_bind_eq_ok_iff, require_bind_eq_ok_iff,
        require_bind_eq_ok_iff, require_bind_eq_ok_iff] at valid
      obtain ⟨_, fresh, _, positive, later⟩ := valid
      obtain ⟨distinct, others⟩ := inductionHypothesis later
      have unseen : asciiLowercase flavour.name ∉ seen := by
        simpa using fresh
      refine ⟨List.nodup_cons.mpr ⟨?_, distinct⟩, ?_⟩
      · intro again
        obtain ⟨other, member, same⟩ := List.mem_map.mp again
        exact (others other member).1 (by simp [same])
      · refine List.forall_mem_cons.mpr
          ⟨⟨unseen, of_decide_eq_true positive⟩, fun other member => ?_⟩
        exact ⟨fun known =>
          (others other member).1 (List.mem_cons_of_mem _ known),
          (others other member).2⟩

theorem flavours_of_validate
    {profile : QosProfile} (valid : profile.validate = .ok ()) :
    (profile.flavours.map Flavour.name).Nodup ∧
      ∀ flavour ∈ profile.flavours, 0 < flavour.duration := by
  rw [validate, require_bind_eq_ok_iff] at valid
  cases checked : validateFlavours [] profile.flavours with
  | error message => simp [checked, Except.bind] at valid
  | ok _ =>
      obtain ⟨distinct, positive⟩ := validateFlavours_spec checked
      refine ⟨List.Nodup.of_map asciiLowercase ?_, fun flavour member =>
        (positive flavour member).2⟩
      rwa [List.map_map]

/-- What validation guarantees about a profile's budget. -/
structure Accepted (profile : QosProfile) : Prop where
  flavours_ne_nil : profile.flavours ≠ []
  threshold_nonneg : 0 ≤ profile.maxErrorThreshold
  threshold_le : profile.maxErrorThreshold ≤ 100
  past_nonneg : 0 ≤ profile.errorWindow.pastSlots
  future_nonneg : 0 ≤ profile.errorWindow.futureSlots
  decay_nonneg : 0 ≤ profile.errorWindow.pastDecaySlots

theorem accepted_of_validate
    {profile : QosProfile} (valid : profile.validate = .ok ()) :
    Accepted profile := by
  rw [validate, require_bind_eq_ok_iff] at valid
  obtain ⟨flavours, valid⟩ := valid
  cases checked : validateFlavours [] profile.flavours with
  | error message => simp [checked, Except.bind] at valid
  | ok _ =>
      rw [checked, Except.bind, require_bind_eq_ok_iff,
        require_bind_eq_ok_iff] at valid
      obtain ⟨_, threshold, window⟩ := valid
      have thresholds := of_decide_eq_true threshold
      have windows :
          0 ≤ profile.errorWindow.pastSlots ∧
            0 ≤ profile.errorWindow.futureSlots ∧
            0 ≤ profile.errorWindow.pastDecaySlots := by
        by_contra negative
        simp [require, negative] at window
      exact ⟨by simpa using flavours, thresholds.1, thresholds.2, windows.1,
        windows.2.1, windows.2.2⟩

end QosProfile

end Carbonshift
