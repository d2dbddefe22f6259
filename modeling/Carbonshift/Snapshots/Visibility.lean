import Carbonshift.Snapshots.Publication
import Mathlib.Data.String.Basic
import Mathlib.Data.List.Sort

/-!
# What readers of the directory see

A reader finds exactly the published pairs, each of them complete, whatever
the writers are about and wherever one of them stopped.
-/

namespace Carbonshift

namespace Snapshots

/-! ## One published pair -/

section Pair

variable {json : JsonLibrary} {files : Files} {plan : Plan}

theorem Plan.views_valid (plan : Plan) :
    validateViews (some plan.request.views) = .ok () := by
  obtain ⟨done, valid, _⟩ := Fallible.bind_eq_ok_iff.mp plan.accepted
  exact valid

theorem Plan.exists_clients (plan : Plan) :
    ∃ clients, plan.request.clients = .array clients := by
  obtain ⟨_, _, rest⟩ := Fallible.bind_eq_ok_iff.mp plan.accepted
  obtain ⟨_, listed, _⟩ := Fallible.bind_eq_ok_iff.mp rest
  have list := require_eq_ok_iff.mp listed
  split at list
  · rename_i clients same
    exact ⟨clients, same⟩
  · cases list

/-- The documents of a plan belong together. -/
theorem checkPair_documents (valid : isSnapshotId plan.snapshotId = true) :
    checkPair plan.snapshotDocument plan.summaryDocument = .ok () := by
  obtain ⟨clients, list⟩ := plan.exists_clients
  have views : plan.snapshotDocument.get "views" =
      some plan.request.views := rfl
  have given : plan.summaryDocument.get "clients" =
      some (.array clients) := by
    rw [← list]
    rfl
  refine Fallible.bind_eq_ok_iff.mpr ⟨(), rfl, ?_⟩
  refine Fallible.bind_eq_ok_iff.mpr ⟨(), require_eq_ok_iff.mpr ?_, ?_⟩
  · have snapshotId : (plan.snapshotDocument.get "snapshot_id").bind
        Json.asStr = some plan.snapshotId := rfl
    have summaryId : (plan.summaryDocument.get "snapshot_id").bind
        Json.asStr = some plan.snapshotId := rfl
    have version : isFormatVersion
        (plan.snapshotDocument.get "format_version") = true := rfl
    have summaryVersion : isFormatVersion
        (plan.summaryDocument.get "format_version") = true := rfl
    rw [snapshotId, summaryId, version, summaryVersion]
    simp [valid]
  · refine Fallible.bind_eq_ok_iff.mpr ⟨(), ?_, ?_⟩
    · rw [views]
      exact plan.views_valid
    · rw [given]

theorem loadFile_of_holds {path : Path} {document : Json}
    (holds : Holds json files path document) :
    loadFile json files path = .ok document := by
  obtain ⟨text, dumped, stored⟩ := holds
  rw [loadFile, stored]
  dsimp only
  rw [json.loads_dumps dumped]
  rfl

theorem readSnapshotPair_of_stored
    (valid : isSnapshotId plan.snapshotId = true)
    (summary : Holds json files plan.summaryPath plan.summaryDocument)
    (snapshot : Holds json files plan.snapshotPath plan.snapshotDocument) :
    readSnapshotPair json files plan.snapshotPath =
      .ok (plan.snapshotDocument, plan.summaryDocument) := by
  rw [readSnapshotPair, plan.summaryPath_snapshotPath, if_pos summary.mem,
    loadFile_of_holds summary, loadFile_of_holds snapshot]
  refine Fallible.bind_eq_ok_iff.mpr ⟨_, rfl, ?_⟩
  refine Fallible.bind_eq_ok_iff.mpr ⟨_, rfl, ?_⟩
  rw [checkPair_documents valid]
  rfl

theorem orEmpty_label (plan : Plan) :
    orEmpty (plan.snapshotDocument.get "label") =
      .string (plan.label.getD "") := by
  have given : plan.snapshotDocument.get "label" =
      some (plan.label.elim .null .string) := rfl
  rw [given, orEmpty]
  cases found : plan.label with
  | none => rfl
  | some text =>
      have filled : (!text.isEmpty) = true :=
        (Option.filter_eq_some_iff.mp found).2
      rw [Option.elim_some, truthy, if_pos filled, Option.getD_some]

theorem snapshotRecord_documents (plan : Plan) :
    snapshotRecord plan.snapshotPath plan.snapshotDocument
      plan.summaryDocument = .ok plan.record := by
  rw [Plan.record, ← orEmpty_label, ← plan.summaryPath_snapshotPath]
  rfl

end Pair

/-! ## The published pairs -/

namespace Tidy

variable {json : JsonLibrary} {history : List Action}
variable {directory : Directory} {published : List Plan}
variable {plan : Plan}

theorem eq_of_snapshotId (tidy : Tidy json history directory published)
    {other : Plan} (member : plan ∈ published) (known : other ∈ published)
    (same : plan.snapshotId = other.snapshotId) : plan = other :=
  List.inj_on_of_nodup_map tidy.distinct member known same

variable (fresh : DrawsFreshIds history)
variable (tidy : Tidy json history directory published)

include fresh tidy

theorem valid (member : plan ∈ published) :
    isSnapshotId plan.snapshotId = true :=
  fresh.valid _ (tidy.publishedDrawn plan member)

theorem readSnapshotPair_published (member : plan ∈ published) :
    readSnapshotPair json directory.files plan.snapshotPath =
      .ok (plan.snapshotDocument, plan.summaryDocument) :=
  readSnapshotPair_of_stored (tidy.valid fresh member)
    (tidy.stored plan member).1 (tidy.stored plan member).2

theorem collectRecord_published (member : plan ∈ published)
    (records : List SnapshotRecord) :
    collectRecord json directory.files records plan.snapshotPath =
      .ok (records ++ [plan.record]) := by
  rw [collectRecord, tidy.readSnapshotPair_published fresh member]
  dsimp only
  rw [snapshotRecord_documents]
  rfl

/-- Every published pair adds its line. -/
theorem foldlM_collectRecord {paths : List Path} {plans : List Plan}
    (paths_eq : List.Forall₂ (fun path plan => path = plan.snapshotPath)
      paths plans)
    (known : ∀ plan ∈ plans, plan ∈ published)
    (records : List SnapshotRecord) :
    paths.foldlM (collectRecord json directory.files) records =
      .ok (records ++ plans.map Plan.record) := by
  induction paths_eq generalizing records with
  | nil =>
      rw [List.map_nil, List.append_nil]
      rfl
  | @cons path plan paths plans same _ inductionHypothesis =>
      have first := known plan List.mem_cons_self
      rw [List.foldlM_cons, same, tidy.collectRecord_published fresh first]
      refine (inductionHypothesis
        (fun other member => known other (List.mem_cons_of_mem _ member))
        _).trans ?_
      rw [List.map_cons, List.append_assoc, List.singleton_append]

theorem snapshotPath_nodup :
    (published.map Plan.snapshotPath).Nodup := by
  refine List.Nodup.map_on ?_ (List.Nodup.of_map _ tidy.distinct)
  intro plan member other known same
  exact tidy.eq_of_snapshotId member known
    (Plan.snapshotId_eq_of_snapshotPath (tidy.valid fresh member)
      (tidy.valid fresh known) same)

/-- The files that look like snapshots are the published ones. -/
theorem matching_perm (order : IterationOrder Path) :
    (matching order directory.files snapshotSuffix).Perm
      (published.map Plan.snapshotPath) := by
  refine (order.perm _).trans ((List.perm_ext_iff_of_nodup
    (directory.files.nodupKeys.filter _)
    (tidy.snapshotPath_nodup fresh)).mpr ?_)
  intro path
  rw [List.mem_filter, List.mem_map]
  constructor
  · rintro ⟨present, ending⟩
    obtain ⟨plan, member, same⟩ := tidy.snapshots path present ending
    exact ⟨plan, member, same.symm⟩
  · rintro ⟨plan, member, rfl⟩
    exact ⟨(tidy.stored plan member).2.mem, plan.hasSuffix_snapshot⟩

theorem listSnapshots_published (order : IterationOrder Path) :
    ∃ records,
      listSnapshots json order directory.files = .ok records ∧
        records.Perm (published.map Plan.record) ∧
          records.Pairwise fun earlier later =>
            later.captured ≤ earlier.captured := by
  have paired : List.Forall₂ (fun path (plan : Plan) =>
      path = plan.snapshotPath) (published.map Plan.snapshotPath)
        published :=
    List.forall₂_map_left_iff.mpr (List.forall₂_same.mpr fun _ _ => rfl)
  obtain ⟨plans, paths_eq, plans_perm⟩ :=
    List.perm_comp_forall₂ (tidy.matching_perm fresh order) paired
  have folded := tidy.foldlM_collectRecord fresh paths_eq
    (fun plan member => plans_perm.subset member) []
  have texts : (plans.map Plan.record).all
      (fun record => record.capturedAt.asStr.isSome) = true := by
    rw [List.all_map]
    exact List.all_eq_true.mpr fun _ _ => rfl
  refine ⟨(plans.map Plan.record).insertionSort fun left right =>
    right.captured ≤ left.captured, ?_, ?_, ?_⟩
  · rw [listSnapshots, folded]
    refine Fallible.bind_eq_ok_iff.mpr ⟨_, rfl, ?_⟩
    rw [List.nil_append, if_pos texts]
  · exact (List.perm_insertionSort _ _).trans (plans_perm.map _)
  · have total : Std.Total fun left right : SnapshotRecord =>
        right.captured ≤ left.captured :=
      ⟨fun left right => le_total right.captured left.captured⟩
    have transitive : IsTrans SnapshotRecord fun left right =>
        right.captured ≤ left.captured :=
      ⟨fun _ _ _ first second => second.trans first⟩
    exact List.pairwise_insertionSort _ _

theorem mem_matching_iff (order : IterationOrder Path) {snapshotId : String}
    (valid : isSnapshotId snapshotId = true) {path : Path} :
    path ∈ matching order directory.files
        ("_" ++ snapshotId ++ snapshotSuffix) ↔
      ∃ plan ∈ published,
        plan.snapshotId = snapshotId ∧ path = plan.snapshotPath := by
  rw [matching, order.mem_arrange, List.mem_filter]
  constructor
  · rintro ⟨present, ending⟩
    have snapshot : hasSuffix snapshotSuffix path.name = true := by
      rw [hasSuffix_iff] at ending ⊢
      rw [String.toList_append] at ending
      exact (List.suffix_append _ _).trans ending
    obtain ⟨plan, member, rfl⟩ := tidy.snapshots path present snapshot
    exact ⟨plan, member,
      (id_of_hasSuffix valid (tidy.valid fresh member) ending).symm, rfl⟩
  · rintro ⟨plan, member, rfl, rfl⟩
    exact ⟨(tidy.stored plan member).2.mem, plan.hasSuffix_snapshotPath⟩

theorem loadSnapshot_published (order : IterationOrder Path)
    (member : plan ∈ published) :
    loadSnapshot json order directory.files plan.snapshotId =
      .ok (plan.snapshotDocument, plan.summaryDocument) := by
  have valid := tidy.valid fresh member
  have found := (tidy.mem_matching_iff fresh order valid).mpr
    ⟨plan, member, rfl, rfl⟩
  rw [loadSnapshot, if_pos valid]
  split
  · rename_i nothing
    rw [nothing] at found
    cases found
  · rename_i path others listed
    obtain ⟨other, known, same, rfl⟩ :=
      (tidy.mem_matching_iff fresh order valid).mp
        (listed ▸ List.mem_cons_self)
    rw [tidy.eq_of_snapshotId known member same,
      plan.summaryPath_snapshotPath,
      if_pos (tidy.stored plan member).1.mem]
    exact tidy.readSnapshotPair_published fresh member

theorem loadSnapshot_unpublished (order : IterationOrder Path)
    {snapshotId : String}
    (unknown : snapshotId ∉ published.map Plan.snapshotId) :
    loadSnapshot json order directory.files snapshotId =
      .error (.fileNotFound "snapshot not found") := by
  rw [loadSnapshot]
  split
  · rename_i valid
    split
    · rfl
    · rename_i path others listed
      obtain ⟨plan, member, same, _⟩ :=
        (tidy.mem_matching_iff fresh order valid).mp
          (listed ▸ List.mem_cons_self)
      exact absurd (List.mem_map.mpr ⟨plan, member, same⟩) unknown
  · rfl

end Tidy

/-! ## Every run -/

section Runs

variable {json : JsonLibrary} {actions : List Action}
variable {directory : Directory} {published : List Plan}

/-- Readers see the published pairs and nothing else, after any interleaving
of the writers, with any failures. -/
theorem snapshots_published_atomically (fresh : DrawsFreshIds actions)
    (reached : Transition.run
      (Transition.observed (Directory.step json) Directory.recordPublished)
      (Directory.empty, []) actions = some (directory, published))
    (order : IterationOrder Path) :
    (∃ records,
      listSnapshots json order directory.files = .ok records ∧
        records.Perm (published.map Plan.record) ∧
          records.Pairwise fun earlier later =>
            later.captured ≤ earlier.captured) ∧
      (∀ plan ∈ published,
        loadSnapshot json order directory.files plan.snapshotId =
          .ok (plan.snapshotDocument, plan.summaryDocument)) ∧
      ∀ snapshotId ∉ published.map Plan.snapshotId,
        loadSnapshot json order directory.files snapshotId =
          .error (.fileNotFound "snapshot not found") := by
  have tidy := tidy_of_run fresh reached
  refine ⟨tidy.listSnapshots_published fresh order, ?_, ?_⟩
  · intro plan member
    exact tidy.loadSnapshot_published fresh order member
  · intro snapshotId unknown
    exact tidy.loadSnapshot_unpublished fresh order unknown

/-! ### One pair -/

def sampleRequest : WriteRequest where
  views := .object [("all", .object []), ("by_profile", .object [])]
  clients := .array []
  label := none
  source := "visualizer"
  sourceSnapshotId := none

def sampleCapture : Capture where
  date := "20260102"
  time := "0304_05"
  capturedAt := "2026-01-02T03:04:05.000000Z"
  snapshotId := "0123456789abcdef0123456789abcdef"

theorem sampleRequest_accepted : checkRequest sampleRequest = .ok () := rfl

def samplePlan : Plan :=
  ⟨sampleRequest, sampleCapture, sampleRequest_accepted⟩

def sampleSummaryText : String :=
  "\x7b\"format_version\":1," ++
    "\"snapshot_id\":\"0123456789abcdef0123456789abcdef\"," ++
    "\"captured_at_utc\":\"2026-01-02T03:04:05.000000Z\"," ++
    "\"source\":\"visualizer\",\"clients\":[]\x7d"

def sampleSnapshotText : String :=
  "\x7b\"format_version\":1," ++
    "\"snapshot_id\":\"0123456789abcdef0123456789abcdef\"," ++
    "\"captured_at_utc\":\"2026-01-02T03:04:05.000000Z\"," ++
    "\"label\":null,\"source\":\"visualizer\"," ++
    "\"views\":\x7b\"all\":\x7b\x7d,\"by_profile\":\x7b\x7d\x7d\x7d"

/-- Is it the summary document of the sample? -/
def isSampleSummary : Json → Bool
  | .object [(first, .number version), (second, .string snapshotId),
      (third, .string capturedAt), (fourth, .string source),
      (fifth, .array [])] =>
      version = 1 &&
        [first, second, third, fourth, fifth] =
          ["format_version", "snapshot_id", "captured_at_utc", "source",
            "clients"] &&
        [snapshotId, capturedAt, source] =
          [samplePlan.snapshotId, sampleCapture.capturedAt, "visualizer"]
  | _ => false

/-- Is it the snapshot document of the sample? -/
def isSampleSnapshot : Json → Bool
  | .object [(first, .number version), (second, .string snapshotId),
      (third, .string capturedAt), (fourth, .null), (fifth, .string source),
      (sixth, .object [(seventh, .object []), (eighth, .object [])])] =>
      version = 1 &&
        [first, second, third, fourth, fifth, sixth, seventh, eighth] =
          ["format_version", "snapshot_id", "captured_at_utc", "label",
            "source", "views", "all", "by_profile"] &&
        [snapshotId, capturedAt, source] =
          [samplePlan.snapshotId, sampleCapture.capturedAt, "visualizer"]
  | _ => false

theorem eq_of_isSampleSummary {document : Json}
    (summary : isSampleSummary document = true) :
    document = samplePlan.summaryDocument := by
  rw [isSampleSummary.eq_def] at summary
  split at summary
  · simp only [Bool.and_eq_true, decide_eq_true_eq, List.cons.injEq,
      and_true] at summary
    obtain ⟨⟨rfl, rfl, rfl, rfl, rfl, rfl⟩, rfl, rfl, rfl⟩ := summary
    rfl
  · cases summary

theorem eq_of_isSampleSnapshot {document : Json}
    (snapshot : isSampleSnapshot document = true) :
    document = samplePlan.snapshotDocument := by
  rw [isSampleSnapshot.eq_def] at snapshot
  split at snapshot
  · simp only [Bool.and_eq_true, decide_eq_true_eq, List.cons.injEq,
      and_true] at snapshot
    obtain ⟨⟨rfl, rfl, rfl, rfl, rfl, rfl, rfl, rfl, rfl⟩, rfl, rfl, rfl⟩ :=
      snapshot
    rfl
  · cases snapshot

def sampleDumps (document : Json) : Except String String :=
  if isSampleSummary document then
    .ok sampleSummaryText
  else if isSampleSnapshot document then
    .ok sampleSnapshotText
  else
    .error "unexpected document"

def sampleLoads (text : String) : Except String Json :=
  if text = sampleSummaryText ++ "\n" then
    .ok samplePlan.summaryDocument
  else if text = sampleSnapshotText ++ "\n" then
    .ok samplePlan.snapshotDocument
  else
    .error "unexpected text"

theorem sampleLoads_sampleDumps {document : Json} {text : String}
    (dumped : sampleDumps document = .ok text) :
    sampleLoads (text ++ "\n") = .ok document := by
  rw [sampleDumps] at dumped
  split at dumped
  · rename_i summary
    cases dumped
    rw [eq_of_isSampleSummary summary, sampleLoads, if_pos rfl]
  · split at dumped
    · rename_i snapshot
      cases dumped
      have different : sampleSnapshotText ++ "\n" ≠
          sampleSummaryText ++ "\n" := by decide +kernel
      rw [eq_of_isSampleSnapshot snapshot, sampleLoads, if_neg different,
        if_pos rfl]
    · cases dumped

/-- The library as far as the sample needs it. -/
def sampleLibrary : JsonLibrary where
  dumps := sampleDumps
  loads := sampleLoads
  loads_dumps := sampleLoads_sampleDumps

/-- A pair is written while another writer is killed. -/
def sampleRun : List Action :=
  [.write sampleRequest sampleCapture,
    .step 0 (.create "a"),
    .step 0 (.tear "\x7b"),
    .write sampleRequest
      { sampleCapture with
        snapshotId := "fedcba9876543210fedcba9876543210" },
    .step 0 .proceed,
    .step 1 (.create "b"),
    .step 0 (.create "c"),
    .step 0 .proceed,
    .crash 1,
    .step 0 .proceed,
    .step 0 .proceed]

theorem sampleRun_drawsFreshIds : DrawsFreshIds sampleRun := by
  constructor <;> decide

theorem snapshots_published_atomically_sampleRun :
    ∃ directory,
      Transition.run
          (Transition.observed (Directory.step sampleLibrary)
            Directory.recordPublished)
          (Directory.empty, []) sampleRun =
        some (directory, [samplePlan]) ∧
      loadSnapshot sampleLibrary .entryOrder directory.files
          samplePlan.snapshotId =
        .ok (samplePlan.snapshotDocument, samplePlan.summaryDocument) ∧
      loadSnapshot sampleLibrary .entryOrder directory.files
          "fedcba9876543210fedcba9876543210" =
        .error (.fileNotFound "snapshot not found") := by
  refine ⟨_, rfl, ?_⟩
  have readers := snapshots_published_atomically sampleRun_drawsFreshIds
    (rfl : Transition.run
      (Transition.observed (Directory.step sampleLibrary)
        Directory.recordPublished)
      (Directory.empty, []) sampleRun = some (_, [samplePlan])) .entryOrder
  exact ⟨readers.2.1 samplePlan (List.mem_singleton_self _),
    readers.2.2 _ (by decide)⟩

/-- What is published stays published. -/
theorem published_prefix_of_run {start : Directory × List Plan}
    (reached : Transition.run
      (Transition.observed (Directory.step json) Directory.recordPublished)
      start actions = some (directory, published)) :
    start.2 <+: published := by
  refine Transition.run_induction
    (fun _ state => start.2 <+: state.2) List.prefix_rfl ?_ reached
  intro history state action next before taken
  rw [(Transition.observed_eq_some_iff.mp taken).2]
  exact before.trans (List.prefix_append _ _)

/-- A reader may find a snapshot file at one time and read it and its summary
at any later times. -/
theorem found_snapshot_readable {earlier later : List Action}
    {before : Directory × List Plan}
    (fresh : DrawsFreshIds (earlier ++ later))
    (found : Transition.run
      (Transition.observed (Directory.step json) Directory.recordPublished)
      (Directory.empty, []) earlier = some before)
    (reached : Transition.run
      (Transition.observed (Directory.step json) Directory.recordPublished)
      before later = some (directory, published))
    {path : Path} (present : path ∈ before.1.files)
    (ending : hasSuffix snapshotSuffix path.name = true) :
    ∃ plan ∈ before.2,
      path = plan.snapshotPath ∧
        loadFile json directory.files path = .ok plan.snapshotDocument ∧
          loadFile json directory.files (summaryPath path) =
            .ok plan.summaryDocument := by
  have whole : Transition.run
      (Transition.observed (Directory.step json) Directory.recordPublished)
      (Directory.empty, []) (earlier ++ later) =
        some (directory, published) := by
    rw [Transition.run_append, found]
    exact reached
  obtain ⟨plan, member, rfl⟩ :=
    (tidy_of_run fresh.earlier found).snapshots path present ending
  obtain ⟨summary, snapshot⟩ := (tidy_of_run fresh whole).stored plan
    ((published_prefix_of_run reached).subset member)
  refine ⟨plan, member, rfl, loadFile_of_holds snapshot, ?_⟩
  rw [plan.summaryPath_snapshotPath]
  exact loadFile_of_holds summary

/-- The call of another writer. -/
def sampleCall : Action :=
  .write sampleRequest
    { sampleCapture with snapshotId := "00000000000000000000000000000000" }

/-- The sample pair is read after a further call has been made. -/
theorem found_snapshot_readable_sampleRun :
    ∃ before after : Directory × List Plan,
      Transition.run
          (Transition.observed (Directory.step sampleLibrary)
            Directory.recordPublished)
          (Directory.empty, []) sampleRun = some before ∧
      Transition.observed (Directory.step sampleLibrary)
          Directory.recordPublished before sampleCall = some after ∧
      loadFile sampleLibrary after.1.files samplePlan.snapshotPath =
        .ok samplePlan.snapshotDocument := by
  obtain ⟨directory, found⟩ : ∃ directory, Transition.run
      (Transition.observed (Directory.step sampleLibrary)
        Directory.recordPublished)
      (Directory.empty, []) sampleRun = some (directory, [samplePlan]) :=
    ⟨_, rfl⟩
  have fresh : DrawsFreshIds (sampleRun ++ [sampleCall]) := by
    constructor <;> decide
  obtain ⟨after, called⟩ : ∃ after, Transition.observed
      (Directory.step sampleLibrary) Directory.recordPublished
        (directory, [samplePlan]) sampleCall = some after := ⟨_, rfl⟩
  have present := ((tidy_of_run sampleRun_drawsFreshIds found).stored
    samplePlan (List.mem_singleton_self _)).2.mem
  have reached : Transition.run
      (Transition.observed (Directory.step sampleLibrary)
        Directory.recordPublished) (directory, [samplePlan]) [sampleCall] =
      some after := by
    rw [Transition.run, called]
    rfl
  obtain ⟨plan, member, _, loaded, _⟩ := found_snapshot_readable fresh found
    reached present samplePlan.hasSuffix_snapshot
  rw [List.mem_singleton.mp member] at loaded
  exact ⟨_, after, found, called, loaded⟩

end Runs

end Snapshots

end Carbonshift
