import Carbonshift.Snapshots.Writers
import Mathlib.Data.List.Infix

/-!
# Publication of snapshots

A snapshot file appears complete and after its summary.  Nobody writes to the
files of another writer: temporary files are created under unused names, and
the published names carry an identifier.
-/

namespace Carbonshift

namespace Snapshots

/-! ## Names -/

theorem hasSuffix_iff {suffix name : String} :
    hasSuffix suffix name = true ↔ suffix.toList <:+ name.toList :=
  List.isSuffixOf_iff_suffix

theorem hasSuffix_append (stem suffix : String) :
    hasSuffix suffix (stem ++ suffix) = true := by
  rw [hasSuffix_iff, String.toList_append]
  exact List.suffix_append _ _

theorem removeSuffix_append (stem suffix : String) :
    removeSuffix suffix (stem ++ suffix) = stem := by
  rw [removeSuffix, if_pos (hasSuffix_append stem suffix),
    String.toList_append, List.length_append, Nat.add_sub_cancel_right,
    List.take_left, String.ofList_toList]

/-- Of two endings of one name, one is an ending of the other. -/
theorem suffix_or_suffix {first second name : String}
    (one : hasSuffix first name = true) (other : hasSuffix second name = true) :
    first.toList <:+ second.toList ∨ second.toList <:+ first.toList :=
  List.suffix_or_suffix_of_suffix (hasSuffix_iff.mp one)
    (hasSuffix_iff.mp other)

theorem temporary_ne_snapshot {name : String}
    (temporary : hasSuffix temporarySuffix name = true) :
    hasSuffix snapshotSuffix name = false := by
  by_contra snapshot
  have ends := suffix_or_suffix temporary (Bool.eq_true_of_not_eq_false snapshot)
  revert ends
  decide

theorem temporary_ne_summary {name : String}
    (temporary : hasSuffix temporarySuffix name = true) :
    hasSuffix summarySuffix name = false := by
  by_contra summary
  have ends := suffix_or_suffix temporary (Bool.eq_true_of_not_eq_false summary)
  revert ends
  decide

theorem summary_ne_snapshot {name : String}
    (summary : hasSuffix summarySuffix name = true) :
    hasSuffix snapshotSuffix name = false := by
  by_contra snapshot
  have ends := suffix_or_suffix summary (Bool.eq_true_of_not_eq_false snapshot)
  revert ends
  decide

theorem length_of_isSnapshotId {text : String}
    (valid : isSnapshotId text = true) : text.toList.length = 32 := by
  rw [isSnapshotId, Bool.and_eq_true, decide_eq_true_eq] at valid
  exact valid.1

/-- A name shows the identifier before its ending. -/
theorem id_of_hasSuffix {stem snapshotId other suffix : String}
    (valid : isSnapshotId snapshotId = true)
    (otherValid : isSnapshotId other = true)
    (ends : hasSuffix ("_" ++ snapshotId ++ suffix)
      (stem ++ ("_" ++ other ++ suffix)) = true) :
    snapshotId = other := by
  have first := hasSuffix_iff.mp ends
  have second := hasSuffix_iff.mp
    (hasSuffix_append stem ("_" ++ other ++ suffix))
  have lengths : ("_" ++ snapshotId ++ suffix).toList.length =
      ("_" ++ other ++ suffix).toList.length := by
    rw [String.toList_append, String.toList_append, String.toList_append,
      String.toList_append, List.length_append, List.length_append,
      List.length_append, List.length_append, length_of_isSnapshotId valid,
      length_of_isSnapshotId otherValid]
  have same := (List.suffix_of_suffix_length_le first second
    lengths.le).eq_of_length lengths
  rw [String.toList_append, String.toList_append, String.toList_append,
    String.toList_append] at same
  have front := List.append_cancel_right same
  exact String.toList_inj.mp (List.append_cancel_left front)

namespace Plan

variable {plan other : Plan}

theorem hasSuffix_snapshotPath (plan : Plan) :
    hasSuffix ("_" ++ plan.snapshotId ++ snapshotSuffix)
      plan.snapshotPath.name = true :=
  hasSuffix_append _ _

theorem hasSuffix_snapshot (plan : Plan) :
    hasSuffix snapshotSuffix plan.snapshotPath.name = true := by
  rw [snapshotPath, ← String.append_assoc]
  exact hasSuffix_append _ _

theorem hasSuffix_summary (plan : Plan) :
    hasSuffix summarySuffix plan.summaryPath.name = true := by
  rw [summaryPath, ← String.append_assoc]
  exact hasSuffix_append _ _

/-- The summary of the snapshot file is the summary file. -/
theorem summaryPath_snapshotPath (plan : Plan) :
    Snapshots.summaryPath plan.snapshotPath = plan.summaryPath := by
  rw [Snapshots.summaryPath, snapshotPath, summaryPath]
  dsimp only
  rw [← String.append_assoc, removeSuffix_append, String.append_assoc]

theorem snapshotPath_ne_summaryPath (plan other : Plan) :
    plan.snapshotPath ≠ other.summaryPath := by
  intro same
  have ends := plan.hasSuffix_snapshot
  rw [same, summary_ne_snapshot other.hasSuffix_summary] at ends
  cases ends

theorem snapshotId_eq_of_snapshotPath
    (valid : isSnapshotId plan.snapshotId = true)
    (otherValid : isSnapshotId other.snapshotId = true)
    (same : plan.snapshotPath = other.snapshotPath) :
    plan.snapshotId = other.snapshotId := by
  have ends := plan.hasSuffix_snapshotPath
  rw [same] at ends
  exact id_of_hasSuffix valid otherValid ends

theorem snapshotId_eq_of_summaryPath
    (valid : isSnapshotId plan.snapshotId = true)
    (otherValid : isSnapshotId other.snapshotId = true)
    (same : plan.summaryPath = other.summaryPath) :
    plan.snapshotId = other.snapshotId := by
  have ends : hasSuffix ("_" ++ plan.snapshotId ++ summarySuffix)
      plan.summaryPath.name = true := hasSuffix_append _ _
  rw [same] at ends
  exact id_of_hasSuffix valid otherValid ends

end Plan

theorem hasSuffix_temporaryPath (target : Path) (random : String) :
    hasSuffix temporarySuffix (temporaryPath target random).name = true :=
  hasSuffix_append _ _

/-! ## The files of one writer -/

section Writers

variable {json : JsonLibrary} {files after : Files} {path : Path}
variable {document : Json} {plan : Plan} {phase next : WriterPhase}

/-- The file holds the whole text of the document. -/
def Holds (json : JsonLibrary) (files : Files) (path : Path)
    (document : Json) : Prop :=
  ∃ text, json.dumps document = .ok text ∧
    files.lookup path = some (text ++ "\n")

theorem Holds.of_lookup_eq (holds : Holds json files path document)
    (same : after.lookup path = files.lookup path) :
    Holds json after path document := by
  obtain ⟨text, dumped, stored⟩ := holds
  exact ⟨text, dumped, same.trans stored⟩

theorem Holds.mem (holds : Holds json files path document) :
    path ∈ files := by
  obtain ⟨_, _, stored⟩ := holds
  exact Dictionary.mem_of_lookup stored

/-- What the files of a writer contain. -/
def Contents (json : JsonLibrary) (files : Files) (plan : Plan) :
    WriterPhase → Prop
  | .wroteSummary temporary =>
      Holds json files temporary plan.summaryDocument
  | .openSnapshot summary _ => Holds json files summary plan.summaryDocument
  | .wroteBoth summary snapshot =>
      Holds json files summary plan.summaryDocument ∧
        Holds json files snapshot plan.snapshotDocument
  | .publishedSummary snapshot =>
      Holds json files plan.summaryPath plan.summaryDocument ∧
        Holds json files snapshot plan.snapshotDocument
  | .published =>
      Holds json files plan.summaryPath plan.summaryDocument ∧
        Holds json files plan.snapshotPath plan.snapshotDocument
  | _ => True

/-- The temporary files of a writer are there, under names of their own. -/
structure KeepsFiles (json : JsonLibrary) (files : Files) (plan : Plan)
    (phase : WriterPhase) : Prop where
  contents : Contents json files plan phase
  present : ∀ temporary ∈ phase.temporaries, temporary ∈ files
  named : ∀ temporary ∈ phase.temporaries,
    hasSuffix temporarySuffix temporary.name = true
  nodup : phase.temporaries.Nodup

/-- Everything a step of a writer can do to the files. -/
structure WriterEffect (json : JsonLibrary) (files : Files) (plan : Plan)
    (phase : WriterPhase) (next : WriterPhase) (after : Files) : Prop where
  keeps : KeepsFiles json after plan next
  /-- A temporary file is new if it is not an old one of the writer. -/
  temporaries : ∀ temporary ∈ next.temporaries,
    temporary ∈ phase.temporaries ∨ temporary ∉ files
  aside : ∀ path ∈ files, path ∉ phase.temporaries →
    path ≠ plan.summaryPath → path ≠ plan.snapshotPath →
      after.lookup path = files.lookup path
  snapshots : ∀ path ∈ after, hasSuffix snapshotSuffix path.name = true →
    path ∈ files ∨ (path = plan.snapshotPath ∧ next = .published)

/-! ### The operations on files -/

theorem createTemporary_inv {target : Path} {opened : Path → WriterPhase}
    {aborted : WriterPhase} {choice : WriterChoice}
    (taken : createTemporary files target opened aborted choice =
      some (next, after)) :
    (∃ temporary, hasSuffix temporarySuffix temporary.name = true ∧
        temporary ∉ files ∧ next = opened temporary ∧
          after = files.insert temporary "") ∨
      (next = aborted ∧ after = files) := by
  cases choice with
  | create random =>
      dsimp only [createTemporary] at taken
      split at taken
      · cases taken
      · rename_i unused
        cases taken
        exact Or.inl ⟨_, hasSuffix_temporaryPath target random, unused, rfl,
          rfl⟩
  | fail =>
      cases taken
      exact Or.inr ⟨rfl, rfl⟩
  | proceed => cases taken
  | tear text => cases taken

theorem fillTemporary_inv {temporary : Path}
    {filling filled aborted : WriterPhase} {choice : WriterChoice}
    (taken : fillTemporary json files document temporary filling filled
      aborted choice = some (next, after)) :
    (next = filling ∧ ∃ text, after = files.insert temporary text) ∨
      (next = filled ∧ ∃ text, json.dumps document = .ok text ∧
        after = files.insert temporary (text ++ "\n")) ∨
      (next = aborted ∧ after = files) := by
  cases choice with
  | tear text =>
      cases taken
      exact Or.inl ⟨rfl, text, rfl⟩
  | proceed =>
      dsimp only [fillTemporary] at taken
      split at taken
      · rename_i text dumped
        cases taken
        exact Or.inr (Or.inl ⟨rfl, text, dumped, rfl⟩)
      · cases taken
        exact Or.inr (Or.inr ⟨rfl, rfl⟩)
  | fail =>
      cases taken
      exact Or.inr (Or.inr ⟨rfl, rfl⟩)
  | create random => cases taken

theorem replaceFile_inv {temporary target : Path}
    {replaced aborted : WriterPhase} {choice : WriterChoice}
    (taken : replaceFile files temporary target replaced aborted choice =
      some (next, after)) :
    (next = replaced ∧ ∃ text, files.lookup temporary = some text ∧
        after = (files.erase temporary).insert target text) ∨
      (next = aborted ∧ after = files) := by
  cases choice with
  | proceed =>
      dsimp only [replaceFile] at taken
      split at taken
      · rename_i text stored
        cases taken
        exact Or.inl ⟨rfl, text, stored, rfl⟩
      · cases taken
        exact Or.inr ⟨rfl, rfl⟩
  | fail =>
      cases taken
      exact Or.inr ⟨rfl, rfl⟩
  | create random => cases taken
  | tear text => cases taken

theorem unlink_inv {temporary : Path} {removed aborted : WriterPhase}
    {choice : WriterChoice}
    (taken : unlink files temporary removed aborted choice =
      some (next, after)) :
    (next = removed ∧ after = files.erase temporary) ∨
      (next = aborted ∧ after = files) := by
  cases choice with
  | proceed =>
      cases taken
      exact Or.inl ⟨rfl, rfl⟩
  | fail =>
      cases taken
      exact Or.inr ⟨rfl, rfl⟩
  | create random => cases taken
  | tear text => cases taken

/-! ### Effects on the files -/

namespace WriterEffect

variable {temporary target : Path} {text : String}

theorem unchanged (before : KeepsFiles json files plan phase)
    (fewer : next.temporaries.Sublist phase.temporaries)
    (contents : Contents json files plan next) :
    WriterEffect json files plan phase next files where
  keeps :=
    ⟨contents, fun other member => before.present other (fewer.subset member),
      fun other member => before.named other (fewer.subset member),
      before.nodup.sublist fewer⟩
  temporaries _ member := Or.inl (fewer.subset member)
  aside _ _ _ _ _ := rfl
  snapshots _ member _ := Or.inl member

theorem written (before : KeepsFiles json files plan phase)
    (named : hasSuffix temporarySuffix temporary.name = true)
    (own : temporary ∈ phase.temporaries ∨ temporary ∉ files)
    (known : ∀ other ∈ next.temporaries,
      other = temporary ∨ other ∈ phase.temporaries)
    (nodup : next.temporaries.Nodup)
    (contents : Contents json (files.insert temporary text) plan next) :
    WriterEffect json files plan phase next
      (files.insert temporary text) := by
  refine ⟨⟨contents, ?_, ?_, nodup⟩, ?_, ?_, ?_⟩
  · intro other member
    rw [AList.mem_insert]
    rcases known other member with same | old
    · exact Or.inl same
    · exact Or.inr (before.present other old)
  · intro other member
    rcases known other member with same | old
    · rw [same]
      exact named
    · exact before.named other old
  · intro other member
    rcases known other member with same | old
    · rw [same]
      exact own
    · exact Or.inl old
  · intro path present foreign _ _
    refine AList.lookup_insert_ne ?_
    rintro rfl
    rcases own with old | unused
    · exact foreign old
    · exact unused present
  · intro path member ending
    rcases (AList.mem_insert _).mp member with same | old
    · rw [same, temporary_ne_snapshot named] at ending
      cases ending
    · exact Or.inl old

theorem erased (before : KeepsFiles json files plan phase)
    (own : temporary ∈ phase.temporaries)
    (fewer : next.temporaries.Sublist phase.temporaries)
    (gone : temporary ∉ next.temporaries)
    (contents : Contents json (files.erase temporary) plan next) :
    WriterEffect json files plan phase next (files.erase temporary) := by
  refine ⟨⟨contents, ?_, fun other member =>
      before.named other (fewer.subset member), before.nodup.sublist fewer⟩,
    fun _ member => Or.inl (fewer.subset member), ?_, ?_⟩
  · intro other member
    refine AList.mem_erase.mpr
      ⟨?_, before.present other (fewer.subset member)⟩
    rintro rfl
    exact gone member
  · intro path _ foreign _ _
    refine AList.lookup_erase_ne ?_
    rintro rfl
    exact foreign own
  · intro path member _
    exact Or.inl (AList.mem_erase.mp member).2

theorem replaced (before : KeepsFiles json files plan phase)
    (own : temporary ∈ phase.temporaries)
    (fewer : next.temporaries.Sublist phase.temporaries)
    (gone : temporary ∉ next.temporaries)
    (aim : target = plan.summaryPath ∨
      (target = plan.snapshotPath ∧ next = .published))
    (contents : Contents json ((files.erase temporary).insert target text)
      plan next) :
    WriterEffect json files plan phase next
      ((files.erase temporary).insert target text) := by
  refine ⟨⟨contents, ?_, fun other member =>
      before.named other (fewer.subset member), before.nodup.sublist fewer⟩,
    fun _ member => Or.inl (fewer.subset member), ?_, ?_⟩
  · intro other member
    refine (AList.mem_insert _).mpr (Or.inr (AList.mem_erase.mpr
      ⟨?_, before.present other (fewer.subset member)⟩))
    rintro rfl
    exact gone member
  · intro path _ foreign notSummary notSnapshot
    have elsewhere : path ≠ target := by
      rcases aim with same | ⟨same, _⟩
      · rwa [same]
      · rwa [same]
    rw [AList.lookup_insert_ne elsewhere]
    refine AList.lookup_erase_ne ?_
    rintro rfl
    exact foreign own
  · intro path member ending
    rcases (AList.mem_insert _).mp member with same | old
    · rcases aim with summary | ⟨snapshot, last⟩
      · rw [same, summary, summary_ne_snapshot plan.hasSuffix_summary]
          at ending
        cases ending
      · exact Or.inr ⟨same.trans snapshot, last⟩
    · exact Or.inl (AList.mem_erase.mp old).2

end WriterEffect

/-! ### Steps of one writer -/

section Steps

variable {choice : WriterChoice} {temporary summary snapshot : Path}

private theorem prepared_effect
    (before : KeepsFiles json files plan .prepared)
    (taken : writerStep json plan files .prepared choice =
      some (next, after)) :
    WriterEffect json files plan .prepared next after := by
  rcases createTemporary_inv taken with
    ⟨temporary, named, unused, rfl, rfl⟩ | ⟨rfl, rfl⟩
  · exact .written before named (Or.inr unused)
      (fun other member => Or.inl (List.mem_singleton.mp member))
      (List.nodup_singleton _) trivial
  · exact .unchanged before (List.Sublist.refl _) trivial

private theorem openSummary_effect
    (before : KeepsFiles json files plan (.openSummary temporary))
    (taken : writerStep json plan files (.openSummary temporary) choice =
      some (next, after)) :
    WriterEffect json files plan (.openSummary temporary) next after := by
  have own : temporary ∈ (WriterPhase.openSummary temporary).temporaries :=
    List.mem_singleton_self temporary
  rcases fillTemporary_inv taken with
    ⟨rfl, text, rfl⟩ | ⟨rfl, text, dumped, rfl⟩ | ⟨rfl, rfl⟩
  · exact .written before (before.named _ own) (Or.inl own)
      (fun _ member => Or.inr member) before.nodup trivial
  · exact .written before (before.named _ own) (Or.inl own)
      (fun _ member => Or.inr member) before.nodup
      ⟨text, dumped, AList.lookup_insert _⟩
  · exact .unchanged before (List.Sublist.refl _) trivial

private theorem wroteSummary_effect
    (before : KeepsFiles json files plan (.wroteSummary summary))
    (taken : writerStep json plan files (.wroteSummary summary) choice =
      some (next, after)) :
    WriterEffect json files plan (.wroteSummary summary) next after := by
  have own : summary ∈ (WriterPhase.wroteSummary summary).temporaries :=
    List.mem_singleton_self summary
  rcases createTemporary_inv taken with
    ⟨temporary, named, unused, rfl, rfl⟩ | ⟨rfl, rfl⟩
  · have apart : summary ≠ temporary := by
      rintro rfl
      exact unused (before.present _ own)
    have stays : Holds json files summary plan.summaryDocument :=
      before.contents
    refine .written before named (Or.inr unused) ?_ ?_
      (stays.of_lookup_eq (AList.lookup_insert_ne apart))
    · intro other member
      rcases List.mem_cons.mp member with first | second
      · exact Or.inr (List.mem_singleton.mpr first)
      · exact Or.inl (List.mem_singleton.mp second)
    · exact List.nodup_cons.mpr
        ⟨fun member => apart (List.mem_singleton.mp member),
          List.nodup_singleton _⟩
  · exact .unchanged before (List.Sublist.refl _) trivial

private theorem openSnapshot_effect
    (before : KeepsFiles json files plan (.openSnapshot summary temporary))
    (taken : writerStep json plan files (.openSnapshot summary temporary)
      choice = some (next, after)) :
    WriterEffect json files plan (.openSnapshot summary temporary) next
      after := by
  have own : temporary ∈
      (WriterPhase.openSnapshot summary temporary).temporaries :=
    List.mem_cons_of_mem _ (List.mem_singleton_self temporary)
  have apart : summary ≠ temporary := by
    rintro rfl
    exact (List.nodup_cons.mp before.nodup).1 (List.mem_singleton_self _)
  have stays : Holds json files summary plan.summaryDocument :=
    before.contents
  rcases fillTemporary_inv taken with
    ⟨rfl, text, rfl⟩ | ⟨rfl, text, dumped, rfl⟩ | ⟨rfl, rfl⟩
  · exact .written before (before.named _ own) (Or.inl own)
      (fun _ member => Or.inr member) before.nodup
      (stays.of_lookup_eq (AList.lookup_insert_ne apart))
  · exact .written before (before.named _ own) (Or.inl own)
      (fun _ member => Or.inr member) before.nodup
      ⟨stays.of_lookup_eq (AList.lookup_insert_ne apart), text, dumped,
        AList.lookup_insert _⟩
  · -- the unfinished file is removed before the finished one
    refine ⟨⟨trivial, ?_, ?_, ?_⟩, ?_, fun _ _ _ _ _ => rfl,
      fun _ member _ => Or.inl member⟩
    · exact fun other member => before.present other
        ((List.Perm.swap _ _ _).mem_iff.mp member)
    · exact fun other member => before.named other
        ((List.Perm.swap _ _ _).mem_iff.mp member)
    · exact (List.Perm.swap _ _ _).nodup_iff.mp before.nodup
    · exact fun other member => Or.inl
        ((List.Perm.swap _ _ _).mem_iff.mp member)

private theorem wroteBoth_effect
    (before : KeepsFiles json files plan (.wroteBoth summary snapshot))
    (taken : writerStep json plan files (.wroteBoth summary snapshot) choice =
      some (next, after)) :
    WriterEffect json files plan (.wroteBoth summary snapshot) next after := by
  have own : summary ∈ (WriterPhase.wroteBoth summary snapshot).temporaries :=
    List.mem_cons_self
  have other : snapshot ∈
      (WriterPhase.wroteBoth summary snapshot).temporaries :=
    List.mem_cons_of_mem _ (List.mem_singleton_self snapshot)
  have apart : snapshot ≠ summary := by
    rintro rfl
    exact (List.nodup_cons.mp before.nodup).1 (List.mem_singleton_self _)
  have unpublished : snapshot ≠ plan.summaryPath := by
    intro same
    have ends := plan.hasSuffix_summary
    rw [← same, temporary_ne_summary (before.named _ other)] at ends
    cases ends
  obtain ⟨⟨text, dumped, stored⟩, complete⟩ := before.contents
  rcases replaceFile_inv taken with ⟨rfl, read, found, rfl⟩ | ⟨rfl, rfl⟩
  · rw [stored, Option.some.injEq] at found
    subst found
    refine .replaced before own (List.sublist_cons_self _ _)
      (fun member => apart (List.mem_singleton.mp member).symm)
      (Or.inl rfl) ⟨⟨text, dumped, AList.lookup_insert _⟩, ?_⟩
    refine complete.of_lookup_eq ?_
    rw [AList.lookup_insert_ne unpublished, AList.lookup_erase_ne apart]
  · exact .unchanged before (List.Sublist.refl _) trivial

private theorem publishedSummary_effect
    (before : KeepsFiles json files plan (.publishedSummary snapshot))
    (taken : writerStep json plan files (.publishedSummary snapshot) choice =
      some (next, after)) :
    WriterEffect json files plan (.publishedSummary snapshot) next after := by
  have own : snapshot ∈ (WriterPhase.publishedSummary snapshot).temporaries :=
    List.mem_singleton_self snapshot
  have unpublished : plan.summaryPath ≠ snapshot := by
    intro same
    have ends := plan.hasSuffix_summary
    rw [same, temporary_ne_summary (before.named _ own)] at ends
    cases ends
  obtain ⟨complete, text, dumped, stored⟩ := before.contents
  rcases replaceFile_inv taken with ⟨rfl, read, found, rfl⟩ | ⟨rfl, rfl⟩
  · rw [stored, Option.some.injEq] at found
    subst found
    refine .replaced before own (List.nil_sublist _) List.not_mem_nil
      (Or.inr ⟨rfl, rfl⟩) ⟨?_, text, dumped, AList.lookup_insert _⟩
    refine complete.of_lookup_eq ?_
    rw [AList.lookup_insert_ne (plan.snapshotPath_ne_summaryPath plan).symm,
      AList.lookup_erase_ne unpublished]
  · exact .unchanged before (List.Sublist.refl _) trivial

private theorem removal_effect {others : List Path} {aborted : WriterPhase}
    (before : KeepsFiles json files plan phase)
    (temporaries_eq : phase.temporaries = temporary :: others)
    (cleans : aborted = .cleaning others ∨ aborted = .failed)
    (taken : unlink files temporary (.cleaning others) aborted choice =
      some (next, after)) :
    WriterEffect json files plan phase next after := by
  have own : temporary ∈ phase.temporaries := by
    rw [temporaries_eq]
    exact List.mem_cons_self
  have fewer : others.Sublist phase.temporaries := by
    rw [temporaries_eq]
    exact List.sublist_cons_self _ _
  have gone : temporary ∉ others := by
    have nodup := before.nodup
    rw [temporaries_eq] at nodup
    exact (List.nodup_cons.mp nodup).1
  rcases unlink_inv taken with ⟨rfl, rfl⟩ | ⟨rfl, rfl⟩
  · exact .erased before own fewer gone trivial
  · rcases cleans with rfl | rfl
    · exact .unchanged before fewer trivial
    · exact .unchanged before (List.nil_sublist _) trivial

/-- A step of a writer keeps its files and leaves those of others alone. -/
theorem writerStep_effect (before : KeepsFiles json files plan phase)
    (taken : writerStep json plan files phase choice = some (next, after)) :
    WriterEffect json files plan phase next after := by
  cases phase with
  | prepared => exact prepared_effect before taken
  | openSummary temporary => exact openSummary_effect before taken
  | wroteSummary summary => exact wroteSummary_effect before taken
  | openSnapshot summary temporary => exact openSnapshot_effect before taken
  | wroteBoth summary snapshot => exact wroteBoth_effect before taken
  | publishedSummary snapshot => exact publishedSummary_effect before taken
  | published => cases taken
  | discarding temporary others =>
      exact removal_effect before rfl (Or.inl rfl) taken
  | cleaning temporaries =>
      cases temporaries with
      | nil =>
          cases taken
          exact .unchanged before (List.Sublist.refl _) trivial
      | cons temporary others =>
          exact removal_effect before rfl (Or.inr rfl) taken
  | failed => cases taken

end Steps

namespace WriterEffect

variable {other : Plan}

/-- The temporary files of others stay as they are. -/
theorem temporary_aside
    (effect : WriterEffect json files plan phase next after)
    (present : path ∈ files)
    (named : hasSuffix temporarySuffix path.name = true)
    (foreign : path ∉ phase.temporaries) :
    after.lookup path = files.lookup path := by
  refine effect.aside path present foreign ?_ ?_
  · rintro rfl
    have ends := plan.hasSuffix_summary
    rw [temporary_ne_summary named] at ends
    cases ends
  · rintro rfl
    have ends := plan.hasSuffix_snapshot
    rw [temporary_ne_snapshot named] at ends
    cases ends

/-- The pair of another plan stays as it is. -/
theorem pair_aside (effect : WriterEffect json files plan phase next after)
    (before : KeepsFiles json files plan phase)
    (valid : isSnapshotId plan.snapshotId = true)
    (otherValid : isSnapshotId other.snapshotId = true)
    (apart : plan.snapshotId ≠ other.snapshotId)
    (present : path ∈ files)
    (pair : path = other.summaryPath ∨ path = other.snapshotPath) :
    after.lookup path = files.lookup path := by
  rcases pair with rfl | rfl
  · refine effect.aside _ present ?_ ?_ (plan.snapshotPath_ne_summaryPath other).symm
    · intro own
      have ends := other.hasSuffix_summary
      rw [temporary_ne_summary (before.named _ own)] at ends
      cases ends
    · intro same
      exact apart
        (Plan.snapshotId_eq_of_summaryPath otherValid valid same).symm
  · refine effect.aside _ present ?_ (other.snapshotPath_ne_summaryPath plan)
      ?_
    · intro own
      have ends := other.hasSuffix_snapshot
      rw [temporary_ne_snapshot (before.named _ own)] at ends
      cases ends
    · intro same
      exact apart
        (Plan.snapshotId_eq_of_snapshotPath otherValid valid same).symm

end WriterEffect

/-- The files of a writer are kept if their texts are. -/
theorem KeepsFiles.of_lookup_eq (keeps : KeepsFiles json files plan phase)
    (same : ∀ path ∈ files,
      path ∈ phase.temporaries ∨ path = plan.summaryPath ∨
          path = plan.snapshotPath →
        after.lookup path = files.lookup path) :
    KeepsFiles json after plan phase := by
  have stays : ∀ temporary ∈ phase.temporaries, ∀ document,
      Holds json files temporary document →
        Holds json after temporary document := fun temporary member _ holds =>
    holds.of_lookup_eq (same temporary holds.mem (Or.inl member))
  have staysSummary : Holds json files plan.summaryPath plan.summaryDocument →
      Holds json after plan.summaryPath plan.summaryDocument := fun holds =>
    holds.of_lookup_eq (same _ holds.mem (Or.inr (Or.inl rfl)))
  have staysSnapshot :
      Holds json files plan.snapshotPath plan.snapshotDocument →
        Holds json after plan.snapshotPath plan.snapshotDocument :=
    fun holds => holds.of_lookup_eq (same _ holds.mem (Or.inr (Or.inr rfl)))
  refine ⟨?_, ?_, keeps.named, keeps.nodup⟩
  · have contents := keeps.contents
    cases phase with
    | wroteSummary temporary =>
        exact stays _ (List.mem_singleton_self _) _ contents
    | openSnapshot summary temporary =>
        exact stays _ List.mem_cons_self _ contents
    | wroteBoth summary snapshot =>
        exact ⟨stays _ List.mem_cons_self _ contents.1,
          stays _ (List.mem_cons_of_mem _ (List.mem_singleton_self _)) _
            contents.2⟩
    | publishedSummary snapshot =>
        exact ⟨staysSummary contents.1,
          stays _ (List.mem_singleton_self _) _ contents.2⟩
    | published => exact ⟨staysSummary contents.1, staysSnapshot contents.2⟩
    | prepared => trivial
    | openSummary temporary => trivial
    | discarding temporary others => trivial
    | cleaning temporaries => trivial
    | failed => trivial
  · intro temporary member
    have present := keeps.present temporary member
    obtain ⟨text, found⟩ := Dictionary.exists_lookup_of_mem present
    refine Dictionary.mem_of_lookup
      ((same temporary present (Or.inl member)).trans found)

end Writers

/-! ## The whole directory -/

/-- The identifiers that the calls have drawn. -/
def drawnIds (history : List Action) : List String :=
  history.filterMap Action.drawn

/-- Every call draws an identifier of its own. -/
structure DrawsFreshIds (history : List Action) : Prop where
  valid : ∀ snapshotId ∈ drawnIds history, isSnapshotId snapshotId = true
  distinct : (drawnIds history).Nodup

theorem DrawsFreshIds.earlier {history more : List Action}
    (fresh : DrawsFreshIds (history ++ more)) : DrawsFreshIds history := by
  have split : drawnIds (history ++ more) =
      drawnIds history ++ drawnIds more := List.filterMap_append
  constructor
  · intro snapshotId member
    refine fresh.valid snapshotId ?_
    rw [split]
    exact List.mem_append_left _ member
  · have distinct := fresh.distinct
    rw [split] at distinct
    exact distinct.of_append_left

/-- What holds of the directory after the history. -/
structure Tidy (json : JsonLibrary) (history : List Action)
    (directory : Directory) (published : List Plan) : Prop where
  numbered : ∀ {writerId writer},
    directory.writers.lookup writerId = some writer →
      writerId < directory.started
  keeps : ∀ {writerId writer},
    directory.writers.lookup writerId = some writer →
      KeepsFiles json directory.files writer.plan writer.phase
  drawn : ∀ {writerId writer},
    directory.writers.lookup writerId = some writer →
      writer.plan.snapshotId ∈ drawnIds history
  /-- No two writers have one identifier. -/
  apart : ∀ {left right writer other},
    directory.writers.lookup left = some writer →
    directory.writers.lookup right = some other →
    writer.plan.snapshotId = other.plan.snapshotId → left = right
  separate : ∀ {left right writer other},
    directory.writers.lookup left = some writer →
    directory.writers.lookup right = some other → left ≠ right →
      writer.phase.temporaries.Disjoint other.phase.temporaries
  unpublished : ∀ {writerId writer},
    directory.writers.lookup writerId = some writer →
    writer.phase ≠ .published →
      writer.plan.snapshotId ∉ published.map Plan.snapshotId
  publishedDrawn : ∀ plan ∈ published, plan.snapshotId ∈ drawnIds history
  distinct : (published.map Plan.snapshotId).Nodup
  stored : ∀ plan ∈ published,
    Holds json directory.files plan.summaryPath plan.summaryDocument ∧
      Holds json directory.files plan.snapshotPath plan.snapshotDocument
  /-- Whatever looks like a snapshot has been published. -/
  snapshots : ∀ path ∈ directory.files,
    hasSuffix snapshotSuffix path.name = true →
      ∃ plan ∈ published, path = plan.snapshotPath

section Directory

variable {json : JsonLibrary} {history : List Action}
variable {directory next : Directory} {published : List Plan}
variable {action : Action}

/-- The last step of a writer, and no other, makes its pair visible. -/
theorem publishes_of_writerStep {writerId : ℕ} {writer : Writer}
    {choice : WriterChoice} {phase : WriterPhase} {after : Files}
    (found : directory.writers.lookup writerId = some writer)
    (taken : writerStep json writer.plan directory.files writer.phase choice =
      some (phase, after)) :
    (phase = .published ∧
        directory.publishes (.step writerId choice) = some writer.plan) ∨
      (phase ≠ .published ∧
        directory.publishes (.step writerId choice) = none) := by
  obtain ⟨plan, before⟩ := writer
  cases before with
  | prepared =>
      rcases createTemporary_inv taken with ⟨_, _, _, rfl, _⟩ | ⟨rfl, _⟩ <;>
        cases choice <;> simp [Directory.publishes, found]
  | openSummary temporary =>
      rcases fillTemporary_inv taken with
        ⟨rfl, _⟩ | ⟨rfl, _⟩ | ⟨rfl, _⟩ <;>
        cases choice <;> simp [Directory.publishes, found]
  | wroteSummary summary =>
      rcases createTemporary_inv taken with ⟨_, _, _, rfl, _⟩ | ⟨rfl, _⟩ <;>
        cases choice <;> simp [Directory.publishes, found]
  | openSnapshot summary temporary =>
      rcases fillTemporary_inv taken with
        ⟨rfl, _⟩ | ⟨rfl, _⟩ | ⟨rfl, _⟩ <;>
        cases choice <;> simp [Directory.publishes, found]
  | wroteBoth summary snapshot =>
      rcases replaceFile_inv taken with ⟨rfl, _⟩ | ⟨rfl, _⟩ <;>
        cases choice <;> simp [Directory.publishes, found]
  | publishedSummary snapshot =>
      cases choice with
      | proceed =>
          dsimp only [writerStep, replaceFile] at taken
          split at taken
          · rename_i text stored
            cases taken
            refine Or.inl ⟨rfl, ?_⟩
            simp [Directory.publishes, found,
              Dictionary.mem_of_lookup stored]
          · rename_i missing
            cases taken
            have aborted : WriterPhase.cleaning [snapshot] ≠ .published := by
              intro same
              cases same
            refine Or.inr ⟨aborted, ?_⟩
            have gone : snapshot ∉ directory.files :=
              AList.lookup_eq_none.mp missing
            simp [Directory.publishes, found, gone]
      | create random => cases taken
      | tear text => cases taken
      | fail =>
          cases taken
          simp [Directory.publishes]
  | published => cases taken
  | discarding temporary others =>
      rcases unlink_inv taken with ⟨rfl, _⟩ | ⟨rfl, _⟩ <;>
        cases choice <;> simp [Directory.publishes, found]
  | cleaning temporaries =>
      cases temporaries with
      | nil =>
          cases taken
          cases choice <;> simp [Directory.publishes, found]
      | cons temporary others =>
          rcases unlink_inv taken with ⟨rfl, _⟩ | ⟨rfl, _⟩ <;>
            cases choice <;> simp [Directory.publishes, found]
  | failed => cases taken

theorem Tidy.empty (json : JsonLibrary) :
    Tidy json [] Directory.empty [] := by
  have nobody : ∀ {writerId : ℕ} {writer : Writer},
      Directory.empty.writers.lookup writerId ≠ some writer := by
    intro writerId writer found
    cases (AList.lookup_empty writerId).symm.trans found
  have nothing : ∀ path : Path, path ∉ Directory.empty.files := by
    intro path member
    exact AList.notMem_empty path member
  exact
    { numbered := fun found => absurd found nobody
      keeps := fun found => absurd found nobody
      drawn := fun found => absurd found nobody
      apart := fun found => absurd found nobody
      separate := fun found => absurd found nobody
      unpublished := fun found => absurd found nobody
      publishedDrawn := fun _ member => absurd member List.not_mem_nil
      distinct := List.nodup_nil
      stored := fun _ member => absurd member List.not_mem_nil
      snapshots := fun path member => absurd member (nothing path) }

namespace Tidy

private theorem drawn_mono {snapshotId : String}
    (member : snapshotId ∈ drawnIds history) :
    snapshotId ∈ drawnIds (history ++ [action]) := by
  have split : drawnIds (history ++ [action]) =
      drawnIds history ++ drawnIds [action] := List.filterMap_append
  rw [split]
  exact List.mem_append_left _ member

/-- A call joins the writers. -/
private theorem write
    (tidy : Tidy json history directory published)
    {request : WriteRequest} {capture : Capture}
    (fresh : DrawsFreshIds (history ++ [.write request capture]))
    (taken : directory.step json (.write request capture) = some next) :
    Tidy json (history ++ [.write request capture]) next published := by
  have split : drawnIds (history ++ [.write request capture]) =
      drawnIds history ++ [capture.snapshotId] := List.filterMap_append
  have unused : capture.snapshotId ∉ drawnIds history := by
    have distinct := fresh.distinct
    rw [split] at distinct
    exact fun member => List.disjoint_of_nodup_append distinct member
      (List.mem_singleton_self _)
  rw [Directory.step] at taken
  split at taken
  · rename_i accepted
    cases taken
    have cases : ∀ {writerId : ℕ} {writer : Writer},
        (directory.writers.insert directory.started
          ⟨⟨request, capture, accepted⟩, .prepared⟩).lookup writerId =
            some writer →
        (writerId = directory.started ∧
            writer = ⟨⟨request, capture, accepted⟩, .prepared⟩) ∨
          directory.writers.lookup writerId = some writer := by
      intro writerId writer found
      by_cases newcomer : writerId = directory.started
      · rw [newcomer, AList.lookup_insert] at found
        exact Or.inl ⟨newcomer, (Option.some.inj found).symm⟩
      · rw [AList.lookup_insert_ne newcomer] at found
        exact Or.inr found
    refine ⟨?_, ?_, ?_, ?_, ?_, ?_, ?_, tidy.distinct, tidy.stored,
      tidy.snapshots⟩
    · intro writerId writer found
      rcases cases found with ⟨rfl, rfl⟩ | before
      · exact Nat.lt_succ_self _
      · exact Nat.lt_succ_of_lt (tidy.numbered before)
    · intro writerId writer found
      rcases cases found with ⟨rfl, rfl⟩ | before
      · exact ⟨trivial, fun _ member => absurd member List.not_mem_nil,
          fun _ member => absurd member List.not_mem_nil, List.nodup_nil⟩
      · exact tidy.keeps before
    · intro writerId writer found
      rcases cases found with ⟨rfl, rfl⟩ | before
      · rw [split]
        exact List.mem_append_right _ (List.mem_singleton_self _)
      · exact drawn_mono (tidy.drawn before)
    · intro left right writer other found there same
      rcases cases found with ⟨rfl, rfl⟩ | before <;>
        rcases cases there with ⟨rfl, rfl⟩ | otherBefore
      · rfl
      · refine absurd (tidy.drawn otherBefore) ?_
        rw [← same]
        exact unused
      · refine absurd (tidy.drawn before) ?_
        rw [same]
        exact unused
      · exact tidy.apart before otherBefore same
    · intro left right writer other found there different
      rcases cases found with ⟨rfl, rfl⟩ | before
      · exact List.disjoint_nil_left _
      · rcases cases there with ⟨rfl, rfl⟩ | otherBefore
        · exact List.disjoint_nil_right _
        · exact tidy.separate before otherBefore different
    · intro writerId writer found early
      rcases cases found with ⟨rfl, rfl⟩ | before
      · intro member
        obtain ⟨plan, known, same⟩ := List.mem_map.mp member
        refine unused ?_
        have drawn := tidy.publishedDrawn plan known
        rwa [same] at drawn
      · exact tidy.unpublished before early
    · exact fun plan member => drawn_mono (tidy.publishedDrawn plan member)
  · cases taken
    exact
      { tidy with
        drawn := fun found => drawn_mono (tidy.drawn found)
        publishedDrawn := fun plan member =>
          drawn_mono (tidy.publishedDrawn plan member) }

/-- A killed writer leaves its files behind. -/
private theorem crash
    (tidy : Tidy json history directory published) (writerId : ℕ) :
    Tidy json (history ++ [.crash writerId])
      { directory with writers := directory.writers.erase writerId }
      published := by
  have before : ∀ {otherId : ℕ} {other : Writer},
      (directory.writers.erase writerId).lookup otherId = some other →
        directory.writers.lookup otherId = some other := by
    intro otherId other found
    by_cases own : otherId = writerId
    · rw [own, AList.lookup_erase] at found
      cases found
    · rwa [AList.lookup_erase_ne own] at found
  exact
    { tidy with
      numbered := fun found => tidy.numbered (before found)
      keeps := fun found => tidy.keeps (before found)
      drawn := fun found => drawn_mono (tidy.drawn (before found))
      apart := fun found there => tidy.apart (before found) (before there)
      separate := fun found there =>
        tidy.separate (before found) (before there)
      unpublished := fun found => tidy.unpublished (before found)
      publishedDrawn := fun plan member =>
        drawn_mono (tidy.publishedDrawn plan member) }

/-- A step of a writer, which may publish its pair. -/
private theorem writerStep
    (tidy : Tidy json history directory published)
    (fresh : DrawsFreshIds history) {writerId : ℕ} {choice : WriterChoice}
    (taken : directory.step json (.step writerId choice) = some next) :
    Tidy json (history ++ [.step writerId choice]) next
      (published ++ (directory.publishes (.step writerId choice)).toList) := by
  obtain ⟨writer, found, stepped⟩ := Option.bind_eq_some_iff.mp taken
  obtain ⟨⟨phase, after⟩, moved, made⟩ := Option.map_eq_some_iff.mp stepped
  have before := tidy.keeps found
  have effect := writerStep_effect before moved
  have valid : ∀ snapshotId ∈ drawnIds history,
      isSnapshotId snapshotId = true := fresh.valid
  have unfinished : writer.phase ≠ .published := by
    intro finished
    rw [finished] at moved
    cases moved
  have unseen := tidy.unpublished found unfinished
  -- the writer itself, or one of the others as it was
  have cases : ∀ {otherId : ℕ} {other : Writer},
      next.writers.lookup otherId = some other →
      (otherId = writerId ∧ other = { writer with phase := phase }) ∨
        (otherId ≠ writerId ∧
          directory.writers.lookup otherId = some other) := by
    intro otherId other there
    rw [← made] at there
    by_cases own : otherId = writerId
    · rw [own, AList.lookup_insert] at there
      exact Or.inl ⟨own, (Option.some.inj there).symm⟩
    · rw [AList.lookup_insert_ne own] at there
      exact Or.inr ⟨own, there⟩
  have files_eq : next.files = after := by rw [← made]
  have started_eq : next.started = directory.started := by rw [← made]
  have pairs : ∀ {plan : Plan} {path : Path},
      plan.snapshotId ∈ drawnIds history →
      writer.plan.snapshotId ≠ plan.snapshotId → path ∈ directory.files →
      path = plan.summaryPath ∨ path = plan.snapshotPath →
        next.files.lookup path = directory.files.lookup path := by
    intro plan path drawn apart present pair
    rw [files_eq]
    exact effect.pair_aside before (valid _ (tidy.drawn found))
      (valid _ drawn) apart present pair
  have storedBefore : ∀ plan ∈ published,
      Holds json next.files plan.summaryPath plan.summaryDocument ∧
        Holds json next.files plan.snapshotPath plan.snapshotDocument := by
    intro plan member
    have apart : writer.plan.snapshotId ≠ plan.snapshotId := fun same =>
      unseen (List.mem_map.mpr ⟨plan, member, same.symm⟩)
    have drawn := tidy.publishedDrawn plan member
    obtain ⟨summary, snapshot⟩ := tidy.stored plan member
    exact ⟨summary.of_lookup_eq (pairs drawn apart summary.mem (Or.inl rfl)),
      snapshot.of_lookup_eq (pairs drawn apart snapshot.mem (Or.inr rfl))⟩
  have published_eq := publishes_of_writerStep found moved
  refine ⟨?_, ?_, ?_, ?_, ?_, ?_, ?_, ?_, ?_, ?_⟩
  · intro otherId other there
    rw [started_eq]
    rcases cases there with ⟨rfl, rfl⟩ | ⟨_, earlier⟩
    · exact tidy.numbered found
    · exact tidy.numbered earlier
  · intro otherId other there
    rcases cases there with ⟨rfl, rfl⟩ | ⟨different, earlier⟩
    · rw [files_eq]
      exact effect.keeps
    · have apart : writer.plan.snapshotId ≠ other.plan.snapshotId :=
        fun same => different (tidy.apart found earlier same).symm
      refine (tidy.keeps earlier).of_lookup_eq ?_
      intro path present own
      rcases own with temporary | pair
      · rw [files_eq]
        exact effect.temporary_aside present
          ((tidy.keeps earlier).named path temporary)
          (tidy.separate earlier found different temporary)
      · exact pairs (tidy.drawn earlier) apart present pair
  · intro otherId other there
    rcases cases there with ⟨rfl, rfl⟩ | ⟨_, earlier⟩
    · have drawn : writer.plan.snapshotId ∈ drawnIds history :=
        tidy.drawn found
      exact drawn_mono drawn
    · exact drawn_mono (tidy.drawn earlier)
  · intro left right first second there present same
    rcases cases there with ⟨rfl, rfl⟩ | ⟨_, earlier⟩ <;>
      rcases cases present with ⟨rfl, rfl⟩ | ⟨_, otherEarlier⟩
    · rfl
    · exact tidy.apart found otherEarlier same
    · exact tidy.apart earlier found same
    · exact tidy.apart earlier otherEarlier same
  · have foreign : ∀ {otherId : ℕ} {other : Writer}, otherId ≠ writerId →
        directory.writers.lookup otherId = some other →
          phase.temporaries.Disjoint other.phase.temporaries := by
      intro otherId other different earlier path own temporary
      rcases effect.temporaries path own with old | unused
      · exact tidy.separate found earlier different.symm old temporary
      · exact unused ((tidy.keeps earlier).present path temporary)
    intro left right first second there present different
    rcases cases there with ⟨rfl, rfl⟩ | ⟨apart, earlier⟩ <;>
      rcases cases present with ⟨rfl, rfl⟩ | ⟨otherApart, otherEarlier⟩
    · exact absurd rfl different
    · exact foreign otherApart otherEarlier
    · exact (foreign apart earlier).symm
    · exact tidy.separate earlier otherEarlier different
  · intro otherId other there early
    rcases cases there with ⟨rfl, rfl⟩ | ⟨different, earlier⟩
    · rcases published_eq with ⟨finished, _⟩ | ⟨_, nothing⟩
      · exact absurd finished early
      · rw [nothing, Option.toList_none, List.append_nil]
        exact unseen
    · rw [List.map_append, List.mem_append]
      rintro (old | new)
      · exact tidy.unpublished earlier early old
      · rcases published_eq with ⟨_, just⟩ | ⟨_, nothing⟩
        · rw [just] at new
          exact different
            (tidy.apart earlier found (List.mem_singleton.mp new))
        · rw [nothing] at new
          exact List.not_mem_nil new
  · intro plan member
    rcases List.mem_append.mp member with old | new
    · exact drawn_mono (tidy.publishedDrawn plan old)
    · rcases published_eq with ⟨_, just⟩ | ⟨_, nothing⟩
      · rw [just] at new
        rw [List.mem_singleton.mp new]
        exact drawn_mono (tidy.drawn found)
      · rw [nothing] at new
        exact absurd new List.not_mem_nil
  · rcases published_eq with ⟨_, just⟩ | ⟨_, nothing⟩
    · rw [just, List.map_append]
      refine List.nodup_append.mpr
        ⟨tidy.distinct, List.nodup_singleton _, ?_⟩
      intro old earlier new last same
      rw [List.mem_singleton.mp last] at same
      exact unseen (same ▸ earlier)
    · rw [nothing, Option.toList_none, List.append_nil]
      exact tidy.distinct
  · intro plan member
    rcases List.mem_append.mp member with old | new
    · exact storedBefore plan old
    · rcases published_eq with ⟨finished, just⟩ | ⟨_, nothing⟩
      · rw [just] at new
        rw [List.mem_singleton.mp new, files_eq]
        have contents := effect.keeps.contents
        rw [finished] at contents
        exact contents
      · rw [nothing] at new
        exact absurd new List.not_mem_nil
  · intro path present ending
    rw [files_eq] at present
    rcases effect.snapshots path present ending with old | ⟨same, finished⟩
    · obtain ⟨plan, member, same⟩ := tidy.snapshots path old ending
      exact ⟨plan, List.mem_append_left _ member, same⟩
    · rcases published_eq with ⟨_, just⟩ | ⟨early, _⟩
      · refine ⟨writer.plan, List.mem_append_right _ ?_, same⟩
        rw [just]
        exact List.mem_singleton_self _
      · exact absurd finished early

end Tidy

/-- The directory is tidy after every run. -/
theorem tidy_of_run {actions : List Action}
    (fresh : DrawsFreshIds actions)
    (reached : Transition.run
      (Transition.observed (Directory.step json) Directory.recordPublished)
      (Directory.empty, []) actions = some (directory, published)) :
    Tidy json actions directory published := by
  refine Transition.run_induction
    (fun history state =>
      DrawsFreshIds history → Tidy json history state.1 state.2)
    (fun _ => Tidy.empty json) ?_ reached fresh
  intro history state action next before taken fresh
  obtain ⟨stepped, seen⟩ := Transition.observed_eq_some_iff.mp taken
  have tidy := before fresh.earlier
  rw [seen]
  cases action with
  | write request capture =>
      have same : state.1.recordPublished (.write request capture) state.2 =
          state.2 := List.append_nil _
      rw [same]
      exact tidy.write fresh stepped
  | step writerId choice => exact tidy.writerStep fresh.earlier stepped
  | crash writerId =>
      have same : state.1.recordPublished (.crash writerId) state.2 =
          state.2 := List.append_nil _
      rw [Directory.step, Option.some.injEq] at stepped
      rw [same, ← stepped]
      exact tidy.crash writerId

end Directory

end Snapshots

end Carbonshift
