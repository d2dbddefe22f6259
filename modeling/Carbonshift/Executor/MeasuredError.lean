import Carbonshift.Executor.Inference
import Mathlib.Algebra.Order.BigOperators.Group.List

/-!
# The measured error

The scores are overlap scores, so the measured error is a percentage.  An
output scores as perfect against itself unless it has nothing to compare.
-/

namespace Carbonshift

namespace Executor

/-! ## Scores -/

section Scores

variable (python : PythonText)

theorem wordOverlapF1_comm (predicted reference : String) :
    wordOverlapF1 python predicted reference =
      wordOverlapF1 python reference predicted := by
  rw [wordOverlapF1_eq, wordOverlapF1_eq, OverlapScore.ofMultisets_comm]

theorem wordOverlapF1_mem (predicted reference : String) :
    0 ≤ wordOverlapF1 python predicted reference ∧
      wordOverlapF1 python predicted reference ≤ 1 := by
  rw [wordOverlapF1_eq]
  exact ⟨OverlapScore.ofMultisets_nonneg _ _,
    OverlapScore.ofMultisets_le_one _ _⟩

theorem wordOverlapF1_eq_one_iff (predicted reference : String) :
    wordOverlapF1 python predicted reference = 1 ↔
      (python.answerTokens predicted).Perm (python.answerTokens reference) ∧
        python.answerTokens predicted ≠ [] := by
  rw [wordOverlapF1_eq, OverlapScore.ofMultisets_eq_one_iff,
    Multiset.coe_eq_coe, ne_eq, ne_eq, Multiset.coe_eq_zero]

theorem entitySetF1_comm (predEntities refEntities : List Entity) :
    entitySetF1 python predEntities refEntities =
      entitySetF1 python refEntities predEntities := by
  rw [entitySetF1_eq, entitySetF1_eq, OverlapScore.ofMultisets_comm]

theorem entitySetF1_mem (predEntities refEntities : List Entity) :
    0 ≤ entitySetF1 python predEntities refEntities ∧
      entitySetF1 python predEntities refEntities ≤ 1 := by
  rw [entitySetF1_eq]
  exact ⟨OverlapScore.ofMultisets_nonneg _ _,
    OverlapScore.ofMultisets_le_one _ _⟩

theorem entitySet_eq_empty_iff (entities : List Entity) :
    entitySet python entities = ∅ ↔ entities = [] := by
  rw [entitySet, List.toFinset_eq_empty_iff, List.map_eq_nil_iff]

theorem entitySetF1_eq_one_iff (predEntities refEntities : List Entity) :
    entitySetF1 python predEntities refEntities = 1 ↔
      entitySet python predEntities = entitySet python refEntities ∧
        predEntities ≠ [] := by
  rw [entitySetF1_eq, OverlapScore.ofMultisets_eq_one_iff, Finset.val_inj,
    ne_eq, Finset.val_eq_zero, entitySet_eq_empty_iff]

/-- A reference is scored within the unit interval. -/
theorem referenceQualityScore_mem {task : TaskKind} {input : TaskInput}
    {output : TaskOutput task} {quality : ℚ}
    (scored : referenceQualityScore python input output = some quality) :
    0 ≤ quality ∧ quality ≤ 1 := by
  cases output with
  | generated generatedText =>
      obtain ⟨reference, _, rfl⟩ := Option.map_eq_some_iff.mp scored
      exact wordOverlapF1_mem python _ _
  | entities entities =>
      obtain ⟨reference, _, rfl⟩ := Option.map_eq_some_iff.mp scored
      exact entitySetF1_mem python _ _
  | answer answer start end_ =>
      obtain ⟨reference, _, rfl⟩ := Option.map_eq_some_iff.mp scored
      exact wordOverlapF1_mem python _ _

theorem compareOutputs_mem {task : TaskKind} (input : TaskInput)
    (primary accurate : TaskOutput task) :
    0 ≤ compareOutputs python input primary accurate ∧
      compareOutputs python input primary accurate ≤ 1 := by
  cases primary with
  | generated generatedText =>
      cases accurate
      exact wordOverlapF1_mem python _ _
  | entities entities =>
      cases accurate
      exact entitySetF1_mem python _ _
  | answer answer start end_ =>
      cases accurate
      exact wordOverlapF1_mem python _ _

end Scores

/-! ## Runs -/

variable {python : PythonText} {pipelines : Pipelines}
variable {computeQualityBaseline : Bool} {task : TaskKind} {flavour : String}
variable {input : TaskInput}

/-- What a finished task has run. -/
structure RanTask (python : PythonText) (pipelines : Pipelines)
    (computeQualityBaseline : Bool) (task : TaskKind) (flavour : String)
    (input : TaskInput) (outcome : TaskOutcome task)
    (primary : SingleRun task) (baseline : Option (SingleRun task)) :
    Prop where
  ran : runSingle python pipelines task flavour input = .ok primary
  shadow : ∀ accurate, baseline = some accurate →
    runSingle python pipelines task "accurate" input = .ok accurate
  compared : flavour ≠ "accurate" → computeQualityBaseline = true →
    baseline.isSome = true
  actualErrorPct_eq : outcome.actualErrorPct =
    measuredErrorPct task flavour
      ((referenceQualityScore python input primary.output).or
        (baseline.map fun accurate =>
          compareOutputs python input primary.output accurate.output))
      (baseline.bind SingleRun.confidence) primary.confidence

theorem runTask_inv {outcome : TaskOutcome task}
    (finished : runTask python pipelines computeQualityBaseline task flavour
      input = .ok outcome) :
    ∃ primary baseline,
      RanTask python pipelines computeQualityBaseline task flavour input
        outcome primary baseline := by
  unfold runTask at finished
  cases ran : runSingle python pipelines task flavour input with
  | error message =>
      rw [ran] at finished
      cases finished
  | ok primary =>
      rw [ran] at finished
      by_cases accurate : flavour = "accurate"
      · simp only [if_pos accurate] at finished
        cases finished
        exact ⟨primary, none, ran, nofun, fun other => absurd accurate other,
          rfl⟩
      · simp only [if_neg accurate] at finished
        cases enabled : computeQualityBaseline with
        | false =>
            rw [enabled] at finished
            cases finished
            exact ⟨primary, none, ran, nofun, fun _ => nofun, rfl⟩
        | true =>
            rw [enabled] at finished
            cases shadow : runSingle python pipelines task "accurate" input with
            | error message =>
                rw [shadow] at finished
                cases finished
            | ok accurateRun =>
                rw [shadow] at finished
                cases finished
                exact ⟨primary, some accurateRun, ran,
                  fun _ same => by rw [shadow, Option.some.inj same],
                  fun _ _ => rfl, rfl⟩

/-! ## The error is a percentage -/

/-- The models report confidences in the unit interval. -/
structure Pipelines.Confident (pipelines : Pipelines) : Prop where
  generation : ∀ model prompt generated confidence,
    pipelines.generationConfidence model prompt generated = some confidence →
      0 ≤ confidence ∧ confidence ≤ 1
  recognition : ∀ model text, ∀ entity ∈ pipelines.recognize model text,
    0 ≤ entity.score ∧ entity.score ≤ 1
  answers : ∀ model question context,
    0 ≤ (pipelines.answer model question context).score ∧
      (pipelines.answer model question context).score ≤ 1

/-- The mean of scores lies where they lie. -/
theorem meanScore_mem {entities : List ScoredEntity}
    (within : ∀ entity ∈ entities, 0 ≤ entity.score ∧ entity.score ≤ 1)
    {confidence : ℚ} (mean : meanScore entities = some confidence) :
    0 ≤ confidence ∧ confidence ≤ 1 := by
  unfold meanScore at mean
  split at mean
  · cases mean
  · cases mean
    have lower : 0 ≤ (entities.map ScoredEntity.score).sum := by
      refine List.sum_nonneg fun score member => ?_
      obtain ⟨entity, present, rfl⟩ := List.mem_map.mp member
      exact (within entity present).1
    have upper : (entities.map ScoredEntity.score).sum ≤ entities.length := by
      have bound := List.sum_le_card_nsmul (entities.map ScoredEntity.score) 1
        fun score member => by
          obtain ⟨entity, present, rfl⟩ := List.mem_map.mp member
          exact (within entity present).2
      rwa [List.length_map, nsmul_one] at bound
    exact ⟨div_nonneg lower (Nat.cast_nonneg _),
      div_le_one_of_le₀ upper (Nat.cast_nonneg _)⟩

theorem runSingle_confidence_mem (confident : pipelines.Confident)
    {run : SingleRun task} {confidence : ℚ}
    (ran : runSingle python pipelines task flavour input = .ok run)
    (reported : run.confidence = some confidence) :
    0 ≤ confidence ∧ confidence ≤ 1 := by
  unfold runSingle at ran
  cases resolved : resolveModel python task flavour with
  | error message =>
      rw [resolved] at ran
      cases ran
  | ok model =>
      rw [resolved] at ran
      cases task with
      | textGeneration =>
          cases prompted : required python "prompt" input.prompt with
          | error message =>
              simp [runModel, prompted, bind, Except.bind] at ran
          | ok prompt =>
              simp only [runModel, prompted, bind, Except.bind, pure,
                Except.pure] at ran
              cases ran
              exact confident.generation _ _ _ _ reported
      | ner =>
          cases given : required python "text" input.text with
          | error message => simp [runModel, given, bind, Except.bind] at ran
          | ok text =>
              simp only [runModel, given, bind, Except.bind, pure,
                Except.pure] at ran
              cases ran
              refine meanScore_mem (fun entity member => ?_) reported
              obtain ⟨raw, present, rfl⟩ := List.mem_map.mp member
              exact confident.recognition _ _ raw present
      | questionAnswering =>
          cases asked : required python "question" input.question with
          | error message => simp [runModel, asked, bind, Except.bind] at ran
          | ok question =>
              cases given : required python "context" input.context with
              | error message =>
                  simp [runModel, asked, given, bind, Except.bind] at ran
              | ok context =>
                  simp only [runModel, asked, given, bind, Except.bind, pure,
                    Except.pure] at ran
                  cases ran
                  cases reported
                  exact confident.answers _ _ _

/-- What is missing from a score of the unit interval is a percentage. -/
private theorem percentage_of_quality {quality : ℚ}
    (within : 0 ≤ quality ∧ quality ≤ 1) :
    0 ≤ (1 - quality) * 100 ∧ (1 - quality) * 100 ≤ 100 := by
  constructor <;> linarith [within.1, within.2]

/-- A confidence below the accurate one is lost in part. -/
theorem confidenceLossPct_mem {accurate confidence : Option ℚ}
    (accurateWithin : ∀ value, accurate = some value → 0 ≤ value)
    (confidenceWithin : ∀ value, confidence = some value → 0 ≤ value)
    {error : ℚ} (lost : confidenceLossPct accurate confidence = some error) :
    0 ≤ error ∧ error ≤ 100 := by
  cases accurate with
  | none => cases lost
  | some accurate =>
      cases confidence with
      | none => cases lost
      | some confidence =>
          simp only [confidenceLossPct] at lost
          split at lost
          · cases lost
          · rename_i nonzero
            cases lost
            have accurateNonneg := accurateWithin accurate rfl
            have confidenceNonneg := confidenceWithin confidence rfl
            have share : (accurate - confidence) / accurate ≤ 1 := by
              refine div_le_one_of_le₀ ?_ accurateNonneg
              linarith
            have bounded : max 0 ((accurate - confidence) / accurate) ≤ 1 :=
              max_le zero_le_one share
            have nonneg : 0 ≤ max 0 ((accurate - confidence) / accurate) :=
              le_max_left _ _
            constructor <;> linarith

theorem measuredErrorPct_mem
    {quality accurateConfidence confidence : Option ℚ}
    (qualityWithin : ∀ value, quality = some value → 0 ≤ value ∧ value ≤ 1)
    (accurateWithin : ∀ value, accurateConfidence = some value → 0 ≤ value)
    (confidenceWithin : ∀ value, confidence = some value → 0 ≤ value)
    {error : ℚ}
    (measured : measuredErrorPct task flavour quality accurateConfidence
      confidence = some error) :
    0 ≤ error ∧ error ≤ 100 := by
  unfold measuredErrorPct at measured
  split at measured
  · split at measured
    · cases measured
      norm_num
    · cases measured
      cases quality with
      | none => norm_num
      | some value => exact percentage_of_quality (qualityWithin value rfl)
  · split at measured
    · exact confidenceLossPct_mem accurateWithin confidenceWithin measured
    · obtain ⟨value, known, rfl⟩ := Option.map_eq_some_iff.mp measured
      exact percentage_of_quality (qualityWithin value known)

/-- Both scores are symmetric and within the unit interval, and only equal
sides score one. -/
structure ScoresAgreement (python : PythonText) : Prop where
  words_comm : ∀ predicted reference,
    wordOverlapF1 python predicted reference =
      wordOverlapF1 python reference predicted
  words_mem : ∀ predicted reference,
    0 ≤ wordOverlapF1 python predicted reference ∧
      wordOverlapF1 python predicted reference ≤ 1
  words_eq : ∀ predicted reference,
    wordOverlapF1 python predicted reference = 1 →
      (python.answerTokens predicted : Multiset (List Char)) =
        python.answerTokens reference
  entities_comm : ∀ predEntities refEntities,
    entitySetF1 python predEntities refEntities =
      entitySetF1 python refEntities predEntities
  entities_mem : ∀ predEntities refEntities,
    0 ≤ entitySetF1 python predEntities refEntities ∧
      entitySetF1 python predEntities refEntities ≤ 1
  entities_eq : ∀ predEntities refEntities,
    entitySetF1 python predEntities refEntities = 1 →
      entitySet python predEntities = entitySet python refEntities

/-- The measured error is absent or a percentage. -/
theorem actual_error_is_percentage
    (python : PythonText) (pipelines : Pipelines)
    (confident : pipelines.Confident) :
    ScoresAgreement python ∧
      ∀ (computeQualityBaseline : Bool) (task : TaskKind) (flavour : String)
        (input : TaskInput) (outcome : TaskOutcome task) (error : ℚ),
        runTask python pipelines computeQualityBaseline task flavour input =
            .ok outcome →
          outcome.actualErrorPct = some error → 0 ≤ error ∧ error ≤ 100 := by
  refine ⟨⟨wordOverlapF1_comm python, wordOverlapF1_mem python,
    fun predicted reference same => ?_, entitySetF1_comm python,
    entitySetF1_mem python, fun predEntities refEntities same => ?_⟩, ?_⟩
  · exact Multiset.coe_eq_coe.mpr
      ((wordOverlapF1_eq_one_iff python predicted reference).mp same).1
  · exact ((entitySetF1_eq_one_iff python predEntities refEntities).mp same).1
  · intro computeQualityBaseline task flavour input outcome error finished
      measured
    obtain ⟨primary, baseline, ran⟩ := runTask_inv finished
    rw [ran.actualErrorPct_eq] at measured
    refine measuredErrorPct_mem (fun quality known => ?_)
      (fun value known => ?_) (fun value known => ?_) measured
    · rcases Option.or_eq_some_iff.mp known with scored | ⟨_, compared⟩
      · exact referenceQualityScore_mem python scored
      · obtain ⟨accurate, _, rfl⟩ := Option.map_eq_some_iff.mp compared
        exact compareOutputs_mem python input _ _
    · obtain ⟨accurate, shadowed, reported⟩ := Option.bind_eq_some_iff.mp known
      exact (runSingle_confidence_mem confident (ran.shadow accurate shadowed)
        reported).1
    · exact (runSingle_confidence_mem confident ran.ran known).1

/-- The character tables on ASCII text. -/
def asciiPython : PythonText where
  lower text := String.ofList (text.toList.map Char.toLower)
  isWord character := character.isAlphanum || character == '_'
  isSpace character :=
    let code := character.toNat
    (9 ≤ code && code ≤ 13) || (28 ≤ code && code ≤ 32)
  repr text := "'" ++ text ++ "'"

/-- Models that find nothing; the larger generator is twice as confident. -/
def quietPipelines : Pipelines where
  generate _ prompt _ := prompt ++ " again"
  generationConfidence model _ _ :=
    if model = "gpt2-medium" then some (4 / 5) else some (2 / 5)
  recognize _ _ := []
  answer _ _ _ := ⟨"", 1, some 0, some 0⟩
  executionTimeSec _ := 1

/-- The input of a generation. -/
def promptInput (prompt : String) : TaskInput where
  prompt := some prompt
  maxNewTokens := some 5
  text := none
  question := none
  context := none
  reference := none
  referenceAnswer := none
  referenceEntities := none

theorem quietPipelines_confident : quietPipelines.Confident := by
  refine ⟨fun model prompt generated confidence reported => ?_, nofun,
    fun _ _ _ => ⟨zero_le_one, le_rfl⟩⟩
  simp only [quietPipelines] at reported
  split at reported <;> cases reported <;> norm_num

/-- Half of the confidence is an error of fifty percent. -/
theorem half_confidence_is_percentage :
    ∃ outcome,
      runTask asciiPython quietPipelines true .textGeneration "fast"
          (promptInput "hi") = .ok outcome ∧
        outcome.actualErrorPct = some 50 ∧ (0 : ℚ) ≤ 50 ∧ (50 : ℚ) ≤ 100 := by
  refine ⟨_, rfl, by decide +kernel, ?_⟩
  exact (actual_error_is_percentage asciiPython quietPipelines
    quietPipelines_confident).2 true .textGeneration "fast" (promptInput "hi")
      _ 50 rfl (by decide +kernel)

/-! ## An output against itself -/

/-- The output has something to compare: words, or entities. -/
def Scorable (python : PythonText) (input : TaskInput) :
    TaskOutput task → Prop
  | .generated generatedText =>
      python.answerTokens (continuation input generatedText) ≠ []
  | .entities entities => entities ≠ []
  | .answer answer _ _ => python.answerTokens answer ≠ []

theorem compareOutputs_self_iff (output : TaskOutput task) :
    compareOutputs python input output output = 1 ↔
      Scorable python input output := by
  cases output with
  | generated generatedText =>
      rw [compareOutputs, wordOverlapF1_eq_one_iff, Scorable]
      exact and_iff_right (List.Perm.refl _)
  | entities entities =>
      rw [compareOutputs, entitySetF1_eq_one_iff, Scorable, ne_eq, ne_eq,
        List.map_eq_nil_iff]
      exact and_iff_right rfl
  | answer answer start end_ =>
      rw [compareOutputs, wordOverlapF1_eq_one_iff, Scorable]
      exact and_iff_right (List.Perm.refl _)

/-- An output without words or entities scores zero against every other. -/
theorem compareOutputs_of_not_scorable {primary : TaskOutput task}
    (empty : ¬ Scorable python input primary) (accurate : TaskOutput task) :
    compareOutputs python input primary accurate = 0 := by
  cases primary with
  | generated generatedText =>
      cases accurate
      rw [compareOutputs, wordOverlapF1_eq, not_not.mp empty, Multiset.coe_nil,
        OverlapScore.ofMultisets_zero_left]
  | entities entities =>
      cases accurate
      rw [compareOutputs, entitySetF1_eq, not_not.mp empty]
      exact OverlapScore.ofMultisets_zero_left _
  | answer answer start end_ =>
      cases accurate
      rw [compareOutputs, wordOverlapF1_eq, not_not.mp empty, Multiset.coe_nil,
        OverlapScore.ofMultisets_zero_left]

/-- The caller gives no reference for the task. -/
def TaskInput.LacksReference (input : TaskInput) : TaskKind → Prop
  | .textGeneration => nonempty String.isEmpty input.reference = none
  | .ner => nonempty List.isEmpty input.referenceEntities = none
  | .questionAnswering => nonempty String.isEmpty input.referenceAnswer = none

theorem referenceQualityScore_eq_none (lacks : input.LacksReference task)
    (output : TaskOutput task) :
    referenceQualityScore python input output = none := by
  cases output with
  | generated generatedText => exact Option.map_eq_none_iff.mpr lacks
  | entities entities => exact Option.map_eq_none_iff.mpr lacks
  | answer answer start end_ => exact Option.map_eq_none_iff.mpr lacks

/-- A flavour reproduces the output of the accurate one, without a reference. -/
structure Reproduces (python : PythonText) (pipelines : Pipelines)
    (flavour : String) (input : TaskInput) (output : TaskOutput task) :
    Prop where
  lacks : input.LacksReference task
  own : ∃ primary, runSingle python pipelines task flavour input =
    .ok primary ∧ primary.output = output
  accurate : ∃ accurate, runSingle python pipelines task "accurate" input =
    .ok accurate ∧ accurate.output = output

theorem error_of_reproduces {output : TaskOutput task}
    (reproduces : Reproduces python pipelines flavour input output)
    (other : flavour ≠ "accurate") (compared : task ≠ .textGeneration) :
    ∃ outcome,
      runTask python pipelines true task flavour input = .ok outcome ∧
        outcome.actualErrorPct =
          some ((1 - compareOutputs python input output output) * 100) := by
  obtain ⟨primary, ran, rfl⟩ := reproduces.own
  obtain ⟨accurate, shadow, same⟩ := reproduces.accurate
  have unscored : referenceQualityScore python input primary.output = none :=
    referenceQualityScore_eq_none reproduces.lacks primary.output
  have finished : ∃ outcome,
      runTask python pipelines true task flavour input = .ok outcome ∧
        outcome.actualErrorPct =
          measuredErrorPct task flavour
            (some (compareOutputs python input primary.output accurate.output))
            accurate.confidence primary.confidence := by
    unfold runTask
    rw [ran, shadow]
    simp only [if_neg other, bind, Except.bind, pure, Except.pure, if_true,
      Functor.map, Except.map, unscored, Option.map_some, Option.none_or,
      Option.bind_some]
    exact ⟨_, rfl, rfl⟩
  obtain ⟨outcome, ok, error⟩ := finished
  refine ⟨outcome, ok, ?_⟩
  rw [error, same, measuredErrorPct, if_neg other, if_neg compared]
  rfl

/-- The accurate flavour without a reference is free of error. -/
theorem error_of_accurate {output : TaskOutput task}
    (reproduces : Reproduces python pipelines "accurate" input output)
    (compared : task ≠ .textGeneration) :
    ∃ outcome,
      runTask python pipelines true task "accurate" input = .ok outcome ∧
        outcome.actualErrorPct = some 0 := by
  obtain ⟨primary, ran, rfl⟩ := reproduces.own
  have unscored : referenceQualityScore python input primary.output = none :=
    referenceQualityScore_eq_none reproduces.lacks primary.output
  have finished : ∃ outcome,
      runTask python pipelines true task "accurate" input = .ok outcome ∧
        outcome.actualErrorPct =
          measuredErrorPct task "accurate" none none primary.confidence := by
    unfold runTask
    rw [ran]
    simp only [if_true, bind, Except.bind, pure, Except.pure, unscored,
      Option.map_none, Option.none_or, Option.bind_none]
    exact ⟨_, rfl, rfl⟩
  obtain ⟨outcome, ok, error⟩ := finished
  refine ⟨outcome, ok, ?_⟩
  rw [error, measuredErrorPct, if_pos rfl, if_neg compared, Option.getD_none]
  norm_num

/-- An output agrees with itself, and whoever reproduces it from the accurate
flavour is reported free of error. -/
structure ScoresPerfectly (python : PythonText) (input : TaskInput)
    (output : TaskOutput task) : Prop where
  agrees : compareOutputs python input output output = 1
  reported : task ≠ .textGeneration → ∀ pipelines flavour,
    Reproduces python pipelines flavour input output →
      ∃ outcome,
        runTask python pipelines true task flavour input = .ok outcome ∧
          outcome.actualErrorPct = some 0

/-- Just the outputs with words or entities score as perfect. -/
theorem identical_outputs_score_perfectly_iff
    (python : PythonText) (task : TaskKind) (input : TaskInput)
    (output : TaskOutput task) :
    ScoresPerfectly python input output ↔ Scorable python input output := by
  constructor
  · exact fun perfect => compareOutputs_self_iff output |>.mp perfect.agrees
  · intro scorable
    have agrees := (compareOutputs_self_iff output).mpr scorable
    refine ⟨agrees, fun compared pipelines flavour reproduces => ?_⟩
    by_cases accurate : flavour = "accurate"
    · subst accurate
      exact error_of_accurate reproduces compared
    · obtain ⟨outcome, ok, error⟩ :=
        error_of_reproduces reproduces accurate compared
      refine ⟨outcome, ok, ?_⟩
      rw [error, agrees]
      norm_num

/-- Without words or entities, reproducing the accurate output is reported as
wrong altogether. -/
theorem error_of_not_scorable {output : TaskOutput task}
    (reproduces : Reproduces python pipelines flavour input output)
    (other : flavour ≠ "accurate") (compared : task ≠ .textGeneration)
    (empty : ¬ Scorable python input output) :
    ∃ outcome,
      runTask python pipelines true task flavour input = .ok outcome ∧
        outcome.actualErrorPct = some 100 := by
  obtain ⟨outcome, ok, error⟩ := error_of_reproduces reproduces other compared
  refine ⟨outcome, ok, ?_⟩
  rw [error, compareOutputs_of_not_scorable empty]
  norm_num

/-- The input of a recognition. -/
def textInput (text : String) : TaskInput :=
  { promptInput "" with
    prompt := none
    maxNewTokens := none
    text := some text }

/-- Two models that both find no entity disagree altogether. -/
theorem no_entities_disagree :
    ¬ ScoresPerfectly asciiPython (textInput "It rains.")
        (TaskOutput.entities []) ∧
      ∃ outcome,
        runTask asciiPython quietPipelines true .ner "fast"
            (textInput "It rains.") = .ok outcome ∧
          outcome.actualErrorPct = some 100 := by
  have empty : ¬ Scorable asciiPython (textInput "It rains.")
      (TaskOutput.entities []) := fun scorable => scorable rfl
  refine ⟨fun perfect => empty ?_, ?_⟩
  · exact (compareOutputs_self_iff _).mp perfect.agrees
  · have reproduces : Reproduces asciiPython quietPipelines "fast"
        (textInput "It rains.") (TaskOutput.entities []) :=
      ⟨rfl, ⟨_, rfl, rfl⟩, ⟨_, rfl, rfl⟩⟩
    exact error_of_not_scorable reproduces (by decide) (by decide) empty

end Executor

end Carbonshift
