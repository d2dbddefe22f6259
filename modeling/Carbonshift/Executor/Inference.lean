import Carbonshift.Executor.AnswerScore

/-!
# Running a task

The executor runs the model of a task and flavour, and measures its error: by
a reference of the caller, or else by a second run of the accurate flavour on
the same input.
-/

namespace Carbonshift

namespace Executor

/-! ## Tasks and models -/

/-- The supported tasks. -/
inductive TaskKind where
  | textGeneration
  | ner
  | questionAnswering
  deriving DecidableEq, Repr

def TaskKind.name : TaskKind → String
  | .textGeneration => "text_generation"
  | .ner => "ner"
  | .questionAnswering => "question_answering"

/-- Pipeline and model of a task and flavour. -/
def modelRegistry : TaskKind → String → Option (String × String)
  | .textGeneration, "fast" => some ("text-generation", "distilgpt2")
  | .textGeneration, "balanced" => some ("text-generation", "gpt2")
  | .textGeneration, "accurate" => some ("text-generation", "gpt2-medium")
  | .ner, "fast" => some ("ner", "dslim/distilbert-NER")
  | .ner, "balanced" => some ("ner", "dslim/bert-base-NER")
  | .ner, "accurate" => some ("ner", "dslim/bert-large-NER")
  | .questionAnswering, "fast" =>
      some ("question-answering", "distilbert-base-cased-distilled-squad")
  | .questionAnswering, "balanced" =>
      some ("question-answering", "deepset/roberta-base-squad2")
  | .questionAnswering, "accurate" =>
      some ("question-answering",
        "deepset/bert-large-uncased-whole-word-masking-squad2")
  | _, _ => none

def resolveModel (python : PythonText) (task : TaskKind) (flavour : String) :
    Except String (String × String) :=
  match modelRegistry task flavour with
  | some model => .ok model
  | none =>
      .error ("unknown task/flavour combination: " ++ python.repr task.name ++
        "/" ++ python.repr flavour)

/-- The input of a task. -/
structure TaskInput where
  prompt : Option String
  maxNewTokens : Option ℤ
  text : Option String
  question : Option String
  context : Option String
  reference : Option String
  referenceAnswer : Option String
  referenceEntities : Option (List Entity)

/-- A required key of the input. -/
def required {β : Type} (python : PythonText) (key : String)
    (value : Option β) : Except String β :=
  match value with
  | some value => .ok value
  | none => .error (python.repr key)

/-- An entity as the model reports it. -/
structure RawEntity where
  word : String
  /-- The merged label, if the key is there. -/
  entityGroup : Option (Option String)
  entity : Option String
  score : ℚ
  start : Option ℤ
  end_ : Option ℤ

/-- An entity of the output. -/
structure ScoredEntity extends Entity where
  score : ℚ
  start : Option ℤ
  end_ : Option ℤ

def RawEntity.scored (raw : RawEntity) : ScoredEntity where
  text := raw.word
  label := raw.entityGroup.getD raw.entity
  score := raw.score
  start := raw.start
  end_ := raw.end_

/-- A span of the context. -/
structure AnswerSpan where
  answer : String
  score : ℚ
  start : Option ℤ
  end_ : Option ℤ

/-- The loaded models, by their names. -/
structure Pipelines where
  generate : String → String → ℤ → String
  /-- Mean probability of the generated tokens, if it can be computed. -/
  generationConfidence : String → String → String → Option ℚ
  recognize : String → String → List RawEntity
  answer : String → String → String → AnswerSpan
  /-- Seconds that the run takes. -/
  executionTimeSec : String → ℚ

/-- The output of a task. -/
inductive TaskOutput : TaskKind → Type where
  | generated (generatedText : String) : TaskOutput .textGeneration
  | entities (entities : List ScoredEntity) : TaskOutput .ner
  | answer (answer : String) (start end_ : Option ℤ) :
      TaskOutput .questionAnswering

/-- One run of a model. -/
structure SingleRun (task : TaskKind) where
  output : TaskOutput task
  model : String
  confidence : Option ℚ
  executionTimeSec : ℚ

/-- Mean of the scores. -/
def meanScore (entities : List ScoredEntity) : Option ℚ :=
  if entities.isEmpty then
    none
  else
    some ((entities.map ScoredEntity.score).sum / entities.length)

/-- Run a model on the input of its task. -/
def runModel (python : PythonText) (pipelines : Pipelines) (model : String)
    (input : TaskInput) : (task : TaskKind) → Except String (SingleRun task)
  | .textGeneration => do
      let prompt ← required python "prompt" input.prompt
      let generated :=
        pipelines.generate model prompt (input.maxNewTokens.getD 50)
      return {
        output := .generated generated
        model := model
        confidence := pipelines.generationConfidence model prompt generated
        executionTimeSec := pipelines.executionTimeSec model }
  | .ner => do
      let text ← required python "text" input.text
      let entities := (pipelines.recognize model text).map RawEntity.scored
      return {
        output := .entities entities
        model := model
        confidence := meanScore entities
        executionTimeSec := pipelines.executionTimeSec model }
  | .questionAnswering => do
      let question ← required python "question" input.question
      let context ← required python "context" input.context
      let span := pipelines.answer model question context
      return {
        output := .answer span.answer span.start span.end_
        model := model
        confidence := some span.score
        executionTimeSec := pipelines.executionTimeSec model }

/-- Run the model of a task and flavour once. -/
def runSingle (python : PythonText) (pipelines : Pipelines) (task : TaskKind)
    (flavour : String) (input : TaskInput) :
    Except String (SingleRun task) := do
  let (_, model) ← resolveModel python task flavour
  runModel python pipelines model input task

/-! ## Scores -/

/-- The generated text after the prompt. -/
def continuation (input : TaskInput) (generatedText : String) : String :=
  String.ofList (generatedText.toList.drop (input.prompt.getD "").length)

/-- A reference that is not empty. -/
def nonempty {β : Type} (isEmpty : β → Bool) (reference : Option β) :
    Option β :=
  reference.filter fun value => !isEmpty value

/-- The score against a reference of the caller, if there is one. -/
def referenceQualityScore (python : PythonText) {task : TaskKind}
    (input : TaskInput) : TaskOutput task → Option ℚ
  | .generated generatedText =>
      (nonempty String.isEmpty input.reference).map
        (wordOverlapF1 python (continuation input generatedText))
  | .entities entities =>
      (nonempty List.isEmpty input.referenceEntities).map
        (entitySetF1 python (entities.map ScoredEntity.toEntity))
  | .answer answer _ _ =>
      (nonempty String.isEmpty input.referenceAnswer).map
        (wordOverlapF1 python answer)

/-- The score of an output against that of the accurate flavour. -/
def compareOutputs (python : PythonText) {task : TaskKind} (input : TaskInput) :
    TaskOutput task → TaskOutput task → ℚ
  | .generated primary, .generated accurate =>
      wordOverlapF1 python (continuation input primary)
        (continuation input accurate)
  | .entities primary, .entities accurate =>
      entitySetF1 python (primary.map ScoredEntity.toEntity)
        (accurate.map ScoredEntity.toEntity)
  | .answer primary _ _, .answer accurate _ _ =>
      wordOverlapF1 python primary accurate

/-- What is reported of a task. -/
structure TaskOutcome (task : TaskKind) where
  output : TaskOutput task
  model : String
  confidence : Option ℚ
  qualityScore : Option ℚ
  actualErrorPct : Option ℚ
  executionTimeSec : ℚ
  baselineExecutionTimeSec : Option ℚ
  baselineModel : Option String

/-- Relative loss of confidence against the accurate flavour, in percent. -/
def confidenceLossPct (accurate confidence : Option ℚ) : Option ℚ :=
  match accurate, confidence with
  | some accurate, some confidence =>
      if accurate = 0 then
        none
      else
        some (max 0 ((accurate - confidence) / accurate) * 100)
  | _, _ => none

/-- The measured error, in percent. -/
def measuredErrorPct (task : TaskKind) (flavour : String)
    (quality accurateConfidence confidence : Option ℚ) : Option ℚ :=
  if flavour = "accurate" then
    if task = .textGeneration then
      some 0
    else
      some ((1 - quality.getD 1) * 100)
  else if task = .textGeneration then
    confidenceLossPct accurateConfidence confidence
  else
    quality.map fun quality => (1 - quality) * 100

/-- Run a task and measure its error. -/
def runTask (python : PythonText) (pipelines : Pipelines)
    (computeQualityBaseline : Bool) (task : TaskKind) (flavour : String)
    (input : TaskInput) : Except String (TaskOutcome task) := do
  let primary ← runSingle python pipelines task flavour input
  let reference := referenceQualityScore python input primary.output
  let baseline : Option (SingleRun task) ←
    if flavour = "accurate" then
      pure none
    else if computeQualityBaseline then
      some <$> runSingle python pipelines task "accurate" input
    else
      pure none
  let quality :=
    reference.or (baseline.map fun accurate =>
      compareOutputs python input primary.output accurate.output)
  let isAccurate := flavour = "accurate"
  return {
    output := primary.output
    model := primary.model
    confidence := primary.confidence
    qualityScore := if isAccurate then some (quality.getD 1) else quality
    actualErrorPct :=
      measuredErrorPct task flavour quality (baseline.bind SingleRun.confidence)
        primary.confidence
    executionTimeSec := primary.executionTimeSec
    baselineExecutionTimeSec :=
      if isAccurate then some primary.executionTimeSec
      else baseline.map SingleRun.executionTimeSec
    baselineModel :=
      if isAccurate then some primary.model
      else baseline.map SingleRun.model }

end Executor

end Carbonshift
