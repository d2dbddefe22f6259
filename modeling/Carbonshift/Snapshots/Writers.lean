import Carbonshift.Snapshots.Documents

/-!
# Writing snapshots

A writer fills two temporary files and then renames them, the summary before
the snapshot.  Any step may fail, and a writer may be killed at any time.
Writers run at the same time, in threads or processes of their own.
-/

namespace Carbonshift

namespace Snapshots

/-! ## What is written -/

/-- White space at the ends of a label. -/
def isSpace (letter : Char) : Bool :=
  isTrimmed letter || (28 ≤ letter.toNat && letter.toNat ≤ 31)

/-- Remove letters from both ends. -/
def strip (drops : Char → Bool) (letters : List Char) : List Char :=
  ((letters.dropWhile drops).reverse.dropWhile drops).reverse

def stripLabel (label : String) : String :=
  String.ofList (strip isSpace label.toList)

/-- Put one dash for every run of letters that a name should not have. -/
def dashRuns (inRun : Bool) : List Char → List Char
  | [] => []
  | letter :: rest =>
      if letter.isAlphanum || letter == '_' || letter == '-' then
        letter :: dashRuns false rest
      else if inRun then
        dashRuns true rest
      else
        '-' :: dashRuns true rest

def filenameLabel (label : Option String) : String :=
  match label with
  | none => "snapshot"
  | some text =>
      if (stripLabel text).isEmpty then
        "snapshot"
      else
        let name := String.ofList
          ((strip (fun letter => letter == '-' || letter == '_')
            (dashRuns false (stripLabel text).toList)).take 48)
        if name.isEmpty then "snapshot" else name

structure WriteRequest where
  views : Json
  clients : Json
  label : Option String
  source : String
  sourceSnapshotId : Option String

/-- What the clock and the generator of identifiers give to a writer. -/
structure Capture where
  date : String
  time : String
  capturedAt : String
  snapshotId : String

def checkRequest (request : WriteRequest) : Except String Unit :=
  (validateViews (some request.views)).bind fun _ =>
  (require
    (match request.clients with
      | .array clients => clients.all isObject
      | _ => false)
    "snapshot client summaries must be a list of JSON objects").bind fun _ =>
  require (request.sourceSnapshotId.all isSnapshotId)
    "source_snapshot_id must be a 32-character lowercase hexadecimal ID"

/-- A pair of files that is to be written. -/
structure Plan where
  request : WriteRequest
  capture : Capture
  accepted : checkRequest request = .ok ()

namespace Plan

variable (plan : Plan)

def snapshotId : String := plan.capture.snapshotId

def stem : String :=
  plan.capture.time ++ "_" ++ filenameLabel plan.request.label

def snapshotPath : Path where
  directory := plan.capture.date
  name := plan.stem ++ ("_" ++ plan.snapshotId ++ snapshotSuffix)

def summaryPath : Path where
  directory := plan.capture.date
  name := plan.stem ++ ("_" ++ plan.snapshotId ++ summarySuffix)

/-- The label without white space at its ends, if anything is left. -/
def label : Option String :=
  (plan.request.label.map stripLabel).filter fun text => !text.isEmpty

def snapshotDocument : Json :=
  .object
    ([("format_version", .number 1),
      ("snapshot_id", .string plan.snapshotId),
      ("captured_at_utc", .string plan.capture.capturedAt),
      ("label", plan.label.elim .null .string),
      ("source", .string plan.request.source),
      ("views", plan.request.views)] ++
    (plan.request.sourceSnapshotId.elim [] fun sourceId =>
      [("source_snapshot_id", .string sourceId)]))

def summaryDocument : Json :=
  .object
    [("format_version", .number 1),
      ("snapshot_id", .string plan.snapshotId),
      ("captured_at_utc", .string plan.capture.capturedAt),
      ("source", .string plan.request.source),
      ("clients", plan.request.clients)]

/-- The line that the snapshot will have in the list. -/
def record : SnapshotRecord where
  snapshotId := .string plan.snapshotId
  capturedAt := .string plan.capture.capturedAt
  label := .string (plan.label.getD "")
  source := .string plan.request.source
  clientsCount :=
    match plan.request.clients with
    | .array clients => clients.length
    | _ => 0
  snapshotFilename := plan.snapshotPath.name
  summaryFilename := plan.summaryPath.name

end Plan

/-! ## Steps of a writer -/

/-- How far a writer is, with its temporary files. -/
inductive WriterPhase where
  | prepared
  | openSummary (temporary : Path)
  | wroteSummary (temporary : Path)
  | openSnapshot (summary temporary : Path)
  | wroteBoth (summary snapshot : Path)
  | publishedSummary (snapshot : Path)
  | published
  /-- A file could not be completed; the files before it are cleaned after. -/
  | discarding (temporary : Path) (others : List Path)
  | cleaning (temporaries : List Path)
  | failed

def WriterPhase.temporaries : WriterPhase → List Path
  | .openSummary temporary => [temporary]
  | .wroteSummary temporary => [temporary]
  | .openSnapshot summary temporary => [summary, temporary]
  | .wroteBoth summary snapshot => [summary, snapshot]
  | .publishedSummary snapshot => [snapshot]
  | .discarding temporary others => temporary :: others
  | .cleaning temporaries => temporaries
  | _ => []

/-- What the environment decides at a step of a writer. -/
inductive WriterChoice where
  | proceed
  /-- Random part of the name of a temporary file. -/
  | create (random : String)
  /-- A part of the text is in the file. -/
  | tear (text : String)
  | fail

def temporarySuffix : String := ".tmp"

def temporaryPath (target : Path) (random : String) : Path :=
  { target with
    name := "." ++ target.name ++ "." ++ random ++ temporarySuffix }

/-- Create a temporary file under a name that is not in use. -/
def createTemporary (files : Files) (target : Path)
    (opened : Path → WriterPhase) (aborted : WriterPhase) :
    WriterChoice → Option (WriterPhase × Files)
  | .create random =>
      let temporary := temporaryPath target random
      if temporary ∈ files then
        none
      else
        some (opened temporary, files.insert temporary "")
  | .fail => some (aborted, files)
  | _ => none

/-- Write the document into the temporary file, in any number of parts. -/
def fillTemporary (json : JsonLibrary) (files : Files) (document : Json)
    (temporary : Path) (filling filled aborted : WriterPhase) :
    WriterChoice → Option (WriterPhase × Files)
  | .tear text => some (filling, files.insert temporary text)
  | .proceed =>
      match json.dumps document with
      | .ok text => some (filled, files.insert temporary (text ++ "\n"))
      | .error _ => some (aborted, files)
  | .fail => some (aborted, files)
  | .create _ => none

/-- Rename a temporary file onto its target in one step. -/
def replaceFile (files : Files) (temporary target : Path)
    (replaced aborted : WriterPhase) :
    WriterChoice → Option (WriterPhase × Files)
  | .proceed =>
      match files.lookup temporary with
      | some text =>
          some (replaced, (files.erase temporary).insert target text)
      | none => some (aborted, files)
  | .fail => some (aborted, files)
  | _ => none

/-- Remove a temporary file, or give up. -/
def unlink (files : Files) (temporary : Path)
    (removed aborted : WriterPhase) :
    WriterChoice → Option (WriterPhase × Files)
  | .proceed => some (removed, files.erase temporary)
  | .fail => some (aborted, files)
  | _ => none

/-- The next step of a writer, on the files that it finds. -/
def writerStep (json : JsonLibrary) (plan : Plan) (files : Files) :
    WriterPhase → WriterChoice → Option (WriterPhase × Files)
  | .prepared =>
      createTemporary files plan.summaryPath .openSummary (.cleaning [])
  | .openSummary temporary =>
      fillTemporary json files plan.summaryDocument temporary
        (.openSummary temporary) (.wroteSummary temporary)
        (.discarding temporary [])
  | .wroteSummary temporary =>
      createTemporary files plan.snapshotPath (.openSnapshot temporary)
        (.cleaning [temporary])
  | .openSnapshot summary temporary =>
      fillTemporary json files plan.snapshotDocument temporary
        (.openSnapshot summary temporary) (.wroteBoth summary temporary)
        (.discarding temporary [summary])
  | .wroteBoth summary snapshot =>
      replaceFile files summary plan.summaryPath (.publishedSummary snapshot)
        (.cleaning [summary, snapshot])
  | .publishedSummary snapshot =>
      replaceFile files snapshot plan.snapshotPath .published
        (.cleaning [snapshot])
  | .discarding temporary others =>
      unlink files temporary (.cleaning others) (.cleaning others)
  | .cleaning (temporary :: others) =>
      unlink files temporary (.cleaning others) .failed
  | .cleaning [] => fun _ => some (.failed, files)
  | .published => fun _ => none
  | .failed => fun _ => none

/-! ## The snapshot directory -/

structure Writer where
  plan : Plan
  phase : WriterPhase

structure Directory where
  files : Files
  writers : Dictionary ℕ Writer
  started : ℕ

def Directory.empty : Directory := ⟨∅, ∅, 0⟩

inductive Action where
  | write (request : WriteRequest) (capture : Capture)
  | step (writerId : ℕ) (choice : WriterChoice)
  /-- The writer is killed; what it has written stays. -/
  | crash (writerId : ℕ)

namespace Directory

/-- A step of the directory: a call is made, goes on, or is killed. -/
def step (json : JsonLibrary) (directory : Directory) :
    Action → Option Directory
  | .write request capture =>
      match accepted : checkRequest request with
      | .ok () =>
          some
            { directory with
              writers := directory.writers.insert directory.started
                ⟨⟨request, capture, accepted⟩, .prepared⟩
              started := directory.started + 1 }
      | .error _ => some directory
  | .step writerId choice =>
      (directory.writers.lookup writerId).bind fun writer =>
      (writerStep json writer.plan directory.files writer.phase choice).map
        fun next =>
          { directory with
            files := next.2
            writers := directory.writers.insert writerId
              { writer with phase := next.1 } }
  | .crash writerId =>
      some
        { directory with writers := directory.writers.erase writerId }

/-- The pair that a step makes visible. -/
def publishes (directory : Directory) : Action → Option Plan
  | .step writerId .proceed =>
      (directory.writers.lookup writerId).bind fun writer =>
        match writer.phase with
        | .publishedSummary snapshot =>
            if snapshot ∈ directory.files then some writer.plan else none
        | _ => none
  | _ => none

/-- The pairs published so far. -/
def recordPublished (directory : Directory) (action : Action)
    (published : List Plan) : List Plan :=
  published ++ (directory.publishes action).toList

end Directory

/-- The identifier that a call draws. -/
def Action.drawn : Action → Option String
  | .write _ capture => some capture.snapshotId
  | _ => none

end Snapshots

end Carbonshift
