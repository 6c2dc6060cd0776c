import Rollup.Wire.Basic

/-!
# Jobs on the wire

How entries, rows, updates and composites are written and read.
-/

namespace Rollup

def Entry.toJson (entry : Entry) : Json :=
  .ofMembers
    [ ("status", Wire.ofStatus entry.status),
      ("allow_failure", .bool entry.allowFailure) ]

def Entry.ofJson? (json : Json) : Option Entry := do
  match ← Wire.slots? ["status", "allow_failure"] json with
  | [status, allowFailure] =>
      some ⟨← status.required (Wire.status? .direct), ← allowFailure.required Wire.bool?⟩
  | _ => none

def Update.toJson (update : Update) : Json :=
  .ofMembers
    [ ("status", Wire.ofStatus update.status),
      ("token", Wire.ofWord update.token.val) ]

def Update.ofJson? (json : Json) : Option Update := do
  match ← Wire.slots? ["status", "token"] json with
  | [status, token] =>
      some ⟨← status.required (Wire.status? .direct), ⟨← token.required Wire.word?⟩⟩
  | _ => none

def Composite.toJson (composite : Composite) : Json :=
  .ofMembers
    [ ("status", Wire.ofStatus composite.status),
      ("warnings", .bool composite.warnings) ]

def Composite.ofJson? (json : Json) : Option Composite := do
  match ← Wire.slots? ["status", "warnings"] json with
  | [status, warnings] =>
      some ⟨← status.required (Wire.status? .direct), ← warnings.required Wire.bool?⟩
  | _ => none

namespace Row

def fieldNames : List String :=
  ["id", "name", "status", "allow_failure", "stage_position", "processed", "change_token"]

def toJson (row : Row) : Json :=
  .ofMembers
    [ ("id", Wire.ofWord row.id.val),
      ("name", .ofString row.name),
      ("status", Wire.ofStatus row.status),
      ("allow_failure", .bool row.allowFailure),
      ("stage_position", Wire.ofPosition row.position),
      ("processed", .bool row.processed),
      ("change_token", Wire.ofWord row.token.val) ]

/-- Read a row from its fields. A row may fail only if that is said, and is
unprocessed with token zero if nothing else is said. -/
def ofSlots? (reading : Wire.Reading) : List Wire.Slot → Option Row
  | [id, name, status, allowFailure, position, processed, token] => do
      some
        { id := ⟨← id.required Wire.word?⟩
          name := ← name.required Wire.text?
          status := ← status.required (Wire.status? reading)
          allowFailure := ← allowFailure.withDefault false Wire.bool?
          position := ← position.required Wire.position?
          processed := ← processed.withDefault false Wire.bool?
          token := ⟨← token.withDefault 0 Wire.word?⟩ }
  | _ => none

def ofJson? (json : Json) : Option Row :=
  (Wire.slots? fieldNames json).bind (ofSlots? .direct)

end Row

/-! ## Recorded jobs -/

/-- A job of an export: a row, or an attempt that a later one replaced. -/
structure RecordedJob where
  row : Row
  retried : Bool
  deriving DecidableEq, Repr

/-- The levels of containers around the fields of a recorded job: the document,
its pipelines, the jobs of one of them, and the job. -/
def RecordedJob.level : Nat :=
  4

/-- Read a recorded job. Its fields stand beside those of other kinds of records
and are taken in before they are looked at, so all of them have to be readable. -/
def RecordedJob.ofJson? : Json → Option RecordedJob
  | .object members => do
      if Json.membersReadable (Wire.depthLimit - RecordedJob.level) members then
        let retried ← (← Wire.slotNamed? members "retried").withDefault false Wire.bool?
        let row ← (Wire.memberSlots? Row.fieldNames members).bind (Row.ofSlots? .buffered)
        some ⟨row, retried⟩
      else
        none
  | _ => none

/-- The recorded jobs of several pipelines, in the order of the document. -/
abbrev Export := List (PipelineId × List RecordedJob)

namespace Export

/-- Read the pipelines of an export. Their keys are decimal numerals. -/
def pipelines? : Json → Option Export
  | .object members =>
      members.mapM fun (key, jobs) => do
        let id ← Wire.numeral? (Nat.pow 2 64) key
        let jobs ← Wire.list? RecordedJob.ofJson? jobs
        some (⟨id.toUInt64⟩, jobs)
  | _ => none

def ofJson? (json : Json) : Option Export := do
  match ← Wire.slots? ["pipelines"] json with
  | [pipelines] => pipelines.required pipelines?
  | _ => none

/-- The jobs of a pipeline: those that stand last under its id, or none. -/
def jobsOf (document : Export) (pipeline : PipelineId) : List RecordedJob :=
  ((document.reverse.find? fun entry => entry.1 = pipeline).map Prod.snd).getD []

/-- The rows of a pipeline that no later attempt replaced, in stage order. -/
def rowsOf (document : Export) (pipeline : PipelineId) : List Row :=
  sortByPosition
    (((document.jobsOf pipeline).filter fun job => !job.retried).map RecordedJob.row)

end Export

end Rollup
