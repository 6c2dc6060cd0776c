import Rollup.Json.Reader
import Rollup.Text.Described
import Rollup.Wire.Job

/-!
# Row sources

A source answers fetches of the rows of a pipeline. Its answers may differ from
one fetch to the next, so a source is a function of the number of the fetch. A
fetch yields rows, reports a fault, or crashes.
-/

namespace Rollup

/-- Why a source has no rows to give. -/
inductive SourceFault where
  /-- The store could not be reached. -/
  | unreachable (reason : String)
  /-- The system could not read the rows. -/
  | io (reason : String)
  /-- What was read does not have the form of an export. -/
  | malformed (reason : String)
  deriving DecidableEq, Repr

def SourceFault.message : SourceFault → String
  | .unreachable reason => "Status source unreachable: " ++ reason
  | .io reason => "IO error: " ++ reason
  | .malformed reason => "Serialization error: " ++ reason

/-- The outcome of one fetch. -/
inductive Fetched where
  | rows (rows : List Row)
  | fault (fault : SourceFault)
  /-- The fetch did not return. -/
  | crashed (text : String)
  deriving DecidableEq, Repr

/-- What comes of reading a file. -/
inductive FileRead where
  /-- The system does not open the file. -/
  | unopened (reason : String)
  /-- The file is open, but its content cannot be had. -/
  | unread (reason : String)
  | octets (octets : List UInt8)
  deriving DecidableEq, Repr

/-- Where rows come from: the outcome of the fetch of the given number. -/
structure Source where
  fetch : Nat → PipelineId → Fetched

/-- Why the rows of a pipeline are not there. -/
structure Unavailable where
  pipeline : PipelineId
  reason : String
  deriving DecidableEq, Repr

def Unavailable.message (failure : Unavailable) : String :=
  "Snapshot unavailable for " ++ failure.pipeline.label ++ ": " ++ failure.reason

/-- The failure as a record for programs. -/
def Unavailable.toJson (failure : Unavailable) : Json :=
  .ofMembers
    [ ("type", .ofString "SnapshotUnavailable"),
      ("pipeline_id", Wire.ofWord failure.pipeline.val),
      ("reason", .ofString failure.reason),
      ("message", .ofString failure.message) ]

namespace Source

/-- A source that holds rows by pipeline. Of equal ids the later counts, and a
pipeline that it does not hold has no rows. -/
def memory (pipelines : List (PipelineId × List Row)) : Source where
  fetch _ pipeline :=
    .rows (sortByPosition
      (((pipelines.reverse.find? fun entry => entry.1 = pipeline).map Prod.snd).getD []))

def failing (reason : String) : Source where
  fetch _ _ := .fault (.unreachable reason)

def crashing (text : String) : Source where
  fetch _ _ := .crashed text

/-- A source that gives prepared outcomes one after the other, and the last one
again and again. -/
def scripted (outcomes : List Fetched) : Source where
  fetch number _ := (outcomes[number]? <|> outcomes.getLast?).getD (.rows [])

/-- The rows of a pipeline in the octets of an export. -/
def fetchExport (octets : List UInt8) (pipeline : PipelineId) : Fetched :=
  match (Json.ofOctets? octets).bind Export.ofJson? with
  | some document => .rows (document.rowsOf pipeline)
  | none => .fault (.malformed "not an export of recorded jobs")

/-- A source that reads the octets of an export at every fetch. -/
def recorded (octets : List UInt8) : Source where
  fetch _ pipeline := fetchExport octets pipeline

/-- A source that reads a file at every fetch, given what the system answers when the
file is read for the fetch of a number. -/
def file (read : Nat → FileRead) : Source where
  fetch number pipeline :=
    match read number with
    | .unopened reason => .fault (.io reason)
    | .unread reason => .fault (.malformed reason)
    | .octets octets => fetchExport octets pipeline

/-- A description of a source of recorded jobs, by the place it reads. -/
def describeRecorded (origin : String) : String :=
  "JsonStatusSource \x7b origin: " ++ Text.describe origin ++ " \x7d"

/-- The place of an export that is given as a text. -/
def inlineOrigin : String :=
  "<inline>"

end Source

end Rollup
