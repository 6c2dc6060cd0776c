import Rollup.Status

/-!
# Jobs as rows

The aggregation sees a job as a row: who it is, where it stands, in which stage
it runs and whether it may fail. Identifiers are words of 64 bits and stage
positions words of 32 bits; neither is ever computed with.
-/

namespace Rollup

/-- Identifies a job within its pipeline. -/
structure JobId where
  val : UInt64
  deriving DecidableEq, Repr

instance : ToString JobId := ⟨fun id => toString id.val.toNat⟩

structure PipelineId where
  val : UInt64
  deriving DecidableEq, Repr

/-- A pipeline as people refer to it. -/
def PipelineId.label (pipeline : PipelineId) : String :=
  "pipeline #" ++ toString pipeline.val.toNat

/-- Version of a row. Tokens are compared for equality only. -/
structure ChangeToken where
  val : UInt64
  deriving DecidableEq, Repr

/-- Place of a stage in its pipeline; a lower position runs earlier. -/
abbrev Position := UInt32

/-- What one job contributes to a composite. -/
structure Entry where
  status : Status
  /-- Whether a failure of the job is tolerated. -/
  allowFailure : Bool
  deriving DecidableEq, Repr

namespace Entry

def required (status : Status) : Entry :=
  ⟨status, false⟩

def optional (status : Status) : Entry :=
  ⟨status, true⟩

end Entry

/-- One job as the aggregation sees it. -/
structure Row where
  id : JobId
  /-- Jobs are named as dependencies by this name. -/
  name : String
  status : Status
  allowFailure : Bool
  position : Position
  /-- Whether the row already went into a persisted composite. -/
  processed : Bool
  token : ChangeToken
  deriving DecidableEq, Repr

namespace Row

/-- An unprocessed row that must not fail. -/
def fresh (id : JobId) (name : String) (status : Status)
    (position : Position) : Row :=
  { id, name, status, position, allowFailure := false, processed := false, token := ⟨0⟩ }

/-- What the row contributes to a composite. -/
def entry (row : Row) : Entry :=
  ⟨row.status, row.allowFailure⟩

end Row

/-! ## Stage order -/

/-- Insert a row behind every row of the same or an earlier position. The row
comes from the left of `rows`, so it stops before the first row that is not
strictly earlier. -/
def Row.insertByPosition (row : Row) : List Row → List Row
  | [] => [row]
  | head :: rest =>
      if head.position < row.position then
        head :: row.insertByPosition rest
      else
        row :: head :: rest

/-- The rows in ascending position; rows of one position keep their order. -/
def sortByPosition : List Row → List Row
  | [] => []
  | row :: rest => row.insertByPosition (sortByPosition rest)

/-- A status change: the job's new status and the row's new token. -/
structure Update where
  status : Status
  token : ChangeToken
  deriving DecidableEq, Repr

end Rollup
