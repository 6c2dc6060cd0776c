import Rollup.Board
import Rollup.Settings

/-!
# Blueprints

A blueprint lists the jobs of a pipeline one by one. Jobs get the ids 1, 2, … in
the order in which they are listed; a prepared row keeps its own id but counts.
-/

namespace Rollup

/-- The listed jobs of a pipeline. -/
structure Blueprint where
  pipeline : PipelineId
  rows : List Row
  settings : Settings
  deriving DecidableEq, Repr

namespace Blueprint

def empty (pipeline : PipelineId) : Blueprint :=
  ⟨pipeline, [], .standard⟩

/-- The id of the next job. -/
def nextId (blueprint : Blueprint) : JobId :=
  ⟨blueprint.rows.length.toUInt64 + 1⟩

def row (blueprint : Blueprint) (row : Row) : Blueprint :=
  { blueprint with rows := blueprint.rows ++ [row] }

/-- List a job that must not fail. -/
def job (blueprint : Blueprint) (name : String) (status : Status) (position : Position) :
    Blueprint :=
  blueprint.row (.fresh blueprint.nextId name status position)

/-- List a job that is allowed to fail. -/
def optionalJob (blueprint : Blueprint) (name : String) (status : Status)
    (position : Position) : Blueprint :=
  blueprint.row { Row.fresh blueprint.nextId name status position with allowFailure := true }

/-- A name that no listed job has. -/
structure UnknownJob where
  name : String
  deriving DecidableEq, Repr

def UnknownJob.message (unknown : UnknownJob) : String :=
  "no job named '" ++ unknown.name ++ "' in fixture"

/-- The id of the first job with a name. -/
def idOf (blueprint : Blueprint) (name : String) : Except UnknownJob JobId :=
  match blueprint.rows.find? fun row => row.name = name with
  | some row => .ok row.id
  | none => .error ⟨name⟩

def source (blueprint : Blueprint) : Source :=
  .memory [(blueprint.pipeline, blueprint.rows)]

def board (blueprint : Blueprint) : Board :=
  .ofSource blueprint.pipeline blueprint.source (.fixed blueprint.settings.switches)

end Blueprint

end Rollup
