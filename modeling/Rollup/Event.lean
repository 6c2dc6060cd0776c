import Rollup.Wire.Basic

/-!
# Events

What a processing pass announces: a job that changed its status on release, a
stage whose composite was stored, and the pipeline whose composite was stored.
-/

namespace Rollup

/-- Something that a processing pass has decided. -/
inductive Event where
  /-- A created job was released and changed its status. -/
  | jobReleased (pipeline : PipelineId) (job : JobId) (dependency : Status) (status : Status)
  /-- The composite of a stage was stored. -/
  | stageResolved (pipeline : PipelineId) (position : Position) (status : Status)
  /-- The composite of the pipeline was stored. -/
  | pipelineResolved (pipeline : PipelineId) (composite : Composite)
  deriving DecidableEq, Repr

namespace Event

/-- The dotted kind by which listeners select events. -/
def kind : Event → String
  | .jobReleased .. => "job.released"
  | .stageResolved .. => "stage.status_resolved"
  | .pipelineResolved .. => "pipeline.status_resolved"

/-- What is written of an event: its kind, and then its fields as they are declared. -/
def members : Event → List (String × Json)
  | .jobReleased pipeline job dependency status =>
      [ ("type", .ofString "job_released"),
        ("pipeline", Wire.ofWord pipeline.val),
        ("job_id", Wire.ofWord job.val),
        ("dependency_status", Wire.ofStatus dependency),
        ("status", Wire.ofStatus status) ]
  | .stageResolved pipeline position status =>
      [ ("type", .ofString "stage_resolved"),
        ("pipeline", Wire.ofWord pipeline.val),
        ("stage_position", Wire.ofPosition position),
        ("status", Wire.ofStatus status) ]
  | .pipelineResolved pipeline composite =>
      [ ("type", .ofString "pipeline_resolved"),
        ("pipeline", Wire.ofWord pipeline.val),
        ("status", Wire.ofStatus composite.status),
        ("warnings", .bool composite.warnings) ]

def toJson (event : Event) : Json :=
  .ofMembers event.members

/-- The event as a record of the journal carries it, in the order of the keys. -/
def payload (event : Event) : Json :=
  .ofMembersByKey event.members

def ofJson? (json : Json) : Option Event := do
  let record ← Wire.tagged? json
  let slots := fun names => Wire.slots? names record.content
  let word := Wire.Slot.required Wire.word?
  let status := Wire.Slot.required (Wire.status? .buffered)
  if record.tag = "job_released" then
    match ← slots ["pipeline", "job_id", "dependency_status", "status"] with
    | [pipeline, job, dependency, changed] =>
        some (.jobReleased ⟨← word pipeline⟩ ⟨← word job⟩ (← status dependency) (← status changed))
    | _ => none
  else if record.tag = "stage_resolved" then
    match ← slots ["pipeline", "stage_position", "status"] with
    | [pipeline, position, resolved] =>
        some (.stageResolved ⟨← word pipeline⟩ (← position.required Wire.position?)
          (← status resolved))
    | _ => none
  else if record.tag = "pipeline_resolved" then
    match ← slots ["pipeline", "status", "warnings"] with
    | [pipeline, resolved, warnings] =>
        some (.pipelineResolved ⟨← word pipeline⟩
          ⟨← status resolved, ← warnings.required Wire.bool?⟩)
    | _ => none
  else
    none

end Event

end Rollup
