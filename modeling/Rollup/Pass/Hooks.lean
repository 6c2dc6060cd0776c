import Rollup.Wire.Job

/-!
# Hooks

A processing pass decides what is to be done and leaves the doing to hooks: they
release jobs, store composites and mark rows. Hooks are a machine with a state of
its own, which every call but `scheduling` may change and which a failed call may
change as well.
-/

namespace Rollup

/-- What a job waits for. -/
inductive Scheduling where
  /-- For every earlier stage. -/
  | stage
  /-- For the named jobs. -/
  | dag (needs : List String)
  deriving DecidableEq, Repr

namespace Scheduling

def toJson : Scheduling → Json
  | .stage => .ofMembers [("type", .ofString "stage")]
  | .dag needs =>
      .ofMembers [("type", .ofString "dag"), ("needs", .array (needs.map .ofString))]

/-- Read a scheduling. An object may say more than the kind asks for, an array may
not. -/
def ofJson? (json : Json) : Option Scheduling := do
  let record ← Wire.tagged? json
  if record.tag = "stage" then
    match record.content with
    | .array (_ :: _) => none
    | _ => some .stage
  else if record.tag = "dag" then
    match ← Wire.slots? ["needs"] record.content with
    | [needs] => some (.dag (← needs.required (Wire.list? Wire.text?)))
    | _ => none
  else
    none

end Scheduling

/-- A row offered for marking: its id, and the token by which a change in between
can be told. -/
abbrev Offer := JobId × ChangeToken

/-- The outside of a processing pass. -/
structure Hooks (σ : Type) where
  /-- What a job waits for. -/
  scheduling : σ → JobId → Scheduling
  /-- Offer a created job with the composite of what it waits for. The answer is
  the job's update, or none if it stays created. -/
  release : σ → JobId → Status → Except String (Option Update) × σ
  /-- Store the composite of a stage. -/
  persistStage : σ → Position → Status → Except String Unit × σ
  /-- Store the composite of the pipeline. -/
  persistPipeline : σ → Composite → Except String Unit × σ
  /-- Mark rows as processed. The answer is the ids that were marked. -/
  markProcessed : σ → List Offer → Except String (List JobId) × σ

/-- The calls that may fail. -/
inductive Operation where
  | release
  | persistStage
  | persistPipeline
  | markProcessed
  deriving DecidableEq, Repr

def Operation.name : Operation → String
  | .release => "release"
  | .persistStage => "persist_stage_status"
  | .persistPipeline => "persist_pipeline_status"
  | .markProcessed => "mark_processed"

/-- A call to the hooks, with what was passed. -/
inductive Call where
  | release (id : JobId) (dependency : Status)
  | persistStage (position : Position) (status : Status)
  | persistPipeline (composite : Composite)
  | markProcessed (batch : List Offer)
  deriving DecidableEq, Repr

end Rollup
