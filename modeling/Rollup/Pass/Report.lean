import Rollup.Moment
import Rollup.Pass.Stamp
import Rollup.Wire.Job

/-!
# Reports

What a processing pass did: which jobs it released, which composites it stored
and how many rows it marked.
-/

namespace Rollup

/-! ## Statuses by stage -/

/-- Put a status under a position, in place of one that is there. -/
def insertStatus (position : Position) (status : Status) :
    List (Position × Status) → List (Position × Status)
  | [] => [(position, status)]
  | (head, kept) :: rest =>
      if position < head then
        (position, status) :: (head, kept) :: rest
      else if position = head then
        (head, status) :: rest
      else
        (head, kept) :: insertStatus position status rest

theorem fst_mem_insertStatus {position : Position} {status : Status}
    {entries : List (Position × Status)} {entry : Position × Status}
    (member : entry ∈ insertStatus position status entries) :
    entry.1 = position ∨ ∃ kept ∈ entries, kept.1 = entry.1 := by
  induction entries with
  | nil => simp_all [insertStatus]
  | cons head rest ih =>
      obtain ⟨head, kept⟩ := head
      rw [insertStatus] at member
      split at member
      · rcases List.mem_cons.mp member with rfl | member
        · exact .inl rfl
        · exact .inr ⟨entry, member, rfl⟩
      · split at member
        · rename_i equal
          rcases List.mem_cons.mp member with rfl | member
          · exact .inl equal.symm
          · exact .inr ⟨entry, List.mem_cons_of_mem _ member, rfl⟩
        · rcases List.mem_cons.mp member with rfl | member
          · exact .inr ⟨_, List.mem_cons_self, rfl⟩
          · rcases ih member with equal | ⟨kept, keptMem, equal⟩
            · exact .inl equal
            · exact .inr ⟨kept, List.mem_cons_of_mem _ keptMem, equal⟩

theorem pairwise_insertStatus {position : Position} {status : Status}
    {entries : List (Position × Status)}
    (ascending : entries.Pairwise fun left right => left.1 < right.1) :
    (insertStatus position status entries).Pairwise fun left right => left.1 < right.1 := by
  induction ascending with
  | nil => simp [insertStatus]
  | @cons head rest below ascending ih =>
      obtain ⟨head, kept⟩ := head
      rw [insertStatus]
      split
      · rename_i before
        refine .cons ?_ (.cons below ascending)
        intro entry member
        rcases List.mem_cons.mp member with rfl | member
        · exact before
        · exact UInt32.lt_trans before (below entry member)
      · rename_i notBefore
        split
        · exact .cons below ascending
        · rename_i different
          refine .cons ?_ ih
          intro entry member
          rcases fst_mem_insertStatus member with equal | ⟨other, otherMem, equal⟩
          · rw [equal]
            exact UInt32.lt_of_le_of_ne (UInt32.not_lt.mp notBefore) (Ne.symm different)
          · rw [← equal]
            exact below other otherMem

/-- One status for each of some stages, by ascending position. -/
structure StageStatuses where
  entries : List (Position × Status)
  ascending : entries.Pairwise fun left right => left.1 < right.1
  deriving DecidableEq, Repr

namespace StageStatuses

def empty : StageStatuses :=
  ⟨[], .nil⟩

/-- Put a status under a position, in place of one that is there. -/
def insert (statuses : StageStatuses) (position : Position) (status : Status) :
    StageStatuses :=
  ⟨insertStatus position status statuses.entries, pairwise_insertStatus statuses.ascending⟩

def find? (statuses : StageStatuses) (position : Position) : Option Status :=
  (statuses.entries.find? fun entry => entry.1 = position).map Prod.snd

/-- Write the statuses; the positions are the keys. -/
def toJson (statuses : StageStatuses) : Json :=
  .ofMembers (statuses.entries.map fun (position, status) =>
    (toString position.toNat, Wire.ofStatus status))

/-- Read statuses; of equal positions the later counts. -/
def ofJson? : Json → Option StageStatuses
  | .object members =>
      members.foldlM (fun statuses (key, value) => do
        let position ← Wire.numeral? (Nat.pow 2 32) key
        let status ← Wire.status? .direct value
        some (statuses.insert position.toUInt32 status)) empty
  | _ => none

end StageStatuses

/-! ## Reports -/

structure Report where
  runId : RunId
  pipeline : PipelineId
  startedAt : Moment
  /-- When the pass ended, if it has. -/
  finishedAt : Option Moment
  duration : Duration
  /-- The jobs that changed their status on release, in order. -/
  released : List JobId
  /-- The stored composites of the stages. -/
  stageStatuses : StageStatuses
  /-- The stored composite of the pipeline, if it was stored. -/
  pipelineStatus : Option Composite
  /-- How many rows were marked. -/
  processed : Nat
  deriving DecidableEq, Repr

/-- What chance and the clock say about a run. -/
structure Stamps where
  runId : RunId
  startedAt : Moment
  finishedAt : Moment
  duration : Duration
  deriving DecidableEq, Repr

namespace Stamps

/-- A run that nothing distinguishes. -/
def blank : Stamps :=
  ⟨.zero, .epoch, .epoch, .zero⟩

end Stamps

namespace Report

/-- The report at the start of a run. -/
def start (stamps : Stamps) (pipeline : PipelineId) : Report where
  runId := stamps.runId
  pipeline := pipeline
  startedAt := stamps.startedAt
  finishedAt := none
  duration := .zero
  released := []
  stageStatuses := .empty
  pipelineStatus := none
  processed := 0

/-- The report at the end of a run. -/
def finish (report : Report) (stamps : Stamps) : Report :=
  { report with finishedAt := some stamps.finishedAt, duration := stamps.duration }

@[simp] theorem released_finish (report : Report) (stamps : Stamps) :
    (report.finish stamps).released = report.released := rfl

@[simp] theorem processed_finish (report : Report) (stamps : Stamps) :
    (report.finish stamps).processed = report.processed := rfl

def isFinished (report : Report) : Bool :=
  report.finishedAt.isSome

/-- Write a value, or null for none. -/
def orNull {α : Type} (toJson : α → Json) : Option α → Json
  | none => .null
  | some value => toJson value

def toJson (report : Report) : Json :=
  .ofMembers
    [ ("run_id", .ofString report.runId.text),
      ("pipeline", Wire.ofWord report.pipeline.val),
      ("started_at", .ofString report.startedAt.text),
      ("finished_at", orNull (fun moment => .ofString moment.text) report.finishedAt),
      ("duration_ms", .number report.duration.toNumber),
      ("released", .array (report.released.map fun id => Wire.ofWord id.val)),
      ("stage_statuses", report.stageStatuses.toJson),
      ("pipeline_status", orNull Composite.toJson report.pipelineStatus),
      ("processed", .ofNat report.processed) ]

def moment? (json : Json) : Option Moment :=
  (Wire.text? json).bind Moment.ofText?

def duration? : Json → Option Duration
  | .number number => Duration.ofNumber? number
  | _ => none

def fieldNames : List String :=
  ["run_id", "pipeline", "started_at", "finished_at", "duration_ms", "released",
    "stage_statuses", "pipeline_status", "processed"]

def ofJson? (json : Json) : Option Report := do
  match ← Wire.slots? fieldNames json with
  | [runId, pipeline, startedAt, finishedAt, duration, released, stageStatuses,
      pipelineStatus, processed] =>
      some
        { runId := ← runId.required fun json => (Wire.text? json).bind RunId.ofText?
          pipeline := ⟨← pipeline.required Wire.word?⟩
          startedAt := ← startedAt.required moment?
          finishedAt := ← finishedAt.nullable moment?
          duration := ← duration.required duration?
          released := ← released.required
            (Wire.list? fun item => (Wire.word? item).map JobId.mk)
          stageStatuses := ← stageStatuses.required StageStatuses.ofJson?
          pipelineStatus := ← pipelineStatus.nullable Composite.ofJson?
          processed := ← processed.required (Wire.natBelow? (Nat.pow 2 64)) }
  | _ => none

end Report

end Rollup
