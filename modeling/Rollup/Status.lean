/-!
# Job statuses

A job of a pipeline is in exactly one of eleven statuses. This module fixes
their order, their written names, and the two classes of statuses that the rest
of the library asks about.
-/

namespace Rollup

/-- Where a job stands in its life. -/
inductive Status where
  /-- Declared, waiting for its dependencies. -/
  | created
  /-- Waiting for a resource that another job holds. -/
  | waitingForResource
  /-- Being prepared for execution. -/
  | preparing
  /-- Queued for execution. -/
  | pending
  /-- Executing. -/
  | running
  /-- Finished well. -/
  | success
  /-- Finished badly. -/
  | failed
  /-- Stopped before it finished. -/
  | canceled
  /-- Left out, because a dependency did not succeed. -/
  | skipped
  /-- Waiting for a person. -/
  | manual
  /-- Waiting for a point in time. -/
  | scheduled
  deriving DecidableEq, Repr

namespace Status

def all : List Status :=
  [.created, .waitingForResource, .preparing, .pending, .running, .success,
    .failed, .canceled, .skipped, .manual, .scheduled]

@[simp] theorem mem_all (status : Status) : status ∈ all := by
  cases status <;> decide

def name : Status → String
  | .created => "created"
  | .waitingForResource => "waiting_for_resource"
  | .preparing => "preparing"
  | .pending => "pending"
  | .running => "running"
  | .success => "success"
  | .failed => "failed"
  | .canceled => "canceled"
  | .skipped => "skipped"
  | .manual => "manual"
  | .scheduled => "scheduled"

instance : ToString Status := ⟨name⟩

/-- The position of a status in declaration order. -/
def index (status : Status) : Nat :=
  all.idxOf status

/-- The status with a given written name. Names are case sensitive. -/
def ofName? (text : String) : Option Status :=
  all.find? fun status => status.name == text

@[simp] theorem ofName?_name (status : Status) :
    ofName? status.name = some status := by
  cases status <;> decide

/-- The statuses of a job that will not change any more on its own. -/
def completed : List Status :=
  [.success, .failed, .canceled, .skipped]

/-- Whether a job in this status is done. -/
def isCompleted : Status → Bool
  | .success | .failed | .canceled | .skipped => true
  | _ => false

@[simp] theorem mem_completed {status : Status} :
    status ∈ completed ↔ status.isCompleted = true := by
  cases status <;> decide

/-- Whether a job in this status is on its way through execution. -/
def isActive : Status → Bool
  | .preparing | .pending | .running => true
  | _ => false

end Status

/-- A text that names no status. -/
structure UnknownStatus where
  text : String
  deriving DecidableEq, Repr

def UnknownStatus.message (unknown : UnknownStatus) : String :=
  "Unknown job status: '" ++ unknown.text ++ "'"

/-- Read a status from its written name. -/
def Status.parse (text : String) : Except UnknownStatus Status :=
  match ofName? text with
  | some status => .ok status
  | none => .error ⟨text⟩

end Rollup
