import Rollup.Board
import Rollup.Pass.Hooks
import Rollup.Pass.Report
import Rollup.Settings
import Rollup.Sink

/-!
# Processing passes

A pass walks the stages in order. Each job that was created when its stage was
entered is offered for release with the composite of what it waits for, and an
update takes effect at once. Then the composite of the stage is stored. After the
last stage the composite of the pipeline is stored, and at last the rows that are
not yet processed are offered for marking, batch by batch, until each of them was
marked or declined.

The first hook call that fails ends the pass; what was done until then stays.

Marking goes on as long as there is something to offer. With repeated ids that may
be for ever, so the number of batches is bounded by fuel, and a pass that runs out
of it says so.
-/

namespace Rollup

namespace Pass

/-- Why a pass came to no report. -/
inductive Fault where
  /-- The rows are not there. -/
  | unavailable (cause : Unavailable)
  /-- A hook call failed. -/
  | hook (operation : Operation) (reason : String)
  /-- The fuel was used up before every row was marked or declined. -/
  | outOfFuel
  deriving DecidableEq, Repr

def Fault.message : Fault → String
  | .unavailable cause => cause.message
  | .hook operation reason =>
      "Processing hook '" ++ operation.name ++ "' failed: " ++ reason
  | .outOfFuel => "Processing pass ran out of fuel"

/-- What a pass does toward the outside. -/
inductive Step where
  /-- A hook was called. -/
  | called (call : Call)
  /-- An event was given to the sink. -/
  | delivered (event : Event)
  deriving DecidableEq, Repr

/-- The call of a step, if it is one. -/
def Step.call? : Step → Option Call
  | .called call => some call
  | .delivered _ => none

def Step.event? : Step → Option Event
  | .called _ => none
  | .delivered event => some event

/-- How far a pass has come. -/
structure Progress (σ : Type) where
  pipeline : PipelineId
  loaded : Board.Loaded
  /-- The state of the hooks. -/
  hooks : σ
  outbox : Outbox
  report : Report
  /-- What was done toward the outside, in order. -/
  trace : List Step

/-- An action on the progress of a pass. It may fail, and keeps what it did. -/
abbrev Action (σ α : Type) := Progress σ → Except Fault α × Progress σ

/-- Do an action for each item in turn, up to the first failure. -/
def forEach {σ α : Type} (act : α → Action σ Unit) : List α → Action σ Unit
  | [], progress => (.ok (), progress)
  | item :: rest, progress =>
      match act item progress with
      | (.ok (), progress) => forEach act rest progress
      | (.error fault, progress) => (.error fault, progress)

namespace Progress

variable {σ : Type}

def ask {α : Type} (progress : Progress σ) (answer : Board.Loaded → α × Board.Loaded) :
    α × Progress σ :=
  let (value, loaded) := answer progress.loaded
  (value, { progress with loaded })

def deliver (progress : Progress σ) (event : Event) : Progress σ :=
  let (outbox, records) := progress.outbox.emit event
  { progress with
    outbox := outbox
    loaded := progress.loaded.record records
    trace := progress.trace ++ [.delivered event] }

/-- Call a hook. The call is on the trace before it is known to succeed. -/
def call {α : Type} (progress : Progress σ) (operation : Operation) (call : Call)
    (run : σ → Except String α × σ) : Except Fault α × Progress σ :=
  let (answer, hooks) := run progress.hooks
  let progress := { progress with hooks, trace := progress.trace ++ [.called call] }
  match answer with
  | .ok value => (.ok value, progress)
  | .error reason => (.error (.hook operation reason), progress)

end Progress

variable {σ : Type} (hooks : Hooks σ)

/-! ## Stages -/

/-- The composite of what a job at a position waits for. -/
def dependencyStatus (position : Position) (id : JobId) (progress : Progress σ) :
    Status × Progress σ :=
  match hooks.scheduling progress.hooks id with
  | .stage => progress.ask fun loaded => loaded.windowStatus (.beforeStage position)
  | .dag [] => (.success, progress)
  | .dag (need :: needs) => progress.ask fun loaded => loaded.forNames (need :: needs) .dag

/-- Take over the update of a released job. -/
def applyUpdate (id : JobId) (dependency : Status) (update : Update)
    (progress : Progress σ) : Progress σ :=
  let (_, progress) := progress.ask fun loaded => loaded.setStatus id update
  let report := { progress.report with released := progress.report.released ++ [id] }
  { progress with report }.deliver
    (.jobReleased progress.pipeline id dependency update.status)

/-- Offer a created job for release. -/
def releaseJob (position : Position) (id : JobId) : Action σ Unit := fun progress =>
  let (dependency, progress) := dependencyStatus hooks position id progress
  match progress.call .release (.release id dependency) (hooks.release · id dependency) with
  | (.ok none, progress) => (.ok (), progress)
  | (.ok (some update), progress) => (.ok (), applyUpdate id dependency update progress)
  | (.error fault, progress) => (.error fault, progress)

def storeStage (position : Position) : Action σ Unit := fun progress =>
  let (status, progress) := progress.ask fun loaded => loaded.windowStatus (.atStage position)
  match progress.call .persistStage (.persistStage position status)
      (hooks.persistStage · position status) with
  | (.ok (), progress) =>
      let progress := progress.deliver (.stageResolved progress.pipeline position status)
      let stageStatuses := progress.report.stageStatuses.insert position status
      (.ok (), { progress with report := { progress.report with stageStatuses } })
  | (.error fault, progress) => (.error fault, progress)

/-- Offer the jobs that are created on entry of a stage, then store its composite. -/
def runStage (position : Position) : Action σ Unit := fun progress =>
  let (created, progress) := progress.ask fun loaded => loaded.createdIds position
  match forEach (releaseJob hooks position) created progress with
  | (.ok (), progress) => storeStage hooks position progress
  | (.error fault, progress) => (.error fault, progress)

def storePipeline : Action σ Composite := fun progress =>
  let (composite, progress) := progress.ask Board.Loaded.all
  match progress.call .persistPipeline (.persistPipeline composite)
      (hooks.persistPipeline · composite) with
  | (.ok (), progress) =>
      let progress := progress.deliver (.pipelineResolved progress.pipeline composite)
      (.ok composite,
        { progress with report := { progress.report with pipelineStatus := some composite } })
  | (.error fault, progress) => (.error fault, progress)

/-! ## Marking -/

/-- The rows to offer next: unprocessed, not declined, no more than fit. -/
def nextBatch (batchSize : Nat) (declined : List JobId) (loaded : Board.Loaded) : List Offer :=
  ((loaded.unprocessed.filter fun row => row.id ∉ declined).take batchSize).map fun row =>
    (row.id, row.token)

/-- Take over the answer for each offered id: a confirmed one is marked and
counted, any other one is declined. -/
def settle (confirmed : List JobId) : List JobId → List JobId × Progress σ → List JobId × Progress σ
  | [], state => state
  | id :: rest, (declined, progress) =>
      if id ∈ confirmed then
        let (found, progress) := progress.ask fun loaded => loaded.setProcessed id
        if found then
          let report := { progress.report with processed := progress.report.processed + 1 }
          settle confirmed rest (declined, { progress with report })
        else
          settle confirmed rest (id :: declined, progress)
      else
        settle confirmed rest (id :: declined, progress)

/-- Offer batches until there is nothing left to offer. -/
def markRows (batchSize : Nat) : (fuel : Nat) → List JobId → Action σ Unit
  | 0, _, progress => (.error .outOfFuel, progress)
  | fuel + 1, declined, progress =>
      let batch := nextBatch batchSize declined progress.loaded
      if batch.isEmpty then
        (.ok (), progress)
      else
        match progress.call .markProcessed (.markProcessed batch)
            (hooks.markProcessed · batch) with
        | (.ok confirmed, progress) =>
            let (declined, progress) := settle confirmed (batch.map Prod.fst) (declined, progress)
            markRows batchSize fuel declined progress
        | (.error fault, progress) => (.error fault, progress)

/-! ## Whole passes -/

/-- The name of the span that a pass measures. -/
def spanName : String :=
  "processing_pass"

/-- A pass over rows that are there. -/
def runLoaded (batchSize fuel : Nat) : Action σ Unit := fun progress =>
  let (positions, progress) := progress.ask Board.Loaded.positions
  match forEach (runStage hooks) positions progress with
  | (.error fault, progress) => (.error fault, progress)
  | (.ok (), progress) =>
      match storePipeline hooks progress with
      | (.error fault, progress) => (.error fault, progress)
      | (.ok composite, progress) =>
          match markRows hooks batchSize fuel [] progress with
          | (.error fault, progress) => (.error fault, progress)
          | (.ok (), progress) =>
              let report := progress.report
              let loaded := progress.loaded.record
                [.spanFinished spanName,
                  .passFinished composite.status report.released.length report.processed]
              (.ok (), { progress with loaded })

end Pass

/-- A processing pass: the hooks that it drives and how many rows it offers for
marking at once. -/
structure Pass (σ : Type) where
  hooks : Hooks σ
  batchSize : Nat

namespace Pass

variable {σ : Type}

/-- A pass with batches of the usual size. -/
def ofHooks (hooks : Hooks σ) : Pass σ :=
  ⟨hooks, defaultBatchSize⟩

/-- The pass with batches of another size; a batch holds one row at least. -/
def withBatchSize (pass : Pass σ) (size : Nat) : Pass σ :=
  { pass with batchSize := max size 1 }

/-- The pass with what the settings say about it. -/
def withSettings (pass : Pass σ) (settings : Settings) : Pass σ :=
  pass.withBatchSize settings.batchSize

structure Outcome (σ : Type) where
  result : Except Fault Report
  board : Board
  hooks : σ
  outbox : Outbox
  trace : List Step

def run (pass : Pass σ) (stamps : Stamps) (fuel : Nat) (board : Board) (hooks : σ)
    (outbox : Outbox) : Outcome σ :=
  match (board.record [.passStarted]).loadAside with
  | (.error cause, board) => ⟨.error (.unavailable cause), board, hooks, outbox, []⟩
  | (.ok snapshot, board) =>
      let start : Progress σ :=
        { pipeline := board.pipeline
          loaded := board.opened snapshot
          hooks := hooks
          outbox := outbox
          report := .start stamps board.pipeline
          trace := [] }
      let (result, progress) := runLoaded pass.hooks pass.batchSize fuel start
      { result := result.map fun _ => progress.report.finish stamps
        board := board.close progress.loaded
        hooks := progress.hooks
        outbox := progress.outbox
        trace := progress.trace }

end Pass

end Rollup
