import Rollup.Proofs.Pass.Transcript
import Rollup.Proofs.Roster

/-!
# Replays

A replay is a pass as it is meant, on a roster: there is no memo, no index, no journal
and no report, only the rows as they stand after every update returned so far, the
state of the hooks, and the transcript.  Each stage offers the jobs that were created
when it was entered and then stores its composite; the composite of the pipeline
follows, and then the rows are offered for marking, batch by batch.  The first fault
ends the replay.
-/

namespace Rollup

namespace Pass

/-- Do an action for each item in turn, up to the first fault. -/
def inTurn {α S : Type} (act : α → S → Except Fault Unit × S) :
    List α → S → Except Fault Unit × S
  | [], state => (.ok (), state)
  | item :: rest, state =>
      match act item state with
      | (.ok (), state) => inTurn act rest state
      | (.error fault, state) => (.error fault, state)

/-- Items in turn are those in front and then the others, if the ones in front succeed. -/
theorem inTurn_append {α S : Type} {act : α → S → Except Fault Unit × S} {front back : List α}
    {state next : S} (passed : inTurn act front state = (.ok (), next)) :
    inTurn act (front ++ back) state = inTurn act back next := by
  induction front generalizing state with
  | nil =>
      cases passed
      rfl
  | cons item rest ih =>
      rw [inTurn] at passed
      rw [List.cons_append, inTurn]
      generalize act item state = acted at passed ⊢
      obtain ⟨fault | _, after⟩ := acted
      · cases passed
      · exact ih passed

/-- How far a replay has come. -/
structure Replay (σ : Type) where
  roster : Roster
  /-- The state of the hooks. -/
  hooks : σ
  transcript : Transcript

namespace Replay

variable {σ : Type} (hooks : Hooks σ)

/-- Nothing was said yet. -/
def start (roster : Roster) (hooks : σ) : Replay σ :=
  ⟨roster, hooks, []⟩

/-- Call a hook, and note the call with its answer. -/
def exchange {α : Type} (replay : Replay σ) (operation : Operation)
    (note : Except String α → Exchange) (run : σ → Except String α × σ) :
    Except Fault α × Replay σ :=
  let (answer, hooks) := run replay.hooks
  let replay := { replay with hooks, transcript := replay.transcript ++ [note answer] }
  match answer with
  | .ok value => (.ok value, replay)
  | .error reason => (.error (.hook operation reason), replay)

/-! ## Stages -/

/-- The composite of what a job at a position waits for, as the rows stand now: the rows
before its stage, nothing at all, or the rows it names. -/
def dependencyStatus (position : Position) (id : JobId) (replay : Replay σ) :
    Status × Replay σ :=
  match hooks.scheduling replay.hooks id with
  | .stage => (replay.roster.windowStatus (.beforeStage position), replay)
  | .dag needs =>
      if needs = [] then
        (.success, replay)
      else
        let (status, roster) := replay.roster.forNames needs .dag
        (status, { replay with roster })

/-- Offer a job for release.  An update goes to the last row with its id. -/
def releaseJob (position : Position) (id : JobId) (replay : Replay σ) :
    Except Fault Unit × Replay σ :=
  let (dependency, replay) := dependencyStatus hooks position id replay
  match replay.exchange .release (.release id dependency) (hooks.release · id dependency) with
  | (.ok none, replay) => (.ok (), replay)
  | (.ok (some update), replay) =>
      (.ok (), { replay with roster := (replay.roster.setStatus id update).2 })
  | (.error fault, replay) => (.error fault, replay)

/-- Store the composite of a stage, as its rows stand now. -/
def storeStage (position : Position) (replay : Replay σ) : Except Fault Unit × Replay σ :=
  let status := replay.roster.windowStatus (.atStage position)
  replay.exchange .persistStage (.persistStage position status)
    (hooks.persistStage · position status)

/-- Offer the jobs that are created on entry of a stage, in row order, then store its
composite. -/
def runStage (position : Position) (replay : Replay σ) : Except Fault Unit × Replay σ :=
  match inTurn (releaseJob hooks position) (replay.roster.createdIds position) replay with
  | (.ok (), replay) => storeStage hooks position replay
  | (.error fault, replay) => (.error fault, replay)

/-- Store the composite of the pipeline, as all rows stand now. -/
def storePipeline (replay : Replay σ) : Except Fault Composite × Replay σ :=
  let composite := replay.roster.all
  match replay.exchange .persistPipeline (.persistPipeline composite)
      (hooks.persistPipeline · composite) with
  | (.ok (), replay) => (.ok composite, replay)
  | (.error fault, replay) => (.error fault, replay)

/-! ## Marking -/

/-- The rows that may still be offered for marking. -/
def candidates (roster : Roster) (declined : List JobId) : List Row :=
  roster.unprocessed.filter fun row => row.id ∉ declined

/-- The rows to offer next. -/
def nextBatch (batchSize : Nat) (roster : Roster) (declined : List JobId) : List Offer :=
  ((candidates roster declined).take batchSize).map fun row => (row.id, row.token)

/-- Mark the last row of each of some ids. -/
def markAll (roster : Roster) (ids : List JobId) : Roster :=
  ids.foldl (fun roster id => (roster.setProcessed id).2) roster

theorem markAll_eq (roster : Roster) (ids : List JobId) :
    markAll roster ids =
      { roster with
        rows := ids.foldl (fun rows id => changeLast id Row.marked rows) roster.rows } := by
  induction ids generalizing roster with
  | nil => rfl
  | cons id rest ih => exact ih _

/-- Offer batches until there is nothing left to offer.  The confirmed ids of a batch
are marked, the others are declined. -/
def markRows (batchSize : Nat) :
    (fuel : Nat) → List JobId → Replay σ → Except Fault Unit × Replay σ
  | 0, _, replay => (.error .outOfFuel, replay)
  | fuel + 1, declined, replay =>
      let batch := nextBatch batchSize replay.roster declined
      if batch = [] then
        (.ok (), replay)
      else
        match replay.exchange .markProcessed (.markProcessed batch)
            (hooks.markProcessed · batch) with
        | (.error fault, replay) => (.error fault, replay)
        | (.ok confirmed, replay) =>
            let ids := batch.map Prod.fst
            let roster := markAll replay.roster (ids.filter (· ∈ confirmed))
            markRows batchSize fuel ((ids.filter (· ∉ confirmed)).reverse ++ declined)
              { replay with roster }

/-! ## Whole replays -/

/-- Every stage by ascending position, then the pipeline, then the marking. -/
def run (batchSize fuel : Nat) (replay : Replay σ) : Except Fault Unit × Replay σ :=
  match inTurn (runStage hooks) replay.roster.positions replay with
  | (.error fault, replay) => (.error fault, replay)
  | (.ok (), replay) =>
      match storePipeline hooks replay with
      | (.error fault, replay) => (.error fault, replay)
      | (.ok _, replay) => markRows hooks batchSize fuel [] replay

end Replay

end Pass

end Rollup
