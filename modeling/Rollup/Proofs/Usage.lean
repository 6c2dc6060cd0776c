import Rollup.Proofs.Accesses
import Rollup.Proofs.Requests

/-!
# What boards do with snapshots

Whatever is asked of a board, it touches its snapshot through accesses only, and these
write nothing but statuses, tokens and marks.  So a loaded board has the snapshot that such
accesses make of rows that its source gave.
-/

namespace Rollup

namespace Snapshot

/-- The second snapshot comes out of the first one by accesses that write statuses, tokens
and marks at most. -/
def Used (before after : Snapshot) : Prop :=
  ∃ accesses : List Access,
    (∀ access ∈ accesses, access.LeavesFixed) ∧ after = before.afterAll accesses

namespace Used

variable {first second third : Snapshot}

theorem refl (snapshot : Snapshot) : snapshot.Used snapshot :=
  ⟨[], fun _ member => absurd member List.not_mem_nil, rfl⟩

theorem trans (used : first.Used second) (more : second.Used third) : first.Used third := by
  obtain ⟨accesses, leaveFixed, rfl⟩ := used
  obtain ⟨others, leaveFixedToo, rfl⟩ := more
  refine ⟨accesses ++ others, ?_, ?_⟩
  · exact List.forall_mem_append.mpr ⟨leaveFixed, leaveFixedToo⟩
  · rw [afterAll, afterAll, afterAll, List.foldl_append]

theorem of_access (access : Access) (leavesFixed : access.LeavesFixed) (snapshot : Snapshot) :
    snapshot.Used (snapshot.after access) :=
  ⟨[access], List.forall_mem_singleton.mpr leavesFixed, rfl⟩

theorem withIds (snapshot : Snapshot) : snapshot.Used snapshot.withIds :=
  of_access (.row ⟨0⟩) trivial snapshot

theorem withStages (snapshot : Snapshot) : snapshot.Used snapshot.withStages :=
  of_access .positions trivial snapshot

end Used

end Snapshot

namespace Board.Loaded

/-- A question that uses the snapshot. -/
def Uses {α : Type} (ask : Loaded → α × Loaded) : Prop :=
  ∀ loaded : Loaded, loaded.snapshot.Used (ask loaded).2.snapshot

theorem windowStatus_uses (window : Window) : Uses (·.windowStatus window) := by
  intro loaded
  dsimp only [windowStatus]
  split
  · exact .refl _
  · exact .withStages _

theorem createdIds_uses (position : Position) : Uses (·.createdIds position) :=
  fun _ => .withStages _

theorem positions_uses : Uses positions :=
  fun _ => .withStages _

theorem all_uses : Uses all :=
  fun _ => .refl _

theorem unprocessed_uses : Uses fun loaded => (loaded.unprocessed, loaded) :=
  fun _ => .refl _

theorem row?_uses (id : JobId) : Uses (·.row? id) :=
  fun _ => .withIds _

theorem setStatus_uses (id : JobId) (update : Update) : Uses (·.setStatus id update) := by
  intro loaded
  dsimp only [setStatus]
  split
  · exact .withIds _
  · exact .of_access (.write id (Row.updated update)) (fun _ => rfl) _

theorem setProcessed_uses (id : JobId) : Uses (·.setProcessed id) :=
  fun _ => .of_access (.write id Row.marked) (fun _ => rfl) _

theorem needNames_uses (names : List String) : Uses fun loaded => ((), loaded.needNames names) := by
  intro loaded
  dsimp only [needNames]
  cases names with
  | nil => exact .refl _
  | cons name rest => exact .of_access (.rowNamed name) trivial _

theorem probeEach_uses (positions : List Position) : Uses (probeEach beforeStage positions) := by
  intro loaded
  induction positions generalizing loaded with
  | nil => exact .refl _
  | cons position rest ih =>
      exact (windowStatus_uses (.beforeStage position) loaded).trans (ih _)

theorem priorEntries_uses (named : List Dependency) (discipline : Discipline) :
    Uses (·.priorEntries named discipline) := by
  intro loaded
  cases discipline with
  | stage => exact .refl _
  | dag =>
      dsimp only [priorEntries]
      split
      · exact probeEach_uses _ _
      · exact .refl _

theorem forNames_uses (names : List String) (discipline : Discipline) :
    Uses (·.forNames names discipline) := by
  intro loaded
  exact (needNames_uses names loaded).trans (priorEntries_uses _ discipline _)

end Board.Loaded

/-! ## Passes -/

namespace Pass

variable {σ : Type}

/-- An action that uses the snapshot. -/
def Action.Uses {α : Type} (act : Action σ α) : Prop :=
  ∀ progress : Progress σ, progress.loaded.snapshot.Used (act progress).2.loaded.snapshot

theorem Progress.used_of_ask {α : Type} {ask : Board.Loaded → α × Board.Loaded}
    (uses : Board.Loaded.Uses ask) (progress : Progress σ) :
    progress.loaded.snapshot.Used (progress.ask ask).2.loaded.snapshot :=
  uses progress.loaded

/-- A call does not touch the board. -/
theorem Progress.used_of_call {α : Type} {progress after : Progress σ} {operation : Operation}
    {call : Call} {run : σ → Except String α × σ} {result : Except Fault α} {snapshot : Snapshot}
    (called : progress.call operation call run = (result, after))
    (used : snapshot.Used progress.loaded.snapshot) : snapshot.Used after.loaded.snapshot := by
  rw [Progress.loaded_of_call called]
  exact used

theorem forEach_uses {α : Type} {act : α → Action σ Unit} (uses : ∀ item, Action.Uses (act item))
    (items : List α) : Action.Uses (forEach act items) := by
  intro progress
  induction items generalizing progress with
  | nil => exact .refl _
  | cons item rest ih =>
      have first := uses item progress
      rw [forEach]
      split
      · rename_i after acted
        rw [acted] at first
        exact first.trans (ih after)
      · rename_i fault after acted
        rw [acted] at first
        exact first

theorem settle_uses (confirmed ids declined : List JobId) (progress : Progress σ) :
    progress.loaded.snapshot.Used
      (settle confirmed ids (declined, progress)).2.loaded.snapshot := by
  induction ids generalizing declined progress with
  | nil => exact .refl _
  | cons id rest ih =>
      rw [settle]
      split
      · have marked := Board.Loaded.setProcessed_uses id progress.loaded
        dsimp only
        split
        · exact marked.trans (ih _ _)
        · exact marked.trans (ih _ _)
      · exact ih _ _

variable (hooks : Hooks σ)

theorem dependencyStatus_uses (position : Position) (id : JobId) (progress : Progress σ) :
    progress.loaded.snapshot.Used
      (dependencyStatus hooks position id progress).2.loaded.snapshot := by
  rw [dependencyStatus]
  split
  · exact Board.Loaded.windowStatus_uses _ _
  · exact .refl _
  · exact Board.Loaded.forNames_uses _ .dag _

theorem releaseJob_uses (position : Position) (id : JobId) :
    Action.Uses (releaseJob hooks position id) := by
  intro progress
  have asked := dependencyStatus_uses hooks position id progress
  dsimp only [releaseJob]
  split
  · rename_i after called
    exact Progress.used_of_call called asked
  · rename_i update after called
    have used := Progress.used_of_call called asked
    exact used.trans (Board.Loaded.setStatus_uses id update after.loaded)
  · rename_i fault after called
    exact Progress.used_of_call called asked

theorem storeStage_uses (position : Position) : Action.Uses (storeStage hooks position) := by
  intro progress
  have asked := progress.used_of_ask (Board.Loaded.windowStatus_uses (.atStage position))
  dsimp only [storeStage]
  split
  · rename_i after called
    have used := Progress.used_of_call called asked
    exact used
  · rename_i fault after called
    exact Progress.used_of_call called asked

theorem runStage_uses (position : Position) : Action.Uses (runStage hooks position) := by
  intro progress
  have asked := progress.used_of_ask (Board.Loaded.createdIds_uses position)
  have used := asked.trans (forEach_uses (releaseJob_uses hooks position)
    (progress.ask (·.createdIds position)).1 (progress.ask (·.createdIds position)).2)
  dsimp only [runStage]
  split
  · rename_i after acted
    rw [acted] at used
    exact used.trans (storeStage_uses hooks position after)
  · rename_i fault after acted
    rw [acted] at used
    exact used

theorem storePipeline_uses : Action.Uses (storePipeline hooks) := by
  intro progress
  have asked := progress.used_of_ask Board.Loaded.all_uses
  dsimp only [storePipeline]
  split
  · rename_i after called
    have used := Progress.used_of_call called asked
    exact used
  · rename_i fault after called
    exact Progress.used_of_call called asked

theorem markRows_uses (batchSize fuel : Nat) (declined : List JobId) :
    Action.Uses (markRows hooks batchSize fuel declined) := by
  intro progress
  induction fuel generalizing declined progress with
  | zero => exact .refl _
  | succ fuel ih =>
      rw [markRows]
      dsimp only
      split
      · exact .refl _
      · split
        · rename_i confirmed after called
          have used := Progress.used_of_call called (.refl _)
          exact (used.trans (settle_uses confirmed _ declined after)).trans (ih _ _)
        · rename_i fault after called
          exact Progress.used_of_call called (.refl _)

theorem runLoaded_uses (batchSize fuel : Nat) : Action.Uses (runLoaded hooks batchSize fuel) := by
  intro progress
  have asked := progress.used_of_ask Board.Loaded.positions_uses
  have ran := asked.trans (forEach_uses (runStage_uses hooks)
    (progress.ask Board.Loaded.positions).1 (progress.ask Board.Loaded.positions).2)
  dsimp only [runLoaded]
  split
  · rename_i fault after acted
    rw [acted] at ran
    exact ran
  · rename_i after acted
    rw [acted] at ran
    have stored := ran.trans (storePipeline_uses hooks after)
    split
    · rename_i fault last acted
      rw [acted] at stored
      exact stored
    · rename_i composite last acted
      rw [acted] at stored
      have marked := stored.trans (markRows_uses hooks batchSize fuel [] last)
      split
      · rename_i fault final acted
        rw [acted] at marked
        exact marked
      · rename_i final acted
        rw [acted] at marked
        exact marked

end Pass

/-! ## Boards -/

namespace Board

/-- A board of a source that, once it is loaded, has used a snapshot of the rows that its
last fetch brought. -/
structure Traced (pipeline : PipelineId) (source : Source) (board : Board) : Prop where
  pipelineEq : board.pipeline = pipeline
  sourceEq : board.source = source
  loaded : ∀ {snapshot}, board.state = some (.ok snapshot) →
    ∃ number given, board.fetches = number + 1 ∧ source.fetch number pipeline = .rows given ∧
      (Snapshot.ofRows given).Used snapshot

namespace Traced

variable {pipeline : PipelineId} {source : Source} {board : Board}

/-- Nothing has to be known of a board without rows. -/
theorem of_unloaded (pipelineEq : board.pipeline = pipeline) (sourceEq : board.source = source)
    (unloaded : ∀ snapshot, board.state ≠ some (.ok snapshot)) : Traced pipeline source board where
  pipelineEq := pipelineEq
  sourceEq := sourceEq
  loaded state := absurd state (unloaded _)

theorem load (traced : Traced pipeline source board) :
    Traced pipeline source board.load.2 ∧
      ∀ snapshot, board.load.1 = .ok snapshot → board.load.2.state = some (.ok snapshot) := by
  rw [Board.load]
  split
  · rename_i snapshot state
    refine ⟨traced, ?_⟩
    intro other loads
    cases loads
    exact state
  · refine ⟨traced, ?_⟩
    intro snapshot loads
    cases loads
  · rename_i unfetched
    have fetchEq : board.source.fetch board.fetches board.pipeline =
        source.fetch board.fetches pipeline := by
      rw [traced.sourceEq, traced.pipelineEq]
    dsimp only
    split
    · rename_i given fetched
      refine ⟨⟨traced.pipelineEq, traced.sourceEq, ?_⟩, ?_⟩
      · intro snapshot state
        cases state
        exact ⟨board.fetches, given, rfl, fetchEq.symm.trans fetched, .withStages _⟩
      · intro snapshot loads
        cases loads
        rfl
    · refine ⟨of_unloaded traced.pipelineEq traced.sourceEq ?_, ?_⟩
      · intro snapshot state
        cases state
      · intro snapshot loads
        cases loads
    · refine ⟨of_unloaded traced.pipelineEq traced.sourceEq ?_, ?_⟩
      · intro snapshot state
        rw [unfetched] at state
        cases state
      · intro snapshot loads
        cases loads

theorem loadAside (traced : Traced pipeline source board) :
    Traced pipeline source board.loadAside.2 ∧
      ∀ snapshot, board.loadAside.1 = .ok snapshot →
        board.loadAside.2.state = some (.ok snapshot) := by
  obtain ⟨tracedAfter, state⟩ := traced.load
  rw [Board.loadAside]
  split
  · rename_i snapshot after loads
    rw [loads] at tracedAfter state
    refine ⟨tracedAfter, ?_⟩
    intro other same
    cases same
    exact state snapshot rfl
  · rename_i failure after loads
    rw [loads] at tracedAfter
    refine ⟨tracedAfter, ?_⟩
    intro snapshot impossible
    cases impossible
  · rename_i text after loads
    rw [loads] at tracedAfter
    refine ⟨of_unloaded tracedAfter.pipelineEq tracedAfter.sourceEq ?_, ?_⟩
    · intro snapshot state
      cases state
    · intro snapshot impossible
      cases impossible

/-- Parts that were used are put back. -/
theorem close (traced : Traced pipeline source board) {snapshot : Snapshot}
    (state : board.state = some (.ok snapshot)) {loaded : Loaded}
    (used : snapshot.Used loaded.snapshot) : Traced pipeline source (board.close loaded) where
  pipelineEq := traced.pipelineEq
  sourceEq := traced.sourceEq
  loaded stateAfter := by
    cases stateAfter
    obtain ⟨number, given, last, fetched, usedBefore⟩ := traced.loaded state
    exact ⟨number, given, last, fetched, usedBefore.trans used⟩

theorem query (traced : Traced pipeline source board) {α : Type} {ask : Loaded → α × Loaded}
    (uses : Loaded.Uses ask) : Traced pipeline source (board.query ask).2 := by
  obtain ⟨tracedAfter, state⟩ := traced.load
  rw [Board.query]
  split
  · rename_i snapshot after loads
    rw [loads] at tracedAfter state
    exact tracedAfter.close (state snapshot rfl) (uses (after.opened snapshot))
  · rename_i failure after loads
    rw [loads] at tracedAfter
    exact tracedAfter

theorem run (traced : Traced pipeline source board) {σ : Type} (pass : Pass σ) (stamps : Stamps)
    (fuel : Nat) (hooks : σ) (outbox : Outbox) :
    Traced pipeline source (pass.run stamps fuel board hooks outbox).board := by
  have started : Traced pipeline source (board.record [.passStarted]) :=
    ⟨traced.pipelineEq, traced.sourceEq, traced.loaded⟩
  obtain ⟨tracedAfter, state⟩ := started.loadAside
  rw [Pass.run]
  split
  · rename_i cause after loads
    rw [loads] at tracedAfter
    exact tracedAfter
  · rename_i snapshot after loads
    rw [loads] at tracedAfter state
    exact tracedAfter.close (state snapshot rfl)
      (Pass.runLoaded_uses pass.hooks pass.batchSize fuel _)

theorem perform (traced : Traced pipeline source board) (request : Request) :
    Traced pipeline source (board.perform request).2 := by
  cases request with
  | load => exact traced.load.1
  | loadAside => exact traced.loadAside.1
  | isLoaded => exact traced
  | all => exact traced.query Loaded.all_uses
  | windowStatus window => exact traced.query (Loaded.windowStatus_uses window)
  | forNames names discipline => exact traced.query (Loaded.forNames_uses names discipline)
  | createdIds position => exact traced.query (Loaded.createdIds_uses position)
  | unprocessed => exact traced.query Loaded.unprocessed_uses
  | positions => exact traced.query Loaded.positions_uses
  | row id => exact traced.query (Loaded.row?_uses id)
  | setStatus id update => exact traced.query (Loaded.setStatus_uses id update)
  | setProcessed id => exact traced.query (Loaded.setProcessed_uses id)
  | withTable table => exact ⟨traced.pipelineEq, traced.sourceEq, traced.loaded⟩
  | withToggles toggles => exact ⟨traced.pipelineEq, traced.sourceEq, traced.loaded⟩
  | pass pass stamps fuel hooks outbox => exact traced.run pass stamps fuel hooks outbox

theorem performAll (traced : Traced pipeline source board) (requests : List Request) :
    Traced pipeline source (board.performAll requests).2 := by
  induction requests generalizing board with
  | nil => exact traced
  | cons request rest ih => exact ih (traced.perform request)

end Traced

theorem traced_ofSource (pipeline : PipelineId) (source : Source) (toggles : Toggles) :
    Traced pipeline source (ofSource pipeline source toggles) := by
  refine .of_unloaded rfl rfl ?_
  intro snapshot state
  cases state

/-- Requests leave a snapshot that accesses made of the rows which the last fetch brought,
and these wrote no more than statuses, tokens and marks. -/
theorem used_of_performAll {pipeline : PipelineId} {source : Source} {toggles : Toggles}
    {requests : List Request} {snapshot : Snapshot}
    (state : ((ofSource pipeline source toggles).performAll requests).2.state =
      some (.ok snapshot)) :
    ∃ number given,
      ((ofSource pipeline source toggles).performAll requests).2.fetches = number + 1 ∧
      source.fetch number pipeline = .rows given ∧ (Snapshot.ofRows given).Used snapshot :=
  ((traced_ofSource pipeline source toggles).performAll requests).loaded state

/-- A board that was reached has the snapshot that such accesses make of some rows. -/
theorem Reached.used {board : Board} (reached : board.Reached) {snapshot : Snapshot}
    (state : board.state = some (.ok snapshot)) :
    ∃ given, (Snapshot.ofRows given).Used snapshot := by
  obtain ⟨pipeline, source, toggles, requests, rfl⟩ := reached
  obtain ⟨_, given, _, _, used⟩ := used_of_performAll state
  exact ⟨given, used⟩

end Board

/-! ## Frozen indexes -/

namespace Snapshot

theorem stored?_ofRows (given : List Row) (index : Index) :
    (ofRows given).stored? index = none := by
  cases index <;> rfl

/-- Whatever was read and written before, an access goes to the present rows through the
offsets of the rows that the first access of the same index found, and so does what it
writes.  These offsets are in range, and the repetitions among the keys are recorded by the
first access of an index and by no other.  Where nothing but statuses, tokens and marks was
written, it does not show when an index was built: every access brings what a scan of the
present rows finds.  Boards write nothing else. -/
theorem indexes_stay_as_built (given : List Row) (before : List Access) (access : Access) :
    let start := ofRows given
    let met := start.afterAll before
    let past := start.rowsAtFirst before
    met.reply access = access.recalled past met.rows ∧
      (met.after access).rows = access.written past met.rows ∧
      (∀ index content, met.stored? index = some content →
        ∀ offset ∈ index.offsets content, offset < met.rows.length) ∧
      met.records access =
        (if before.any (·.index? = access.index?) then [] else access.repetitions met.rows) ∧
      ((∀ earlier ∈ before, earlier.LeavesFixed) →
        met.reply access = access.scanned met.rows) ∧
      ∀ board : Board, board.Reached → ∀ snapshot, board.state = some (.ok snapshot) →
        ∃ rows, (ofRows rows).Used snapshot := by
  intro start met past
  have unbuilt : ∀ index, start.stored? index = none := stored?_ofRows given
  have recalls : ∀ index, met.consulted index = index.build (past index) :=
    fun index => consulted_afterAll (unbuilt index) before
  have built : ∀ index, (met.stored? index).isSome = before.any (·.index? = some index) := by
    intro index
    rw [stored?_afterAll (unbuilt index)]
    cases before.any (·.index? = some index) <;> rfl
  refine ⟨reply_eq_recalled recalls access, rows_after recalls access, ?range,
    records_eq built access, ?scan, fun board reached snapshot => reached.used⟩
  case range =>
    intro index content stored offset member
    have content : content = index.build (past index) := by
      rw [← recalls, consulted, stored]
      rfl
    have asMany : (past index).length = met.rows.length := by
      have pastLength : (past index).length = start.rows.length := length_rows_afterAll _ _
      exact pastLength.trans (length_rows_afterAll start before).symm
    rw [content] at member
    exact asMany ▸ Index.lt_of_mem_offsets member
  case scan =>
    intro leaveFixed
    have coherent := ((coherent_ofRows given).afterAll leaveFixed).1
    exact coherent.reply_eq_scanned access

/-- The id of the last job is written over once its index was built, and the job is found by
its former id. -/
example :
    let rename : Access := .write ⟨1⟩ fun row => { row with id := ⟨9⟩ }
    let met := (ofRows [.fresh ⟨1⟩ "build" .created 0, .fresh ⟨1⟩ "test" .created 1]).after rename
    met.reply (.row ⟨9⟩) = .row none ∧
      met.reply (.row ⟨1⟩) = .row (some (.fresh ⟨9⟩ "test" .created 1)) := by
  decide

end Snapshot

end Rollup
