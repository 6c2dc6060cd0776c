import Rollup.Memo
import Rollup.Snapshot
import Rollup.Source

/-!
# The board

A board answers questions about the jobs of one pipeline. It fetches the rows
when they are first needed, keeps the outcome of that fetch for good, and answers
from memory from then on. Composites of windows are memoized, and every change of
a status empties the memo.

What a board does once its rows are there is said on `Board.Loaded`; `Board.query`
lifts it to boards.
-/

namespace Rollup

/-- The parts of a board that work together once its rows are there. -/
structure Board.Loaded where
  snapshot : Snapshot
  memo : Memo
  resolver : Resolver
  journal : List Record

namespace Board.Loaded

def record (loaded : Loaded) (records : List Record) : Loaded :=
  { loaded with journal := loaded.journal ++ records }

def rows (loaded : Loaded) : List Row :=
  loaded.snapshot.rows

/-! ## Windows -/

/-- The composite of a window, computed from its rows. -/
def computeWindow (loaded : Loaded) (window : Window) : Status :=
  (loaded.resolver.table.stageComposite ((loaded.snapshot.window window).map Row.entry)).status

/-- The composite of a window, from the memo if it is there. -/
def windowStatus (loaded : Loaded) (window : Window) : Status × Loaded :=
  match loaded.memo.find? window with
  | some status =>
      (status, { loaded with memo := loaded.memo.countHit }.record [.memoHit window status])
  | none =>
      let status := loaded.computeWindow window
      (status,
        { loaded with
          snapshot := loaded.snapshot.withStages
          memo := loaded.memo.insert window status }.record [.memoized window status])

/-- The ids of the created jobs at a position, in row order. -/
def createdIds (loaded : Loaded) (position : Position) : List JobId × Loaded :=
  let created := (loaded.snapshot.window (.atStage position)).filter fun row =>
    row.status = .created
  (created.map Row.id, { loaded with snapshot := loaded.snapshot.withStages })

def positions (loaded : Loaded) : List Position × Loaded :=
  (loaded.snapshot.positions, { loaded with snapshot := loaded.snapshot.withStages })

/-! ## All rows -/

def all (loaded : Loaded) : Composite × Loaded :=
  let (composite, resolver) := loaded.resolver.composite .stage (loaded.rows.map Row.entry)
  (composite, { loaded with resolver })

/-- The rows that are not yet processed, in row order. -/
def unprocessed (loaded : Loaded) : List Row :=
  loaded.rows.filter fun row => !row.processed

/-! ## Rows by id -/

/-- The loaded parts after the index of ids was needed. -/
def needIds (loaded : Loaded) : Loaded :=
  { loaded with snapshot := loaded.snapshot.withIds }.record loaded.snapshot.idRecords

/-- The row with an id. -/
def row? (loaded : Loaded) (id : JobId) : Option Row × Loaded :=
  (loaded.snapshot.row? id, loaded.needIds)

/-- Give the row with an id a new status and token, and forget every memoized
composite. Says whether there is such a row; without one nothing changes. -/
def setStatus (loaded : Loaded) (id : JobId) (update : Update) : Bool × Loaded :=
  match loaded.snapshot.row? id with
  | none => (false, loaded.needIds)
  | some row =>
      let snapshot := loaded.snapshot.modifyRow id fun row =>
        { row with status := update.status, token := update.token }
      (true,
        { loaded.needIds with snapshot, memo := loaded.memo.invalidate }.record
          [.statusChanged id row.status update.status, .memoInvalidated])

/-- Mark the row with an id as processed. Says whether there is such a row. -/
def setProcessed (loaded : Loaded) (id : JobId) : Bool × Loaded :=
  let snapshot := loaded.snapshot.modifyRow id fun row => { row with processed := true }
  ((loaded.snapshot.row? id).isSome, { loaded.needIds with snapshot })

/-! ## Rows by name -/

/-- The rows without those whose id occurred before. -/
def distinctById (seen : List JobId) : List Row → List Row
  | [] => []
  | row :: rest =>
      if row.id ∈ seen then distinctById seen rest
      else row :: distinctById (row.id :: seen) rest

/-- The distinct rows with the given names, in the order of the names. Names that
no row has are left out. -/
def namedRows (loaded : Loaded) (names : List String) : List Row :=
  distinctById [] (names.filterMap loaded.snapshot.rowNamed?)

/-- The loaded parts after the given names were looked up. -/
def needNames (loaded : Loaded) (names : List String) : Loaded :=
  if names.isEmpty then loaded
  else { loaded with snapshot := loaded.snapshot.withNames }.record loaded.snapshot.nameRecords

/-- The composite before a position, as expansion asks for it. -/
def beforeStage (position : Position) (loaded : Loaded) : Status × Loaded :=
  loaded.windowStatus (.beforeStage position)

/-- The entries that the rows before the named jobs add under a discipline. In a
dependency graph the switch for them is consulted first. -/
def priorEntries (loaded : Loaded) (named : List Dependency) (discipline : Discipline) :
    List Entry × Loaded :=
  match discipline with
  | .stage => ([], loaded)
  | .dag =>
      let resolver := { loaded.resolver with toggles := loaded.resolver.toggles.advance }
      if loaded.resolver.toggles.current.dependencyTree then
        expand resolver.table named beforeStage { loaded with resolver }
      else
        ([], { loaded with resolver })

/-- The composite of the named jobs. In a dependency graph it takes in the stages
before each job that is held up. -/
def forNames (loaded : Loaded) (names : List String) (discipline : Discipline) :
    Status × Loaded :=
  let named := (loaded.namedRows names).map Dependency.ofRow
  let (prior, loaded) := (loaded.needNames names).priorEntries named discipline
  let (composite, resolver) :=
    loaded.resolver.composite discipline (named.map Dependency.entry ++ prior)
  (composite.status, { loaded with resolver })

end Board.Loaded

structure Board where
  pipeline : PipelineId
  source : Source
  /-- How many fetches there have been. -/
  fetches : Nat
  /-- The outcome of the fetch, once there was one. -/
  state : Option (Except Unavailable Snapshot)
  memo : Memo
  resolver : Resolver
  journal : List Record

namespace Board

/-- Why a board does not answer. -/
inductive Failure where
  /-- The rows are not there. -/
  | unavailable (cause : Unavailable)
  /-- The fetch crashed, and the question with it. -/
  | crashed (text : String)
  deriving DecidableEq, Repr

/-- A board that has fetched nothing yet and resolves by the standard table. -/
def ofSource (pipeline : PipelineId) (source : Source) (toggles : Toggles) : Board where
  pipeline := pipeline
  source := source
  fetches := 0
  state := none
  memo := .empty
  resolver := ⟨.standard, toggles⟩
  journal := []

/-- Resolve by another table from now on, and forget every memoized composite. -/
def withTable (board : Board) (table : Table) : Board :=
  { board with
    resolver := { board.resolver with table }
    memo := board.memo.invalidate }

/-- Consult other switches from now on. -/
def withToggles (board : Board) (toggles : Toggles) : Board :=
  { board with resolver := { board.resolver with toggles } }

def record (board : Board) (records : List Record) : Board :=
  { board with journal := board.journal ++ records }

def isLoaded (board : Board) : Bool :=
  board.state.isSome

def describe (board : Board) : String :=
  let state :=
    match board.state with
    | none => "unloaded"
    | some (.ok snapshot) => "loaded (" ++ toString snapshot.rows.length ++ " rows)"
    | some (.error _) => "unavailable"
  "StatusCollection \x7b pipeline: PipelineId(" ++ toString board.pipeline.val.toNat
    ++ "), state: \"" ++ state ++ "\", memoized: " ++ toString board.memo.entries.length
    ++ " \x7d"

/-! ## Loading -/

/-- Keep fetched rows. Counting their stages builds the index of stages. -/
def acceptRows (board : Board) (rows : List Row) : Snapshot × Board :=
  let snapshot := (Snapshot.ofRows rows).withStages
  (snapshot,
    { board with state := some (.ok snapshot) }.record
      [.snapshotLoaded board.pipeline snapshot.rows.length snapshot.positions.length])

def acceptFault (board : Board) (fault : SourceFault) : Unavailable × Board :=
  let failure : Unavailable := ⟨board.pipeline, fault.message⟩
  (failure,
    { board with state := some (.error failure) }.record
      [.fetchFailed board.pipeline fault.message])

/-- The rows, fetched now if there was no fetch before. A crash of the fetch goes
through to the caller and leaves the board as if nothing had been tried, but for
the count of fetches. -/
def load (board : Board) : Except Failure Snapshot × Board :=
  match board.state with
  | some (.ok snapshot) => (.ok snapshot, board)
  | some (.error failure) => (.error (.unavailable failure), board)
  | none =>
      let fetched := board.source.fetch board.fetches board.pipeline
      let board := { board with fetches := board.fetches + 1 }
      match fetched with
      | .rows rows =>
          let (snapshot, board) := board.acceptRows rows
          (.ok snapshot, board)
      | .fault fault =>
          let (failure, board) := board.acceptFault fault
          (.error (.unavailable failure), board)
      | .crashed text => (.error (.crashed text), board)

/-- The rows, fetched by a task of its own if there was no fetch before. A crash
of the task is kept like a fault. -/
def loadAside (board : Board) : Except Unavailable Snapshot × Board :=
  match board.load with
  | (.ok snapshot, board) => (.ok snapshot, board)
  | (.error (.unavailable failure), board) => (.error failure, board)
  | (.error (.crashed text), board) =>
      let failure : Unavailable := ⟨board.pipeline, "fetch task failed: " ++ text⟩
      (.error failure, { board with state := some (.error failure) })

/-! ## Questions -/

/-- The loaded parts of a board that has the given rows. -/
def opened (board : Board) (snapshot : Snapshot) : Loaded :=
  ⟨snapshot, board.memo, board.resolver, board.journal⟩

def close (board : Board) (loaded : Loaded) : Board :=
  { board with
    state := some (.ok loaded.snapshot)
    memo := loaded.memo
    resolver := loaded.resolver
    journal := loaded.journal }

/-- Ask something that needs the rows. -/
def query {α : Type} (board : Board) (ask : Loaded → α × Loaded) : Except Failure α × Board :=
  match board.load with
  | (.ok snapshot, board) =>
      let (answer, loaded) := ask (board.opened snapshot)
      (.ok answer, board.close loaded)
  | (.error failure, board) => (.error failure, board)

def all (board : Board) : Except Failure Composite × Board :=
  board.query Loaded.all

def windowStatus (board : Board) (window : Window) : Except Failure Status × Board :=
  board.query fun loaded => loaded.windowStatus window

def forNames (board : Board) (names : List String) (discipline : Discipline) :
    Except Failure Status × Board :=
  board.query fun loaded => loaded.forNames names discipline

/-- The ids of the created jobs at a position. -/
def createdIds (board : Board) (position : Position) : Except Failure (List JobId) × Board :=
  board.query fun loaded => loaded.createdIds position

def unprocessed (board : Board) : Except Failure (List Row) × Board :=
  board.query fun loaded => (loaded.unprocessed, loaded)

def positions (board : Board) : Except Failure (List Position) × Board :=
  board.query Loaded.positions

/-- The row with an id. -/
def row? (board : Board) (id : JobId) : Except Failure (Option Row) × Board :=
  board.query fun loaded => loaded.row? id

/-- Give a job a new status and token. Says whether there is such a job. -/
def setStatus (board : Board) (id : JobId) (update : Update) : Except Failure Bool × Board :=
  board.query fun loaded => loaded.setStatus id update

/-- Mark a job as processed. Says whether there is such a job. -/
def setProcessed (board : Board) (id : JobId) : Except Failure Bool × Board :=
  board.query fun loaded => loaded.setProcessed id

end Board

end Rollup
