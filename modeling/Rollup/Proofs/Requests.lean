import Rollup.Proofs.Ledger

/-!
# Runs of requests

Whatever is asked of a board in whatever order, questions, changes, passes, other
tables and flipped switches, it gives the answers that its ledger gives.  One request
is settled by cases, and a run of requests by induction.  Between requests every
memoized composite is that of the present rows under the present table.
-/

namespace Rollup

/-- What can be asked of a board. -/
inductive Request : Type 1 where
  | load
  | loadAside
  | isLoaded
  | all
  | windowStatus (window : Window)
  | forNames (names : List String) (discipline : Discipline)
  | createdIds (position : Position)
  | unprocessed
  | positions
  | row (id : JobId)
  | setStatus (id : JobId) (update : Update)
  | setProcessed (id : JobId)
  | withTable (table : Table)
  /-- The switches are flipped. -/
  | withToggles (toggles : Toggles)
  | pass {σ : Type} (pass : Pass σ) (stamps : Stamps) (fuel : Nat) (hooks : σ)
      (outbox : Outbox)

/-- Whether a request runs a pass, and so depends on hooks. -/
def Request.runsPass : Request → Bool
  | .pass .. => true
  | _ => false

/-- What a request is answered. -/
inductive Answer : Type 1 where
  | done
  | failed (failure : Board.Failure)
  | flag (value : Bool)
  | composite (composite : Composite)
  | status (status : Status)
  | ids (ids : List JobId)
  | positions (positions : List Position)
  | row (row? : Option Row)
  | rows (rows : List Row)
  | shown {σ : Type} (showing : Pass.Showing σ)

/-- Answer by what a question came to. -/
def Answer.ofResult {α : Type} (wrap : α → Answer) : Except Board.Failure α → Answer
  | .ok value => wrap value
  | .error failure => .failed failure

/-- Answer by what a question came to, and keep what it left. -/
def answered {α S : Type} (wrap : α → Answer) (asked : Except Board.Failure α × S) :
    Answer × S :=
  (.ofResult wrap asked.1, asked.2)

/-- Answer by whether the rows are there, and keep what loading left. -/
def answeredAside {α S : Type} (asked : Except Unavailable α × S) : Answer × S :=
  (.ofResult (fun _ => .done) (asked.1.mapError .unavailable), asked.2)

/-- The board does what is asked of it. -/
def Board.perform (board : Board) : Request → Answer × Board
  | .load => answered (fun _ => .done) board.load
  | .loadAside => answeredAside board.loadAside
  | .isLoaded => (.flag board.isLoaded, board)
  | .all => answered .composite board.all
  | .windowStatus window => answered .status (board.windowStatus window)
  | .forNames names discipline => answered .status (board.forNames names discipline)
  | .createdIds position => answered .ids (board.createdIds position)
  | .unprocessed => answered .rows board.unprocessed
  | .positions => answered .positions board.positions
  | .row id => answered .row (board.row? id)
  | .setStatus id update => answered .flag (board.setStatus id update)
  | .setProcessed id => answered .flag (board.setProcessed id)
  | .withTable table => (.done, board.withTable table)
  | .withToggles toggles => (.done, board.withToggles toggles)
  | .pass pass stamps fuel hooks outbox =>
      let outcome := pass.run stamps fuel board hooks outbox
      (.shown outcome.showing, outcome.board)

/-- The ledger does what is asked of it. -/
def Ledger.perform (ledger : Ledger) : Request → Answer × Ledger
  | .load => answered (fun _ => .done) ledger.load
  | .loadAside => answeredAside ledger.loadAside
  | .isLoaded => (.flag ledger.state.isSome, ledger)
  | .all => answered .composite (ledger.query fun roster => (roster.all, roster))
  | .windowStatus window =>
      answered .status (ledger.query fun roster => (roster.windowStatus window, roster))
  | .forNames names discipline =>
      answered .status (ledger.query fun roster => roster.forNames names discipline)
  | .createdIds position =>
      answered .ids (ledger.query fun roster => (roster.createdIds position, roster))
  | .unprocessed => answered .rows (ledger.query fun roster => (roster.unprocessed, roster))
  | .positions => answered .positions (ledger.query fun roster => (roster.positions, roster))
  | .row id => answered .row (ledger.query fun roster => (roster.row? id, roster))
  | .setStatus id update =>
      answered .flag (ledger.query fun roster => roster.setStatus id update)
  | .setProcessed id => answered .flag (ledger.query fun roster => roster.setProcessed id)
  | .withTable table => (.done, { ledger with resolver := { ledger.resolver with table } })
  | .withToggles toggles =>
      (.done, { ledger with resolver := { ledger.resolver with toggles } })
  | .pass pass stamps fuel hooks outbox =>
      let (showing, ledger) := ledger.runPass pass stamps fuel hooks outbox
      (.shown showing, ledger)

/-- Requests made one after the other, with their answers. -/
def performAll {S : Type} (perform : S → Request → Answer × S) (state : S) :
    List Request → List Answer × S
  | [] => ([], state)
  | request :: rest =>
      let (answer, state) := perform state request
      let (answers, state) := performAll perform state rest
      (answer :: answers, state)

/-- The answers of a board to requests, and what they make of it. -/
abbrev Board.performAll (board : Board) (requests : List Request) : List Answer × Board :=
  Rollup.performAll perform board requests

/-- The answers of a ledger to requests, and what they make of it. -/
abbrev Ledger.performAll (ledger : Ledger) (requests : List Request) :
    List Answer × Ledger :=
  Rollup.performAll perform ledger requests

namespace Board

/-- A board that came out of some requests. -/
def Reached (board : Board) : Prop :=
  ∃ pipeline source toggles requests,
    board = ((ofSource pipeline source toggles).performAll requests).2

/-! ## One request -/

theorem load_agrees {board : Board} (sound : board.Sound) :
    Agrees (answered (fun _ => .done) board.load)
      (answered (fun _ => .done) board.ledger.load) := by
  rcases load_spec sound with
    ⟨failure, after, loads, scans, bare⟩ | ⟨snapshot, after, loads, scans, soundAfter, _⟩
  · rw [loads, scans]
    exact ⟨rfl, rfl, bare.sound⟩
  · rw [loads, scans]
    exact ⟨rfl, rfl, soundAfter⟩

theorem loadAside_agrees {board : Board} (sound : board.Sound) :
    Agrees (answeredAside board.loadAside)
      (answeredAside board.ledger.loadAside) := by
  rcases loadAside_spec sound with
    ⟨cause, after, loads, scans, bare⟩ | ⟨snapshot, after, loads, scans, soundAfter, _⟩
  · rw [loads, scans]
    exact ⟨rfl, rfl, bare.sound⟩
  · rw [loads, scans]
    exact ⟨rfl, rfl, soundAfter⟩

/-- A question that needs the rows is answered alike, whatever wraps the answer. -/
theorem asked_agrees {α : Type} {ask : Loaded → α × Loaded} {scan : Roster → α × Roster}
    {board : Board} (sound : board.Sound) (refines : Loaded.Refines ask scan)
    (wrap : α → Answer) :
    Agrees (answered wrap (board.query ask)) (answered wrap (board.ledger.query scan)) where
  answer := congrArg (Answer.ofResult wrap) (query_agrees refines sound).answer
  ledger := (query_agrees refines sound).ledger
  sound := (query_agrees refines sound).sound

theorem perform_agrees {board : Board} (sound : board.Sound) (request : Request) :
    Agrees (board.perform request) (board.ledger.perform request) := by
  cases request with
  | load => exact load_agrees sound
  | loadAside => exact loadAside_agrees sound
  | isLoaded =>
      refine ⟨?_, rfl, sound⟩
      exact congrArg Answer.flag Option.isSome_map.symm
  | all => exact asked_agrees sound Loaded.all_refines _
  | windowStatus window => exact asked_agrees sound (Loaded.windowStatus_refines window) _
  | forNames names discipline =>
      exact asked_agrees sound (Loaded.forNames_refines names discipline) _
  | createdIds position => exact asked_agrees sound (Loaded.createdIds_refines position) _
  | unprocessed => exact asked_agrees sound Loaded.unprocessed_refines _
  | positions => exact asked_agrees sound Loaded.positions_refines _
  | row id => exact asked_agrees sound (Loaded.row?_refines id) _
  | setStatus id update => exact asked_agrees sound (Loaded.setStatus_refines id update) _
  | setProcessed id => exact asked_agrees sound (Loaded.setProcessed_refines id) _
  | withTable table => exact ⟨rfl, rfl, sound.withTable table⟩
  | withToggles toggles => exact ⟨rfl, rfl, sound.withToggles toggles⟩
  | pass pass stamps fuel hooks outbox =>
      have agrees := run_agrees pass stamps fuel sound hooks outbox
      exact ⟨congrArg Answer.shown agrees.answer, agrees.ledger, agrees.sound⟩

/-! ## Runs -/

theorem performAll_agrees {board : Board} (sound : board.Sound) (requests : List Request) :
    Agrees (board.performAll requests) (board.ledger.performAll requests) := by
  induction requests generalizing board with
  | nil => exact ⟨rfl, rfl, sound⟩
  | cons request rest ih =>
      have first := perform_agrees sound request
      have others := ih first.sound
      rw [first.ledger] at others
      constructor
      · exact congr (congrArg List.cons first.answer) others.answer
      · exact others.ledger
      · exact others.sound

theorem Reached.sound {board : Board} (reached : board.Reached) : board.Sound := by
  obtain ⟨pipeline, source, toggles, requests, rfl⟩ := reached
  exact (performAll_agrees (sound_ofSource pipeline source toggles) requests).sound

/-- In every reached state each memoized composite is the one that the rows of its
window have under the present table, and so every answer of a run is the one that a
ledger gives, which has no memo. -/
theorem performAll_memo_transparent (pipeline : PipelineId) (source : Source)
    (toggles : Toggles) (requests : List Request) :
    let run := (ofSource pipeline source toggles).performAll requests
    let scan := (Ledger.ofSource pipeline source toggles).performAll requests
    (∀ window status, (window, status) ∈ run.2.memo.entries →
        ∃ snapshot, run.2.state = some (.ok snapshot) ∧
          status = (run.2.resolver.table.stageComposite
            ((snapshot.rows.filter fun row => window.covers row.position).map
              Row.entry)).status) ∧
      run.1 = scan.1 ∧ run.2.ledger = scan.2 := by
  intro run scan
  have start := sound_ofSource pipeline source toggles
  have agrees := performAll_agrees start requests
  refine ⟨?_, agrees.answer, agrees.ledger⟩
  intro window status member
  obtain ⟨snapshot, loaded⟩ := agrees.sound.memo member
  exact ⟨snapshot, loaded, (agrees.sound.loaded loaded).memo window status member⟩

end Board

end Rollup
