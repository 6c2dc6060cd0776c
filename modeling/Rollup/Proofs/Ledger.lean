import Rollup.Proofs.Pass.Refinement

/-!
# Boards against ledgers

A ledger is a board that remembers nothing but the rows: it has no memo, no index and
no journal, and answers every question by a scan.  A sound board has the answers of
its ledger.  This is shown once for whatever needs the rows and once for passes.
-/

namespace Rollup

universe u

/-- The rows of a pipeline, fetched when they are first needed, with what resolves
their composites. -/
structure Ledger where
  pipeline : PipelineId
  source : Source
  /-- How many fetches there have been. -/
  fetches : Nat
  /-- The outcome of the fetch, once there was one. -/
  state : Option (Except Unavailable (List Row))
  resolver : Resolver

namespace Ledger

/-- A ledger that has fetched nothing yet and resolves by the standard table. -/
def ofSource (pipeline : PipelineId) (source : Source) (toggles : Toggles) : Ledger :=
  ⟨pipeline, source, 0, none, ⟨.standard, toggles⟩⟩

/-- The rows, fetched now and put in stage order if there was no fetch before. -/
def load (ledger : Ledger) : Except Board.Failure Roster × Ledger :=
  match ledger.state with
  | some (.ok rows) => (.ok ⟨rows, ledger.resolver⟩, ledger)
  | some (.error failure) => (.error (.unavailable failure), ledger)
  | none =>
      let fetched := ledger.source.fetch ledger.fetches ledger.pipeline
      let ledger := { ledger with fetches := ledger.fetches + 1 }
      match fetched with
      | .rows rows =>
          let rows := sortByPosition rows
          (.ok ⟨rows, ledger.resolver⟩, { ledger with state := some (.ok rows) })
      | .fault fault =>
          let failure : Unavailable := ⟨ledger.pipeline, fault.message⟩
          (.error (.unavailable failure), { ledger with state := some (.error failure) })
      | .crashed text => (.error (.crashed text), ledger)

/-- The rows, fetched by a task whose crash is kept like a fault. -/
def loadAside (ledger : Ledger) : Except Unavailable Roster × Ledger :=
  match ledger.load with
  | (.ok roster, ledger) => (.ok roster, ledger)
  | (.error (.unavailable failure), ledger) => (.error failure, ledger)
  | (.error (.crashed text), ledger) =>
      let failure : Unavailable := ⟨ledger.pipeline, "fetch task failed: " ++ text⟩
      (.error failure, { ledger with state := some (.error failure) })

/-- Loading changes neither the pipeline nor what resolves composites. -/
theorem load_eq_ok {ledger after : Ledger} {roster : Roster}
    (loads : ledger.load = (.ok roster, after)) :
    roster.resolver = ledger.resolver ∧ after.pipeline = ledger.pipeline := by
  rw [load] at loads
  split at loads
  · cases loads
    exact ⟨rfl, rfl⟩
  · cases loads
  · dsimp only at loads
    split at loads
    · cases loads
      exact ⟨rfl, rfl⟩
    · cases loads
    · cases loads

theorem loadAside_eq_ok {ledger after : Ledger} {roster : Roster}
    (loads : ledger.loadAside = (.ok roster, after)) :
    roster.resolver = ledger.resolver ∧ after.pipeline = ledger.pipeline := by
  rw [loadAside] at loads
  split at loads
  · rename_i loaded
    cases loads
    exact load_eq_ok loaded
  · cases loads
  · cases loads

def close (ledger : Ledger) (roster : Roster) : Ledger :=
  { ledger with state := some (.ok roster.rows), resolver := roster.resolver }

/-- Ask something that needs the rows. -/
def query {α : Type} (ledger : Ledger) (scan : Roster → α × Roster) :
    Except Board.Failure α × Ledger :=
  match ledger.load with
  | (.ok roster, ledger) =>
      let (answer, roster) := scan roster
      (.ok answer, ledger.close roster)
  | (.error failure, ledger) => (.error failure, ledger)

/-- A question that finds the rows there is answered from them. -/
theorem query_of_state {α : Type} {ledger : Ledger} {rows : List Row}
    (state : ledger.state = some (.ok rows)) (scan : Roster → α × Roster) :
    ledger.query scan =
      (.ok (scan ⟨rows, ledger.resolver⟩).1, ledger.close (scan ⟨rows, ledger.resolver⟩).2) := by
  rw [query, load, state]

end Ledger

/-- What a pass shows beside the board that it leaves. -/
structure Pass.Showing (σ : Type) where
  result : Except Pass.Fault Report
  /-- The state of the hooks. -/
  hooks : σ
  outbox : Outbox
  trace : List Pass.Step

def Pass.Outcome.showing {σ : Type} (outcome : Pass.Outcome σ) : Pass.Showing σ :=
  ⟨outcome.result, outcome.hooks, outcome.outbox, outcome.trace⟩

/-- What a replay shows of a pass over a pipeline.  Trace, outbox and report are read
off the transcript. -/
def Pass.Replay.showing {σ : Type} (pipeline : PipelineId) (stamps : Stamps)
    (outbox : Outbox) (replayed : Except Pass.Fault Unit × Pass.Replay σ) :
    Pass.Showing σ where
  result := replayed.1.map fun _ =>
    (replayed.2.transcript.report (.start stamps pipeline)).finish stamps
  hooks := replayed.2.hooks
  outbox := replayed.2.transcript.deliver pipeline outbox
  trace := replayed.2.transcript.trace pipeline

/-- A pass that began with nothing done shows what the replay that it agrees with
shows. -/
theorem Pass.Agree.showing {σ : Type} {origin : Progress σ}
    {acted : Except Fault Unit × Progress σ} {replayed : Except Fault Unit × Replay σ}
    (agree : Agree origin acted replayed) (stamps : Stamps)
    (silent : origin.trace = []) (fresh : origin.report = .start stamps origin.pipeline) :
    (⟨acted.1.map fun _ => acted.2.report.finish stamps, acted.2.hooks, acted.2.outbox,
        acted.2.trace⟩ : Showing σ) =
      Replay.showing origin.pipeline stamps origin.outbox replayed := by
  obtain ⟨resultEq, follows⟩ := agree
  rw [Replay.showing, resultEq, follows.hooks, follows.outbox, follows.trace, follows.report,
    silent, fresh, List.nil_append]

/-- A pass over a ledger: the replay of its rows. -/
def Ledger.runPass {σ : Type} (pass : Pass σ) (stamps : Stamps) (fuel : Nat)
    (ledger : Ledger) (hooks : σ) (outbox : Outbox) : Pass.Showing σ × Ledger :=
  match ledger.loadAside with
  | (.error cause, ledger) => (⟨.error (.unavailable cause), hooks, outbox, []⟩, ledger)
  | (.ok roster, ledger) =>
      let replayed := Pass.Replay.run pass.hooks pass.batchSize fuel (.start roster hooks)
      (Pass.Replay.showing ledger.pipeline stamps outbox replayed,
        ledger.close replayed.2.roster)

namespace Board

/-- A board without its memo, its indexes and its journal. -/
def ledger (board : Board) : Ledger :=
  ⟨board.pipeline, board.source, board.fetches,
    board.state.map fun outcome => outcome.map Snapshot.rows, board.resolver⟩

theorem ledger_state {board : Board} {snapshot : Snapshot}
    (state : board.state = some (.ok snapshot)) :
    board.ledger.state = some (.ok snapshot.rows) := by
  rw [ledger, state]
  rfl

theorem state_of_ledger {board : Board} {rows : List Row}
    (loaded : board.ledger.state = some (.ok rows)) :
    ∃ snapshot, board.state = some (.ok snapshot) ∧ snapshot.rows = rows := by
  simp only [ledger] at loaded
  cases state : board.state with
  | none =>
      rw [state] at loaded
      cases loaded
  | some outcome =>
      rw [state] at loaded
      cases outcome with
      | error failure => cases loaded
      | ok snapshot =>
          cases loaded
          exact ⟨snapshot, rfl, rfl⟩

/-- A board whose rows, if there are any, are sound, and that has memoized nothing
without rows. -/
structure Sound (board : Board) : Prop where
  loaded : ∀ {snapshot}, board.state = some (.ok snapshot) → (board.opened snapshot).Sound
  memo : ∀ {entry}, entry ∈ board.memo.entries →
    ∃ snapshot, board.state = some (.ok snapshot)

/-- A board that has neither rows nor a memoized composite. -/
structure Bare (board : Board) : Prop where
  memo : board.memo.entries = []
  state : ∀ snapshot, board.state ≠ some (.ok snapshot)

theorem Bare.sound {board : Board} (bare : board.Bare) : board.Sound where
  loaded state := absurd state (bare.state _)
  memo member := by
    rw [bare.memo] at member
    cases member

theorem sound_ofSource (pipeline : PipelineId) (source : Source) (toggles : Toggles) :
    (ofSource pipeline source toggles).Sound := by
  apply Bare.sound
  constructor
  · rfl
  · intro snapshot state
    cases state

/-- A board answered as its ledger does, is left with the ledger that this one leaves,
and is sound. -/
structure Agrees {α : Type u} (asked : α × Board) (scanned : α × Ledger) : Prop where
  answer : asked.1 = scanned.1
  ledger : asked.2.ledger = scanned.2
  sound : asked.2.Sound

namespace Sound

variable {board : Board}

theorem record (sound : board.Sound) (records : List Record) : (board.record records).Sound :=
  ⟨fun state => (sound.loaded state).record records, sound.memo⟩

theorem withToggles (sound : board.Sound) (toggles : Toggles) :
    (board.withToggles toggles).Sound :=
  ⟨fun state => (sound.loaded state).withToggles toggles, sound.memo⟩

/-- Another table empties the memo. -/
theorem withTable (sound : board.Sound) (table : Table) : (board.withTable table).Sound where
  loaded state := by
    refine ⟨(sound.loaded state).coherent, ?_⟩
    intro window status member
    cases member
  memo member := by cases member

/-- Putting sound parts back makes a sound board. -/
theorem close (board : Board) {loaded : Loaded} (sound : loaded.Sound) :
    (board.close loaded).Sound where
  loaded state := by
    cases state
    exact sound
  memo _ := ⟨loaded.snapshot, rfl⟩

/-- A sound board without rows has memoized nothing. -/
theorem bare (sound : board.Sound)
    (unloaded : ∀ snapshot, board.state ≠ some (.ok snapshot)) : board.Bare where
  memo := by
    apply List.eq_nil_iff_forall_not_mem.mpr
    intro entry member
    obtain ⟨snapshot, loaded⟩ := sound.memo member
    exact unloaded snapshot loaded
  state := unloaded

end Sound

/-! ## Loading -/

/-- Loading a sound board fails as loading its ledger does, or it gives rows, and they
are those that the ledger gets. -/
theorem load_spec {board : Board} (sound : board.Sound) :
    (∃ failure after, board.load = (.error failure, after) ∧
        board.ledger.load = (.error failure, after.ledger) ∧ after.Bare) ∨
      ∃ snapshot after, board.load = (.ok snapshot, after) ∧
        board.ledger.load = (.ok (after.opened snapshot).roster, after.ledger) ∧
        after.Sound ∧ after.state = some (.ok snapshot) := by
  simp only [load, Ledger.load, ledger]
  cases state : board.state with
  | some outcome =>
      cases outcome with
      | ok snapshot =>
          right
          exact ⟨snapshot, board, rfl, by simp only [state]; rfl, sound, state⟩
      | error failure =>
          left
          refine ⟨.unavailable failure, board, rfl, by simp only [state]; rfl, sound.bare ?_⟩
          intro snapshot loaded
          rw [state] at loaded
          cases loaded
  | none =>
      have bare : board.Bare := by
        apply sound.bare
        intro snapshot loaded
        rw [state] at loaded
        cases loaded
      cases fetched : board.source.fetch board.fetches board.pipeline with
      | rows rows =>
          right
          refine ⟨_, _, rfl, rfl, ⟨?_, fun _ => ⟨_, rfl⟩⟩, rfl⟩
          intro snapshot loaded
          cases loaded
          refine ⟨(Snapshot.coherent_ofRows rows).withStages, ?_⟩
          -- A board that never had rows has nothing in its memo.
          intro window status member
          have entry : (window, status) ∈ board.memo.entries := member
          rw [bare.memo] at entry
          cases entry
      | fault fault =>
          left
          refine ⟨_, _, rfl, rfl, bare.memo, ?_⟩
          intro snapshot loaded
          cases loaded
      | crashed text =>
          left
          refine ⟨_, _, rfl, rfl, bare.memo, ?_⟩
          intro snapshot loaded
          cases loaded

/-- Loading by a task of its own agrees in the same way. -/
theorem loadAside_spec {board : Board} (sound : board.Sound) :
    (∃ cause after, board.loadAside = (.error cause, after) ∧
        board.ledger.loadAside = (.error cause, after.ledger) ∧ after.Bare) ∨
      ∃ snapshot after, board.loadAside = (.ok snapshot, after) ∧
        board.ledger.loadAside = (.ok (after.opened snapshot).roster, after.ledger) ∧
        after.Sound ∧ after.state = some (.ok snapshot) := by
  rcases load_spec sound with
    ⟨failure, after, loads, scans, bare⟩ | ⟨snapshot, after, loads, scans, rest⟩
  · simp only [loadAside, Ledger.loadAside, loads, scans]
    left
    cases failure with
    | unavailable cause => exact ⟨cause, after, rfl, rfl, bare⟩
    | crashed text =>
        refine ⟨⟨after.pipeline, "fetch task failed: " ++ text⟩, _, rfl, rfl, bare.memo, ?_⟩
        intro snapshot loaded
        cases loaded
  · simp only [loadAside, Ledger.loadAside, loads, scans]
    exact .inr ⟨snapshot, after, rfl, rfl, rest⟩

theorem loadAside_of_loaded {board : Board} {snapshot : Snapshot}
    (state : board.state = some (.ok snapshot)) : board.loadAside = (.ok snapshot, board) := by
  simp only [loadAside, load, state]

/-! ## Questions -/

/-- A question that parts answer as their roster does is one that boards answer as
their ledger does. -/
theorem query_agrees {α : Type} {ask : Loaded → α × Loaded} {scan : Roster → α × Roster}
    (refines : Loaded.Refines ask scan) {board : Board} (sound : board.Sound) :
    Agrees (board.query ask) (board.ledger.query scan) := by
  rcases load_spec sound with
    ⟨failure, after, loads, scans, bare⟩ |
      ⟨snapshot, after, loads, scans, soundAfter, state⟩
  · simp only [query, Ledger.query, loads, scans]
    exact ⟨rfl, rfl, bare.sound⟩
  · have opened := soundAfter.loaded state
    have rosterEq := refines.roster opened
    simp only [query, Ledger.query, loads, scans]
    constructor
    · exact congrArg Except.ok (refines.answer opened)
    · simp only [Ledger.close, ← rosterEq]
      rfl
    · exact .close after (refines.sound opened)

theorem query_of_loaded {α : Type} {ask : Loaded → α × Loaded} {scan : Roster → α × Roster}
    (refines : Loaded.Refines ask scan) {board : Board} (sound : board.Sound)
    {snapshot : Snapshot} (loaded : board.state = some (.ok snapshot)) :
    (board.query ask).1 = .ok (scan ⟨snapshot.rows, board.resolver⟩).1 := by
  simp only [query, load, loaded]
  exact congrArg Except.ok (refines.answer (sound.loaded loaded))

/-- A sound board with the rows of a roster has the composites of the roster. -/
theorem composites_of_close {board : Board} (sound : board.Sound) {ledger : Ledger}
    {roster : Roster} (closed : board.ledger = ledger.close roster) :
    (∀ window, (board.windowStatus window).1 = .ok (roster.windowStatus window)) ∧
      board.all.1 = .ok roster.all := by
  obtain ⟨snapshot, state, rowsEq⟩ := state_of_ledger (congrArg Ledger.state closed)
  have resolverEq : board.resolver = roster.resolver := congrArg Ledger.resolver closed
  have rosterEq : ⟨snapshot.rows, board.resolver⟩ = roster := by rw [rowsEq, resolverEq]
  constructor
  · intro window
    have answer := query_of_loaded (Loaded.windowStatus_refines window) sound state
    rw [rosterEq] at answer
    exact answer
  · have answer := query_of_loaded Loaded.all_refines sound state
    rw [rosterEq] at answer
    exact answer

/-- Where ids are distinct it finds each row of the roster by its id. -/
theorem row?_of_close {board : Board} (sound : board.Sound) {ledger : Ledger} {roster : Roster}
    (closed : board.ledger = ledger.close roster) (unique : (roster.rows.map Row.id).Nodup)
    {row : Row} (member : row ∈ roster.rows) : (board.row? row.id).1 = .ok (some row) := by
  obtain ⟨snapshot, state, rowsEq⟩ := state_of_ledger (congrArg Ledger.state closed)
  have answer := query_of_loaded (Loaded.row?_refines row.id) sound state
  rw [rowsEq] at answer
  exact answer.trans (congrArg Except.ok ((find?_reverse_eq_some unique).mpr ⟨member, rfl⟩))

/-! ## Passes -/

/-- A pass over a sound board that has rows shows what the replay of these rows shows,
and leaves its rows. -/
theorem run_agrees {σ : Type} (pass : Pass σ) (stamps : Stamps) (fuel : Nat) {board : Board}
    (sound : board.Sound) (hooks : σ) (outbox : Outbox) :
    let outcome := pass.run stamps fuel board hooks outbox
    Agrees (outcome.showing, outcome.board)
      (board.ledger.runPass pass stamps fuel hooks outbox) := by
  intro outcome
  have started : (board.record [.passStarted]).ledger = board.ledger := rfl
  have spec := loadAside_spec (sound.record [.passStarted])
  rw [started] at spec
  rcases spec with
    ⟨cause, after, loads, scans, bare⟩ | ⟨snapshot, after, loads, scans, soundAfter, state⟩
  · simp only [outcome, Pass.run, Ledger.runPass, loads, scans]
    exact ⟨rfl, rfl, bare.sound⟩
  · let start : Pass.Progress σ :=
      ⟨after.pipeline, after.opened snapshot, hooks, outbox,
        .start stamps after.pipeline, []⟩
    have opened : start.loaded.Sound := soundAfter.loaded state
    have agree := Pass.mirrors_runLoaded pass.hooks pass.batchSize fuel (.refl opened)
    simp only [outcome, Pass.run, Ledger.runPass, loads, scans]
    refine ⟨agree.showing stamps rfl rfl, ?_, .close after agree.2.sound⟩
    have rosterEq := agree.2.roster
    simp only [start] at rosterEq
    simp only [Ledger.close, ← rosterEq]
    rfl

end Board

end Rollup
