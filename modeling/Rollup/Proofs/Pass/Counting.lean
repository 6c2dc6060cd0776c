import Rollup.Proofs.MemoUse
import Rollup.Proofs.Requests

/-!
# Counting uses of the memo

The uses of the memo are counted for passes and for whole runs of requests, from what the
rows and the hooks say.  A release asks for what the job waits for, and an update that it
brings is a new status; the composite of a stage is looked up when it is stored, and that of
the pipeline and the marks use no memo.  The memo of a board accounts for these uses after
every run of requests.
-/

namespace Rollup

namespace Pass

/-- What is used while actions are done in turn, up to the first fault. -/
def usesInTurn {α S : Type} (act : α → S → Except Fault Unit × S)
    (uses : α → S → List MemoUse) : List α → S → List MemoUse
  | [], _ => []
  | item :: rest, state =>
      uses item state ++
        match act item state with
        | (.ok (), state) => usesInTurn act uses rest state
        | (.error _, _) => []

variable {σ α : Type}

namespace Replay

variable (hooks : Hooks σ)

def dependencyUses (position : Position) (id : JobId) (replay : Replay σ) : List MemoUse :=
  match hooks.scheduling replay.hooks id with
  | .stage => [.lookup (.beforeStage position)]
  | .dag needs => if needs = [] then [] else replay.roster.usesOfNames needs .dag

/-- What a job waits for is asked for, and an update is a new status. -/
def releaseUses (position : Position) (id : JobId) (replay : Replay σ) : List MemoUse :=
  let (dependency, next) := dependencyStatus hooks position id replay
  dependencyUses hooks position id replay ++
    match (hooks.release next.hooks id dependency).1 with
    | .ok (some _) => next.roster.usesOfStatus id
    | _ => []

/-- Behind the releases the composite of the stage is looked up. -/
def stageUses (position : Position) (replay : Replay σ) : List MemoUse :=
  let created := replay.roster.createdIds position
  usesInTurn (releaseJob hooks position) (releaseUses hooks position) created replay ++
    match inTurn (releaseJob hooks position) created replay with
    | (.ok (), _) => [.lookup (.atStage position)]
    | (.error _, _) => []

/-- What a replay uses: all of it is used in stages. -/
def runUses (replay : Replay σ) : List MemoUse :=
  usesInTurn (runStage hooks) (stageUses hooks) replay.roster.positions replay

end Replay

/-- An action that uses the memo as is told from the replay. -/
def Action.Counts (act : Action σ α) (uses : Replay σ → List MemoUse) : Prop :=
  ∀ {origin progress : Progress σ} {replay : Replay σ} {earlier : List MemoUse},
    Follows origin progress replay → progress.loaded.memo.Accounts earlier →
      (act progress).2.loaded.memo.Accounts (earlier ++ uses replay)

theorem forEach_counts {act : α → Action σ Unit}
    {step : α → Replay σ → Except Fault Unit × Replay σ} {uses : α → Replay σ → List MemoUse}
    (mirrors : ∀ item, Mirrors (act item) (step item))
    (counts : ∀ item, Action.Counts (act item) (uses item)) (items : List α) :
    Action.Counts (forEach act items) (usesInTurn step uses items) := by
  induction items with
  | nil =>
      intro origin progress replay earlier _ accounts
      rw [usesInTurn, List.append_nil]
      exact accounts
  | cons item rest ih =>
      intro origin progress replay earlier follows accounts
      have counted := counts item follows accounts
      simp only [forEach, usesInTurn]
      rcases (mirrors item follows).cases with
        ⟨fault, next, noted, acted, stepped, after⟩ | ⟨_, next, noted, acted, stepped, after⟩
      · rw [acted] at counted
        simp only [acted, stepped, List.append_nil]
        exact counted
      · rw [acted] at counted
        simp only [acted, stepped]
        rw [← List.append_assoc]
        exact ih after counted

/-! ## Stages -/

variable (hooks : Hooks σ)

theorem dependencyStatus_counts (position : Position) (id : JobId) {origin progress : Progress σ}
    {replay : Replay σ} {earlier : List MemoUse} (follows : Follows origin progress replay)
    (accounts : progress.loaded.memo.Accounts earlier) :
    (dependencyStatus hooks position id progress).2.loaded.memo.Accounts
      (earlier ++ Replay.dependencyUses hooks position id replay) := by
  rw [dependencyStatus, Replay.dependencyUses, follows.hooks, ← follows.roster]
  cases hooks.scheduling replay.hooks id with
  | stage =>
      exact Board.Loaded.windowStatus_counts (.beforeStage position) follows.sound accounts
  | dag needs =>
      cases needs with
      | nil =>
          rw [← List.append_nil earlier] at accounts
          exact accounts
      | cons need needs =>
          exact Board.Loaded.forNames_counts (need :: needs) .dag follows.sound accounts

theorem releaseJob_counts (position : Position) (id : JobId) :
    Action.Counts (releaseJob hooks position id) (Replay.releaseUses hooks position id) := by
  intro origin progress replay earlier follows accounts
  have counted := dependencyStatus_counts hooks position id follows accounts
  obtain ⟨next, waited, asked⟩ := dependencyStatus_follows hooks follows position id
  rw [waited] at counted
  simp only [releaseJob, Replay.releaseUses, waited]
  generalize Replay.dependencyStatus hooks position id replay = scanned at asked ⊢
  obtain ⟨dependency, scanned⟩ := scanned
  dsimp only at asked counted ⊢
  rw [Progress.call, asked.hooks, ← List.append_assoc]
  cases hooks.release scanned.hooks id dependency with
  | mk answer after =>
      cases answer with
      | error reason =>
          rw [List.append_nil]
          exact counted
      | ok update? =>
          cases update? with
          | none =>
              rw [List.append_nil]
              exact counted
          | some update =>
              have set := Board.Loaded.setStatus_counts id update asked.sound counted
              rw [asked.roster] at set
              exact set

theorem storeStage_counts (position : Position) :
    Action.Counts (storeStage hooks position) fun _ => [.lookup (.atStage position)] := by
  intro origin progress replay earlier follows accounts
  have counted :
      (progress.ask fun loaded => loaded.windowStatus (.atStage position)).2.loaded.memo.Accounts
        (earlier ++ [.lookup (.atStage position)]) :=
    Board.Loaded.windowStatus_counts (.atStage position) follows.sound accounts
  dsimp only [storeStage]
  split
  · rename_i after called
    rw [← Progress.loaded_of_call called] at counted
    exact counted
  · rename_i fault after called
    rw [← Progress.loaded_of_call called] at counted
    exact counted

theorem runStage_counts (position : Position) :
    Action.Counts (runStage hooks position) (Replay.stageUses hooks position) := by
  intro origin progress replay earlier follows accounts
  obtain ⟨next, entered, asked⟩ := follows.ask (Board.Loaded.createdIds_refines position)
  have memoEq : next.loaded.memo = progress.loaded.memo :=
    congrArg (fun asked => asked.2.loaded.memo) entered.symm
  rw [← memoEq] at accounts
  have counted := forEach_counts (mirrors_releaseJob hooks position)
    (releaseJob_counts hooks position) (replay.roster.createdIds position) asked accounts
  simp only [runStage, Replay.stageUses, entered]
  rcases (mirrors_forEach (mirrors_releaseJob hooks position)
      (replay.roster.createdIds position) asked).cases with
    ⟨fault, offered, noted, acted, stepped, after⟩ | ⟨_, offered, noted, acted, stepped, after⟩
  · rw [acted] at counted
    simp only [acted, stepped, List.append_nil]
    exact counted
  · rw [acted] at counted
    simp only [acted, stepped]
    rw [← List.append_assoc]
    exact storeStage_counts hooks position after counted

/-! ## The rest of a pass -/

theorem storePipeline_memo (progress : Progress σ) :
    (storePipeline hooks progress).2.loaded.memo = progress.loaded.memo := by
  dsimp only [storePipeline]
  split
  · rename_i after called
    have kept := congrArg Board.Loaded.memo (Progress.loaded_of_call called)
    exact kept
  · rename_i fault after called
    have kept := congrArg Board.Loaded.memo (Progress.loaded_of_call called)
    exact kept

theorem settle_memo (confirmed ids declined : List JobId) (progress : Progress σ) :
    (settle confirmed ids (declined, progress)).2.loaded.memo = progress.loaded.memo := by
  induction ids generalizing declined progress with
  | nil => rfl
  | cons id rest ih =>
      rw [settle]
      split
      · dsimp only
        split
        · exact ih _ _
        · exact ih _ _
      · exact ih _ _

theorem markRows_memo (batchSize fuel : Nat) (declined : List JobId) (progress : Progress σ) :
    (markRows hooks batchSize fuel declined progress).2.loaded.memo = progress.loaded.memo := by
  induction fuel generalizing declined progress with
  | zero => rfl
  | succ fuel ih =>
      rw [markRows]
      dsimp only
      split
      · rfl
      · split
        · rename_i confirmed after called
          have kept := congrArg Board.Loaded.memo (Progress.loaded_of_call called)
          exact (ih _ _).trans ((settle_memo _ _ _ _).trans kept)
        · rename_i fault after called
          exact congrArg Board.Loaded.memo (Progress.loaded_of_call called)

theorem runLoaded_counts (batchSize fuel : Nat) :
    Action.Counts (runLoaded hooks batchSize fuel) (Replay.runUses hooks) := by
  intro origin progress replay earlier follows accounts
  obtain ⟨next, entered, asked⟩ := follows.ask Board.Loaded.positions_refines
  have memoEq : next.loaded.memo = progress.loaded.memo :=
    congrArg (fun asked => asked.2.loaded.memo) entered.symm
  rw [← memoEq] at accounts
  have counted := forEach_counts (mirrors_runStage hooks) (runStage_counts hooks)
    replay.roster.positions asked accounts
  have kept : (runLoaded hooks batchSize fuel progress).2.loaded.memo =
      (forEach (runStage hooks) replay.roster.positions next).2.loaded.memo := by
    simp only [runLoaded, entered]
    generalize forEach (runStage hooks) replay.roster.positions next = acted
    obtain ⟨fault | _, staged⟩ := acted
    · rfl
    · have stored := storePipeline_memo hooks staged
      dsimp only
      split
      · rename_i fault last closed
        rw [closed] at stored
        exact stored
      · rename_i composite last closed
        rw [closed] at stored
        have marked := markRows_memo hooks batchSize fuel [] last
        split
        · rename_i fault final ended
          rw [ended] at marked
          exact marked.trans stored
        · rename_i final ended
          rw [ended] at marked
          exact marked.trans stored
  rw [kept]
  exact counted

end Pass

/-! ## Runs of requests -/

namespace Ledger

/-- What is used of the memo by a question that needs the rows: nothing where they are not
to be had. -/
def usesOfRows (ledger : Ledger) (uses : Roster → List MemoUse) : List MemoUse :=
  match ledger.load with
  | (.ok roster, _) => uses roster
  | (.error _, _) => []

theorem usesOfRows_loadAside (ledger : Ledger) (uses : Roster → List MemoUse) :
    ledger.usesOfRows uses =
      match ledger.loadAside with
      | (.ok roster, _) => uses roster
      | (.error _, _) => [] := by
  rw [usesOfRows, loadAside]
  generalize ledger.load = loaded
  obtain ⟨(_ | _) | roster, after⟩ := loaded <;> rfl

/-- What a request uses the memo for. -/
def uses (ledger : Ledger) : Request → List MemoUse
  | .windowStatus window => ledger.usesOfRows fun _ => [.lookup window]
  | .forNames names discipline =>
      ledger.usesOfRows fun roster => roster.usesOfNames names discipline
  | .setStatus id _ => ledger.usesOfRows fun roster => roster.usesOfStatus id
  | .withTable _ => [.tableSet]
  | .pass pass _ _ hooks _ =>
      ledger.usesOfRows fun roster => Pass.Replay.runUses pass.hooks (.start roster hooks)
  | _ => []

/-- What requests that are made one after the other use the memo for. -/
def usesAll (ledger : Ledger) : List Request → List MemoUse
  | [] => []
  | request :: rest => ledger.uses request ++ usesAll (ledger.perform request).2 rest

end Ledger

namespace Board

theorem memo_load (board : Board) : board.load.2.memo = board.memo := by
  rw [load]
  split
  · rfl
  · rfl
  · dsimp only
    split <;> rfl

theorem memo_loadAside (board : Board) : board.loadAside.2.memo = board.memo := by
  have kept := board.memo_load
  rw [loadAside]
  split
  · rename_i loads
    rw [loads] at kept
    exact kept
  · rename_i loads
    rw [loads] at kept
    exact kept
  · rename_i loads
    rw [loads] at kept
    exact kept

theorem memo_query (board : Board) {α : Type} {ask : Loaded → α × Loaded}
    (keeps : ∀ loaded, (ask loaded).2.memo = loaded.memo) :
    (board.query ask).2.memo = board.memo := by
  have kept := board.memo_load
  rw [query]
  split
  · rename_i loads
    rw [loads] at kept
    exact (keeps _).trans kept
  · rename_i loads
    rw [loads] at kept
    exact kept

variable {board : Board} {earlier : List MemoUse} (sound : board.Sound)
  (accounts : board.memo.Accounts earlier)

include sound accounts

theorem query_counts {α : Type} {ask : Loaded → α × Loaded} {uses : Roster → List MemoUse}
    (counts : Loaded.Counts ask uses) :
    (board.query ask).2.memo.Accounts (earlier ++ board.ledger.usesOfRows uses) := by
  have kept := board.memo_load
  rw [query, Ledger.usesOfRows]
  rcases load_spec sound with
    ⟨failure, after, loads, scans, _⟩ | ⟨snapshot, after, loads, scans, soundAfter, state⟩
  · rw [loads] at kept
    rw [← kept] at accounts
    simp only [loads, scans, List.append_nil]
    exact accounts
  · rw [loads] at kept
    rw [← kept] at accounts
    simp only [loads, scans]
    exact counts (soundAfter.loaded state) accounts

theorem run_counts {σ : Type} (pass : Pass σ) (stamps : Stamps) (fuel : Nat) (hooks : σ)
    (outbox : Outbox) :
    (pass.run stamps fuel board hooks outbox).board.memo.Accounts
      (earlier ++ board.ledger.usesOfRows fun roster =>
        Pass.Replay.runUses pass.hooks (.start roster hooks)) := by
  have started : (board.record [.passStarted]).ledger = board.ledger := rfl
  have kept := (board.record [.passStarted]).memo_loadAside
  have spec := loadAside_spec (sound.record [.passStarted])
  rw [started] at spec
  rw [Ledger.usesOfRows_loadAside, Pass.run]
  rcases spec with
    ⟨cause, after, loads, scans, _⟩ | ⟨snapshot, after, loads, scans, soundAfter, state⟩
  · rw [loads] at kept
    simp only [loads, scans, List.append_nil]
    rw [kept]
    exact accounts
  · rw [loads] at kept
    let start : Pass.Progress σ :=
      ⟨after.pipeline, after.opened snapshot, hooks, outbox, .start stamps after.pipeline, []⟩
    have opened : start.loaded.Sound := soundAfter.loaded state
    have begins : start.loaded.memo.Accounts earlier := by
      have same : start.loaded.memo = board.memo := kept
      rw [same]
      exact accounts
    simp only [loads, scans]
    exact Pass.runLoaded_counts pass.hooks pass.batchSize fuel (.refl opened) begins

theorem perform_counts (request : Request) :
    (board.perform request).2.memo.Accounts (earlier ++ board.ledger.uses request) := by
  have idle : ∀ {after : Board}, after.memo = board.memo → after.memo.Accounts (earlier ++ []) := by
    intro after kept
    rw [kept, List.append_nil]
    exact accounts
  cases request with
  | windowStatus window => exact query_counts sound accounts (Loaded.windowStatus_counts window)
  | forNames names discipline =>
      exact query_counts sound accounts (Loaded.forNames_counts names discipline)
  | setStatus id update => exact query_counts sound accounts (Loaded.setStatus_counts id update)
  | withTable table => exact accounts.invalidate rfl
  | pass pass stamps fuel hooks outbox =>
      exact run_counts sound accounts pass stamps fuel hooks outbox
  | load => exact idle board.memo_load
  | loadAside => exact idle board.memo_loadAside
  | isLoaded => exact idle rfl
  | all => exact idle (board.memo_query fun _ => rfl)
  | createdIds position => exact idle (board.memo_query fun _ => rfl)
  | unprocessed => exact idle (board.memo_query fun _ => rfl)
  | positions => exact idle (board.memo_query fun _ => rfl)
  | row id => exact idle (board.memo_query fun _ => rfl)
  | setProcessed id => exact idle (board.memo_query fun _ => rfl)
  | withToggles toggles => exact idle rfl

/-- A run of requests adds what they use. -/
theorem performAll_counts (requests : List Request) :
    (board.performAll requests).2.memo.Accounts (earlier ++ board.ledger.usesAll requests) := by
  induction requests generalizing board earlier with
  | nil =>
      rw [Ledger.usesAll, List.append_nil]
      exact accounts
  | cons request rest ih =>
      have agrees := perform_agrees sound request
      have others := ih agrees.sound (perform_counts sound accounts request)
      rw [agrees.ledger, List.append_assoc] at others
      exact others

omit sound accounts in
/-- Whatever is asked of a board that has fetched nothing yet, its memo accounts for it.  Each
lookup of a window was a hit or a miss.  The memo has one entry for each distinct window that
was looked up since everything was forgotten last, and one miss was counted for each distinct
window between one such time and the next.  It was forgotten once for each status that was
given to a job, and once for each table. -/
theorem performAll_memo_accounts (pipeline : PipelineId) (source : Source) (toggles : Toggles)
    (requests : List Request) :
    let memo := ((ofSource pipeline source toggles).performAll requests).2.memo
    let uses := (Ledger.ofSource pipeline source toggles).usesAll requests
    memo.stats.hits + memo.stats.misses = uses.countP MemoUse.isLookup ∧
      memo.entries.length = (MemoUse.epochs uses).current.eraseDups.length ∧
      memo.stats.misses = (MemoUse.epochs uses).distinct ∧
      memo.stats.invalidations =
        uses.countP MemoUse.isStatusSet + uses.countP MemoUse.isTableSet := by
  intro memo uses
  have accounts : memo.Accounts uses :=
    performAll_counts (sound_ofSource pipeline source toggles) .empty requests
  have entries := congrArg List.length accounts.kept
  rw [List.length_map, List.length_reverse] at entries
  exact ⟨accounts.lookups, entries, accounts.misses, accounts.invalidations⟩

/-- The expansion of a need is a hit, and a status that changes nothing empties the memo. -/
example :
    let rows : List Row := [.fresh ⟨1⟩ "build" .running 0, .fresh ⟨2⟩ "test" .created 1]
    let board := ofSource ⟨7⟩ (.memory [(⟨7⟩, rows)]) (.fixed ⟨false, true⟩)
    let requests : List Request :=
      [.windowStatus (.beforeStage 1), .forNames ["test"] .dag, .setStatus ⟨2⟩ ⟨.created, ⟨0⟩⟩,
        .windowStatus (.beforeStage 1)]
    (board.performAll requests).2.memo.stats = ⟨1, 2, 1⟩ := by decide

end Board

end Rollup
