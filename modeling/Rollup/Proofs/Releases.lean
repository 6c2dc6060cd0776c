import Rollup.Proofs.Holding
import Rollup.Proofs.Pass.Account
import Rollup.Proofs.Pass.Offers

/-!
# Releases over many passes

A job that was released is spent: as long as no request and no hook makes a job created,
it is not created again, and no later pass offers it.  That a pass failed in between does
not matter, for an update is in the rows before the next call is made.
-/

namespace Rollup

open Pass

/-! ## Hooks and requests that make no job created -/

/-- Hooks whose updates leave no job created. -/
def Hooks.CreateNothing {σ : Type} (hooks : Hooks σ) : Prop :=
  ∀ state id dependency update,
    (hooks.release state id dependency).1 = .ok (some update) → update.status ≠ .created

namespace Hooks.CreateNothing

variable {σ : Type} {hooks : Hooks σ} {id : JobId} {update : Update}

theorem answer (harmless : hooks.CreateNothing) {state : σ} {call : Call}
    (updated : (hooks.answer state call).1.update? id = some update) :
    update.status ≠ .created := by
  cases call with
  | release other dependency =>
      have answered := harmless state other dependency
      simp only [Hooks.answer] at updated
      generalize (hooks.release state other dependency).1 = answer at answered updated
      rw [Exchange.update?.eq_def] at updated
      split at updated
      · rename_i given same
        cases same
        split at updated
        · cases updated
          exact answered update rfl
        · cases updated
      · cases updated
  | persistStage position status => cases updated
  | persistPipeline composite => cases updated
  | markProcessed batch => cases updated

theorem converse (harmless : hooks.CreateNothing) (calls : List Call) (state : σ) :
    ∀ exchange ∈ (hooks.converse calls state).1,
      exchange.update? id = some update → update.status ≠ .created := by
  induction calls generalizing state with
  | nil => exact fun _ member => absurd member List.not_mem_nil
  | cons call rest ih =>
      intro exchange member
      rcases List.mem_cons.mp member with rfl | member
      · exact harmless.answer
      · exact ih _ exchange member

end Hooks.CreateNothing

/-- A request that makes no job created, neither itself nor through hooks. -/
def Request.CreatesNothing : Request → Prop
  | .setStatus _ update => update.status ≠ .created
  | .pass performed _ _ _ _ => performed.hooks.CreateNothing
  | _ => True

/-! ## Rows in which some jobs are spent -/

/-- Rows of distinct ids, where none of some jobs is created. -/
structure Spent (jobs : List JobId) (rows : List Row) : Prop where
  unique : (rows.map Row.id).Nodup
  created : ∀ row ∈ rows, row.status = .created → row.id ∉ jobs

namespace Spent

variable {jobs : List JobId} {rows : List Row}

theorem map {more : List JobId} {change : Row → Row} (spent : Spent jobs rows)
    (keepsId : ∀ row, (change row).id = row.id)
    (harmless : ∀ row, (change row).status = .created →
      row.status = .created ∧ row.id ∉ more) :
    Spent (more ++ jobs) (rows.map change) where
  unique := by
    have same : Row.id ∘ change = Row.id := funext keepsId
    rw [List.map_map, same]
    exact spent.unique
  created := by
    intro changed member created
    obtain ⟨row, inRows, rfl⟩ := List.mem_map.mp member
    obtain ⟨wasCreated, fresh⟩ := harmless row created
    rw [keepsId, List.mem_append, not_or]
    exact ⟨fresh, spent.created row inRows wasCreated⟩

theorem changeLast (spent : Spent jobs rows) (id : JobId) {change : Row → Row}
    (keepsId : ∀ row, (change row).id = row.id)
    (harmless : ∀ row, (change row).status = .created → row.status = .created) :
    Spent jobs (changeLast id change rows) := by
  rw [changeLast_of_nodup id change spent.unique]
  refine (spent.map ?_ ?_ : Spent ([] ++ jobs) _)
  · intro row
    split
    · exact keepsId row
    · rfl
  · intro row created
    split at created
    · exact ⟨harmless row created, List.not_mem_nil⟩
    · exact ⟨created, List.not_mem_nil⟩

/-- Releases by harmless hooks spend their jobs. -/
theorem after (spent : Spent jobs rows) {said : Transcript}
    (harmless : ∀ id update, ∀ exchange ∈ said, exchange.update? id = some update →
      update.status ≠ .created) :
    Spent (said.filterMap Exchange.released? ++ jobs) (rows.map (Row.after said)) := by
  apply spent.map
  · exact fun _ => rfl
  intro row created
  exact row.created_of_after harmless created

theorem of_append {more : List JobId} (spent : Spent (more ++ jobs) rows) :
    Spent jobs rows where
  unique := spent.unique
  created row member created among :=
    spent.created row member created (List.mem_append_right more among)

end Spent

/-! ## Conversations with the hooks of many passes -/

/-- What is said to hooks when a board does what is asked of it. -/
def Board.exchanges (board : Board) : Request → Transcript
  | .pass pass stamps fuel hooks outbox =>
      (pass.run stamps fuel board hooks outbox).transcript pass hooks
  | _ => []

/-- What is said to hooks in requests made one after the other. -/
def Board.allExchanges (board : Board) : List Request → Transcript
  | [] => []
  | request :: rest => board.exchanges request ++ (board.perform request).2.allExchanges rest

/-- A later exchange does not offer what an earlier one released. -/
def Pass.Exchange.Spares (earlier later : Exchange) : Prop :=
  ∀ id, earlier.released? = some id → later.offered? ≠ some id

/-- Where each offer is of another job, no released job is offered. -/
theorem Pass.Transcript.pairwise_spares {said : Transcript}
    (distinct : (said.filterMap Exchange.offered?).Nodup) : said.Pairwise Exchange.Spares := by
  apply (List.pairwise_filterMap.mp distinct).imp
  intro earlier later different id released offered
  exact different id (Exchange.offered?_of_released? released) id offered rfl

/-- What was said offered no job that is spent, and none twice, and what it released is
spent in the ledger that it left. -/
structure Spends (jobs : List JobId) (said : Transcript) (left : Ledger) : Prop where
  left : left.Holds (Spent (said.filterMap Exchange.released? ++ jobs))
  distinct : (said.filterMap Exchange.offered?).Nodup
  fresh : ∀ id ∈ said.filterMap Exchange.offered?, id ∉ jobs

theorem Spends.nothing {jobs : List JobId} {left : Ledger} (kept : left.Holds (Spent jobs)) :
    Spends jobs [] left :=
  ⟨kept, .nil, fun _ member => absurd member List.not_mem_nil⟩

namespace Board

variable {board : Board} {jobs : List JobId}

theorem run_spends {σ : Type} (pass : Pass σ) (stamps : Stamps) (fuel : Nat)
    (sound : board.Sound) (holds : board.ledger.Holds (Spent jobs))
    (harmless : pass.hooks.CreateNothing) (hooks : σ) (outbox : Outbox) :
    let outcome := pass.run stamps fuel board hooks outbox
    Spends jobs (outcome.transcript pass hooks) outcome.board.ledger := by
  intro outcome
  obtain ⟨given, left⟩ := holds_loadAside sound holds
  cases loads : board.loadAside.1 with
  | error cause =>
      obtain ⟨_, silent, ledgerEq⟩ :=
        Pass.run_unavailable pass stamps fuel sound hooks outbox loads
      rw [silent, ledgerEq]
      exact .nothing left
  | ok snapshot =>
      have spent : Spent jobs snapshot.rows := given snapshot loads
      obtain ⟨final, state, rowsEq⟩ := run_rows pass stamps fuel sound hooks outbox loads
      obtain ⟨offers, _⟩ :=
        Pass.run_offers pass stamps fuel sound hooks outbox loads spent.unique
      refine ⟨.of_loaded (congrArg (Option.map _) state) ?_, ?_, ?_⟩
      · rw [rowsEq, Transcript.apply_of_nodup _ spent.unique]
        apply spent.after
        intro id update exchange member
        exact harmless.converse _ hooks exchange member
      · exact offers.sublist.nodup (createdJobs_nodup spent.unique)
      · intro id offered
        obtain ⟨row, inRows, created, rfl⟩ := mem_createdJobs.mp (offers.subset offered)
        exact spent.created row inRows created

theorem perform_spends (sound : board.Sound) (holds : board.ledger.Holds (Spent jobs))
    {request : Request} (harmless : request.CreatesNothing) :
    Spends jobs (board.exchanges request) (board.perform request).2.ledger := by
  rw [(perform_agrees sound request).ledger]
  cases request with
  | load => exact .nothing holds.load.2
  | loadAside => exact .nothing holds.loadAside.2
  | isLoaded => exact .nothing holds
  | all => exact .nothing (holds.query fun _ kept => kept)
  | windowStatus window => exact .nothing (holds.query fun _ kept => kept)
  | forNames names discipline =>
      apply Spends.nothing
      apply holds.query
      intro roster kept
      cases discipline <;> exact kept
  | createdIds position => exact .nothing (holds.query fun _ kept => kept)
  | unprocessed => exact .nothing (holds.query fun _ kept => kept)
  | positions => exact .nothing (holds.query fun _ kept => kept)
  | row id => exact .nothing (holds.query fun _ kept => kept)
  | setStatus id update =>
      apply Spends.nothing
      apply holds.query
      intro roster spent
      apply spent.changeLast id
      · exact fun _ => rfl
      · exact fun _ created => absurd created harmless
  | setProcessed id =>
      apply Spends.nothing
      apply holds.query
      intro roster spent
      apply spent.changeLast id
      · exact fun _ => rfl
      · exact fun _ created => created
  | withTable table => exact .nothing ⟨holds.loaded, holds.fetched⟩
  | withToggles toggles => exact .nothing ⟨holds.loaded, holds.fetched⟩
  | pass pass stamps fuel hooks outbox =>
      rw [← (perform_agrees sound (.pass pass stamps fuel hooks outbox)).ledger]
      exact run_spends pass stamps fuel sound holds harmless hooks outbox

/-- Requests made one after the other offer no job that is spent, and none that one of
them released before. -/
theorem performAll_spends (sound : board.Sound) (holds : board.ledger.Holds (Spent jobs))
    {requests : List Request} (harmless : ∀ request ∈ requests, request.CreatesNothing) :
    let said := board.allExchanges requests
    (board.performAll requests).2.ledger.Holds (Spent jobs) ∧
      said.Pairwise Exchange.Spares ∧
      ∀ id ∈ said.filterMap Exchange.offered?, id ∉ jobs := by
  induction requests generalizing board jobs with
  | nil => exact ⟨holds, .nil, fun _ member => absurd member List.not_mem_nil⟩
  | cons request rest ih =>
      obtain ⟨harmlessFirst, harmlessRest⟩ := List.forall_mem_cons.mp harmless
      obtain ⟨left, distinct, fresh⟩ := perform_spends sound holds harmlessFirst
      obtain ⟨leftAtEnd, spares, freshRest⟩ :=
        ih (perform_agrees sound request).sound left harmlessRest
      refine ⟨leftAtEnd.imp fun _ => Spent.of_append, ?_, ?_⟩
      · refine List.pairwise_append.mpr ⟨Transcript.pairwise_spares distinct, spares, ?_⟩
        intro earlier inFirst later inRest id released offered
        apply freshRest id (List.mem_filterMap.mpr ⟨later, inRest, offered⟩)
        apply List.mem_append_left
        exact List.mem_filterMap.mpr ⟨earlier, inFirst, released⟩
      · intro id offered
        rw [allExchanges, List.filterMap_append] at offered
        rcases List.mem_append.mp offered with offered | offered
        · exact fresh id offered
        · intro among
          exact freshRest id offered (List.mem_append_right _ among)

/-- Where ids are distinct and neither requests nor hooks make a job created, no job is
offered again once it was released, whatever passes came to in between, so none is released
twice.  A pass that succeeds offers the jobs that are created when it begins, each once,
and no others. -/
theorem performAll_offers_once (reached : board.Reached)
    (unique : board.ledger.Holds fun rows => (rows.map Row.id).Nodup)
    {requests : List Request} (harmless : ∀ request ∈ requests, request.CreatesNothing) :
    let said := board.allExchanges requests
    said.Pairwise Exchange.Spares ∧
      (said.filterMap Exchange.released?).Nodup ∧
      ∀ (before after : List Request) {σ : Type} (pass : Pass σ) (stamps : Stamps)
        (fuel : Nat) (hooks : σ) (outbox : Outbox),
        requests = before ++ .pass pass stamps fuel hooks outbox :: after →
        let met := (board.performAll before).2
        let outcome := pass.run stamps fuel met hooks outbox
        ∀ report, outcome.result = .ok report →
          ∃ snapshot, met.loadAside.1 = .ok snapshot ∧
            (outcome.transcript pass hooks).filterMap Exchange.offered? =
              createdJobs snapshot.rows ∧
            (createdJobs snapshot.rows).Nodup := by
  intro said
  have start : board.ledger.Holds (Spent []) :=
    unique.imp fun rows distinct => ⟨distinct, fun _ _ _ => List.not_mem_nil⟩
  obtain ⟨_, spares, _⟩ := performAll_spends reached.sound start harmless
  refine ⟨spares, ?once, ?complete⟩
  case once =>
    apply List.pairwise_filterMap.mpr
    apply spares.imp
    intro earlier later spared id released other releasedAgain same
    rw [← same] at releasedAgain
    exact spared id released (Exchange.offered?_of_released? releasedAgain)
  case complete =>
    intro before after σ pass stamps fuel hooks outbox split met outcome report result
    have harmlessBefore : ∀ request ∈ before, request.CreatesNothing := by
      intro request member
      apply harmless
      rw [split]
      exact List.mem_append_left _ member
    have soundMet : met.Sound := (performAll_agrees reached.sound before).sound
    obtain ⟨holdsMet, _⟩ := performAll_spends reached.sound start harmlessBefore
    obtain ⟨snapshot, loads⟩ := Pass.run_loads pass stamps fuel soundMet hooks outbox result
    have distinct := ((holds_loadAside soundMet holdsMet).1 snapshot loads).unique
    obtain ⟨_, complete⟩ :=
      Pass.run_offers pass stamps fuel soundMet hooks outbox loads distinct
    exact ⟨snapshot, loads, complete report result, createdJobs_nodup distinct⟩

/-- The first pass fails behind the release of the first job, and the second one offers
the second job only. -/
theorem performAll_offers_once_two_passes :
    let rows : List Row := [.fresh ⟨1⟩ "build" .created 0, .fresh ⟨2⟩ "test" .created 1]
    let board := Board.ofSource ⟨7⟩ (.memory [(⟨7⟩, rows)]) (.fixed ⟨false, true⟩)
    let requests : List Request :=
      [.pass (ofHooks (readOnlyFrom 0)) .blank 2 () (.ofSink .discard),
        .pass (ofHooks agreeableHooks) .blank 2 () (.ofSink .discard)]
    let said := board.allExchanges requests
    board.Reached ∧ (board.ledger.Holds fun rows => (rows.map Row.id).Nodup) ∧
      (∀ request ∈ requests, request.CreatesNothing) ∧
      said.filterMap Exchange.offered? = [⟨1⟩, ⟨2⟩] ∧ said.Pairwise Exchange.Spares := by
  intro rows board requests said
  have reached : board.Reached := ⟨_, _, _, [], rfl⟩
  have unique : board.ledger.Holds fun rows => (rows.map Row.id).Nodup := by
    constructor
    · intro rows state
      cases state
    · intro _ number rows fetched
      cases fetched
      decide
  have harmless : ∀ request ∈ requests, request.CreatesNothing := by
    intro request member
    rcases List.mem_cons.mp member with rfl | member
    · rintro _ _ _ _ answered
      cases answered
      decide
    · rw [List.mem_singleton.mp member]
      rintro _ _ _ _ answered
      cases answered
      decide
  exact ⟨reached, unique, harmless, by decide,
    (performAll_offers_once reached unique harmless).1⟩

end Board

end Rollup
