import Rollup.Proofs.Pass.Account
import Rollup.Proofs.Requests

/-!
# One fetch

A board fetches when it is first asked something that needs the rows, and keeps what came
of it for good, rows or a fault.  From then on it does not matter what the source would
answer: the ledger of the board gives the same answers with any other source behind it.
A fault is the answer to everything that needs the rows, and then no hook is called and
nothing is memoized.
-/

namespace Rollup

universe u

/-- What a fetch that returned comes to: the rows in stage order, or why there are none. -/
def Fetched.outcome? (pipeline : PipelineId) : Fetched → Option (Except Unavailable (List Row))
  | .rows given => some (.ok (sortByPosition given))
  | .fault reason => some (.error ⟨pipeline, reason.message⟩)
  | .crashed _ => none

namespace Request

/-- Whether a request is about the rows. -/
def needsRows : Request → Bool
  | .isLoaded => false
  | .withTable _ => false
  | .withToggles _ => false
  | _ => true

/-- The answer to a request that needs the rows where they are not to be had.  A pass leaves
its hooks and its outbox as they are, with nothing on the trace. -/
def refusal (cause : Unavailable) : Request → Answer
  | .pass _ _ _ hooks outbox => .shown ⟨.error (.unavailable cause), hooks, outbox, []⟩
  | _ => .failed (.unavailable cause)

end Request

namespace Ledger

variable {ledger : Ledger} {outcome : Except Unavailable (List Row)}

/-! ## Before the fetch -/

/-- The ledger once it has fetched with some outcome. -/
def fetched (outcome : Except Unavailable (List Row)) (ledger : Ledger) : Ledger :=
  { ledger with fetches := ledger.fetches + 1, state := some outcome }

/-- A ledger that still has to fetch loads like one that has done so. -/
theorem load_of_fetch (unfetched : ledger.state = none)
    (returned : (ledger.source.fetch ledger.fetches ledger.pipeline).outcome? ledger.pipeline =
      some outcome) :
    ledger.load = (ledger.fetched outcome).load := by
  rw [load, unfetched]
  dsimp only
  cases fetch : ledger.source.fetch ledger.fetches ledger.pipeline with
  | rows rows =>
      rw [fetch] at returned
      cases returned
      rfl
  | fault fault =>
      rw [fetch] at returned
      cases returned
      rfl
  | crashed text =>
      rw [fetch] at returned
      cases returned

theorem query_of_load {α : Type} {left right : Ledger} (same : left.load = right.load)
    (scan : Roster → α × Roster) : left.query scan = right.query scan := by
  rw [query, query, same]

theorem loadAside_of_load {left right : Ledger} (same : left.load = right.load) :
    left.loadAside = right.loadAside := by
  rw [loadAside, loadAside, same]

/-- What needs the rows is a matter of what loading them comes to. -/
theorem perform_of_load {left right : Ledger} (same : left.load = right.load)
    {request : Request} (needs : request.needsRows = true) :
    left.perform request = right.perform request := by
  cases request with
  | load => rw [perform, perform, same]
  | loadAside => rw [perform, perform, loadAside_of_load same]
  | isLoaded => cases needs
  | withTable table => cases needs
  | withToggles toggles => cases needs
  | pass pass stamps fuel hooks outbox =>
      rw [perform, perform, runPass, runPass, loadAside_of_load same]
  | _ => rw [perform, perform, query_of_load same]

/-- What does not need the rows changes nothing but how composites are resolved. -/
theorem perform_idle {request : Request} (idle : request.needsRows = false) :
    ∃ resolver, (ledger.perform request).2 = { ledger with resolver } := by
  cases request with
  | isLoaded => exact ⟨ledger.resolver, rfl⟩
  | withTable table => exact ⟨_, rfl⟩
  | withToggles toggles => exact ⟨_, rfl⟩
  | _ => cases idle

/-! ## After the fetch -/

/-- The ledger with another source behind it, of which it made some number of fetches. -/
def withSource (source : Source) (fetches : Nat) (ledger : Ledger) : Ledger :=
  { ledger with source, fetches }

/-- What a ledger does that has the outcome of its fetch: the outcome stays there, and the
source behind the ledger does not matter. -/
structure Sticks {α : Type u} (act : Ledger → α × Ledger) (ledger : Ledger) : Prop where
  kept : (act ledger).2.state.isSome = true
  source : ∀ source fetches, act (ledger.withSource source fetches) =
    ((act ledger).1, (act ledger).2.withSource source fetches)

/-- It makes no fetch. -/
theorem Sticks.fetches {α : Type u} {act : Ledger → α × Ledger} (sticks : Sticks act ledger) :
    (act ledger).2.fetches = ledger.fetches := by
  have same := sticks.source ledger.source ledger.fetches
  exact congrArg (fun acted => acted.2.fetches) same

/-- Loading comes to the outcome, and changes nothing. -/
theorem load_of_state (state : ledger.state.isSome = true) :
    ∃ result, ∀ source fetches, (ledger.withSource source fetches).load =
      (result, ledger.withSource source fetches) := by
  obtain ⟨outcome, found⟩ := Option.isSome_iff_exists.mp state
  cases outcome with
  | ok rows =>
      refine ⟨.ok ⟨rows, ledger.resolver⟩, ?_⟩
      intro source fetches
      simp only [load, withSource, found]
  | error cause =>
      refine ⟨.error (.unavailable cause), ?_⟩
      intro source fetches
      simp only [load, withSource, found]

theorem load_sticks (state : ledger.state.isSome = true) : Sticks load ledger := by
  obtain ⟨result, loads⟩ := load_of_state state
  have here : ledger.load = (result, ledger) := loads ledger.source ledger.fetches
  constructor
  · rw [here]
    exact state
  · intro source fetches
    rw [here, loads]

theorem loadAside_sticks (state : ledger.state.isSome = true) : Sticks loadAside ledger := by
  obtain ⟨result, loads⟩ := load_of_state state
  have here : ledger.load = (result, ledger) := loads ledger.source ledger.fetches
  cases result with
  | ok roster =>
      constructor
      · simp only [loadAside, here]
        exact state
      · intro source fetches
        simp only [loadAside, here, loads]
  | error failure =>
      constructor
      · simp only [loadAside, here]
        cases failure with
        | unavailable cause => exact state
        | crashed text => rfl
      · intro source fetches
        simp only [loadAside, here, loads]
        cases failure <;> rfl

theorem query_sticks {α : Type} (scan : Roster → α × Roster)
    (state : ledger.state.isSome = true) : Sticks (query · scan) ledger := by
  obtain ⟨result, loads⟩ := load_of_state state
  have here : ledger.load = (result, ledger) := loads ledger.source ledger.fetches
  cases result with
  | ok roster =>
      constructor
      · simp only [query, here]
        rfl
      · intro source fetches
        simp only [query, here, loads]
        rfl
  | error failure =>
      constructor
      · simp only [query, here]
        exact state
      · intro source fetches
        simp only [query, here, loads]

theorem runPass_sticks {σ : Type} (pass : Pass σ) (stamps : Stamps) (fuel : Nat) (hooks : σ)
    (outbox : Outbox) (state : ledger.state.isSome = true) :
    Sticks (fun ledger => ledger.runPass pass stamps fuel hooks outbox) ledger := by
  obtain ⟨kept, sources⟩ := loadAside_sticks state
  cases loads : ledger.loadAside with
  | mk result after =>
      rw [loads] at kept sources
      cases result with
      | ok roster =>
          constructor
          · simp only [runPass, loads]
            rfl
          · intro source fetches
            simp only [runPass, loads, sources]
            rfl
      | error cause =>
          constructor
          · simp only [runPass, loads]
            exact kept
          · intro source fetches
            simp only [runPass, loads, sources]

theorem Sticks.answered {α : Type} {act : Ledger → Except Board.Failure α × Ledger}
    (sticks : Sticks act ledger) (wrap : α → Answer) :
    Sticks (fun ledger => Rollup.answered wrap (act ledger)) ledger where
  kept := sticks.kept
  source source fetches := by
    simp only [Rollup.answered, sticks.source]

theorem perform_sticks (state : ledger.state.isSome = true) (request : Request) :
    Sticks (perform · request) ledger := by
  cases request with
  | load => exact (load_sticks state).answered _
  | loadAside =>
      have sticks := loadAside_sticks state
      constructor
      · exact sticks.kept
      · intro source fetches
        simp only [perform, answeredAside, sticks.source]
  | isLoaded => exact ⟨state, fun _ _ => rfl⟩
  | withTable table => exact ⟨state, fun _ _ => rfl⟩
  | withToggles toggles => exact ⟨state, fun _ _ => rfl⟩
  | pass pass stamps fuel hooks outbox =>
      have sticks := runPass_sticks pass stamps fuel hooks outbox state
      constructor
      · exact sticks.kept
      · intro source fetches
        simp only [perform, sticks.source]
  | _ => exact (query_sticks _ state).answered _

theorem performAll_sticks (state : ledger.state.isSome = true) (requests : List Request) :
    Sticks (performAll · requests) ledger := by
  induction requests generalizing ledger with
  | nil => exact ⟨state, fun _ _ => rfl⟩
  | cons request rest ih =>
      have first := perform_sticks state request
      have others := ih first.kept
      constructor
      · exact others.kept
      · intro source fetches
        simp only [performAll, Rollup.performAll, first.source]
        have same := others.source source fetches
        simp only [performAll] at same
        rw [same]

/-! ## Runs -/

/-- A ledger that still has to fetch does so for the first request that needs the rows, and
never again.  The answers from there on are those of any ledger that has the outcome of the
fetch, whatever its source. -/
theorem performAll_of_fetch (unfetched : ledger.state = none)
    (returned : (ledger.source.fetch ledger.fetches ledger.pipeline).outcome? ledger.pipeline =
      some outcome) (requests : List Request) :
    let met := ledger.performAll (requests.takeWhile fun request => !request.needsRows)
    (ledger.performAll requests).2.fetches =
        ledger.fetches + (if requests.any Request.needsRows then 1 else 0) ∧
      ∀ source fetches, (ledger.performAll requests).1 = met.1 ++
        (performAll ⟨ledger.pipeline, source, fetches, some outcome, met.2.resolver⟩
          (requests.dropWhile fun request => !request.needsRows)).1 := by
  induction requests generalizing ledger with
  | nil => exact ⟨rfl, fun _ _ => rfl⟩
  | cons request rest ih =>
      cases needs : request.needsRows with
      | false =>
          obtain ⟨resolver, unmoved⟩ := @perform_idle ledger _ needs
          have others := @ih { ledger with resolver } unfetched returned
          simp only [performAll, Rollup.performAll, List.takeWhile_cons, List.dropWhile_cons,
            List.any_cons, needs, unmoved, Bool.not_false, Bool.false_or, if_true] at others ⊢
          refine ⟨others.1, ?_⟩
          intro source fetches
          rw [others.2 source fetches]
          rfl
      | true =>
          have sticks := @performAll_sticks (ledger.fetched outcome) rfl (request :: rest)
          have same : ledger.performAll (request :: rest) =
              (ledger.fetched outcome).performAll (request :: rest) := by
            simp only [performAll, Rollup.performAll,
              perform_of_load (load_of_fetch unfetched returned) needs]
          simp only [same, List.takeWhile_cons, List.dropWhile_cons, List.any_cons, needs,
            Bool.not_true, Bool.true_or, if_true]
          refine ⟨sticks.fetches, ?_⟩
          intro source fetches
          exact (congrArg Prod.fst (sticks.source source fetches)).symm

end Ledger

/-- Nothing was memoized, and the memo was asked for nothing. -/
structure Memo.Unused (memo : Memo) : Prop where
  entries : memo.entries = []
  hits : memo.stats.hits = 0
  misses : memo.stats.misses = 0

namespace Board

/-! ## Without rows -/

/-- A board whose rows are not to be had: it has a fault in their place, or will get it when
it fetches. -/
structure Denied (cause : Unavailable) (board : Board) : Prop where
  state : board.state = some (.error cause) ∨ board.state = none ∧
    ((board.source.fetch board.fetches board.pipeline).outcome? board.pipeline =
      some (.error cause))
  memo : board.memo.Unused

namespace Denied

variable {cause : Unavailable} {board : Board}

/-- It loads the fault. -/
theorem load (denied : Denied cause board) :
    ∃ after, board.load = (.error (.unavailable cause), after) ∧ Denied cause after := by
  rcases denied.state with kept | ⟨unfetched, returned⟩
  · refine ⟨board, ?_, denied⟩
    rw [Board.load, kept]
  · rw [Board.load, unfetched]
    dsimp only
    cases fetch : board.source.fetch board.fetches board.pipeline with
    | rows rows =>
        rw [fetch] at returned
        cases returned
    | fault fault =>
        rw [fetch] at returned
        cases returned
        exact ⟨_, rfl, .inl rfl, denied.memo⟩
    | crashed text =>
        rw [fetch] at returned
        cases returned

theorem loadAside (denied : Denied cause board) :
    ∃ after, board.loadAside = (.error cause, after) ∧ Denied cause after := by
  obtain ⟨after, loads, deniedAfter⟩ := denied.load
  refine ⟨after, ?_, deniedAfter⟩
  rw [Board.loadAside, loads]

/-- Whatever is asked about the rows, the fault is the answer. -/
theorem asked {α : Type} (denied : Denied cause board) (ask : Loaded → α × Loaded)
    (wrap : α → Answer) :
    ∃ after, answered wrap (board.query ask) = (.failed (.unavailable cause), after) ∧
      Denied cause after := by
  obtain ⟨after, loads, deniedAfter⟩ := denied.load
  refine ⟨after, ?_, deniedAfter⟩
  rw [query, loads]
  rfl

/-- A pass ends with the fault before it calls a hook. -/
theorem run {σ : Type} (denied : Denied cause board) (pass : Pass σ) (stamps : Stamps)
    (fuel : Nat) (hooks : σ) (outbox : Outbox) :
    ∃ after, pass.run stamps fuel board hooks outbox =
      ⟨.error (.unavailable cause), after, hooks, outbox, []⟩ ∧ Denied cause after := by
  have started : Denied cause (board.record [.passStarted]) := ⟨denied.state, denied.memo⟩
  obtain ⟨after, loads, deniedAfter⟩ := started.loadAside
  refine ⟨after, ?_, deniedAfter⟩
  rw [Pass.run, loads]

theorem perform_refused (denied : Denied cause board) {request : Request}
    (needs : request.needsRows = true) :
    ∃ after, board.perform request = (request.refusal cause, after) ∧ Denied cause after := by
  cases request with
  | load =>
      obtain ⟨after, loads, deniedAfter⟩ := denied.load
      refine ⟨after, ?_, deniedAfter⟩
      rw [perform, loads]
      rfl
  | loadAside =>
      obtain ⟨after, loads, deniedAfter⟩ := denied.loadAside
      refine ⟨after, ?_, deniedAfter⟩
      rw [perform, loads]
      rfl
  | isLoaded => cases needs
  | withTable table => cases needs
  | withToggles toggles => cases needs
  | pass pass stamps fuel hooks outbox =>
      obtain ⟨after, runs, deniedAfter⟩ := denied.run pass stamps fuel hooks outbox
      refine ⟨after, ?_, deniedAfter⟩
      rw [perform, runs]
      rfl
  | _ => exact denied.asked _ _

/-- Nothing that is asked of the board brings the rows. -/
theorem perform (denied : Denied cause board) (request : Request) :
    Denied cause (board.perform request).2 := by
  cases needs : request.needsRows with
  | true =>
      obtain ⟨after, performed, deniedAfter⟩ := denied.perform_refused needs
      rw [performed]
      exact deniedAfter
  | false =>
      cases request with
      | isLoaded => exact denied
      | withTable table => exact ⟨denied.state, rfl, denied.memo.hits, denied.memo.misses⟩
      | withToggles toggles => exact ⟨denied.state, denied.memo⟩
      | _ => cases needs

theorem performAll (denied : Denied cause board) (requests : List Request) :
    Denied cause (board.performAll requests).2 := by
  induction requests generalizing board with
  | nil => exact denied
  | cons request rest ih => exact ih (denied.perform request)

end Denied

/-! ## Runs -/

/-- However a run of requests goes, there is one fetch in it if some request needs the rows,
and none else.  From the first such request on the answers are those of any ledger that has
what the fetch came to, whatever its source would answer.  After a fault every request that
needs the rows is refused with this fault, a pass before it calls a hook, and nothing was
memoized. -/
theorem performAll_fetches_once {pipeline : PipelineId} {source : Source}
    {outcome : Except Unavailable (List Row)} (toggles : Toggles)
    (returned : (source.fetch 0 pipeline).outcome? pipeline = some outcome)
    (requests : List Request) :
    let start := ofSource pipeline source toggles
    let run := start.performAll requests
    let met := start.performAll (requests.takeWhile fun request => !request.needsRows)
    run.2.fetches = (if requests.any Request.needsRows then 1 else 0) ∧
      (∀ other fetches, run.1 = met.1 ++
        (Ledger.performAll ⟨pipeline, other, fetches, some outcome, met.2.resolver⟩
          (requests.dropWhile fun request => !request.needsRows)).1) ∧
      ∀ fault, source.fetch 0 pipeline = .fault fault →
        (∀ request, request.needsRows = true →
          (run.2.perform request).1 = request.refusal ⟨pipeline, fault.message⟩) ∧
        run.2.memo.entries = [] ∧ run.2.memo.stats.hits = 0 ∧ run.2.memo.stats.misses = 0 := by
  intro start run met
  have sound := sound_ofSource pipeline source toggles
  have agrees := performAll_agrees sound requests
  have agreesIdle := performAll_agrees sound
    (requests.takeWhile fun request => !request.needsRows)
  obtain ⟨fetches, answers⟩ :=
    @Ledger.performAll_of_fetch start.ledger outcome rfl returned requests
  have resolverEq : met.2.resolver = _ := congrArg Ledger.resolver agreesIdle.ledger
  refine ⟨?_, ?_, ?_⟩
  · have fetchesEq : run.2.fetches = _ := congrArg Ledger.fetches agrees.ledger
    rw [fetchesEq, fetches]
    exact Nat.zero_add _
  · intro other count
    rw [resolverEq, agreesIdle.answer, agrees.answer]
    exact answers other count
  · intro fault faulty
    have denied : Denied ⟨pipeline, fault.message⟩ start := by
      refine ⟨.inr ⟨rfl, ?_⟩, rfl, rfl, rfl⟩
      exact congrArg (Fetched.outcome? pipeline) faulty
    have deniedAfter := denied.performAll requests
    refine ⟨?_, deniedAfter.memo.entries, deniedAfter.memo.hits, deniedAfter.memo.misses⟩
    intro request needs
    obtain ⟨after, performed, _⟩ := deniedAfter.perform_refused needs
    exact congrArg Prod.fst performed

/-- The second fetch of this source would bring a row, but it is never made: the job is not
found at any time, and the pass releases nothing. -/
theorem performAll_fetches_once_unreachable :
    let source : Source := .scripted
      [.fault (.unreachable "refused"), .rows [.fresh ⟨1⟩ "build" .created 0]]
    let start := ofSource ⟨7⟩ source (.fixed ⟨false, true⟩)
    let cause : Unavailable := ⟨⟨7⟩, "Status source unreachable: refused"⟩
    let requests : List Request := [.isLoaded, .row ⟨1⟩, .withTable .standard, .loadAside]
    let run := start.performAll requests
    let outbox : Outbox := .ofSink .discard
    (source.fetch 0 ⟨7⟩).outcome? ⟨7⟩ = some (.error cause) ∧
      run.2.fetches = 1 ∧
      (run.2.perform (.setStatus ⟨1⟩ ⟨.success, ⟨1⟩⟩)).1 = .failed (.unavailable cause) ∧
      (run.2.perform (.pass (Pass.ofHooks Pass.agreeableHooks) .blank 2 () outbox)).1 =
        .shown (⟨.error (.unavailable cause), (), outbox, []⟩ : Pass.Showing Unit) := by
  intro source start cause requests run outbox
  have returned : (source.fetch 0 ⟨7⟩).outcome? ⟨7⟩ = some (.error cause) := rfl
  obtain ⟨fetches, _, denied⟩ := performAll_fetches_once (.fixed ⟨false, true⟩) returned requests
  obtain ⟨refused, _⟩ := denied (.unreachable "refused") rfl
  exact ⟨returned, fetches, refused _ rfl, refused _ rfl⟩

end Board

end Rollup
