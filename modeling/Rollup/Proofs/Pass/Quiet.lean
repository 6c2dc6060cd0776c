import Rollup.Pass.Recording
import Rollup.Proofs.Pass.Steady
import Rollup.Proofs.Pass.StageGate
import Rollup.Proofs.Preceding

/-!
# Second passes

What a first pass released is not created any more, and what it held is held again: when the
second pass comes to a job, the rows in front of the job are those that the first pass had
in front of it, for the first pass was through with them.  So steady hooks are asked the
same about the job, and decide the same.  A second pass releases nothing, and reports what
the first one did.
-/

namespace Rollup

/-- What holds of each item of which it holds before holds of all items. -/
theorem forall_mem_of_first {α : Type} {P : α → Prop} {items : List α}
    (first : ∀ before item after, items = before ++ item :: after →
      (∀ other ∈ before, P other) → P item) : ∀ item ∈ items, P item := by
  have behind : ∀ rest before, items = before ++ rest → (∀ other ∈ before, P other) →
      ∀ item ∈ rest, P item := by
    intro rest
    induction rest with
    | nil => exact fun _ _ _ _ member => absurd member List.not_mem_nil
    | cons head rest ih =>
        intro before split holds
        have here := first before head rest split holds
        have others := ih (before ++ [head]) (split.trans (by simp))
          (List.forall_mem_append.mpr ⟨holds, fun _ member => List.mem_singleton.mp member ▸ here⟩)
        exact List.forall_mem_cons.mpr ⟨here, others⟩
  exact behind items [] rfl fun _ member => absurd member List.not_mem_nil

namespace Pass

namespace Replay

variable {σ : Type} {hooks : Hooks σ} {usual : σ → Prop} {waits : JobId → Scheduling}
  {decides : JobId → Status → Option Status} {found : Switches} {replay next : Replay σ}
  {said more : Transcript} {acted again : Except Fault Unit × Replay σ}

/-- Two replays with steady hooks and fixed switches, the second one of what the first left
when it succeeded. -/
structure Twice (hooks : Hooks σ) (usual : σ → Prop) (waits : JobId → Scheduling)
    (decides : JobId → Status → Option Status) (found : Switches) (replay next : Replay σ)
    (said more : Transcript) (acted again : Except Fault Unit × Replay σ) : Prop where
  steady : hooks.Steady usual waits decides
  begins : usual replay.hooks
  resumes : usual next.hooks
  unique : (replay.roster.rows.map Row.id).Nodup
  ordered : InStageOrder replay.roster.rows
  inNeedOrder : InNeedOrder waits replay.roster.rows
  fixed : ∀ number, replay.roster.resolver.toggles.answers number = found
  first : RunSpeech hooks replay said acted
  succeeds : acted.1 = .ok ()
  continues : next.roster = acted.2.roster
  second : RunSpeech hooks next more again

namespace Twice

variable (twice : Twice hooks usual waits decides found replay next said more acted again)

include twice

theorem rows : next.roster.rows = said.apply replay.roster.rows := by
  rw [twice.continues]
  exact twice.first.speech.rows

theorem table : next.roster.resolver.table = replay.roster.resolver.table := by
  rw [twice.continues]
  exact twice.first.speech.table

theorem switches :
    next.roster.resolver.toggles.answers = replay.roster.resolver.toggles.answers := by
  rw [twice.continues]
  exact twice.first.speech.switches

theorem orderedAgain : InStageOrder next.roster.rows := by
  rw [twice.continues]
  exact twice.first.speech.inStageOrder twice.ordered

theorem uniqueAgain : (next.roster.rows.map Row.id).Nodup := by
  rw [twice.continues, twice.first.speech.map_id]
  exact twice.unique

/-- What is created for the second replay was so for the first one, and was held by it. -/
theorem held {id : JobId} (created : id ∈ createdJobs next.roster.rows) :
    id ∈ createdJobs replay.roster.rows ∧
      ∃ before dependency after, said = before ++ .release id dependency (.ok none) :: after ∧
        decides id dependency = none := by
  obtain ⟨decided, _⟩ := twice.steady.speech twice.begins twice.first.speech
  rw [twice.continues] at created
  obtain ⟨row, inRows, isCreated, rfl⟩ := mem_createdJobs.mp created
  obtain ⟨among, notReleased⟩ :=
    twice.steady.created_of_speech twice.begins twice.first.speech twice.unique inRows isCreated
  refine ⟨among, ?_⟩
  rw [← (twice.first.offers twice.ordered twice.unique).2 twice.succeeds] at among
  obtain ⟨exchange, inSaid, offered⟩ := List.mem_filterMap.mp among
  cases exchange with
  | release id dependency answer =>
      cases offered
      obtain ⟨reply, rfl, same⟩ := decided _ inSaid
      cases reply with
      | none =>
          obtain ⟨before, after, split⟩ := List.append_of_mem inSaid
          exact ⟨before, dependency, after, split, same.symm⟩
      | some update =>
          have released : row.id ∈ said.filterMap Exchange.released? :=
            List.mem_filterMap.mpr ⟨_, inSaid, rfl⟩
          exact absurd released notReleased
  | persistStage position status answer => cases offered
  | persistPipeline composite answer => cases offered
  | markProcessed batch answer => cases offered

/-- Behind a held job the first replay released none of those in front of it. -/
theorem spares {front back : List Row} {row : Row} {before after : Transcript}
    {dependency : Status} (rowsEq : replay.roster.rows = front ++ row :: back)
    (created : row.status = .created)
    (split : said = before ++ .release row.id dependency (.ok none) :: after) :
    ∀ other ∈ front, ∀ exchange ∈ after, exchange.released? ≠ some other.id := by
  have unique := twice.unique
  rw [rowsEq] at unique
  have offered := (twice.first.offers twice.ordered twice.unique).2 twice.succeeds
  rw [split, rowsEq, List.filterMap_append, createdJobs_append, createdJobs_cons created] at offered
  have distinct := createdJobs_nodup unique
  rw [createdJobs_append, createdJobs_cons created] at distinct
  have behind : createdJobs back = after.filterMap Exchange.offered? :=
    (split_eq_of_nodup distinct offered.symm).2
  intro other inFront exchange member released
  have among : other.id ∈ createdJobs back := by
    rw [behind]
    exact List.mem_filterMap.mpr ⟨exchange, member, Exchange.offered?_of_released? released⟩
  obtain ⟨later, inBack, _, same⟩ := mem_createdJobs.mp among
  rw [List.map_append] at unique
  have apart := (List.nodup_append.mp unique).2.2
  exact apart _ (List.mem_map_of_mem inFront) _ (List.mem_map_of_mem (.tail _ inBack)) same.symm

/-- A job that was held is offered with the same composite again, if no job was released
before in the second replay. -/
theorem awaits_again {id : JobId} {before after others rest : Transcript}
    {dependency later : Status} {answer : Except String (Option Update)}
    (created : id ∈ createdJobs replay.roster.rows)
    (split : said = before ++ .release id dependency (.ok none) :: after)
    (splitAgain : more = others ++ .release id later answer :: rest)
    (silent : ∀ exchange ∈ others, exchange.released? = none) : dependency = later := by
  obtain ⟨row, inRows, isCreated, rfl⟩ := mem_createdJobs.mp created
  obtain ⟨front, back, rowsEq⟩ := List.append_of_mem inRows
  obtain ⟨position, turn⟩ := twice.first.inTurn twice.ordered split
  obtain ⟨place, turnAgain⟩ := twice.second.inTurn twice.orderedAgain splitAgain
  have runsAgain := turnAgain.runs
  rw [twice.rows, Transcript.map_apply (fun _ _ => rfl) (fun _ => rfl)] at runsAgain
  obtain rfl := position_eq_of_nodup twice.unique inRows turn.runs
  obtain rfl := position_eq_of_nodup twice.unique inRows runsAgain
  obtain ⟨left, leftRows, leftTable, leftSwitches, waited⟩ := turn.awaits.eq_awaited
  obtain ⟨right, rightRows, rightTable, rightSwitches, waitedAgain⟩ :=
    turnAgain.awaits.eq_awaited
  rw [twice.steady.scheduling (twice.steady.converse twice.begins _).2] at waited
  rw [twice.steady.scheduling (twice.steady.converse twice.resumes _).2] at waitedAgain
  -- The second replay comes to the job with all that was said since the first one did.
  let since : Transcript := .release row.id dependency (.ok none) :: (after ++ others)
  have whole : right.rows = (before ++ since).apply replay.roster.rows := by
    rw [rightRows, twice.rows, ← Transcript.apply_append, split]
    simp [since]
  have held : ∀ other ∈ front, since.update? other.id = none := by
    intro other inFront
    apply Transcript.update?_eq_none
    intro exchange member released
    rcases List.mem_cons.mp member with rfl | member
    · cases released
    · rcases List.mem_append.mp member with member | member
      · exact twice.spares rowsEq isCreated split other inFront exchange member released
      · rw [silent exchange member] at released
        cases released
  have unique := twice.unique
  have ordered := twice.ordered
  have inNeedOrder := twice.inNeedOrder
  rw [rowsEq] at leftRows whole unique ordered inNeedOrder
  rw [waited, waitedAgain]
  apply Roster.awaited_of_silent leftRows whole
  · rw [leftTable, rightTable, twice.table]
  · rw [leftSwitches]
    exact twice.fixed
  · rw [rightSwitches, twice.switches]
    exact twice.fixed
  · exact unique
  · exact ordered
  · exact fun needs needed => inNeedOrder.unnamed unique needed
  · exact held

/-- The second replay releases nothing. -/
theorem quiet : ∀ exchange ∈ more, exchange.released? = none := by
  obtain ⟨decided, _⟩ := twice.steady.speech twice.resumes twice.second.speech
  apply forall_mem_of_first
  intro others exchange rest splitAgain silent
  apply Option.eq_none_iff_forall_ne_some.mpr
  intro id released
  have offered := Exchange.offered?_of_released? released
  have inMore : exchange ∈ more := by simp [splitAgain]
  have created := (twice.second.offers twice.orderedAgain twice.uniqueAgain).1.subset
    (List.mem_filterMap.mpr ⟨exchange, inMore, offered⟩)
  obtain ⟨wasCreated, before, dependency, after, split, holds⟩ := twice.held created
  cases exchange with
  | release other later answer =>
      cases offered
      -- The composite is the one with which the job was held, so it is held again.
      obtain rfl := twice.awaits_again wasCreated split splitAgain silent
      obtain ⟨reply, rfl, same⟩ := decided _ inMore
      rw [holds] at same
      cases reply with
      | none => cases released
      | some update => cases same
  | persistStage position status answer => cases offered
  | persistPipeline composite answer => cases offered
  | markProcessed batch answer => cases offered

/-- What the second replay stores are the composites that the first one left. -/
theorem holdsAgain : ∀ exchange ∈ more, exchange.HoldsIn acted.2.roster := by
  have speech := twice.second.speech
  rw [← twice.continues]
  intro exchange member
  have holds := twice.second.holds twice.orderedAgain exchange member
  cases exchange with
  | release id dependency answer => trivial
  | markProcessed batch answer => trivial
  | persistStage position status answer =>
      refine Eq.trans holds (windowStatus_of_apply speech.rows speech.table ?_)
      intro other inMore id released
      rw [twice.quiet other inMore] at released
      cases released
  | persistPipeline composite answer =>
      exact Eq.trans holds (all_of_apply speech.rows speech.table twice.quiet)

end Twice

/-! ## Marks -/

/-- A replay in which every offer of a mark was confirmed leaves nothing to offer. -/
theorem run_exhausts (steady : hooks.Steady usual waits decides) (begins : usual replay.hooks)
    {batchSize fuel : Nat} (succeeds : (run hooks batchSize fuel replay).1 = .ok ())
    (confirms : ∀ batch confirmed, .markProcessed batch (.ok confirmed) ∈
        (run hooks batchSize fuel replay).2.transcript →
      ∀ offer ∈ batch, offer.1 ∈ confirmed) :
    nextBatch batchSize (run hooks batchSize fuel replay).2.roster [] = [] := by
  obtain ⟨_, _, stored, _, _, _, runs⟩ := steady.run_marks begins batchSize fuel
  rw [runs] at succeeds confirms ⊢
  exact markRows_exhausts succeeds confirms

/-- A replay that finds nothing to mark and releases nothing makes no call to mark. -/
theorem run_without_marks (steady : hooks.Steady usual waits decides)
    (begins : usual replay.hooks) (ordered : InStageOrder replay.roster.rows)
    {batchSize fuel : Nat} (nothing : nextBatch batchSize replay.roster [] = [])
    (course : RunSpeech hooks replay said (run hooks batchSize fuel replay))
    (silent : ∀ exchange ∈ said, exchange.released? = none) :
    ∀ batch answer, .markProcessed batch answer ∉ said := by
  obtain ⟨stages, staged, stored, staging, closing, _, runs⟩ :=
    steady.run_marks begins batchSize fuel
  obtain ⟨marks, marking, _⟩ := markRows_speech hooks batchSize fuel [] stored
  have opening := staging.speech.andThen closing
  generalize persisted : Exchange.persistPipeline staged.roster.all (.ok ()) = last at opening
  have parts : said = (stages ++ [last]) ++ marks := by
    have whole := course.speech.transcript
    rw [runs, marking.transcript, opening.transcript, List.append_assoc] at whole
    exact (List.append_cancel_left whole).symm
  have unmarked : ∀ batch answer, .markProcessed batch answer ∉ stages ++ [last] := by
    intro batch answer member
    rcases List.mem_append.mp member with member | member
    · have ascending := distinctPositions_ascending (replay.roster.rows.map Row.position)
      rcases staging.shape ascending ordered _ member with ⟨id, offered⟩ | ⟨_, _, stored⟩
      · cases offered
      · cases stored
    · rw [← persisted] at member
      cases List.mem_singleton.mp member
  have silentOpening : ∀ exchange ∈ stages ++ [last], exchange.released? = none := by
    intro exchange member
    apply silent
    rw [parts]
    exact List.mem_append_left marks member
  have stays : stored.roster.rows = replay.roster.rows :=
    opening.rows.trans (Transcript.apply_of_idle _ silentOpening unmarked)
  have nothingStill : nextBatch batchSize stored.roster [] = [] :=
    (nextBatch_congr stays batchSize []).trans nothing
  have unmoved := marking.transcript
  rw [markRows_of_nothing nothingStill] at unmoved
  rw [parts, List.self_eq_append_right.mp unmoved, List.append_nil]
  exact unmarked

end Replay

/-! ## Passes -/

section Rerun

variable {σ : Type} (pass : Pass σ) {usual : σ → Prop} {waits : JobId → Scheduling}
  {decides : JobId → Status → Option Status}
  (steady : pass.hooks.Steady usual waits decides) (stamps : Stamps) {fuel : Nat}
  {board : Board} (sound : board.Sound) {snapshot : Snapshot}
  (loads : board.loadAside.1 = .ok snapshot) (unique : (snapshot.rows.map Row.id).Nodup)
  {found : Switches} (fixed : ∀ number, board.resolver.toggles.answers number = found)
  (inNeedOrder : InNeedOrder waits snapshot.rows) (enough : snapshot.rows.length < fuel)
  {hooks : σ} (begins : usual hooks) (outbox : Outbox)

include steady sound loads unique fixed inNeedOrder enough begins

/-- Of two passes one after the other the replays are such, and both succeed. -/
theorem run_twice (again : Stamps) {resumed : σ} (resumes : usual resumed) (later : Outbox) :
    let first := pass.run stamps fuel board hooks outbox
    let second := pass.run again fuel first.board resumed later
    let start : Replay σ := .start ⟨snapshot.rows, board.resolver⟩ hooks
    let replayed := Replay.run pass.hooks pass.batchSize fuel start
    let next : Replay σ := .start replayed.2.roster resumed
    let replayedAgain := Replay.run pass.hooks pass.batchSize fuel next
    (∃ pipeline, second.showing = Replay.showing pipeline again later replayedAgain) ∧
      (∃ final, first.board.loadAside.1 = .ok final ∧
        final.rows.map Row.position = snapshot.rows.map Row.position) ∧
      replayedAgain.1 = .ok () ∧
      Replay.Twice pass.hooks usual waits decides found start next
        (first.transcript pass hooks) (second.transcript pass resumed) replayed
        replayedAgain := by
  intro first second start replayed next replayedAgain
  obtain ⟨ordered, course, _, ledgerEq⟩ := run_of_rows pass stamps fuel sound hooks outbox loads
  have soundAfter := (Board.run_agrees pass stamps fuel sound hooks outbox).sound
  obtain ⟨final, state, rowsEq⟩ := Board.state_of_ledger (congrArg Ledger.state ledgerEq)
  have resolverEq : first.board.resolver = replayed.2.roster.resolver :=
    congrArg Ledger.resolver ledgerEq
  have rosterEq : ⟨final.rows, first.board.resolver⟩ = replayed.2.roster := by
    rw [rowsEq, resolverEq]
  have loadsAgain : first.board.loadAside.1 = .ok final :=
    congrArg Prod.fst (Board.loadAside_of_loaded state)
  obtain ⟨_, courseAgain, showingAgain, _⟩ :=
    run_of_rows pass again fuel soundAfter resumed later loadsAgain
  rw [rosterEq] at courseAgain showingAgain
  have succeeds : replayed.1 = .ok () :=
    @Hooks.Steady.run_succeeds _ _ _ _ _ steady start begins unique _ _ enough
  have twice : Replay.Twice pass.hooks usual waits decides found start next
      (first.transcript pass hooks) (second.transcript pass resumed) replayed
      replayedAgain :=
    { steady, begins, resumes, unique, ordered, inNeedOrder, fixed, first := course, succeeds,
      continues := rfl, second := courseAgain }
  have kept : final.rows.map Row.position = snapshot.rows.map Row.position := by
    rw [rowsEq]
    exact course.speech.map_position
  have enoughAgain : replayed.2.roster.rows.length < fuel := by
    have count := congrArg List.length kept
    rw [List.length_map, List.length_map, rowsEq] at count
    exact count ▸ enough
  have succeedsAgain : replayedAgain.1 = .ok () :=
    @Hooks.Steady.run_succeeds _ _ _ _ _ steady next resumes twice.uniqueAgain _ _ enoughAgain
  exact ⟨⟨_, showingAgain⟩, ⟨final, loadsAgain, kept⟩, succeedsAgain, twice⟩

end Rerun

/-- Where each job stands behind those that it needs, and steady hooks decide about the jobs,
a pass comes to a report, and a second one after it, with these hooks or with others that
decide alike, releases nothing and reports the same composites.  If every offer of a mark was
confirmed in the first pass, the second one has nothing to mark. -/
theorem run_again_quiet {σ : Type} (pass : Pass σ) {usual : σ → Prop}
    {waits : JobId → Scheduling} {decides : JobId → Status → Option Status}
    (steady : pass.hooks.Steady usual waits decides) (stamps : Stamps) {fuel : Nat}
    {board : Board} (reached : board.Reached) {snapshot : Snapshot}
    (loads : board.loadAside.1 = .ok snapshot) (unique : (snapshot.rows.map Row.id).Nodup)
    {found : Switches} (fixed : ∀ number, board.resolver.toggles.answers number = found)
    (inNeedOrder : InNeedOrder waits snapshot.rows) (enough : snapshot.rows.length < fuel)
    {hooks : σ} (begins : usual hooks) (outbox : Outbox) :
    let first := pass.run stamps fuel board hooks outbox
    usual first.hooks ∧ ∃ report, first.result = .ok report ∧
      ∀ (again : Stamps) (resumed : σ) (later : Outbox), usual resumed →
        let second := pass.run again fuel first.board resumed later
        ∃ rereport, second.result = .ok rereport ∧
          rereport.released = [] ∧
          rereport.stageStatuses = report.stageStatuses ∧
          rereport.pipelineStatus = report.pipelineStatus ∧
          ((∀ batch confirmed,
              .markProcessed batch (.ok confirmed) ∈ first.transcript pass hooks →
              ∀ offer ∈ batch, offer.1 ∈ confirmed) →
            (∀ batch answer, .markProcessed batch answer ∉ second.transcript pass resumed) ∧
              rereport.processed = 0) := by
  intro first
  obtain ⟨ordered, course, showing, _⟩ :=
    run_of_rows pass stamps fuel reached.sound hooks outbox loads
  have succeeds := @Hooks.Steady.run_succeeds _ _ _ _ _ steady
    (.start ⟨snapshot.rows, board.resolver⟩ hooks) begins unique pass.batchSize _ enough
  have hooksEq : first.hooks = _ := congrArg Showing.hooks showing
  obtain ⟨report, result⟩ := Outcome.exists_report showing succeeds
  obtain ⟨stages, whole⟩ := run_reports_of_holds pass stamps fuel reached.sound hooks outbox
    loads result (course.holds ordered)
  refine ⟨hooksEq ▸ (steady.speech begins course.speech).2, report, result, ?_⟩
  intro again resumed later resumes second
  have soundAfter := (Board.run_agrees pass stamps fuel reached.sound hooks outbox).sound
  obtain ⟨⟨pipeline, showingAgain⟩, ⟨final, loadsAgain, positions⟩, succeedsAgain, twice⟩ :=
    run_twice pass steady stamps reached.sound loads unique fixed inNeedOrder enough begins
      outbox again resumes later
  obtain ⟨rereport, resultAgain⟩ := Outcome.exists_report showingAgain succeedsAgain
  obtain ⟨stagesAgain, wholeAgain⟩ := run_reports_of_holds pass again fuel soundAfter resumed
    later loadsAgain resultAgain twice.holdsAgain
  obtain ⟨_, rereportEq⟩ := Outcome.report_eq showingAgain resultAgain
  obtain ⟨released, _, _, _, processed⟩ := Replay.report_run pass.hooks pass.batchSize fuel _
    resumed again pipeline succeedsAgain
  have saidAgain := twice.second.speech.transcript
  refine ⟨rereport, resultAgain, ?released, ?stages, wholeAgain.trans whole.symm, ?marks⟩
  case released =>
    rw [rereportEq, Report.released_finish, released, saidAgain]
    exact List.filterMap_eq_nil_iff.mpr twice.quiet
  case stages =>
    apply StageStatuses.eq_of_entries
    rw [stages, stagesAgain, positions]
  case marks =>
    intro confirms
    have said : _ = first.transcript pass hooks := course.speech.transcript
    have nothing := Replay.run_exhausts steady begins succeeds (said ▸ confirms)
    have unmarked := Replay.run_without_marks steady twice.resumes twice.orderedAgain nothing
      twice.second twice.quiet
    refine ⟨unmarked, ?_⟩
    rw [rereportEq, Report.processed_finish, processed, saidAgain]
    exact Transcript.confirmations_eq_zero unmarked

/-- The last job needs one that is only queued, so it is held in both passes. -/
theorem run_again_quiet_recorded :
    let rows : List Row :=
      [.fresh ⟨1⟩ "build" .success 0, .fresh ⟨2⟩ "test" .created 1,
        { Row.fresh ⟨3⟩ "lint" .created 1 with allowFailure := true },
        .fresh ⟨4⟩ "deploy" .created 2]
    let needs : List (JobId × List String) := [(⟨4⟩, ["test"])]
    let account : Recording.Account := .ofPolicy .onSuccess needs []
    let pass := ofHooks Recording.hooks
    let board := Board.ofSource ⟨7⟩ (.memory [(⟨7⟩, rows)]) (.fixed ⟨false, true⟩)
    let first := pass.run .blank 5 board account (.ofSink .discard)
    let second := pass.run .blank 5 first.board account first.outbox
    board.Reached ∧ board.loadAside.1 = .ok (Snapshot.ofRows rows).withStages ∧
      InNeedOrder account.scheduling rows ∧ Recording.GoesBySuccess needs account ∧
      ∃ report rereport, first.result = .ok report ∧ second.result = .ok rereport ∧
        report.released = [⟨2⟩, ⟨3⟩] ∧ report.processed = 4 ∧
        rereport.released = [] ∧ rereport.stageStatuses = report.stageStatuses ∧
        rereport.pipelineStatus = report.pipelineStatus ∧ rereport.processed = 0 := by
  intro rows needs account pass board first second
  have reached : board.Reached := ⟨_, _, _, [], rfl⟩
  have loads : board.loadAside.1 = .ok (Snapshot.ofRows rows).withStages := rfl
  have stands : Recording.GoesBySuccess needs account := ⟨rfl, rfl⟩
  have unique : (rows.map Row.id).Nodup := by decide
  have inNeedOrder : InNeedOrder account.scheduling rows := by
    intro front row back needed split waits target resolves
    have member : row ∈ rows := by simp [split]
    have waitsForStage : ∀ other ∈ rows.take 3, account.scheduling other.id = .stage := by
      decide
    have waitsForTest : account.scheduling ⟨4⟩ = .dag ["test"] := by decide
    rcases List.mem_append.mp (List.take_append_drop 3 rows ▸ member) with early | last
    · rw [waitsForStage row early] at waits
      cases waits
    · obtain rfl := List.mem_singleton.mp last
      cases waitsForTest.symm.trans waits
      have others := @split_eq_of_nodup _ (rows.take 3) [] front back
        (.fresh ⟨4⟩ "deploy" .created 2) (by decide) split
      obtain ⟨name, among, found⟩ := resolves
      obtain rfl := List.mem_singleton.mp among
      cases found
      rw [← others.1]
      decide
  obtain ⟨_, report, result, quiet⟩ := @run_again_quiet _ pass _ _ _ (Recording.steady needs)
    .blank 5 _ reached _ loads unique _ (fun _ => rfl) inNeedOrder (by decide) _ stands
    (.ofSink .discard)
  obtain ⟨rereport, resultAgain, released, stages, whole, marks⟩ :=
    quiet .blank account first.outbox stands
  have summary : first.result.map (fun report => (report.released, report.processed)) =
      .ok ([⟨2⟩, ⟨3⟩], 4) := by
    decide +kernel
  have result : first.result = .ok report := result
  rw [result] at summary
  obtain ⟨releases, processed⟩ := Prod.mk.inj (Except.ok.inj summary)
  have said : first.transcript pass account =
      [.persistStage 0 .success (.ok ()),
        .release ⟨2⟩ .success (.ok (some ⟨.pending, ⟨101⟩⟩)),
        .release ⟨3⟩ .success (.ok (some ⟨.pending, ⟨102⟩⟩)),
        .persistStage 1 .pending (.ok ()), .release ⟨4⟩ .running (.ok none),
        .persistStage 2 .created (.ok ()), .persistPipeline ⟨.running, false⟩ (.ok ()),
        .markProcessed [(⟨1⟩, ⟨0⟩), (⟨2⟩, ⟨101⟩), (⟨3⟩, ⟨102⟩), (⟨4⟩, ⟨0⟩)]
          (.ok [⟨1⟩, ⟨2⟩, ⟨3⟩, ⟨4⟩])] := by
    decide +kernel
  refine ⟨reached, loads, inNeedOrder, stands, report, rereport, result, resultAgain, releases,
    processed, released, stages, whole, (marks ?_).2⟩
  intro batch confirmed member
  change _ ∈ first.transcript pass account at member
  rw [said] at member
  obtain ⟨rfl, rfl⟩ : batch = _ ∧ confirmed = _ := by simpa using member
  decide

end Pass

end Rollup
