import Rollup.Proofs.Requests
import Rollup.Proofs.Pass.Course

/-!
# Accounts of passes

A pass over the rows of a reached board is the replay of these rows, and its report
says what the transcript of the replay says.  The composites of stages are stored by
ascending position, each position once, so the report has all of them.
-/

namespace Rollup

namespace Pass

namespace Replay

variable {σ : Type} (hooks : Hooks σ)

/-- The report of a replay that succeeds. -/
theorem report_run (batchSize fuel : Nat) (roster : Roster) (state : σ) (stamps : Stamps)
    (pipeline : PipelineId) :
    let replayed := run hooks batchSize fuel (.start roster state)
    let transcript := replayed.2.transcript
    let report := transcript.report (.start stamps pipeline)
    replayed.1 = .ok () →
      report.released = transcript.filterMap Exchange.released? ∧
      report.stageStatuses.entries = transcript.filterMap Exchange.stored? ∧
      report.stageStatuses.entries.map Prod.fst = roster.positions ∧
      report.pipelineStatus = (transcript.filterMap Exchange.resolved?).getLast? ∧
      report.processed = transcript.confirmations := by
  intro replayed transcript report succeeds
  obtain ⟨said, course⟩ := run_speech hooks batchSize fuel (.start roster state)
  have transcriptEq : transcript = said := course.speech.transcript
  have stored : (transcript.filterMap Exchange.stored?).map Prod.fst = roster.positions := by
    rw [transcriptEq]
    exact course.storesAll succeeds
  have ascending : (transcript.filterMap Exchange.stored?).Pairwise
      fun left right => left.1 < right.1 := by
    apply List.pairwise_map.mp
    rw [stored]
    exact distinctPositions_ascending _
  have entries : report.stageStatuses.entries = transcript.filterMap Exchange.stored? :=
    Transcript.stageStatuses_report transcript (.start stamps pipeline) ascending
  refine ⟨Transcript.released_report _ _, entries, ?_, ?_, ?_⟩
  · rw [entries]
    exact stored
  · refine (Transcript.pipelineStatus_report _ _).trans ?_
    exact Option.orElse_eq_or.trans Option.or_none
  · exact (Transcript.processed_report _ _).trans (Nat.zero_add _)

end Replay

/-! ## Passes over reached boards -/

/-- A pass calls the hooks as the replay of the fetched rows does, with the same values,
gets as far, and leaves the same rows.  A report lists what the answers of the hooks
released, stored and confirmed. -/
theorem run_eq_replay {σ : Type} (pass : Pass σ) (stamps : Stamps) (fuel : Nat)
    {board : Board} (reached : board.Reached) {snapshot : Snapshot}
    (loads : board.loadAside.1 = .ok snapshot) (hooks : σ) (outbox : Outbox) :
    let outcome := pass.run stamps fuel board hooks outbox
    let replayed := Replay.run pass.hooks pass.batchSize fuel
      (.start ⟨snapshot.rows, board.resolver⟩ hooks)
    let transcript := replayed.2.transcript
    outcome.trace.filterMap Step.call? = transcript.map Exchange.call ∧
      outcome.showing = Replay.showing board.pipeline stamps outbox replayed ∧
      (∃ final, outcome.board.state = some (.ok final) ∧
        final.rows = replayed.2.roster.rows) ∧
      ∀ report, outcome.result = .ok report →
        report.released = transcript.filterMap Exchange.released? ∧
        report.stageStatuses.entries = transcript.filterMap Exchange.stored? ∧
        report.stageStatuses.entries.map Prod.fst =
          distinctPositions (snapshot.rows.map Row.position) ∧
        report.pipelineStatus = (transcript.filterMap Exchange.resolved?).getLast? ∧
        report.processed = transcript.confirmations := by
  intro outcome replayed transcript
  have agrees := Board.run_agrees pass stamps fuel reached.sound hooks outbox
  rcases Board.loadAside_spec reached.sound with
    ⟨cause, after, fails, _⟩ | ⟨fetched, after, loaded, scans, soundAfter, state⟩
  · rw [fails] at loads
    cases loads
  rw [loaded] at loads
  cases loads
  obtain ⟨resolverEq, pipelineEq⟩ := Ledger.loadAside_eq_ok scans
  have rosterEq : (after.opened snapshot).roster = ⟨snapshot.rows, board.resolver⟩ :=
    congrArg (Roster.mk snapshot.rows) resolverEq
  simp only [Ledger.runPass, scans, rosterEq, pipelineEq] at agrees
  have showing : outcome.showing = Replay.showing board.pipeline stamps outbox replayed :=
    agrees.answer
  refine ⟨?calls, showing, ?rows, ?report⟩
  case calls =>
    have trace := congrArg Showing.trace showing
    exact (congrArg _ trace).trans (Transcript.trace_filterMap_call? _ _)
  case rows =>
    have ledgerEq := congrArg Ledger.state agrees.ledger
    exact Board.state_of_ledger ledgerEq
  case report =>
    intro report result
    have resultEq : outcome.result =
        replayed.1.map fun _ =>
          (transcript.report (.start stamps board.pipeline)).finish stamps :=
      congrArg Showing.result showing
    rw [result] at resultEq
    cases replayResult : replayed.1 with
    | error fault =>
        rw [replayResult] at resultEq
        cases resultEq
    | ok _ =>
        rw [replayResult] at resultEq
        cases resultEq
        exact Replay.report_run pass.hooks pass.batchSize fuel _ hooks stamps board.pipeline
          replayResult

/-- Hooks that wait for whole stages, release every job as pending, store everything
and confirm every offer. -/
def agreeableHooks : Hooks Unit where
  scheduling _ _ := .stage
  release _ _ _ := (.ok (some ⟨.pending, ⟨1⟩⟩), ())
  persistStage _ _ _ := (.ok (), ())
  persistPipeline _ _ := (.ok (), ())
  markProcessed _ batch := (.ok (batch.map Prod.fst), ())

theorem run_eq_replay_two_stages :
    let rows : List Row := [.fresh ⟨1⟩ "build" .created 0, .fresh ⟨2⟩ "test" .created 1]
    let board := Board.ofSource ⟨7⟩ (.memory [(⟨7⟩, rows)]) (.fixed ⟨false, true⟩)
    let outcome := (ofHooks agreeableHooks).run .blank 2 board () (.ofSink .discard)
    board.Reached ∧
      board.loadAside.1 = .ok (Snapshot.ofRows rows).withStages ∧
      outcome.trace.filterMap Step.call? =
        [.release ⟨1⟩ .success, .persistStage 0 .pending, .release ⟨2⟩ .pending,
          .persistStage 1 .pending, .persistPipeline ⟨.pending, false⟩,
          .markProcessed [(⟨1⟩, ⟨1⟩), (⟨2⟩, ⟨1⟩)]] := by
  intro rows board outcome
  have reached : board.Reached := ⟨_, _, _, [], rfl⟩
  have loads : board.loadAside.1 = .ok (Snapshot.ofRows rows).withStages := rfl
  refine ⟨reached, loads, ?_⟩
  have replays :=
    run_eq_replay (ofHooks agreeableHooks) .blank 2 reached loads () (.ofSink .discard)
  exact replays.1.trans (by decide)

end Pass

end Rollup
