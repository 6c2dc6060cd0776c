import Rollup.Proofs.Pass.Consistent
import Rollup.Proofs.Resemblance

/-!
# What a pass resolves

Hooks learn of tokens and marks only when rows are offered for marking, behind everything
else.  So two passes over rows that differ in tokens and marks alone make the same calls with
the same answers up to there, and nothing that is told afterwards is news of a composite.
Both relations are kept action by action: before the marking the replays resemble each other,
and marking adds nothing but marks.
-/

namespace Rollup

/-- What a report tells beside the count of marks: released jobs and stored composites. -/
def Report.resolved (report : Report) : List JobId × StageStatuses × Option Composite :=
  (report.released, report.stageStatuses, report.pipelineStatus)

namespace Pass

variable {σ α : Type}

/-! ## Marks at the end -/

/-- A call for marking. -/
def markStep (batch : List Offer) : Step :=
  .called (.markProcessed batch)

/-- An exchange adds the same to what two reports tell. -/
theorem Exchange.resolved_enter {left right : Report} (same : left.resolved = right.resolved)
    (exchange : Exchange) :
    (exchange.enter left).resolved = (exchange.enter right).resolved := by
  obtain ⟨released, stages, pipeline⟩ : left.released = right.released ∧
      left.stageStatuses = right.stageStatuses ∧ left.pipelineStatus = right.pipelineStatus := by
    simpa [Report.resolved] using same
  simp only [Report.resolved, released_enter, stageStatuses_enter, pipelineStatus_enter, released,
    stages, pipeline]

theorem Transcript.resolved_report {left right : Report} (same : left.resolved = right.resolved)
    (said : Transcript) : (said.report left).resolved = (said.report right).resolved := by
  induction said generalizing left right with
  | nil => exact same
  | cons exchange rest ih => exact ih (exchange.resolved_enter same)

/-- Marks announce nothing and resolve nothing. -/
theorem Transcript.marks {marks : Transcript}
    (onlyMarks : ∀ exchange ∈ marks, ∃ batch answer, exchange = .markProcessed batch answer) :
    (∀ pipeline, ∃ batches : List (List Offer), marks.trace pipeline = batches.map markStep) ∧
      (∀ pipeline outbox, marks.deliver pipeline outbox = outbox) ∧
      ∀ report, (marks.report report).resolved = report.resolved := by
  induction marks with
  | nil => exact ⟨fun _ => ⟨[], rfl⟩, fun _ _ => rfl, fun _ => rfl⟩
  | cons exchange rest ih =>
      obtain ⟨⟨batch, answer, rfl⟩, onlyRest⟩ := List.forall_mem_cons.mp onlyMarks
      obtain ⟨traced, delivered, resolved⟩ := ih onlyRest
      refine ⟨?_, ?_, ?_⟩
      · intro pipeline
        obtain ⟨batches, steps⟩ := traced pipeline
        refine ⟨batch :: batches, ?_⟩
        rw [List.map_cons, ← steps]
        rfl
      · intro pipeline outbox
        exact delivered pipeline outbox
      · intro report
        have entered : ((Exchange.markProcessed batch answer).enter report).resolved =
            report.resolved := by
          cases answer <;> rfl
        exact (resolved _).trans entered

namespace Replay

/-! ## Replays -/

/-- Two replays in which the same was said, over rows that resemble each other. -/
structure Resembles (left right : Replay σ) : Prop where
  roster : left.roster.plain = right.roster.plain
  hooks : left.hooks = right.hooks
  transcript : left.transcript = right.transcript

/-- Two actions came to the same value or the same fault, in replays that resemble each
other. -/
def Alike (acted other : Except Fault α × Replay σ) : Prop :=
  acted.1 = other.1 ∧ Resembles acted.2 other.2

/-- An action that does not see tokens and marks. -/
def Blind (act : Replay σ → Except Fault α × Replay σ) : Prop :=
  ∀ {left right : Replay σ}, Resembles left right → Alike (act left) (act right)

theorem Alike.cases {acted other : Except Fault α × Replay σ} (alike : Alike acted other) :
    (∃ fault left right, acted = (.error fault, left) ∧ other = (.error fault, right) ∧
        Resembles left right) ∨
      ∃ value left right, acted = (.ok value, left) ∧ other = (.ok value, right) ∧
        Resembles left right := by
  obtain ⟨result, left⟩ := acted
  obtain ⟨otherResult, right⟩ := other
  obtain ⟨rfl, resembles⟩ := alike
  cases result with
  | error fault => exact .inl ⟨fault, left, right, rfl, rfl, resembles⟩
  | ok value => exact .inr ⟨value, left, right, rfl, rfl, resembles⟩

theorem inTurn_blind {β : Type} {act : β → Replay σ → Except Fault Unit × Replay σ}
    (blind : ∀ item, Blind (act item)) (items : List β) : Blind (inTurn act items) := by
  induction items with
  | nil => exact fun resembles => ⟨rfl, resembles⟩
  | cons item rest ih =>
      intro left right resembles
      rw [inTurn, inTurn]
      rcases (blind item resembles).cases with
        ⟨fault, next, nextToo, acted, actedToo, after⟩ | ⟨_, next, nextToo, acted, actedToo, after⟩
      · rw [acted, actedToo]
        exact ⟨rfl, after⟩
      · rw [acted, actedToo]
        exact ih after

/-! ## Stages -/

variable (hooks : Hooks σ)

theorem exchange_alike (operation : Operation) (note : Except String α → Exchange)
    (run : σ → Except String α × σ) {left right : Replay σ} (resembles : Resembles left right) :
    Alike (left.exchange operation note run) (right.exchange operation note run) := by
  rw [exchange_eq, exchange_eq, resembles.hooks, resembles.transcript]
  exact ⟨rfl, resembles.roster, rfl, rfl⟩

theorem dependencyStatus_alike {left right : Replay σ} (resembles : Resembles left right)
    (position : Position) (id : JobId) :
    (dependencyStatus hooks position id left).1 = (dependencyStatus hooks position id right).1 ∧
      Resembles (dependencyStatus hooks position id left).2
        (dependencyStatus hooks position id right).2 := by
  rw [dependencyStatus, dependencyStatus, resembles.hooks]
  cases hooks.scheduling right.hooks id with
  | stage =>
      exact ⟨((Roster.Blind.windowStatus (.beforeStage position)).alike resembles.roster).1,
        resembles⟩
  | dag needs =>
      dsimp only
      split
      · exact ⟨rfl, resembles⟩
      · obtain ⟨answer, after⟩ := (Roster.Blind.forNames needs .dag).alike resembles.roster
        exact ⟨answer, after, rfl, resembles.transcript⟩

theorem releaseJob_blind (position : Position) (id : JobId) :
    Blind (releaseJob hooks position id) := by
  intro left right resembles
  obtain ⟨sameStatus, waited⟩ := dependencyStatus_alike hooks resembles position id
  rw [releaseJob, releaseJob]
  generalize dependencyStatus hooks position id left = asked at sameStatus waited ⊢
  generalize dependencyStatus hooks position id right = askedToo at sameStatus waited ⊢
  obtain ⟨dependency, left⟩ := asked
  obtain ⟨_, right⟩ := askedToo
  obtain rfl : dependency = _ := sameStatus
  dsimp only at waited ⊢
  rcases (exchange_alike .release (.release id dependency) (hooks.release · id dependency)
      waited).cases with
    ⟨fault, next, nextToo, acted, actedToo, after⟩ |
      ⟨update?, next, nextToo, acted, actedToo, after⟩
  · rw [acted, actedToo]
    exact ⟨rfl, after⟩
  · rw [acted, actedToo]
    cases update? with
    | none => exact ⟨rfl, after⟩
    | some update =>
        have set := (Roster.Blind.setStatus id update).alike after.roster
        exact ⟨rfl, set.2, after.hooks, after.transcript⟩

theorem storeStage_blind (position : Position) : Blind (storeStage hooks position) := by
  intro left right resembles
  have sameStatus : left.roster.windowStatus (.atStage position) =
      right.roster.windowStatus (.atStage position) :=
    ((Roster.Blind.windowStatus (.atStage position)).alike resembles.roster).1
  rw [storeStage, storeStage, sameStatus]
  exact exchange_alike .persistStage _ _ resembles

theorem runStage_blind (position : Position) : Blind (runStage hooks position) := by
  intro left right resembles
  have sameIds : left.roster.createdIds position = right.roster.createdIds position :=
    ((Roster.Blind.createdIds position).alike resembles.roster).1
  rw [runStage, runStage, sameIds]
  rcases (inTurn_blind (releaseJob_blind hooks position) (right.roster.createdIds position)
      resembles).cases with
    ⟨fault, next, nextToo, acted, actedToo, after⟩ | ⟨_, next, nextToo, acted, actedToo, after⟩
  · rw [acted, actedToo]
    exact ⟨rfl, after⟩
  · rw [acted, actedToo]
    exact storeStage_blind hooks position after

theorem storePipeline_blind : Blind (storePipeline hooks) := by
  intro left right resembles
  have sameComposite : left.roster.all = right.roster.all :=
    (Roster.Blind.all.alike resembles.roster).1
  rw [storePipeline, storePipeline, sameComposite]
  rcases (exchange_alike .persistPipeline (.persistPipeline right.roster.all)
      (hooks.persistPipeline · right.roster.all) resembles).cases with
    ⟨fault, next, nextToo, acted, actedToo, after⟩ | ⟨_, next, nextToo, acted, actedToo, after⟩
  · rw [acted, actedToo]
    exact ⟨rfl, after⟩
  · rw [acted, actedToo]
    exact ⟨rfl, after⟩

/-- All that is resolved in a replay: the stages one after the other, and the pipeline. -/
def resolve (replay : Replay σ) : Except Fault Composite × Replay σ :=
  match inTurn (runStage hooks) replay.roster.positions replay with
  | (.error fault, replay) => (.error fault, replay)
  | (.ok (), replay) => storePipeline hooks replay

theorem resolve_blind : Blind (resolve hooks) := by
  intro left right resembles
  have samePositions : left.roster.positions = right.roster.positions :=
    (Roster.Blind.positions.alike resembles.roster).1
  rw [resolve, resolve, samePositions]
  rcases (inTurn_blind (runStage_blind hooks) right.roster.positions resembles).cases with
    ⟨fault, next, nextToo, acted, actedToo, after⟩ | ⟨_, next, nextToo, acted, actedToo, after⟩
  · rw [acted, actedToo]
    exact ⟨rfl, after⟩
  · rw [acted, actedToo]
    exact storePipeline_blind hooks after

/-- The rest of a replay is marking. -/
theorem run_eq (batchSize fuel : Nat) (replay : Replay σ) :
    run hooks batchSize fuel replay =
      match resolve hooks replay with
      | (.error fault, replay) => (.error fault, replay)
      | (.ok _, replay) => markRows hooks batchSize fuel [] replay := by
  rw [run, resolve]
  generalize inTurn (runStage hooks) replay.roster.positions replay = acted
  obtain ⟨fault | _, staged⟩ := acted <;> rfl

/-! ## Whole replays -/

/-- Marking fails only in a call for it, or for want of fuel. -/
theorem markRows_fault {batchSize fuel : Nat} {declined : List JobId} {replay : Replay σ}
    {fault : Fault} (failed : (markRows hooks batchSize fuel declined replay).1 = .error fault) :
    fault = .outOfFuel ∨ ∃ reason, fault = .hook .markProcessed reason := by
  obtain ⟨marks, speech, onlyMarks⟩ := markRows_speech hooks batchSize fuel declined replay
  have ends := speech.ends
  rw [failed] at ends
  cases ends with
  | outOfFuel _ => exact .inl rfl
  | @fault _ last _ _ lastFailed =>
      obtain ⟨batch, answer, rfl⟩ :=
        onlyMarks last (List.mem_append_right _ (List.mem_singleton_self _))
      cases answer with
      | ok confirmed => cases lastFailed
      | error reason =>
          cases lastFailed
          exact .inr ⟨reason, rfl⟩

/-- Behind what is resolved in a replay there are only marks. -/
theorem run_marks (batchSize fuel : Nat) (replay : Replay σ) :
    ∃ marks : Transcript,
      (run hooks batchSize fuel replay).2.transcript =
        (resolve hooks replay).2.transcript ++ marks ∧
      ∀ exchange ∈ marks, ∃ batch answer, exchange = .markProcessed batch answer := by
  rw [run_eq]
  obtain ⟨fault | composite, resolved⟩ := resolve hooks replay
  · exact ⟨[], (List.append_nil _).symm, fun _ member => absurd member List.not_mem_nil⟩
  · obtain ⟨marks, speech, onlyMarks⟩ := markRows_speech hooks batchSize fuel [] resolved
    exact ⟨marks, speech.transcript, onlyMarks⟩

/-- Where ids are distinct and no call for marks fails, a replay succeeds as soon as all is
resolved in it. -/
theorem run_result {batchSize fuel : Nat} {replay : Replay σ}
    (unique : (replay.roster.rows.map Row.id).Nodup)
    (enough : replay.roster.rows.length < fuel)
    (marked : ∀ reason, (run hooks batchSize fuel replay).1 ≠
      .error (.hook .markProcessed reason)) :
    (run hooks batchSize fuel replay).1 = (resolve hooks replay).1.map fun _ => () := by
  have fuelled := run_ne_outOfFuel hooks batchSize unique enough
  rw [run_eq] at fuelled marked ⊢
  generalize resolve hooks replay = acted at fuelled marked ⊢
  obtain ⟨fault | composite, resolved⟩ := acted
  · rfl
  · dsimp only at fuelled marked ⊢
    cases result : (markRows hooks batchSize fuel [] resolved).1 with
    | ok _ => rfl
    | error fault =>
        rcases markRows_fault hooks result with rfl | ⟨reason, rfl⟩
        · exact absurd result fuelled
        · exact absurd result (marked reason)

end Replay

/-! ## Passes -/

/-- What an outcome that shows a replay shows up to the marks is what is resolved in the
replay. -/
theorem Outcome.shows_resolved {outcome : Outcome σ} {pipeline : PipelineId} {stamps : Stamps}
    {outbox : Outbox} (hooks : Hooks σ) {batchSize fuel : Nat} {start : Replay σ}
    (showing : outcome.showing = Replay.showing pipeline stamps outbox
      (Replay.run hooks batchSize fuel start)) :
    let resolved := Replay.resolve hooks start
    (∃ batches : List (List Offer),
      outcome.trace = resolved.2.transcript.trace pipeline ++ batches.map markStep) ∧
      outcome.outbox = resolved.2.transcript.deliver pipeline outbox ∧
      ((start.roster.rows.map Row.id).Nodup → start.roster.rows.length < fuel →
        (∀ reason, outcome.result ≠ .error (.hook .markProcessed reason)) →
        outcome.result.map Report.resolved = resolved.1.map fun _ =>
          (resolved.2.transcript.report (.start .blank pipeline)).resolved) := by
  intro resolved
  have traceEq : outcome.trace = _ := congrArg Showing.trace showing
  have outboxEq : outcome.outbox = _ := congrArg Showing.outbox showing
  have resultEq : outcome.result = _ := congrArg Showing.result showing
  obtain ⟨marks, transcriptEq, onlyMarks⟩ := Replay.run_marks hooks batchSize fuel start
  obtain ⟨traced, delivered, reported⟩ := Transcript.marks onlyMarks
  rw [Replay.showing, transcriptEq] at traceEq outboxEq resultEq
  refine ⟨?calls, ?events, ?findings⟩
  case calls =>
    obtain ⟨batches, steps⟩ := traced pipeline
    refine ⟨batches, ?_⟩
    rw [traceEq, ← steps]
    exact List.flatMap_append
  case events =>
    have behind := delivered pipeline (resolved.2.transcript.deliver pipeline outbox)
    rw [outboxEq, ← behind]
    exact List.foldl_append
  case findings =>
    intro unique enough marked
    have succeeds : ∀ reason, (Replay.run hooks batchSize fuel start).1 ≠
        .error (.hook .markProcessed reason) := by
      intro reason failed
      rw [failed] at resultEq
      exact marked reason resultEq
    have told : ((resolved.2.transcript ++ marks).report (.start stamps pipeline)).resolved =
        (resolved.2.transcript.report (.start .blank pipeline)).resolved := by
      have behind : (resolved.2.transcript ++ marks).report (.start stamps pipeline) =
          marks.report (resolved.2.transcript.report (.start stamps pipeline)) :=
        List.foldl_append
      have start : (Report.start stamps pipeline).resolved =
          (Report.start .blank pipeline).resolved := rfl
      rw [behind, reported]
      exact Transcript.resolved_report start _
    rw [resultEq, Replay.run_result hooks unique enough succeeds, ← told]
    change _ = resolved.1.map _
    cases resolved.1 <;> rfl

end Pass

namespace Board

variable {left right : Board} {snapshot others : Snapshot}

/-- Two passes with the same hooks, over boards whose rows differ in tokens and marks alone,
make the same calls but for those that ask for marks, which come last, and deliver the same
events.  Where ids are distinct and no call for marks fails, both fail alike or both report
the same released jobs and the same composites.  And a run of requests that ask for neither
tokens nor marks goes on one of them, with marks made on the way, as it goes on the other one
without. -/
theorem resolves_without_marks (reached : left.Reached) (reachedToo : right.Reached)
    (state : left.state = some (.ok snapshot)) (stateToo : right.state = some (.ok others))
    (rows : snapshot.rows.map Row.plain = others.rows.map Row.plain)
    (resolver : left.resolver = right.resolver) (pipeline : left.pipeline = right.pipeline) :
    (∀ {σ : Type} (hooks : Hooks σ) (begins : σ) (outbox : Outbox)
        (batchSize otherSize fuel otherFuel : Nat) (stamps otherStamps : Stamps),
      let first := (⟨hooks, batchSize⟩ : Pass σ).run stamps fuel left begins outbox
      let second := (⟨hooks, otherSize⟩ : Pass σ).run otherStamps otherFuel right begins outbox
      (∃ (common : List Pass.Step) (batches otherBatches : List (List Offer)),
        first.trace = common ++ batches.map Pass.markStep ∧
        second.trace = common ++ otherBatches.map Pass.markStep) ∧
      first.outbox = second.outbox ∧
      ((snapshot.rows.map Row.id).Nodup → snapshot.rows.length < fuel →
        snapshot.rows.length < otherFuel →
        (∀ reason, first.result ≠ .error (.hook .markProcessed reason)) →
        (∀ reason, second.result ≠ .error (.hook .markProcessed reason)) →
        first.result.map Report.resolved = second.result.map Report.resolved)) ∧
    ∀ requests : List Request, (∀ request ∈ requests, request.seesMarks = false) →
      let unmarked := requests.filter fun request => !request.isMark
      (requests.zip (left.performAll requests).1).filter (fun asked => !asked.1.isMark) =
        unmarked.zip (right.performAll unmarked).1 := by
  have same : (⟨snapshot.rows, left.resolver⟩ : Roster).plain =
      (⟨others.rows, right.resolver⟩ : Roster).plain := by
    rw [Roster.plain, Roster.plain, rows, resolver]
  constructor
  · intro σ hooks begins outbox batchSize otherSize fuel otherFuel stamps otherStamps first second
    have loads : left.loadAside.1 = .ok snapshot := by rw [loadAside_of_loaded state]
    have loadsToo : right.loadAside.1 = .ok others := by rw [loadAside_of_loaded stateToo]
    obtain ⟨_, _, showing, _⟩ :=
      Pass.run_of_rows ⟨hooks, batchSize⟩ stamps fuel reached.sound begins outbox loads
    obtain ⟨_, _, showingToo, _⟩ :=
      Pass.run_of_rows ⟨hooks, otherSize⟩ otherStamps otherFuel reachedToo.sound begins outbox
        loadsToo
    obtain ⟨⟨batches, calls⟩, events, findings⟩ := Pass.Outcome.shows_resolved hooks showing
    obtain ⟨⟨otherBatches, callsToo⟩, eventsToo, findingsToo⟩ :=
      Pass.Outcome.shows_resolved hooks showingToo
    obtain ⟨result, resembles⟩ := @Pass.Replay.resolve_blind σ hooks
      (.start ⟨snapshot.rows, left.resolver⟩ begins) (.start ⟨others.rows, right.resolver⟩ begins)
      ⟨same, rfl, rfl⟩
    rw [← pipeline, ← resembles.transcript] at callsToo eventsToo findingsToo
    refine ⟨⟨_, batches, otherBatches, calls, callsToo⟩, events.trans eventsToo.symm, ?_⟩
    intro unique enough enoughToo marked markedToo
    have ids : others.rows.map Row.id = snapshot.rows.map Row.id := by
      have plainIds := congrArg (List.map Row.id) rows
      rw [List.map_map, List.map_map] at plainIds
      exact plainIds.symm
    have count : others.rows.length = snapshot.rows.length := by
      rw [← List.length_map, ids, List.length_map]
    rw [findings unique enough marked, findingsToo (ids ▸ unique) (count ▸ enoughToo) markedToo,
      result]
  · intro requests blind unmarked
    have resembles : Ledger.Resembles left.ledger right.ledger :=
      ⟨_, _, ledger_state state, ledger_state stateToo, same⟩
    rw [(performAll_agrees reached.sound requests).answer,
      (performAll_agrees reachedToo.sound unmarked).answer]
    exact (resembles.performAll blind).1

/-- One of two jobs has a row that was processed in another version.  The hooks give way to
the first job that they are offered, and then to none. -/
theorem resolves_without_marks_processed_row :
    let row : Row := .fresh ⟨1⟩ "build" .created 0
    let job : Row := .fresh ⟨2⟩ "test" .created 1
    let hooks : Hooks Nat :=
      { scheduling := fun _ _ => .stage
        release := fun calls _ _ =>
          (.ok (if calls = 0 then some ⟨.success, ⟨5⟩⟩ else none), calls + 1)
        persistStage := fun calls _ _ => (.ok (), calls + 1)
        persistPipeline := fun calls _ => (.ok (), calls + 1)
        markProcessed := fun calls batch => (.ok (batch.map Prod.fst), calls + 1) }
    let board := fun rows =>
      ((ofSource ⟨7⟩ (.memory [(⟨7⟩, rows)]) (.fixed ⟨false, true⟩)).performAll [.load]).2
    let left := board [row, job]
    let right := board [{ row with processed := true, token := ⟨9⟩ }, job]
    let first := (⟨hooks, 1⟩ : Pass Nat).run .blank 3 left 0 ⟨.collect, []⟩
    let second := (⟨hooks, 1⟩ : Pass Nat).run .blank 3 right 0 ⟨.collect, []⟩
    let requests : List Request :=
      [.windowStatus (.beforeStage 1), .setProcessed ⟨2⟩, .createdIds 1, .setProcessed ⟨1⟩,
        .windowStatus (.beforeStage 1)]
    left.Reached ∧ right.Reached ∧ first.trace ≠ second.trace ∧
      first.outbox = second.outbox ∧
      first.result.map Report.resolved = second.result.map Report.resolved ∧
      (requests.zip (left.performAll requests).1).filter (fun asked => !asked.1.isMark) =
        [.windowStatus (.beforeStage 1), .createdIds 1, .windowStatus (.beforeStage 1)].zip
          (right.performAll
            [.windowStatus (.beforeStage 1), .createdIds 1, .windowStatus (.beforeStage 1)]).1 := by
  intro row job hooks board left right first second requests
  have reached : left.Reached := ⟨⟨7⟩, _, .fixed ⟨false, true⟩, [.load], rfl⟩
  have reachedToo : right.Reached := ⟨⟨7⟩, _, .fixed ⟨false, true⟩, [.load], rfl⟩
  have fine : ∀ {result : Except Pass.Fault Report}, result.isOk = true →
      ∀ reason, result ≠ .error (.hook .markProcessed reason) := by
    intro result succeeds reason failed
    rw [failed] at succeeds
    cases succeeds
  obtain ⟨passes, asked⟩ := @resolves_without_marks left right _ _ reached reachedToo rfl rfl
    (by decide) rfl rfl
  obtain ⟨_, events, findings⟩ := passes hooks 0 ⟨.collect, []⟩ 1 1 3 3 .blank .blank
  refine ⟨reached, reachedToo, by decide, events, ?_, ?_⟩
  · exact findings (by decide) (by decide) (by decide) (fine (by decide)) (fine (by decide))
  · exact asked requests (by simp [requests, Request.seesMarks])

end Board

end Rollup
