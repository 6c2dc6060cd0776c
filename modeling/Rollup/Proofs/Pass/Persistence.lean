import Rollup.Proofs.Pass.Account
import Rollup.Proofs.Pass.Aftermath

/-!
# What was persisted stays true

A pass stores the composite of a stage when it leaves the stage.  What it releases later
may share its id with an earlier row, but the update goes to the last row of the id, and
in stage order that one does not run before the stage in which the id was offered.  Marks
change nothing that a composite is made of.  So every composite that a pass stored, even
one that failed in the end, is the one that the board has after the pass.
-/

namespace Rollup

/-- Entries whose values follow from their keys are told by the keys. -/
theorem eq_map_of_keys {κ β : Type} {entries : List (κ × β)} {value : κ → β}
    (follows : ∀ entry ∈ entries, entry.2 = value entry.1) :
    entries = (entries.map Prod.fst).map fun key => (key, value key) := by
  rw [List.map_map]
  refine (List.map_id _).symm.trans (List.map_congr_left ?_)
  intro entry member
  exact Prod.ext rfl (follows entry member)

namespace Pass

/-- A composite that an exchange stores, if it stores one, is the one that a roster has. -/
def Exchange.HoldsIn (roster : Roster) : Exchange → Prop
  | .persistStage position status _ => status = roster.windowStatus (.atStage position)
  | .persistPipeline composite _ => composite = roster.all
  | _ => True

theorem Exchange.HoldsIn.of_offered {roster : Roster} {exchange : Exchange} {id : JobId}
    (offered : exchange.offered? = some id) : exchange.HoldsIn roster := by
  cases exchange with
  | release other dependency answer => trivial
  | markProcessed batch answer => trivial
  | persistStage position status answer => cases offered
  | persistPipeline composite answer => cases offered

/-! ## Composites that a conversation leaves alone -/

section Composites

variable {roster after : Roster} {said : Transcript}

/-- The composite of a window stays as it is if no job is released whose last row runs in
the window. -/
theorem windowStatus_of_apply (rows : after.rows = said.apply roster.rows)
    (table : after.resolver.table = roster.resolver.table) {window : Window}
    (elsewhere : ∀ exchange ∈ said, ∀ id ∈ exchange.released?,
      ∀ position ∈ lastPosition? id roster.rows, window.covers position = false) :
    after.windowStatus window = roster.windowStatus window := by
  have kept := Transcript.map_filter_apply (fun row => (rfl : row.marked.entry = row.entry))
    elsewhere
  simp only [Roster.windowStatus, Roster.window, table, rows, kept]

/-- Where nothing is released, the composite of all rows stays as it is. -/
theorem all_of_apply (rows : after.rows = said.apply roster.rows)
    (table : after.resolver.table = roster.resolver.table)
    (silent : ∀ exchange ∈ said, exchange.released? = none) : after.all = roster.all := by
  have elsewhere : ∀ exchange ∈ said, ∀ id ∈ exchange.released?,
      ∀ position ∈ lastPosition? id roster.rows, (fun _ => true) position = false := by
    intro exchange member id released
    rw [silent exchange member] at released
    cases released
  have kept := Transcript.map_filter_apply (fun row => (rfl : row.marked.entry = row.entry))
    elsewhere
  have whole : ∀ rows : List Row, (rows.filter fun _ => true) = rows :=
    fun rows => List.filter_eq_self.mpr fun _ _ => rfl
  rw [whole, whole] at kept
  simp only [Roster.all, table, rows, kept]

end Composites

namespace Replay

variable {σ : Type} {hooks : Hooks σ} {replay : Replay σ} {said : Transcript}
  {acted : Except Fault Unit × Replay σ}

/-! ## Stages -/

theorem Speech.inStageOrder (speech : Speech hooks replay said acted)
    (ordered : InStageOrder replay.roster.rows) : InStageOrder acted.2.roster.rows :=
  inStageOrder_congr speech.map_position.symm ordered

/-- In stage order the offers of a stage reach no row before it. -/
theorem StageSpeech.reaches {position : Position}
    (stage : StageSpeech hooks position replay said acted)
    (ordered : InStageOrder replay.roster.rows) :
    ∀ exchange ∈ said, ∀ id ∈ exchange.offered?,
      ∀ last ∈ lastPosition? id replay.roster.rows, position ≤ last := by
  intro exchange member id offered last found
  have created := stage.offers.subset (List.mem_filterMap.mpr ⟨exchange, member, offered⟩)
  obtain ⟨row, inRows, _, here, rfl⟩ := Roster.mem_createdIds.mp created
  obtain ⟨other, foundOther, notAfter⟩ := le_lastPosition ordered inRows
  rw [foundOther] at found
  cases found
  exact here ▸ notAfter

namespace StagesSpeech

variable {positions : List Position}

/-- The offers of stages reach no row before all of them. -/
theorem reaches (stages : StagesSpeech hooks positions replay said acted)
    (ordered : InStageOrder replay.roster.rows) :
    ∀ exchange ∈ said, ∀ id ∈ exchange.offered?,
      ∀ last ∈ lastPosition? id replay.roster.rows, ∃ position ∈ positions,
        position ≤ last := by
  induction stages with
  | nil => exact fun _ member => absurd member List.not_mem_nil
  | @fault position others _ _ _ _ stage =>
      intro exchange member id offered last found
      exact ⟨position, List.mem_cons_self,
        stage.reaches ordered exchange member id offered last found⟩
  | @cons position others _ _ _ _ _ stage _ ih =>
      intro exchange member id offered last found
      rcases List.mem_append.mp member with member | member
      · exact ⟨position, List.mem_cons_self,
          stage.reaches ordered exchange member id offered last found⟩
      · rw [← Transcript.lastPosition?_apply, ← stage.rows] at found
        obtain ⟨later, inOthers, notAfter⟩ :=
          ih (stage.inStageOrder ordered) exchange member id offered last found
        exact ⟨later, .tail _ inOthers, notAfter⟩

/-- In stages that are run by ascending position jobs are offered, and else composites of
stages are stored, which are those that the last of these stages leaves. -/
theorem shape (stages : StagesSpeech hooks positions replay said acted)
    (ascending : positions.Pairwise (· < ·)) (ordered : InStageOrder replay.roster.rows) :
    ∀ exchange ∈ said, (∃ id, exchange.offered? = some id) ∨
      ∃ position answer, exchange =
        .persistStage position (acted.2.roster.windowStatus (.atStage position)) answer := by
  induction stages with
  | nil => exact fun _ member => absurd member List.not_mem_nil
  | @fault position others _ _ _ _ stage =>
      intro exchange member
      exact (stage.shape exchange member).imp_right fun stored => ⟨position, stored⟩
  | @cons position others _ next _ _ acted stage rest ih =>
      obtain ⟨before, ascending⟩ := List.pairwise_cons.mp ascending
      have orderedNext := stage.inStageOrder ordered
      -- The later stages leave the composite of this one.
      have kept : acted.2.roster.windowStatus (.atStage position) =
          next.roster.windowStatus (.atStage position) := by
        apply windowStatus_of_apply rest.speech.rows rest.speech.table
        intro exchange member id released last found
        obtain ⟨later, inOthers, notAfter⟩ := rest.reaches orderedNext exchange member id
          (Exchange.offered?_of_released? released) last found
        have behind : position < last := UInt32.lt_of_lt_of_le (before later inOthers) notAfter
        exact decide_eq_false (UInt32.ne_of_lt behind).symm
      intro exchange member
      rcases List.mem_append.mp member with member | member
      · rcases stage.shape exchange member with offered | ⟨answer, stored⟩
        · exact .inl offered
        · refine .inr ⟨position, answer, stored.trans ?_⟩
          exact congrArg (Exchange.persistStage position · answer) kept.symm
      · exact ih ascending orderedNext exchange member

end StagesSpeech

/-! ## Whole replays -/

/-- What a replay stored is what its rows give at its end. -/
theorem RunSpeech.holds (course : RunSpeech hooks replay said acted)
    (ordered : InStageOrder replay.roster.rows) :
    ∀ exchange ∈ said, exchange.HoldsIn acted.2.roster := by
  have ascending := distinctPositions_ascending (replay.roster.rows.map Row.position)
  cases course with
  | fault stages =>
      intro exchange member
      rcases stages.shape ascending ordered exchange member with
        ⟨id, offered⟩ | ⟨position, answer, rfl⟩
      · exact .of_offered offered
      · rfl
  | @closed _ marks staged answer _ stages closing onlyMarks =>
      have silent : ∀ exchange ∈ .persistPipeline staged.roster.all answer :: marks,
          Exchange.released? exchange = none := by
        intro exchange member
        rcases List.mem_cons.mp member with rfl | member
        · rfl
        · obtain ⟨batch, answer, rfl⟩ := onlyMarks exchange member
          rfl
      intro exchange member
      rcases List.mem_append.mp member with member | member
      · rcases stages.shape ascending ordered exchange member with
          ⟨id, offered⟩ | ⟨position, answer, rfl⟩
        · exact .of_offered offered
        · refine (windowStatus_of_apply closing.rows closing.table ?_).symm
          intro other inClosing id released
          rw [silent other inClosing] at released
          cases released
      · rcases List.mem_cons.mp member with rfl | member
        · exact (all_of_apply closing.rows closing.table silent).symm
        · obtain ⟨batch, answer, rfl⟩ := onlyMarks exchange member
          trivial

end Replay

/-! ## Passes -/

section Passes

variable {σ : Type} (pass : Pass σ) (stamps : Stamps) (fuel : Nat) {board : Board}
  (sound : board.Sound) (hooks : σ) (outbox : Outbox)

include sound

/-- The composites that a pass handed out to be stored are those of the board that it
leaves. -/
theorem run_holds :
    let outcome := pass.run stamps fuel board hooks outbox
    let said := outcome.transcript pass hooks
    (∀ position status answer, .persistStage position status answer ∈ said →
        (outcome.board.windowStatus (.atStage position)).1 = .ok status) ∧
      ∀ composite answer, .persistPipeline composite answer ∈ said →
        outcome.board.all.1 = .ok composite := by
  intro outcome said
  cases loads : board.loadAside.1 with
  | error cause =>
      obtain ⟨_, nothing, _⟩ := run_unavailable pass stamps fuel sound hooks outbox loads
      have nothing : said = [] := nothing
      rw [nothing]
      constructor
      · exact fun _ _ _ member => absurd member List.not_mem_nil
      · exact fun _ _ member => absurd member List.not_mem_nil
  | ok snapshot =>
      obtain ⟨ordered, course, _, ledgerEq⟩ :=
        run_of_rows pass stamps fuel sound hooks outbox loads
      have soundAfter := (Board.run_agrees pass stamps fuel sound hooks outbox).sound
      obtain ⟨windows, all⟩ := Board.composites_of_close soundAfter ledgerEq
      have holds := course.holds ordered
      constructor
      · intro position status answer member
        rw [windows]
        exact congrArg Except.ok (holds _ member).symm
      · intro composite answer member
        rw [all]
        exact congrArg Except.ok (holds _ member).symm

/-- A report has a composite for each position that occurs and one for the pipeline, and
they were stored. -/
theorem run_reports {report : Report} :
    let outcome := pass.run stamps fuel board hooks outbox
    let said := outcome.transcript pass hooks
    outcome.result = .ok report →
      ∃ snapshot, board.loadAside.1 = .ok snapshot ∧
        report.stageStatuses.entries.map Prod.fst =
          distinctPositions (snapshot.rows.map Row.position) ∧
        (∀ entry ∈ report.stageStatuses.entries,
          .persistStage entry.1 entry.2 (.ok ()) ∈ said) ∧
        ∃ composite, report.pipelineStatus = some composite ∧
          .persistPipeline composite (.ok ()) ∈ said := by
  intro outcome said result
  obtain ⟨snapshot, loads⟩ := run_loads pass stamps fuel sound hooks outbox result
  obtain ⟨_, course, showing, _⟩ := run_of_rows pass stamps fuel sound hooks outbox loads
  obtain ⟨succeeds, rfl⟩ := Outcome.report_eq showing result
  obtain ⟨_, entries, positions, pipelineStatus, _⟩ :=
    Replay.report_run pass.hooks pass.batchSize fuel _ hooks stamps board.pipeline succeeds
  have transcriptEq : _ = said := course.speech.transcript
  refine ⟨snapshot, loads, positions, ?stages, ?pipeline⟩
  case stages =>
    rintro ⟨position, status⟩ member
    have stored := entries.trans (congrArg (List.filterMap Exchange.stored?) transcriptEq)
    obtain ⟨exchange, inSaid, stores⟩ := List.mem_filterMap.mp (stored ▸ member)
    rw [Exchange.stored?_eq_some.mp stores] at inSaid
    exact inSaid
  case pipeline =>
    obtain ⟨composite, inSaid⟩ := course.resolves succeeds
    have occurs : said.filterMap Exchange.resolved? ≠ [] :=
      List.ne_nil_of_mem (List.mem_filterMap.mpr ⟨_, inSaid, rfl⟩)
    obtain ⟨exchange, inSaid, resolves⟩ := List.mem_filterMap.mp (List.getLast_mem occurs)
    rw [Exchange.resolved?_eq_some.mp resolves] at inSaid
    refine ⟨_, pipelineStatus.trans ?_, inSaid⟩
    rw [transcriptEq]
    exact List.getLast?_eq_some_getLast occurs

/-- A report has the composites that a roster has, if those are what was stored. -/
theorem run_reports_of_holds {report : Report} {snapshot : Snapshot} {roster : Roster}
    (loads : board.loadAside.1 = .ok snapshot) :
    let outcome := pass.run stamps fuel board hooks outbox
    outcome.result = .ok report →
      (∀ exchange ∈ outcome.transcript pass hooks, exchange.HoldsIn roster) →
      report.stageStatuses.entries =
          (distinctPositions (snapshot.rows.map Row.position)).map (fun position =>
            (position, roster.windowStatus (.atStage position))) ∧
        report.pipelineStatus = some roster.all := by
  intro outcome result holds
  obtain ⟨loaded, loadsToo, positions, stages, composite, pipelineStatus, resolved⟩ :=
    run_reports pass stamps fuel sound hooks outbox result
  rw [loads] at loadsToo
  cases loadsToo
  constructor
  · rw [← positions]
    apply eq_map_of_keys
    exact fun entry member => holds _ (stages entry member)
  · rw [pipelineStatus]
    exact congrArg some (holds _ resolved)

end Passes

/-- Every composite that a pass handed out to be stored is the one that its board has
afterwards, also where the pass failed in the end.  The report of one that succeeds has a
composite for each position that occurs, and for the pipeline, and all of them are still
those of the board. -/
theorem run_persisted {σ : Type} (pass : Pass σ) (stamps : Stamps) (fuel : Nat)
    {board : Board} (reached : board.Reached) (hooks : σ) (outbox : Outbox) :
    let outcome := pass.run stamps fuel board hooks outbox
    let said := outcome.transcript pass hooks
    (∀ position status answer, .persistStage position status answer ∈ said →
        (outcome.board.windowStatus (.atStage position)).1 = .ok status) ∧
      (∀ composite answer, .persistPipeline composite answer ∈ said →
        outcome.board.all.1 = .ok composite) ∧
      ∀ report, outcome.result = .ok report →
        ∃ snapshot, board.loadAside.1 = .ok snapshot ∧
          report.stageStatuses.entries.map Prod.fst =
            distinctPositions (snapshot.rows.map Row.position) ∧
          (∀ entry ∈ report.stageStatuses.entries,
            (outcome.board.windowStatus (.atStage entry.1)).1 = .ok entry.2) ∧
          ∃ composite, report.pipelineStatus = some composite ∧
            outcome.board.all.1 = .ok composite := by
  intro outcome said
  obtain ⟨stored, resolved⟩ := run_holds pass stamps fuel reached.sound hooks outbox
  refine ⟨stored, resolved, ?_⟩
  intro report result
  obtain ⟨snapshot, loads, positions, stages, composite, pipelineStatus, inSaid⟩ :=
    run_reports pass stamps fuel reached.sound hooks outbox result
  refine ⟨snapshot, loads, positions, ?_, composite, pipelineStatus, resolved _ _ inSaid⟩
  intro entry member
  exact stored _ _ _ (stages entry member)

/-- The job offered in the first stage has a later row, and this one is released.  What
was stored for the first stage is true all the same. -/
theorem run_persisted_repeated_id :
    let rows : List Row := [.fresh ⟨1⟩ "build" .created 0, .fresh ⟨1⟩ "test" .created 1]
    let board := Board.ofSource ⟨7⟩ (.memory [(⟨7⟩, rows)]) (.fixed ⟨false, true⟩)
    let pass := ofHooks { agreeableHooks with markProcessed := fun _ _ => (.ok [], ()) }
    let outcome := pass.run .blank 2 board () (.ofSink .discard)
    board.Reached ∧
      outcome.transcript pass () =
        [.release ⟨1⟩ .success (.ok (some ⟨.pending, ⟨1⟩⟩)), .persistStage 0 .created (.ok ()),
          .persistStage 1 .pending (.ok ()), .persistPipeline ⟨.pending, false⟩ (.ok ()),
          .markProcessed [(⟨1⟩, ⟨0⟩), (⟨1⟩, ⟨1⟩)] (.ok [])] ∧
      (outcome.board.windowStatus (.atStage 0)).1 = .ok .created ∧
      outcome.board.all.1 = .ok ⟨.pending, false⟩ := by
  intro rows board pass outcome
  have reached : board.Reached := ⟨_, _, _, [], rfl⟩
  obtain ⟨stored, resolved, _⟩ := run_persisted pass .blank 2 reached () (.ofSink .discard)
  refine ⟨reached, by decide, stored 0 .created (.ok ()) ?_, resolved _ (.ok ()) ?_⟩
  · decide
  · decide

end Pass

end Rollup
