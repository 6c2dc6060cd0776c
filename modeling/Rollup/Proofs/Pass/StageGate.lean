import Rollup.Proofs.Pass.Waiting
import Rollup.Proofs.Windows

/-!
# The gate of the stages

A job that waits for whole stages is offered with the composite of the rows before its stage.
Those rows are not changed any more, so all such jobs of a stage are offered with the same
composite, and under the standard table it can be told from the composites that were stored
for the earlier stages.
-/

namespace Rollup

/-- In ascending order the positions before one of them are those in front of it. -/
theorem filter_lt_of_ascending {front later : List Position} {position : Position}
    (ascending : (front ++ position :: later).Pairwise (· < ·)) :
    (front ++ position :: later).filter (· < position) = front := by
  obtain ⟨_, fromHere, before⟩ := List.pairwise_append.mp ascending
  have inFront : front.filter (· < position) = front := by
    apply List.filter_eq_self.mpr
    exact fun other member => decide_eq_true (before other member position List.mem_cons_self)
  have noneBehind : (position :: later).filter (· < position) = [] := by
    apply List.filter_eq_nil_iff.mpr
    intro other member isBefore
    have isBefore : other < position := of_decide_eq_true isBefore
    rcases List.mem_cons.mp member with rfl | member
    · exact UInt32.lt_irrefl _ isBefore
    · exact UInt32.lt_asymm isBefore ((List.pairwise_cons.mp fromHere).1 other member)
  rw [List.filter_append, inFront, noneBehind, List.append_nil]

namespace Pass

variable {σ : Type}

/-- A job that waits for whole stages was offered in a conversation, with a composite and
behind the composites that had been stored for stages. -/
def StageOffer (hooks : Hooks σ) (state : σ) (said : Transcript) (id : JobId)
    (dependency : Status) (stored : List (Position × Status)) : Prop :=
  ∃ before answer after, said = before ++ .release id dependency answer :: after ∧
    hooks.scheduling (hooks.converse (before.map Exchange.call) state).2 id = .stage ∧
    before.filterMap Exchange.stored? = stored

namespace Replay

variable {hooks : Hooks σ} {replay : Replay σ} {said : Transcript}
  {acted : Except Fault Unit × Replay σ}

/-- A job that waits for whole stages is offered with the composite that the rows before its
stage have in the end. -/
theorem InTurn.before_eq {positions : List Position} {position : Position}
    {before rest : Transcript} {id : JobId} {dependency : Status}
    (inTurn : InTurn hooks replay positions before id dependency rest position)
    (speech : Speech hooks replay (before ++ rest) acted)
    (waits : hooks.scheduling (hooks.converse (before.map Exchange.call) replay.hooks).2 id =
      .stage) :
    dependency = acted.2.roster.windowStatus (.beforeStage position) := by
  obtain ⟨roster, rows, table, _, waited⟩ := inTurn.awaits.eq_awaited
  rw [waits] at waited
  have rowsAfter : acted.2.roster.rows = rest.apply roster.rows := by
    rw [speech.rows, Transcript.apply_append, rows]
  refine waited.trans (windowStatus_of_apply rowsAfter (speech.table.trans table.symm) ?_).symm
  intro exchange member other released last found
  rw [rows, Transcript.lastPosition?_apply] at found
  have notBefore := inTurn.reaches exchange member other
    (Exchange.offered?_of_released? released) last found
  exact decide_eq_false (UInt32.not_lt.mpr notBefore)

/-- The composites that were stored before a job had its turn are those that the stages
before its own have in the end. -/
theorem InTurn.stored_eq {position : Position} {before after : Transcript} {id : JobId}
    {dependency : Status} {answer : Except String (Option Update)}
    (course : RunSpeech hooks replay (before ++ .release id dependency answer :: after) acted)
    (ordered : InStageOrder replay.roster.rows)
    (inTurn : InTurn hooks replay replay.roster.positions before id dependency
      (.release id dependency answer :: after) position) :
    before.filterMap Exchange.stored? =
      (replay.roster.positions.filter (· < position)).map fun earlier =>
        (earlier, acted.2.roster.windowStatus (.atStage earlier)) := by
  obtain ⟨later, turn⟩ := inTurn.turn
  have ascending := distinctPositions_ascending (replay.roster.rows.map Row.position)
  have earlier : replay.roster.positions.filter (· < position) =
      (before.filterMap Exchange.stored?).map Prod.fst := by
    have split : distinctPositions (replay.roster.rows.map Row.position) = _ := turn
    rw [split] at ascending
    rw [turn]
    exact filter_lt_of_ascending ascending
  rw [earlier]
  apply eq_map_of_keys
  rintro ⟨place, status⟩ member
  obtain ⟨exchange, inBefore, stored⟩ := List.mem_filterMap.mp member
  rw [Exchange.stored?_eq_some.mp stored] at inBefore
  exact course.holds ordered _ (List.mem_append_left _ inBefore)

end Replay

/-! ## Passes -/

/-- Under the standard table all jobs of a stage that wait for whole stages are offered with
one composite, the one that the board has before the stage when the pass is over.  It is
completed if and only if all composites are that were stored for the earlier stages, and
then it is the composite of these.  It is a success only if each of these is a success or
skipped. -/
theorem run_stage_gate (pass : Pass σ) (stamps : Stamps) (fuel : Nat) {board : Board}
    (reached : board.Reached) (standard : board.resolver.table = .standard)
    {snapshot : Snapshot} (loads : board.loadAside.1 = .ok snapshot) (hooks : σ)
    (outbox : Outbox) :
    let outcome := pass.run stamps fuel board hooks outbox
    let positions := distinctPositions (snapshot.rows.map Row.position)
    ∃ offered : Position → Status,
      (∀ position,
        (outcome.board.windowStatus (.beforeStage position)).1 = .ok (offered position)) ∧
      ∀ id dependency stored,
        StageOffer pass.hooks hooks (outcome.transcript pass hooks) id dependency stored →
        ∃ position later,
          positions = stored.map Prod.fst ++ position :: later ∧
          (∃ row ∈ snapshot.rows, row.id = id ∧ row.position = position) ∧
          dependency = offered position ∧
          (dependency.isCompleted = true ↔ ∀ entry ∈ stored, entry.2.isCompleted = true) ∧
          ((∀ entry ∈ stored, entry.2.isCompleted = true) →
            dependency = (Table.standard.stageComposite
              (stored.map fun entry => .required entry.2)).status) ∧
          (dependency = .success → ∀ entry ∈ stored, entry.2 ∈ [.success, .skipped]) := by
  intro outcome positions
  obtain ⟨ordered, course, _, ledgerEq⟩ :=
    run_of_rows pass stamps fuel reached.sound hooks outbox loads
  have soundAfter := (Board.run_agrees pass stamps fuel reached.sound hooks outbox).sound
  have windows := (Board.composites_of_close soundAfter ledgerEq).1
  have speech := course.speech
  generalize Replay.run pass.hooks pass.batchSize fuel
    (.start ⟨snapshot.rows, board.resolver⟩ hooks) = replayed at course ledgerEq windows speech
  let roster := replayed.2.roster
  have isStandard : roster.resolver.table = .standard := speech.table.trans standard
  have positionsEq : roster.positions = positions := by
    rw [Roster.positions, speech.rows, Transcript.map_apply (fun _ _ => rfl) (fun _ => rfl)]
    rfl
  refine ⟨fun position => roster.windowStatus (.beforeStage position), fun _ => windows _, ?_⟩
  rintro id dependency stored ⟨before, answer, after, split, waits, rfl⟩
  rw [split] at course speech
  obtain ⟨position, inTurn⟩ := course.inTurn ordered rfl
  obtain ⟨later, turn⟩ := inTurn.turn
  obtain ⟨row, inRows, runs⟩ := List.mem_map.mp inTurn.runs
  have waited : dependency = roster.windowStatus (.beforeStage position) :=
    inTurn.before_eq speech waits
  have storedEq : before.filterMap Exchange.stored? =
      (roster.positions.filter (· < position)).map fun earlier =>
        (earlier, roster.windowStatus (.atStage earlier)) := by
    rw [positionsEq]
    exact inTurn.stored_eq course ordered
  have folded : (before.filterMap Exchange.stored?).map (fun entry => .required entry.2) =
      roster.stageEntries position := by
    rw [storedEq, List.map_map]
    rfl
  have completed := Roster.before_completed_iff isStandard position
  have passes := Roster.before_passes_iff isStandard position
  rw [← Roster.forall_mem_earlier] at completed passes
  refine ⟨position, later, turn, ⟨row, inRows, Prod.mk.inj runs⟩, waited, ?_, ?_, ?_⟩
  · rw [waited, completed, storedEq, List.forall_mem_map]
  · rw [folded, waited]
    intro each
    rw [storedEq, List.forall_mem_map] at each
    exact Roster.before_eq_of_completed isStandard (completed.mpr each)
  · rw [waited, storedEq, List.forall_mem_map]
    intro success
    apply passes.mp
    rw [success]
    exact List.mem_cons_self

/-- The release of the first job of a stage does not matter to the second one, which is
offered with what the failure that was tolerated comes to. -/
theorem run_stage_gate_tolerated :
    let rows : List Row :=
      [{ Row.fresh ⟨1⟩ "lint" .failed 0 with allowFailure := true },
        .fresh ⟨2⟩ "test" .created 1, .fresh ⟨3⟩ "docs" .created 1]
    let board := Board.ofSource ⟨7⟩ (.memory [(⟨7⟩, rows)]) (.fixed ⟨false, true⟩)
    let outcome := (ofHooks agreeableHooks).run .blank 2 board () (.ofSink .discard)
    let said := outcome.transcript (ofHooks agreeableHooks) ()
    board.Reached ∧ board.resolver.table = .standard ∧
      board.loadAside.1 = .ok (Snapshot.ofRows rows).withStages ∧
      StageOffer agreeableHooks () said ⟨2⟩ .success [(0, .success)] ∧
      StageOffer agreeableHooks () said ⟨3⟩ .success [(0, .success)] ∧
      (outcome.board.windowStatus (.beforeStage 1)).1 = .ok .success := by
  intro rows board outcome said
  have reached : board.Reached := ⟨_, _, _, [], rfl⟩
  have loads : board.loadAside.1 = .ok (Snapshot.ofRows rows).withStages := rfl
  let offer (id : JobId) : Exchange := .release id .success (.ok (some ⟨.pending, ⟨1⟩⟩))
  let stored : Exchange := .persistStage 0 .success (.ok ())
  let closing : Transcript :=
    [.persistStage 1 .pending (.ok ()), .persistPipeline ⟨.running, true⟩ (.ok ()),
      .markProcessed [(⟨1⟩, ⟨0⟩), (⟨2⟩, ⟨1⟩), (⟨3⟩, ⟨1⟩)] (.ok [⟨1⟩, ⟨2⟩, ⟨3⟩])]
  have whole : said = stored :: offer ⟨2⟩ :: offer ⟨3⟩ :: closing := by decide
  have first : StageOffer agreeableHooks () said ⟨2⟩ .success [(0, .success)] :=
    ⟨[stored], _, _, whole, rfl, rfl⟩
  have second : StageOffer agreeableHooks () said ⟨3⟩ .success [(0, .success)] :=
    ⟨[stored, offer ⟨2⟩], _, _, whole, rfl, rfl⟩
  obtain ⟨offered, windows, gate⟩ := run_stage_gate (ofHooks agreeableHooks) .blank 2 reached
    rfl loads () (.ofSink .discard)
  obtain ⟨position, later, turn, _, waited, _⟩ := gate _ _ _ second
  have positions : distinctPositions ((Snapshot.ofRows rows).withStages.rows.map
      Row.position) = [0, 1] := by
    decide
  rw [positions] at turn
  cases turn
  exact ⟨reached, rfl, loads, first, second, (windows 1).trans (congrArg Except.ok waited.symm)⟩

end Pass

end Rollup
