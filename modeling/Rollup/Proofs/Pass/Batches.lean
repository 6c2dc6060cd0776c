import Rollup.Proofs.Pass.Persistence

/-!
# Batches of marks

Each batch is drawn afresh from the rows that are then unprocessed and not declined.  Where
ids are distinct an answer reaches no row beyond its batch, so the batches cut the rows that
were unprocessed when marking began into pieces of one size, whatever is answered, and each
of these rows is marked by the answer to its own batch or not at all.
-/

namespace Rollup

/-- Without the first ones, where keys are distinct, is without those of their keys. -/
theorem filter_not_mem_take {α κ : Type} [DecidableEq κ] {key : α → κ} {items : List α}
    (unique : (items.map key).Nodup) (count : Nat) :
    items.filter (fun item => key item ∉ (items.take count).map key) = items.drop count := by
  rw [← List.take_append_drop count items, List.map_append] at unique
  have apart := (List.nodup_append.mp unique).2.2
  have noneTaken : (items.take count).filter
      (fun item => key item ∉ (items.take count).map key) = [] := by
    apply List.filter_eq_nil_iff.mpr
    intro item taken absent
    exact of_decide_eq_true absent (List.mem_map_of_mem taken)
  have allLeft : (items.drop count).filter
      (fun item => key item ∉ (items.take count).map key) = items.drop count := by
    apply List.filter_eq_self.mpr
    intro item left
    apply decide_eq_true
    intro taken
    exact apart _ taken _ (List.mem_map_of_mem left) rfl
  conv => lhs; arg 2; rw [← List.take_append_drop count items]
  rw [List.filter_append, noneTaken, allLeft, List.nil_append]

/-- A row as it is offered for marking. -/
def Row.offer (row : Row) : Offer :=
  (row.id, row.token)

namespace Pass

/-! ## The size of batches -/

/-- What is said about the size of batches when a pass is built. -/
inductive Sizing where
  | rows (count : Nat)
  | settings (given : Settings)

def Sizing.asked : Sizing → Nat
  | .rows count => count
  | .settings given => given.batchSize

def sized {σ : Type} (pass : Pass σ) : Sizing → Pass σ
  | .rows count => pass.withBatchSize count
  | .settings given => pass.withSettings given

/-- A pass built from its hooks step by step. -/
def built {σ : Type} (hooks : Hooks σ) (sizings : List Sizing) : Pass σ :=
  sizings.foldl sized (ofHooks hooks)

/-- The hooks stay, and the size that was asked for last counts, but for nothing. -/
theorem built_eq {σ : Type} (hooks : Hooks σ) (sizings : List Sizing) :
    built hooks sizings =
      ⟨hooks, (sizings.getLast?.map fun sizing => max sizing.asked 1).getD defaultBatchSize⟩ := by
  rcases List.eq_nil_or_concat sizings with rfl | ⟨before, last, rfl⟩
  · rfl
  · have keeps : (before.foldl sized (ofHooks hooks)).hooks = hooks := by
      apply List.foldlRecOn before sized (motive := fun pass => pass.hooks = hooks) rfl
      intro pass same sizing _
      cases sizing <;> exact same
    rw [built, List.concat_eq_append, List.foldl_append, List.getLast?_concat]
    cases last with
    | rows count => exact congrArg (Pass.mk · (max count 1)) keeps
    | settings given => exact congrArg (Pass.mk · (max given.batchSize 1)) keeps

theorem batchSize_built_pos {σ : Type} (hooks : Hooks σ) (sizings : List Sizing) :
    0 < (built hooks sizings).batchSize := by
  rw [built_eq]
  cases sizings.getLast? with
  | none => exact Nat.zero_lt_succ _
  | some sizing => exact Nat.le_max_right _ _

/-! ## Answered batches -/

/-- A batch of offers with the ids that the hooks answered. -/
structure AnsweredBatch where
  offers : List Offer
  answer : List JobId
  deriving DecidableEq

namespace AnsweredBatch

def exchange (batch : AnsweredBatch) : Exchange :=
  .markProcessed batch.offers (.ok batch.answer)

/-- Whether a job was in the batch and is in its answer. -/
def marks (batch : AnsweredBatch) (id : JobId) : Bool :=
  id ∈ batch.offers.map Prod.fst ∧ id ∈ batch.answer

/-- Batches that offer everything in turn, all of them full but the last. -/
structure Cut (size : Nat) (offers : List Offer) (batches : List AnsweredBatch) : Prop where
  offered : batches.flatMap AnsweredBatch.offers = offers
  full : ∀ batch ∈ batches.dropLast, batch.offers.length = size
  fits : ∀ batch ∈ batches, batch.offers ≠ [] ∧ batch.offers.length ≤ size

theorem Cut.nil (size : Nat) : Cut size [] [] :=
  ⟨rfl, fun _ member => absurd member List.not_mem_nil,
    fun _ member => absurd member List.not_mem_nil⟩

/-- The next batch takes as much as fits. -/
theorem Cut.cons {size : Nat} {offers : List Offer} {batches : List AnsweredBatch}
    (some : offers.take size ≠ []) (rest : Cut size (offers.drop size) batches)
    (answer : List JobId) : Cut size offers (⟨offers.take size, answer⟩ :: batches) where
  offered := by
    rw [List.flatMap_cons, rest.offered]
    exact List.take_append_drop size offers
  full := by
    cases batches with
    | nil => exact fun _ member => absurd member List.not_mem_nil
    | cons next others =>
        rw [List.dropLast_cons_cons]
        refine List.forall_mem_cons.mpr ⟨?_, rest.full⟩
        -- Something is left for the next batch, so this one is full.
        have left : offers.drop size ≠ [] := by
          rw [← rest.offered, List.flatMap_cons]
          exact List.append_ne_nil_of_left_ne_nil (rest.fits next List.mem_cons_self).1 _
        have more : size < offers.length := by
          simpa [List.drop_eq_nil_iff] using left
        exact List.length_take_of_le (Nat.le_of_lt more)
  fits := List.forall_mem_cons.mpr ⟨⟨some, List.length_take_le _ _⟩, rest.fits⟩

/-- Of distinct offers those are confirmed that their batches mark. -/
theorem confirmations_eq_countP {batches : List AnsweredBatch}
    (unique : ((batches.flatMap AnsweredBatch.offers).map Prod.fst).Nodup) :
    Transcript.confirmations (batches.map exchange) =
      ((batches.flatMap AnsweredBatch.offers).map Prod.fst).countP
        fun id => batches.any fun batch => batch.marks id := by
  induction batches with
  | nil => rfl
  | cons batch rest ih =>
      rw [List.flatMap_cons, List.map_append] at unique ⊢
      obtain ⟨_, uniqueRest, apart⟩ := List.nodup_append.mp unique
      have here : (batch.offers.map Prod.fst).countP
            (fun id => (batch :: rest).any fun batch => batch.marks id) =
          (batch.offers.map Prod.fst).countP (· ∈ batch.answer) := by
        apply List.countP_congr
        intro id among
        have elsewhere : rest.any (fun batch => batch.marks id) = false := by
          apply List.any_eq_false.mpr
          intro other member marked
          obtain ⟨offer, offered, same⟩ := List.mem_map.mp (of_decide_eq_true marked).1
          have inRest := List.mem_map_of_mem (f := Prod.fst)
            (List.mem_flatMap.mpr ⟨other, member, offered⟩)
          exact apart _ among _ inRest same.symm
        rw [List.any_cons, elsewhere, Bool.or_false, marks]
        simp [among]
      have there : ((rest.flatMap AnsweredBatch.offers).map Prod.fst).countP
            (fun id => (batch :: rest).any fun batch => batch.marks id) =
          ((rest.flatMap AnsweredBatch.offers).map Prod.fst).countP
            fun id => rest.any fun batch => batch.marks id := by
        apply List.countP_congr
        intro id among
        have outside : batch.marks id = false := by
          apply decide_eq_false
          intro marked
          exact apart _ marked.1 _ among rfl
        rw [List.any_cons, outside, Bool.false_or]
      rw [List.countP_append, here, there, ← ih uniqueRest]
      rfl

end AnsweredBatch

/-- The row, marked if the answer to its batch says so. -/
def AnsweredBatch.settle (batches : List AnsweredBatch) (row : Row) : Row :=
  { row with processed := row.processed || batches.any fun batch => batch.marks row.id }

namespace AnsweredBatch

theorem after_exchanges (batches : List AnsweredBatch) (row : Row) :
    row.after (batches.map exchange) = settle batches row := by
  have unreleased : Transcript.update? (batches.map exchange) row.id = none := by
    apply Transcript.update?_eq_none
    intro other member released
    obtain ⟨batch, _, rfl⟩ := List.mem_map.mp member
    cases released
  rw [Row.after, unreleased, Transcript.confirms, List.any_map]
  rfl

end AnsweredBatch

namespace Replay

variable {σ : Type} {hooks : Hooks σ} {replay : Replay σ}

/-! ## All batches -/

theorem nextBatch_eq_take (batchSize : Nat) (roster : Roster) (declined : List JobId) :
    nextBatch batchSize roster declined =
      ((candidates roster declined).map Row.offer).take batchSize :=
  List.map_take

/-- After a batch, whatever was answered, those who were behind it are left to offer. -/
theorem offers_markAll {roster : Roster} (unique : (roster.rows.map Row.id).Nodup)
    (batchSize : Nat) (declined answer : List JobId) :
    let ids := (nextBatch batchSize roster declined).map Prod.fst
    (candidates (markAll roster (ids.filter (· ∈ answer)))
        ((ids.filter (· ∉ answer)).reverse ++ declined)).map Row.offer =
      ((candidates roster declined).map Row.offer).drop batchSize := by
  intro ids
  have idsEq : ids = ((candidates roster declined).take batchSize).map Row.id := List.map_map
  have uniqueCandidates : ((candidates roster declined).map Row.id).Nodup :=
    unique.sublist ((List.filter_sublist.trans List.filter_sublist).map Row.id)
  rw [candidates_markAll (.of_nodup unique), idsEq, filter_not_mem_take uniqueCandidates,
    List.map_drop]

/-- Where the hooks answer every batch, marking cuts the candidates into batches. -/
theorem markRows_cuts
    (answers : ∀ state batch, ∃ answer after,
      hooks.markProcessed state batch = (.ok answer, after))
    {batchSize fuel : Nat} (positive : 0 < batchSize) {declined : List JobId}
    (unique : (replay.roster.rows.map Row.id).Nodup)
    (enough : (candidates replay.roster declined).length < fuel) :
    ∃ batches,
      AnsweredBatch.Cut batchSize ((candidates replay.roster declined).map Row.offer) batches ∧
      (markRows hooks batchSize fuel declined replay).1 = .ok () ∧
      (markRows hooks batchSize fuel declined replay).2.transcript =
        replay.transcript ++ batches.map AnsweredBatch.exchange := by
  induction fuel generalizing declined replay with
  | zero => exact absurd enough (Nat.not_lt_zero _)
  | succ fuel ih =>
      by_cases silent : nextBatch batchSize replay.roster declined = []
      · have nothing : (candidates replay.roster declined).map Row.offer = [] := by
          rw [nextBatch_eq_take] at silent
          exact (List.take_eq_nil_iff.mp silent).resolve_left (Nat.ne_of_gt positive)
        rw [nothing, markRows]
        simp only [silent, if_true]
        exact ⟨[], .nil batchSize, trivial, (List.append_nil _).symm⟩
      · obtain ⟨answer, after, answered⟩ := answers replay.hooks
          (nextBatch batchSize replay.roster declined)
        have fewer := length_candidates_lt (.of_nodup unique) declined answer silent
        have left := offers_markAll unique batchSize declined answer
        have told := nextBatch_eq_take batchSize replay.roster declined
        rw [markRows_succ fuel silent answered]
        generalize nextBatch batchSize replay.roster declined = batch at silent fewer left told ⊢
        dsimp only at fewer left ⊢
        generalize markedEq : markAll replay.roster
          ((batch.map Prod.fst).filter (· ∈ answer)) = marked at fewer left ⊢
        have uniqueAfter : (marked.rows.map Row.id).Nodup := by
          rw [← markedEq, rows_markAll (.of_nodup unique), List.map_map]
          simpa only [Function.comp_def, Row.id_markedIn] using unique
        obtain ⟨batches, cut, ends, said⟩ := @ih ⟨marked, after, _⟩ _ uniqueAfter
          (Nat.lt_of_lt_of_le fewer (Nat.le_of_lt_succ enough))
        rw [left] at cut
        subst told
        refine ⟨_, .cons silent cut answer, ends, said.trans ?_⟩
        rw [List.append_assoc]
        rfl

/-- A replay that stored the composite of the pipeline came to its marking, and made no call
to mark before. -/
theorem run_marks_of_stored (ordered : InStageOrder replay.roster.rows)
    (fresh : replay.transcript = []) {batchSize fuel : Nat} {composite : Composite}
    (stored : .persistPipeline composite (.ok ()) ∈
      (run hooks batchSize fuel replay).2.transcript) :
    ∃ before met, Speech hooks replay before ((.ok () : Except Fault Unit), met) ∧
      (∀ batch answer, .markProcessed batch answer ∉ before) ∧
      run hooks batchSize fuel replay = markRows hooks batchSize fuel [] met := by
  have ascending := distinctPositions_ascending (replay.roster.rows.map Row.position)
  obtain ⟨said, stages⟩ := stages_speech hooks replay.roster.positions replay
  have shape := stages.shape ascending ordered
  have unresolved : ∀ composite answer, .persistPipeline composite answer ∉ said := by
    intro composite answer member
    rcases shape _ member with ⟨id, offered⟩ | ⟨position, answer, same⟩
    · cases offered
    · cases same
  have unmarked : ∀ batch answer, .markProcessed batch answer ∉ said := by
    intro batch answer member
    rcases shape _ member with ⟨id, offered⟩ | ⟨position, answer, same⟩
    · cases offered
    · cases same
  have told := stages.speech.transcript
  rw [fresh, List.nil_append] at told
  rw [run] at stored ⊢
  generalize inTurn (runStage hooks) replay.roster.positions replay = acted
    at stages told stored ⊢
  obtain ⟨result, staged⟩ := acted
  cases result with
  | error fault =>
      have toldStaged : staged.transcript = said := told
      dsimp only at stored
      rw [toldStaged] at stored
      exact absurd stored (unresolved composite _)
  | ok _ =>
      have toldStaged : staged.transcript = said := told
      simp only [storePipeline, exchange_eq] at stored ⊢
      cases called : hooks.persistPipeline staged.hooks staged.roster.all with
      | mk answer after =>
          have asked : hooks.answer staged.hooks (.persistPipeline staged.roster.all) =
              (.persistPipeline staged.roster.all answer, after) := by
            simp only [Hooks.answer, called]
          cases answer with
          | error reason =>
              simp only [called, mapError_error, toldStaged] at stored
              rcases List.mem_append.mp stored with inStages | last
              · exact absurd inStages (unresolved composite _)
              · cases List.mem_singleton.mp last
          | ok _ =>
              have closing : Speech hooks staged [.persistPipeline staged.roster.all (.ok ())]
                  ((.ok () : Except Fault Unit), ⟨staged.roster, after,
                    staged.transcript ++ [.persistPipeline staged.roster.all (.ok ())]⟩) :=
                .one asked rfl rfl rfl (.of_value rfl)
              refine ⟨_, _, stages.speech.andThen closing, ?_, rfl⟩
              intro batch answer member
              rcases List.mem_append.mp member with inStages | last
              · exact unmarked batch answer inStages
              · cases List.mem_singleton.mp last

/-- From where a replay stored the composite of the pipeline, it cuts the rows that are then
unprocessed into batches, and leaves the rows as their answers say. -/
theorem run_cuts
    (answers : ∀ state batch, ∃ answer after,
      hooks.markProcessed state batch = (.ok answer, after))
    {batchSize fuel : Nat} (positive : 0 < batchSize)
    (ordered : InStageOrder replay.roster.rows)
    (unique : (replay.roster.rows.map Row.id).Nodup)
    (enough : replay.roster.rows.length < fuel) (fresh : replay.transcript = [])
    {composite : Composite}
    (stored : .persistPipeline composite (.ok ()) ∈
      (run hooks batchSize fuel replay).2.transcript) :
    ∃ before batches,
      let met := before.apply replay.roster.rows
      (run hooks batchSize fuel replay).1 = .ok () ∧
      (run hooks batchSize fuel replay).2.transcript =
        before ++ batches.map AnsweredBatch.exchange ∧
      (∀ batch answer, .markProcessed batch answer ∉ before) ∧ (met.map Row.id).Nodup ∧
      AnsweredBatch.Cut batchSize ((met.filter fun row => !row.processed).map Row.offer)
        batches ∧
      (run hooks batchSize fuel replay).2.roster.rows = met.map (AnsweredBatch.settle batches) := by
  obtain ⟨before, met, opening, unmarked, runs⟩ := run_marks_of_stored ordered fresh stored
  have metRows : met.roster.rows = before.apply replay.roster.rows := opening.rows
  have toldOpening : met.transcript = before := by
    rw [opening.transcript, fresh, List.nil_append]
  have idsEq : met.roster.rows.map Row.id = replay.roster.rows.map Row.id := opening.map_id
  have uniqueMet : (met.roster.rows.map Row.id).Nodup := idsEq ▸ unique
  have candidatesEq : candidates met.roster [] = met.roster.unprocessed := by
    simp [candidates]
  have fits : (candidates met.roster []).length < fuel := by
    have count := congrArg List.length idsEq
    rw [List.length_map, List.length_map] at count
    exact Nat.lt_of_le_of_lt (length_candidates_le _ _) (count ▸ enough)
  obtain ⟨batches, cut, ends, told⟩ := markRows_cuts answers positive uniqueMet fits
  obtain ⟨marks, marking, _⟩ := markRows_speech hooks batchSize fuel [] met
  have marksEq : marks = batches.map AnsweredBatch.exchange :=
    List.append_cancel_left (marking.transcript.symm.trans told)
  rw [candidatesEq] at cut
  rw [runs]
  refine ⟨before, batches, ends, toldOpening ▸ told, unmarked, metRows ▸ uniqueMet,
    metRows ▸ cut, ?_⟩
  rw [marking.rows, marksEq, Transcript.apply_of_nodup _ uniqueMet, metRows]
  exact List.map_congr_left fun row _ => AnsweredBatch.after_exchanges batches row

end Replay

theorem Transcript.confirmations_append (said more : Transcript) :
    confirmations (said ++ more) = said.confirmations + more.confirmations := by
  induction said with
  | nil => exact (Nat.zero_add _).symm
  | cons exchange rest ih => exact (congrArg (_ + ·) ih).trans (Nat.add_assoc _ _ _).symm

/-- Where ids are distinct, batches that offer the unprocessed rows confirm as many offers as
they mark rows. -/
theorem AnsweredBatch.Cut.confirmations {size : Nat} {rows : List Row}
    {batches : List AnsweredBatch} (unique : (rows.map Row.id).Nodup)
    (cut : Cut size ((rows.filter fun row => !row.processed).map Row.offer) batches) :
    Transcript.confirmations (batches.map exchange) =
      rows.countP fun row => !row.processed && (settle batches row).processed := by
  have ids : (batches.flatMap AnsweredBatch.offers).map Prod.fst =
      (rows.filter fun row => !row.processed).map Row.id := by
    rw [cut.offered, List.map_map]
    rfl
  rw [confirmations_eq_countP (ids ▸ unique.sublist (List.filter_sublist.map Row.id)), ids,
    List.countP_map, List.countP_filter]
  apply List.countP_congr
  intro row _
  cases processed : row.processed <;> simp [settle, processed]

/-! ## Passes -/

/-- A pass that stored the composite of the pipeline, with hooks that answer every batch with
ids of any kind, comes to a report.  Its batches, all full but the last, offer the rows that
were unprocessed by then, each once and in their order.  What they answer marks the rows of
their own batch and changes nothing else, and the report counts the rows that were marked. -/
theorem run_cuts_batches {σ : Type} {hooks : Hooks σ}
    (answers : ∀ state batch, ∃ answer after,
      hooks.markProcessed state batch = (.ok answer, after))
    (sizings : List Sizing) (stamps : Stamps) {fuel : Nat} {board : Board}
    (reached : board.Reached) {snapshot : Snapshot} (loads : board.loadAside.1 = .ok snapshot)
    (unique : (snapshot.rows.map Row.id).Nodup) (enough : snapshot.rows.length < fuel)
    (state : σ) (outbox : Outbox) {composite : Composite} :
    let pass := built hooks sizings
    let outcome := pass.run stamps fuel board state outbox
    .persistPipeline composite (.ok ()) ∈ outcome.transcript pass state →
      ∃ before batches report final,
        outcome.transcript pass state = before ++ batches.map AnsweredBatch.exchange ∧
        (∀ batch answer, .markProcessed batch answer ∉ before) ∧
        outcome.result = .ok report ∧ outcome.board.state = some (.ok final) ∧
        let met := before.apply snapshot.rows
        pass.batchSize =
          (sizings.getLast?.map fun sizing => max sizing.asked 1).getD defaultBatchSize ∧
        1 ≤ pass.batchSize ∧ (met.map Row.id).Nodup ∧
        AnsweredBatch.Cut pass.batchSize ((met.filter fun row => !row.processed).map Row.offer)
          batches ∧
        final.rows = met.map (AnsweredBatch.settle batches) ∧
        report.processed =
          met.countP fun row => !row.processed && (AnsweredBatch.settle batches row).processed := by
  intro pass outcome stored
  have hooksEq : pass.hooks = hooks := congrArg Pass.hooks (built_eq hooks sizings)
  have positive : 0 < pass.batchSize := batchSize_built_pos hooks sizings
  obtain ⟨ordered, course, showing, ledgerEq⟩ :=
    run_of_rows pass stamps fuel reached.sound state outbox loads
  have told : _ = outcome.transcript pass state := course.speech.transcript
  rw [← told] at stored
  obtain ⟨before, batches, succeeds, parts, unmarked, uniqueMet, cut, rows⟩ :=
    Replay.run_cuts (hooksEq ▸ answers) positive ordered unique enough rfl stored
  obtain ⟨report, result⟩ := Outcome.exists_report showing succeeds
  obtain ⟨final, left, rowsEq⟩ := Board.state_of_ledger (congrArg Ledger.state ledgerEq)
  obtain ⟨_, reportEq⟩ := Outcome.report_eq showing result
  obtain ⟨_, _, _, _, processed⟩ := Replay.report_run pass.hooks pass.batchSize fuel
    ⟨snapshot.rows, board.resolver⟩ state stamps board.pipeline succeeds
  refine ⟨before, batches, report, final, told ▸ parts, unmarked, result, left,
    congrArg Pass.batchSize (built_eq hooks sizings), positive, uniqueMet, cut,
    rowsEq.trans rows, ?_⟩
  rw [reportEq, Report.processed_finish, processed, parts, Transcript.confirmations_append,
    Transcript.confirmations_eq_zero unmarked, Nat.zero_add]
  exact cut.confirmations uniqueMet

/-- Hooks that are agreeable but for their answers to batches, which name jobs twice, jobs of
another batch and jobs that are not there. -/
def carelessHooks : Hooks Unit :=
  { agreeableHooks with
    markProcessed := fun _ batch =>
      (.ok (if batch.length = 2 then [⟨4⟩, ⟨2⟩, ⟨2⟩, ⟨9⟩] else []), ()) }

/-- The last row is named in the answer to the first batch only, and stays unprocessed. -/
theorem run_cuts_batches_careless :
    let rows : List Row :=
      [.fresh ⟨1⟩ "build" .success 0, .fresh ⟨2⟩ "test" .created 1,
        { Row.fresh ⟨3⟩ "lint" .success 1 with processed := true },
        .fresh ⟨4⟩ "deploy" .success 2]
    let board := Board.ofSource ⟨7⟩ (.memory [(⟨7⟩, rows)]) (.fixed ⟨false, true⟩)
    let snapshot := (Snapshot.ofRows rows).withStages
    let sizings : List Sizing := [.settings ⟨false, true, 0⟩, .rows 2]
    let pass := built carelessHooks sizings
    let outcome := pass.run .blank 5 board () (.ofSink .discard)
    let said := outcome.transcript pass ()
    board.Reached ∧ board.loadAside.1 = .ok snapshot ∧
      said =
        [.persistStage 0 .success (.ok ()),
          .release ⟨2⟩ .success (.ok (some ⟨.pending, ⟨1⟩⟩)),
          .persistStage 1 .running (.ok ()), .persistStage 2 .success (.ok ()),
          .persistPipeline ⟨.running, false⟩ (.ok ()),
          .markProcessed [(⟨1⟩, ⟨0⟩), (⟨2⟩, ⟨1⟩)] (.ok [⟨4⟩, ⟨2⟩, ⟨2⟩, ⟨9⟩]),
          .markProcessed [(⟨4⟩, ⟨0⟩)] (.ok [])] ∧
      ∃ before batches report final,
        said = before ++ batches.map AnsweredBatch.exchange ∧
        (∀ batch answer, .markProcessed batch answer ∉ before) ∧
        outcome.result = .ok report ∧ outcome.board.state = some (.ok final) ∧
        let met := before.apply snapshot.rows
        pass.batchSize = 2 ∧ 1 ≤ pass.batchSize ∧ (met.map Row.id).Nodup ∧
        AnsweredBatch.Cut pass.batchSize ((met.filter fun row => !row.processed).map Row.offer)
          batches ∧
        final.rows = met.map (AnsweredBatch.settle batches) ∧
        report.processed =
          met.countP fun row => !row.processed && (AnsweredBatch.settle batches row).processed := by
  intro rows board snapshot sizings pass outcome said
  have reached : board.Reached := ⟨_, _, _, [], rfl⟩
  have loads : board.loadAside.1 = .ok snapshot := rfl
  refine ⟨reached, loads, by decide +kernel, ?_⟩
  have stored : .persistPipeline ⟨.running, false⟩ (.ok ()) ∈ said := by decide +kernel
  have cuts := run_cuts_batches (fun _ _ => ⟨_, _, rfl⟩) sizings .blank reached loads (by decide)
    (by decide) () (.ofSink .discard) stored
  simp only [said, outcome, pass]
  exact cuts

end Pass

end Rollup
