import Rollup.Proofs.Pass.Quiet

/-!
# Failure cascades

When a pass comes to a stage and the jobs before it have failed or are canceled, hooks that
skip jobs after a failure skip every job from there on: with the jobs of a stage skipped, the
jobs before the next one still come to a failure.  What a stage holds beside created jobs does
not matter as long as it is settled, be it failures of its own or tolerated ones.
-/

namespace Rollup

/-- Entries have failed or are canceled as a whole if and only if they are all settled and
one that must not fail is failed or canceled. -/
theorem Table.standard_stage_halted {entries : List Entry} :
    (standard.stageComposite entries).status ∈ [.failed, .canceled] ↔
      (∀ entry ∈ entries, entry.Settled) ∧
        ∃ status ∈ [.failed, .canceled], Entry.required status ∈ entries := by
  by_cases isEmpty : entries = []
  · subst isEmpty
    refine iff_of_false (by decide) ?_
    rintro ⟨_, status, _, member⟩
    cases member
  · constructor
    · intro halted
      have settled : ∀ entry ∈ entries, entry.Settled := by
        apply standard_stage_completed.mp
        revert halted
        generalize (standard.stageComposite entries).status = status
        cases status <;> decide
      refine ⟨settled, ?_⟩
      rw [status_of_settled isEmpty settled, settledStatus] at halted
      split at halted
      · rename_i failed
        exact ⟨.failed, by decide, failed⟩
      · split at halted
        · rename_i canceled
          exact ⟨.canceled, by decide, canceled⟩
        · split at halted <;> exact absurd halted (by decide)
    · rintro ⟨settled, status, among, member⟩
      rw [status_of_settled isEmpty settled, settledStatus]
      split
      · decide
      · rename_i noneFailed
        have canceled : status = .canceled := by
          rcases List.mem_cons.mp among with rfl | among
          · exact absurd member noneFailed
          · exact List.mem_singleton.mp among
        rw [if_pos (canceled ▸ member)]
        decide

/-- The rows at some positions have failed or are canceled as a whole. -/
def Roster.Halted (roster : Roster) (covers : Position → Bool) : Prop :=
  (roster.resolver.table.stageComposite
    ((roster.rows.filter fun row => covers row.position).map Row.entry)).status ∈
      [.failed, .canceled]

/-- The rows before a position have. -/
abbrev Roster.HaltedBefore (roster : Roster) (position : Position) : Prop :=
  roster.windowStatus (.beforeStage position) ∈ [.failed, .canceled]

theorem Roster.haltedBefore_iff {roster : Roster} {position : Position} :
    roster.HaltedBefore position ↔ roster.Halted (Window.beforeStage position).covers :=
  Iff.rfl

theorem Roster.halted_all_iff {roster : Roster} :
    roster.Halted (fun _ => true) ↔ roster.all.status ∈ [.failed, .canceled] := by
  have whole : roster.rows.filter (fun _ => true) = roster.rows :=
    List.filter_eq_self.mpr fun _ _ => rfl
  rw [Roster.Halted, whole]
  rfl

namespace Pass

namespace Replay

variable {σ : Type} {hooks : Hooks σ} {usual : σ → Prop}
  {decides : JobId → Status → Option Status} {position : Position} {replay : Replay σ}
  {said : Transcript} {acted : Except Fault Unit × Replay σ}

/-- A replay that has come to a position, with what is said from there to its end.  All jobs
wait for whole stages, and those that were created from the position on are offered, each
with what the rows before it come to in the end. -/
structure Onward (hooks : Hooks σ) (decides : JobId → Status → Option Status)
    (position : Position) (replay : Replay σ) (said : Transcript)
    (acted : Except Fault Unit × Replay σ) : Prop where
  speech : Speech hooks replay said acted
  unique : (replay.roster.rows.map Row.id).Nodup
  ordered : InStageOrder replay.roster.rows
  standard : replay.roster.resolver.table = .standard
  decided : ∀ exchange ∈ said, exchange.Decided decides
  offers : ∀ exchange ∈ said, ∀ id ∈ exchange.offered?, ∃ row ∈ replay.roster.rows,
    row.status = .created ∧ position ≤ row.position ∧ row.id = id
  offersAll : ∀ row ∈ replay.roster.rows, row.status = .created → position ≤ row.position →
    ∃ dependency answer, .release row.id dependency answer ∈ said
  awaits : ∀ row ∈ replay.roster.rows, ∀ dependency answer,
    .release row.id dependency answer ∈ said →
      dependency = acted.2.roster.windowStatus (.beforeStage row.position)

/-- The stages from a position on, and what follows on them, are said from the position on. -/
theorem StagesSpeech.onward {more closing : Transcript} {staged : Replay σ}
    (steady : hooks.Steady usual (fun _ => .stage) decides) (begins : usual replay.hooks)
    (unique : (replay.roster.rows.map Row.id).Nodup)
    (ordered : InStageOrder replay.roster.rows)
    (standard : replay.roster.resolver.table = .standard)
    (stages : StagesSpeech hooks (replay.roster.positions.filter (position ≤ ·)) replay more
      (.ok (), staged))
    (concluding : Speech hooks staged closing acted)
    (silent : ∀ exchange ∈ closing, exchange.offered? = none) :
    Onward hooks decides position replay (more ++ closing) acted := by
  have speech := stages.speech.andThen concluding
  have ascending : (replay.roster.positions.filter (position ≤ ·)).Pairwise (· < ·) :=
    (distinctPositions_ascending _).filter _
  have offered := stages.offersAll (ascending.imp UInt32.ne_of_lt) unique rfl
  refine ⟨speech, unique, ordered, standard, (steady.speech begins speech).1, ?offers,
    ?offersAll, ?awaits⟩
  case offers =>
    intro exchange member id offers
    rcases List.mem_append.mp member with member | member
    · have among : id ∈ more.filterMap Exchange.offered? :=
        List.mem_filterMap.mpr ⟨exchange, member, offers⟩
      rw [offered] at among
      obtain ⟨place, inPlaces, createdHere⟩ := List.mem_flatMap.mp among
      obtain ⟨row, inRows, created, rfl, same⟩ := Roster.mem_createdIds.mp createdHere
      exact ⟨row, inRows, created, of_decide_eq_true (List.mem_filter.mp inPlaces).2, same⟩
    · rw [silent exchange member] at offers
      cases offers
  case offersAll =>
    intro row inRows created behind
    have occurs : row.position ∈ replay.roster.positions :=
      mem_distinctPositions.mpr (List.mem_map_of_mem inRows)
    have among : row.id ∈ more.filterMap Exchange.offered? := by
      rw [offered]
      refine List.mem_flatMap.mpr ⟨row.position, ?_, ?_⟩
      · exact List.mem_filter.mpr ⟨occurs, decide_eq_true behind⟩
      · exact Roster.mem_createdIds.mpr ⟨row, inRows, created, rfl, rfl⟩
    obtain ⟨exchange, member, offers⟩ := List.mem_filterMap.mp among
    cases exchange with
    | release id dependency answer =>
        cases offers
        exact ⟨dependency, answer, List.mem_append_left _ member⟩
    | persistStage place status answer => cases offers
    | persistPipeline composite answer => cases offers
    | markProcessed batch answer => cases offers
  case awaits =>
    intro row inRows dependency answer member
    have inStages : .release row.id dependency answer ∈ more := by
      rcases List.mem_append.mp member with member | member
      · exact member
      · cases silent _ member
    obtain ⟨before, after, split⟩ := List.append_of_mem inStages
    obtain ⟨place, turn⟩ := stages.inTurn ascending ordered split
    obtain rfl := position_eq_of_nodup unique inRows turn.runs
    have reachesNothing : ∀ exchange ∈ closing, ∀ other ∈ exchange.offered?,
        ∀ last ∈ lastPosition? other replay.roster.rows, row.position ≤ last := by
      intro exchange inClosing other offers
      rw [silent exchange inClosing] at offers
      cases offers
    rw [split, List.append_assoc] at speech
    apply (turn.extend reachesNothing).before_eq speech
    rw [steady.scheduling (steady.converse begins _).2]

namespace Onward

variable (onward : Onward hooks decides position replay said acted)

include onward

theorem rows : acted.2.roster.rows = replay.roster.rows.map (Row.after said) := by
  rw [onward.speech.rows, Transcript.apply_of_nodup said onward.unique]

/-- The jobs before the position come to the same at the end. -/
theorem before_eq :
    acted.2.roster.windowStatus (.beforeStage position) =
      replay.roster.windowStatus (.beforeStage position) := by
  apply windowStatus_of_apply onward.speech.rows onward.speech.table
  intro exchange member id released last found
  obtain ⟨row, inRows, _, behind, rfl⟩ :=
    onward.offers exchange member id (Exchange.offered?_of_released? released)
  rw [lastPosition?_of_nodup onward.unique inRows] at found
  cases found
  exact decide_eq_false (UInt32.not_lt.mpr behind)

/-- A job that was not created stays as it is. -/
theorem entry_after {row : Row} (member : row ∈ replay.roster.rows)
    (notCreated : row.status ≠ .created) : (row.after said).entry = row.entry := by
  have silent : said.update? row.id = none := by
    apply Transcript.update?_eq_none
    intro exchange inSaid released
    obtain ⟨other, inRows, created, _, same⟩ :=
      onward.offers exchange inSaid row.id (Exchange.offered?_of_released? released)
    rw [eq_of_key_eq onward.unique inRows member same] at created
    exact notCreated created
  simp only [Row.entry, Row.after, silent, Option.map_none, Option.getD_none]

variable {covers : Position → Bool}

theorem mem_entries {entry : Entry} :
    entry ∈ (acted.2.roster.rows.filter fun row => covers row.position).map Row.entry ↔
      ∃ row ∈ replay.roster.rows, covers row.position = true ∧
        (row.after said).entry = entry := by
  rw [onward.rows]
  constructor
  · intro member
    obtain ⟨after, inRows, same⟩ := List.mem_map.mp member
    obtain ⟨among, covered⟩ := List.mem_filter.mp inRows
    obtain ⟨row, inOrigin, rfl⟩ := List.mem_map.mp among
    exact ⟨row, inOrigin, covered, same⟩
  · rintro ⟨row, member, covered, rfl⟩
    exact List.mem_map_of_mem (List.mem_filter.mpr ⟨List.mem_map_of_mem member, covered⟩)

/-- Rows are completed in the end if and only if they are all settled then. -/
theorem completed_iff {window : Window} :
    (acted.2.roster.windowStatus window).isCompleted = true ↔
      ∀ row ∈ replay.roster.rows, window.covers row.position = true →
        (row.after said).entry.Settled := by
  have table := onward.speech.table.trans onward.standard
  rw [Roster.windowStatus, table, Table.standard_stage_completed]
  constructor
  · exact fun settled row member covered =>
      settled _ (onward.mem_entries.mpr ⟨row, member, covered, rfl⟩)
  · intro settled entry member
    obtain ⟨row, inRows, covered, rfl⟩ := onward.mem_entries.mp member
    exact settled row inRows covered

/-- Rows are halted in the end if and only if they are all settled then, and one that must not
fail is failed or canceled. -/
theorem halted_iff :
    acted.2.roster.Halted covers ↔
      (∀ row ∈ replay.roster.rows, covers row.position = true →
        (row.after said).entry.Settled) ∧
      ∃ row ∈ replay.roster.rows, covers row.position = true ∧
        ∃ status ∈ [.failed, .canceled], (row.after said).entry = .required status := by
  have table := onward.speech.table.trans onward.standard
  rw [Roster.Halted, table, Table.standard_stage_halted]
  apply and_congr
  · constructor
    · exact fun settled row member covered =>
        settled _ (onward.mem_entries.mpr ⟨row, member, covered, rfl⟩)
    · intro settled entry member
      obtain ⟨row, inRows, covered, rfl⟩ := onward.mem_entries.mp member
      exact settled row inRows covered
  · constructor
    · rintro ⟨status, among, member⟩
      obtain ⟨row, inRows, covered, same⟩ := onward.mem_entries.mp member
      exact ⟨row, inRows, covered, status, among, same⟩
    · rintro ⟨row, inRows, covered, status, among, same⟩
      exact ⟨status, among, onward.mem_entries.mpr ⟨row, inRows, covered, same⟩⟩

/-- Where the jobs before the position are halted, all that takes them in is halted in the
end, if the other rows in it are settled. -/
theorem halted_of_settled (halted : replay.roster.HaltedBefore position)
    (within : ∀ place, place < position → covers place = true)
    (settled : ∀ row ∈ replay.roster.rows, covers row.position = true →
      position ≤ row.position → (row.after said).entry.Settled) :
    acted.2.roster.Halted covers := by
  rw [Roster.HaltedBefore, ← onward.before_eq] at halted
  obtain ⟨settledBefore, row, inRows, before, failed⟩ :=
    onward.halted_iff.mp (Roster.haltedBefore_iff.mp halted)
  refine onward.halted_iff.mpr ⟨?_, row, inRows, within _ (of_decide_eq_true before), failed⟩
  intro other member covered
  by_cases earlier : other.position < position
  · exact settledBefore other member (decide_eq_true earlier)
  · exact settled other member covered (UInt32.not_lt.mp earlier)

/-! ### Behind a failure -/

variable (skips : ∀ id, ∀ status ∈ [.failed, .canceled], decides id status = some .skipped)

include skips

/-- Where the rows before a job are halted in the end, the job is given no other update than
to be skipped. -/
theorem update_skips {row : Row} (member : row ∈ replay.roster.rows)
    (halted : acted.2.roster.HaltedBefore row.position) {exchange : Exchange}
    (inSaid : exchange ∈ said) {update : Update}
    (updates : exchange.update? row.id = some update) : update.status = .skipped := by
  have decided := onward.decided exchange inSaid
  rw [Exchange.update?.eq_def] at updates
  split at updates
  · rename_i id dependency given
    split at updates
    · rename_i same
      cases updates
      subst same
      obtain ⟨reply, answered, decision⟩ := decided
      cases answered
      rw [onward.awaits row member _ _ inSaid, skips _ _ halted] at decision
      exact Option.some.inj decision
    · cases updates
  · cases updates

/-- A created job behind the position is skipped then. -/
theorem skipped {row : Row} (member : row ∈ replay.roster.rows) (created : row.status = .created)
    (behind : position ≤ row.position) (halted : acted.2.roster.HaltedBefore row.position) :
    (row.after said).status = .skipped := by
  obtain ⟨dependency, answer, inSaid⟩ := onward.offersAll row member created behind
  obtain ⟨reply, rfl, decision⟩ := onward.decided _ inSaid
  rw [onward.awaits row member _ _ inSaid, skips _ _ halted] at decision
  obtain ⟨update, rfl, _⟩ := Option.map_eq_some_iff.mp decision
  have updates : Exchange.update? row.id (.release row.id dependency (.ok (some update))) =
      some update := if_pos rfl
  have occurs : said.filterMap (Exchange.update? row.id) ≠ [] :=
    List.ne_nil_of_mem (List.mem_filterMap.mpr ⟨_, inSaid, updates⟩)
  obtain ⟨exchange, inSaidToo, last⟩ := List.mem_filterMap.mp (List.getLast_mem occurs)
  have given : said.update? row.id = some _ := List.getLast?_eq_some_getLast occurs
  rw [Row.after, given]
  exact onward.update_skips skips member halted inSaidToo last

/-- Every job from the position on is settled in the end: where those before it are, they are
halted, and so it is settled as well. -/
theorem settled (halted : replay.roster.HaltedBefore position)
    (calm : ∀ row ∈ replay.roster.rows, position ≤ row.position →
      row.status = .created ∨ row.entry.Settled) :
    ∀ row ∈ replay.roster.rows, position ≤ row.position → (row.after said).entry.Settled := by
  apply forall_mem_of_first
  intro front row back split holds behind
  have member : row ∈ replay.roster.rows := by simp [split]
  have haltedHere : acted.2.roster.HaltedBefore row.position := by
    apply Roster.haltedBefore_iff.mpr
    apply onward.halted_of_settled halted
    · exact fun place before => decide_eq_true (UInt32.lt_of_lt_of_le before behind)
    · intro other inRows before otherBehind
      -- In stage order an earlier row stands in front.
      have earlier : other.position < row.position := of_decide_eq_true before
      have ordered := onward.ordered
      rw [split] at inRows ordered
      have afterwards := (List.pairwise_cons.mp (List.pairwise_append.mp ordered).2.1).1
      rcases List.mem_append.mp inRows with inFront | inBack
      · exact holds other inFront otherBehind
      · rcases List.mem_cons.mp inBack with rfl | inBack
        · exact absurd earlier (UInt32.lt_irrefl _)
        · exact absurd earlier (UInt32.not_lt.mpr (afterwards other inBack))
  by_cases created : row.status = .created
  · left
    rw [Row.entry, onward.skipped skips member created behind haltedHere]
    rfl
  · rw [onward.entry_after member created]
    exact (calm row member behind).resolve_left created

/-- So the jobs before each later position are halted as well. -/
theorem haltedBefore (halted : replay.roster.HaltedBefore position)
    (calm : ∀ row ∈ replay.roster.rows, position ≤ row.position →
      row.status = .created ∨ row.entry.Settled) {place : Position} (behind : position ≤ place) :
    acted.2.roster.HaltedBefore place := by
  apply Roster.haltedBefore_iff.mpr
  apply onward.halted_of_settled halted
  · exact fun other before => decide_eq_true (UInt32.lt_of_lt_of_le before behind)
  · exact fun row member _ => onward.settled skips halted calm row member

end Onward

/-- A replay goes on from a position that it comes to. -/
theorem run_onward (steady : hooks.Steady usual (fun _ => .stage) decides)
    (begins : usual replay.hooks) (ordered : InStageOrder replay.roster.rows)
    (standard : replay.roster.resolver.table = .standard) (batchSize fuel : Nat)
    {current : Replay σ}
    (passed : inTurn (runStage hooks) (replay.roster.positions.filter (· < position)) replay =
      (.ok (), current))
    (unique : (current.roster.rows.map Row.id).Nodup) :
    ∃ front back, Speech hooks replay front ((.ok () : Except Fault Unit), current) ∧
      Onward hooks decides position current back (run hooks batchSize fuel replay) := by
  let earlier := replay.roster.positions.filter (· < position)
  let later := replay.roster.positions.filter (position ≤ ·)
  obtain ⟨front, staging⟩ := stages_speech hooks earlier replay
  rw [passed] at staging
  have opening := staging.speech
  have goesOn : usual current.hooks := (steady.speech begins opening).2
  obtain ⟨succeeds, _⟩ := @inTurn_succeeds _ _ _ (fun replay : Replay σ => usual replay.hooks)
    (fun place _ stands => steady.runStage_succeeds stands place) later _ goesOn
  have ascending : replay.roster.positions.Pairwise (· ≤ ·) :=
    (distinctPositions_ascending _).imp UInt32.le_of_lt
  have apart : earlier ++ later = replay.roster.positions :=
    @filter_lt_append _ id _ ascending position
  have whole : inTurn (runStage hooks) replay.roster.positions replay =
      inTurn (runStage hooks) later current :=
    (congrArg (inTurn (runStage hooks) · replay) apart.symm).trans (inTurn_append passed)
  have places : current.roster.positions.filter (position ≤ ·) = later :=
    congrArg (fun places => (distinctPositions places).filter (position ≤ ·)) opening.map_position
  obtain ⟨more, stages⟩ := stages_speech hooks later current
  generalize inTurn (runStage hooks) later current = acted at stages succeeds whole
  obtain ⟨result, staged⟩ := acted
  cases succeeds
  obtain ⟨answer, marks, concluding, onlyMarks⟩ := conclude_speech hooks batchSize fuel staged
  rw [run_of_staged hooks batchSize fuel whole]
  rw [← places] at stages
  refine ⟨front, _, opening, stages.onward steady goesOn unique ?ordered ?standard concluding ?_⟩
  case ordered => exact opening.inStageOrder ordered
  case standard => exact opening.table.trans standard
  intro exchange member
  rcases List.mem_cons.mp member with rfl | member
  · rfl
  · obtain ⟨batch, answer, rfl⟩ := onlyMarks exchange member
    rfl

end Replay

/-! ## Passes -/

variable {σ : Type} (pass : Pass σ) (stamps : Stamps) {board : Board} (hooks : σ)
  (outbox : Outbox) {position : Position} {current : Progress σ}

/-- How far a pass has come when it arrives at a position: it is through with the stages
before it.  A pass that fails there, or has no rows, does not arrive. -/
def progressAt? (board : Board) (position : Position) : Option (Progress σ) :=
  match (board.record [.passStarted]).loadAside with
  | (.error _, _) => none
  | (.ok snapshot, board) =>
      let start : Progress σ :=
        { pipeline := board.pipeline
          loaded := board.opened snapshot
          hooks := hooks
          outbox := outbox
          report := .start stamps board.pipeline
          trace := [] }
      let (positions, progress) := start.ask Board.Loaded.positions
      match forEach (runStage pass.hooks) (positions.filter (· < position)) progress with
      | (.error _, _) => none
      | (.ok (), progress) => some progress

/-- A pass that arrives at a position stands there as its replay does. -/
theorem arrives_as_replay (sound : board.Sound)
    (arrives : pass.progressAt? stamps hooks outbox board position = some current) :
    ∃ snapshot, board.loadAside.1 = .ok snapshot ∧
      let start : Replay σ := .start ⟨snapshot.rows, board.resolver⟩ hooks
      ∃ arrived,
        inTurn (Replay.runStage pass.hooks) (start.roster.positions.filter (· < position)) start =
          (.ok (), arrived) ∧
        current.loaded.roster = arrived.roster ∧ current.loaded.Sound := by
  have started : (board.record [.passStarted]).ledger = board.ledger := rfl
  have recorded := Board.loadAside_spec (sound.record [.passStarted])
  rw [started] at recorded
  rw [progressAt?] at arrives
  rcases recorded with
    ⟨_, _, fails, _⟩ | ⟨snapshot, after, loads, scans, soundAfter, state⟩
  · rw [fails] at arrives
    cases arrives
  · rcases Board.loadAside_spec sound with
      ⟨_, _, _, scansToo, _⟩ | ⟨loaded, afterToo, loadsToo, scansToo, _⟩
    · rw [scans] at scansToo
      cases scansToo
    · have same := Except.ok.inj (Prod.mk.inj (scans.symm.trans scansToo)).1
      have rosterEq : (after.opened snapshot).roster = ⟨loaded.rows, board.resolver⟩ :=
        same.trans (congrArg (Roster.mk loaded.rows) (Ledger.loadAside_eq_ok scansToo).1)
      let start : Progress σ :=
        ⟨after.pipeline, after.opened snapshot, hooks, outbox, .start stamps after.pipeline, []⟩
      have opened : start.loaded.Sound := soundAfter.loaded state
      obtain ⟨next, asked, follows⟩ := (Follows.refl opened).ask Board.Loaded.positions_refines
      refine ⟨loaded, by rw [loadsToo], ?_⟩
      rw [← rosterEq]
      simp only [loads, start, asked, Replay.start] at arrives
      rcases (mirrors_forEach (mirrors_runStage pass.hooks)
          ((after.opened snapshot).roster.positions.filter (· < position)) follows).cases with
        ⟨fault, staged, noted, acted, stepped, _⟩ | ⟨_, staged, noted, acted, stepped, follows⟩
      · rw [acted] at arrives
        cases arrives
      · rw [acted] at arrives
        cases arrives
        exact ⟨noted, stepped, follows.roster, follows.sound⟩

/-- Hooks that go by successes, with jobs that wait for whole stages.  A pass comes to a
position, the jobs before it have failed or are canceled, and those from there on are created
or settled.  Then the pass stores one composite of the pipeline and comes to a report that has
it, and there the pipeline has failed or is canceled.  It skips the jobs that were created, and
gives them no other status on the way, and each stage that it stores from the position on is
completed. -/
theorem run_failure_cascade {account : Recording.Account}
    (stands : Recording.GoesBySuccess [] account) (batchSize : Nat) (stamps : Stamps)
    {fuel : Nat} {board : Board} (reached : board.Reached)
    (standard : board.resolver.table = .standard) (outbox : Outbox) {position : Position}
    {current : Progress Recording.Account}
    (arrives : progressAt? ⟨Recording.hooks, batchSize⟩ stamps account outbox board position =
      some current)
    (unique : (current.loaded.rows.map Row.id).Nodup)
    (enough : current.loaded.rows.length < fuel)
    (halted : (current.loaded.windowStatus (.beforeStage position)).1 ∈ [.failed, .canceled])
    (calm : ∀ row ∈ current.loaded.rows, position ≤ row.position →
      row.status = .created ∨ row.entry.Settled) :
    let pass : Pass Recording.Account := ⟨Recording.hooks, batchSize⟩
    let outcome := pass.run stamps fuel board account outbox
    let said := outcome.transcript pass account
    (∀ row ∈ current.loaded.rows, position ≤ row.position → row.status = .created →
        (∃ final, (outcome.board.row? row.id).1 = .ok (some final) ∧ final.status = .skipped) ∧
        ∀ exchange ∈ said, ∀ update, exchange.update? row.id = some update →
          update.status = .skipped) ∧
      (∀ place status answer, .persistStage place status answer ∈ said → position ≤ place →
        status.isCompleted = true) ∧
      ∃ report composite, outcome.result = .ok report ∧
        report.pipelineStatus = some composite ∧ composite.status ∈ [.failed, .canceled] ∧
        .persistPipeline composite (.ok ()) ∈ said ∧
        ∀ other answer, .persistPipeline other answer ∈ said → other = composite := by
  intro pass outcome said
  have steady := Recording.steady []
  obtain ⟨snapshot, loads, arrived, passed, rosterEq, sound⟩ :=
    arrives_as_replay pass stamps account outbox reached.sound arrives
  let start : Replay Recording.Account := .start ⟨snapshot.rows, board.resolver⟩ account
  obtain ⟨ordered, course, showing, ledgerEq⟩ :=
    run_of_rows pass stamps fuel reached.sound account outbox loads
  have uniqueHere : (arrived.roster.rows.map Row.id).Nodup := by
    rw [← rosterEq]
    exact unique
  obtain ⟨front, back, opening, onward⟩ :=
    Replay.run_onward steady stands ordered standard batchSize fuel passed uniqueHere
  have uniqueStart := opening.map_id ▸ uniqueHere
  have enoughStart : snapshot.rows.length < fuel := by
    have count := congrArg List.length opening.map_id
    rw [List.length_map, List.length_map, ← rosterEq] at count
    exact count ▸ enough
  have succeeds := steady.run_succeeds stands uniqueStart batchSize enoughStart
  have soundAfter : outcome.board.Sound :=
    (Board.run_agrees pass stamps fuel reached.sound account outbox).sound
  have parts : said = front ++ back :=
    Outcome.transcript_eq showing (opening.andThen onward.speech)
  have haltedHere : arrived.roster.HaltedBefore position := by
    have answer := (Board.Loaded.windowStatus_refines (.beforeStage position)).answer sound
    rw [answer] at halted
    rw [← rosterEq]
    exact halted
  have skips : ∀ _ : JobId, ∀ status ∈ [.failed, .canceled],
      Recording.Account.statusAfter? status = some .skipped :=
    fun _ => by decide
  have calmHere : ∀ row ∈ arrived.roster.rows, position ≤ row.position →
      row.status = .created ∨ row.entry.Settled := by
    rw [← rosterEq]
    exact calm
  have settled := onward.settled skips haltedHere calmHere
  refine ⟨?skipped, ?stages, ?pipeline⟩
  case skipped =>
    intro row inRows behind created
    have member : row ∈ arrived.roster.rows := rosterEq ▸ inRows
    have haltedBefore := onward.haltedBefore skips haltedHere calmHere behind
    have inFinal : row.after back ∈
        (Replay.run Recording.hooks batchSize fuel start).2.roster.rows := by
      rw [onward.rows]
      exact List.mem_map_of_mem member
    refine ⟨⟨row.after back, ?_, ?_⟩, fun exchange inSaid update updates => ?_⟩
    · exact Board.row?_of_close soundAfter ledgerEq (course.speech.map_id ▸ uniqueStart) inFinal
    · exact onward.skipped skips member created behind haltedBefore
    · rw [parts] at inSaid
      rcases List.mem_append.mp inSaid with inFront | inBack
      · have notReleased :=
          (steady.created_of_speech stands opening uniqueStart member created).2
        have released := Exchange.released?_of_update? updates
        exact absurd (List.mem_filterMap.mpr ⟨exchange, inFront, released⟩) notReleased
      · exact onward.update_skips skips member haltedBefore inBack updates
  case stages =>
    intro place status answer member behind
    rw [course.holds ordered _ member]
    apply onward.completed_iff.mpr
    intro row inRows covered
    have here : row.position = place := of_decide_eq_true covered
    exact settled row inRows (here ▸ behind)
  case pipeline =>
    obtain ⟨report, result⟩ := Outcome.exists_report showing succeeds
    obtain ⟨_, whole⟩ := run_reports_of_holds pass stamps fuel reached.sound account outbox loads
      result (course.holds ordered)
    obtain ⟨composite, stored⟩ := course.resolves succeeds
    have found : composite = _ := course.holds ordered _ stored
    rw [found] at stored
    refine ⟨report, _, result, whole, ?_, stored,
      fun other answer member => course.holds ordered _ member⟩
    apply Roster.halted_all_iff.mp
    exact onward.halted_of_settled haltedHere (fun _ _ => rfl) fun row inRows _ =>
      settled row inRows

/-- The stage between the skipped ones only has a job that waits for a person. -/
theorem run_failure_cascade_manual :
    let rows : List Row :=
      [.fresh ⟨1⟩ "build" .failed 0, .fresh ⟨2⟩ "test" .created 1,
        { Row.fresh ⟨3⟩ "deploy" .manual 2 with allowFailure := true },
        .fresh ⟨4⟩ "notify" .created 3]
    let account : Recording.Account := .ofPolicy .onSuccess [] []
    let pass := ofHooks Recording.hooks
    let board := Board.ofSource ⟨7⟩ (.memory [(⟨7⟩, rows)]) (.fixed ⟨false, true⟩)
    let outcome := pass.run .blank 5 board account (.ofSink .discard)
    board.Reached ∧ Recording.GoesBySuccess [] account ∧
      (∃ current, pass.progressAt? .blank account (.ofSink .discard) board 1 = some current ∧
        (current.loaded.windowStatus (.beforeStage 1)).1 = .failed ∧ current.loaded.rows = rows) ∧
      (∃ final, (outcome.board.row? ⟨4⟩).1 = .ok (some final) ∧ final.status = .skipped) ∧
      ∃ report composite, outcome.result = .ok report ∧
        report.pipelineStatus = some composite ∧ composite.status ∈ [.failed, .canceled] := by
  intro rows account pass board outcome
  have reached : board.Reached := ⟨_, _, _, [], rfl⟩
  have stands : Recording.GoesBySuccess [] account := ⟨rfl, rfl⟩
  have seen : (pass.progressAt? .blank account (.ofSink .discard) board 1).map (fun current =>
      ((current.loaded.windowStatus (.beforeStage 1)).1, current.loaded.rows)) =
        some (.failed, rows) := by
    decide +kernel
  obtain ⟨current, arrives, shows⟩ := Option.map_eq_some_iff.mp seen
  obtain ⟨failed, same⟩ := Prod.mk.inj shows
  have halted : (current.loaded.windowStatus (.beforeStage 1)).1 ∈ [.failed, .canceled] := by
    rw [failed]
    decide
  have calm : ∀ row ∈ rows, 1 ≤ row.position → row.status = .created ∨ row.entry.Settled := by
    decide
  obtain ⟨skipped, _, report, composite, result, whole, fails, _⟩ :=
    @run_failure_cascade _ stands _ .blank 5 _ reached rfl (.ofSink .discard) 1 _ arrives
      (same ▸ by decide) (same ▸ by decide) halted (same ▸ calm)
  have created := skipped (.fresh ⟨4⟩ "notify" .created 3) (by rw [same]; decide) (by decide) rfl
  exact ⟨reached, stands, ⟨current, arrives, failed, same⟩, created.1, report, composite, result,
    whole, fails⟩

end Pass

end Rollup
