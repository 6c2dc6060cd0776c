import Rollup.Proofs.Pass.Conversation

/-!
# Courses

The course of a replay is what is said in it part by part: for each stage the offers and
then the composite that is stored, after the last stage the composite of the pipeline, and
marks at the end, up to the first call that fails.  It is shown once that every replay has
such a course.  What passes offer, store and leave is then read off the course.
-/

namespace Rollup

namespace Pass

variable {σ : Type}

namespace Replay

variable (hooks : Hooks σ)

/-! ## Stages -/

/-- When something had been said, a job was offered at a position with the composite of
what it waits for, as the replay stood by then. -/
def Awaits (hooks : Hooks σ) (position : Position) (replay : Replay σ) (before : Transcript)
    (id : JobId) (dependency : Status) : Prop :=
  ∃ current : Replay σ, Speech hooks replay before ((.ok () : Except Fault Unit), current) ∧
    dependency = (dependencyStatus hooks position id current).1

theorem Awaits.after {hooks : Hooks σ} {position : Position} {replay next : Replay σ}
    {said before : Transcript} {id : JobId} {dependency : Status}
    (awaits : Awaits hooks position next before id dependency)
    (speech : Speech hooks replay said ((.ok () : Except Fault Unit), next)) :
    Awaits hooks position replay (said ++ before) id dependency := by
  obtain ⟨current, later, waited⟩ := awaits
  exact ⟨current, speech.andThen later, waited⟩

/-- The jobs of a list are offered in turn, as far as the offers come. -/
theorem releases_speech (position : Position) (ids : List JobId) (replay : Replay σ) :
    ∃ said, Speech hooks replay said (inTurn (releaseJob hooks position) ids replay) ∧
      said.filterMap Exchange.offered? <+: ids ∧
      ((inTurn (releaseJob hooks position) ids replay).1 = .ok () →
        said.filterMap Exchange.offered? = ids) ∧
      (∀ exchange ∈ said, ∃ id, exchange.offered? = some id) ∧
      ∀ before id dependency answer after,
        said = before ++ .release id dependency answer :: after →
          Awaits hooks position replay before id dependency := by
  induction ids generalizing replay with
  | nil =>
      refine ⟨[], .silent () rfl rfl rfl rfl rfl, List.nil_prefix, fun _ => rfl, ?_, ?_⟩
      · exact fun _ member => absurd member List.not_mem_nil
      · intro before id dependency answer after split
        exact absurd split.symm (List.append_ne_nil_of_right_ne_nil _ (List.cons_ne_nil _ _))
  | cons id rest ih =>
      obtain ⟨answer, offer⟩ := releaseJob_speech hooks position id replay
      have first : Awaits hooks position replay [] id
          (dependencyStatus hooks position id replay).1 :=
        ⟨replay, .silent () rfl rfl rfl rfl rfl, rfl⟩
      rw [inTurn]
      generalize releaseJob hooks position id replay = acted at offer ⊢
      obtain ⟨result, next⟩ := acted
      cases result with
      | error fault =>
          refine ⟨_, offer.fails, ?_, ?_, ?_, ?_⟩
          · exact List.cons_prefix_cons.mpr ⟨rfl, List.nil_prefix⟩
          · intro succeeds
            cases succeeds
          · intro exchange member
            exact ⟨id, by rw [List.mem_singleton.mp member]; rfl⟩
          · intro before other dependency given after split
            rcases List.cons_eq_append_iff.mp split with ⟨rfl, same⟩ | ⟨front, rfl, rest⟩
            · cases same
              exact first
            · exact absurd rest.symm
                (List.append_ne_nil_of_right_ne_nil _ (List.cons_ne_nil _ _))
      | ok _ =>
          obtain ⟨said, speech, isPrefix, complete, onlyOffers, awaits⟩ := ih next
          refine ⟨_, offer.andThen speech, ?_, ?_, ?_, ?_⟩
          · exact List.cons_prefix_cons.mpr ⟨rfl, isPrefix⟩
          · intro succeeds
            exact congrArg (id :: ·) (complete succeeds)
          · intro exchange member
            rcases List.mem_cons.mp member with rfl | member
            · exact ⟨id, rfl⟩
            · exact onlyOffers exchange member
          · intro before other dependency given after split
            rcases List.cons_eq_append_iff.mp split with ⟨rfl, same⟩ | ⟨front, rfl, rest⟩
            · cases same
              exact first
            · exact (awaits front other dependency given after rest).after offer

/-- What is said in a stage: the jobs that are created on entry are offered, as far as the
offers come, and after the last of them the composite of the stage is stored, as the stage
leaves it. -/
structure StageSpeech (hooks : Hooks σ) (position : Position) (replay : Replay σ)
    (said : Transcript) (acted : Except Fault Unit × Replay σ) : Prop
    extends Speech hooks replay said acted where
  offers : said.filterMap Exchange.offered? <+: replay.roster.createdIds position
  offersAll : acted.1 = .ok () →
    said.filterMap Exchange.offered? = replay.roster.createdIds position
  storesAll : acted.1 = .ok () →
    (said.filterMap Exchange.stored?).map Prod.fst = [position]
  shape : ∀ exchange ∈ said, (∃ id, exchange.offered? = some id) ∨
    ∃ answer, exchange =
      .persistStage position (acted.2.roster.windowStatus (.atStage position)) answer
  awaits : ∀ before id dependency answer after,
    said = before ++ .release id dependency answer :: after →
      before.filterMap Exchange.stored? = [] ∧
        Awaits hooks position replay before id dependency

theorem runStage_speech (position : Position) (replay : Replay σ) :
    ∃ said, StageSpeech hooks position replay said (runStage hooks position replay) := by
  obtain ⟨said, speech, offers, offersAll, onlyOffers, awaits⟩ :=
    releases_speech hooks position (replay.roster.createdIds position) replay
  have noneStored : said.filterMap Exchange.stored? = [] := by
    apply List.filterMap_eq_nil_iff.mpr
    intro exchange member
    obtain ⟨id, offered⟩ := onlyOffers exchange member
    exact Exchange.stored?_of_offered? offered
  have waits : ∀ before id dependency answer after,
      said = before ++ .release id dependency answer :: after →
        before.filterMap Exchange.stored? = [] ∧
          Awaits hooks position replay before id dependency := by
    intro before id dependency answer after split
    refine ⟨?_, awaits before id dependency answer after split⟩
    rw [split, List.filterMap_append] at noneStored
    exact (List.append_eq_nil_iff.mp noneStored).1
  rw [runStage]
  generalize inTurn (releaseJob hooks position) (replay.roster.createdIds position) replay =
    acted at speech offersAll ⊢
  obtain ⟨result, next⟩ := acted
  cases result with
  | error fault =>
      have failed : (.error fault : Except Fault Unit) ≠ .ok () := by
        intro impossible
        cases impossible
      refine ⟨said, speech.fails, offers, fun succeeds => absurd succeeds failed,
        fun succeeds => absurd succeeds failed, ?_, waits⟩
      exact fun exchange member => .inl (onlyOffers exchange member)
  | ok _ =>
      obtain ⟨answer, storing⟩ := storeStage_speech hooks position next
      let store := Exchange.persistStage position
        (next.roster.windowStatus (.atStage position)) answer
      have offered :
          (said ++ [store]).filterMap Exchange.offered? = replay.roster.createdIds position := by
        rw [List.filterMap_append, offersAll rfl]
        exact List.append_nil _
      have stored : (said ++ [store]).filterMap Exchange.stored? = store.stored?.toList := by
        rw [List.filterMap_append, noneStored]
        cases answer <;> rfl
      refine ⟨said ++ [store], speech.andThen storing, ?offers, fun _ => offered, ?storesAll,
        ?shape, ?awaits⟩
      case offers => exact offered ▸ List.prefix_rfl
      case storesAll =>
        intro succeeds
        have ends := storing.ends
        rw [succeeds] at ends
        have answered := ends.succeeds _ List.mem_cons_self
        rw [stored]
        cases answer with
        | ok _ => rfl
        | error reason => cases answered
      case shape =>
        have kept := Roster.windowStatus_congr storing.rows storing.table (.atStage position)
        intro exchange member
        rcases List.mem_append.mp member with member | member
        · exact .inl (onlyOffers exchange member)
        · rw [List.mem_singleton.mp member]
          exact .inr ⟨answer, congrArg (Exchange.persistStage position · answer) kept.symm⟩
      case awaits =>
        intro before id dependency given after split
        -- The stored composite comes last, so the offer stands before it.
        rcases split_concat split with ⟨_, impossible, _⟩ | ⟨inner, same⟩
        · simp [store] at impossible
        · exact waits before id dependency given inner same

/-- What is said in stages that are run one after the other, up to the first that fails. -/
inductive StagesSpeech (hooks : Hooks σ) :
    List Position → Replay σ → Transcript → Except Fault Unit × Replay σ → Prop where
  | nil {replay : Replay σ} : StagesSpeech hooks [] replay [] (.ok (), replay)
  | fault {position : Position} {others : List Position} {replay next : Replay σ}
      {said : Transcript} {fault : Fault}
      (stage : StageSpeech hooks position replay said (.error fault, next)) :
      StagesSpeech hooks (position :: others) replay said (.error fault, next)
  | cons {position : Position} {others : List Position} {replay next : Replay σ}
      {said more : Transcript} {acted : Except Fault Unit × Replay σ}
      (stage : StageSpeech hooks position replay said (.ok (), next))
      (rest : StagesSpeech hooks others next more acted) :
      StagesSpeech hooks (position :: others) replay (said ++ more) acted

theorem stages_speech (positions : List Position) (replay : Replay σ) :
    ∃ said, StagesSpeech hooks positions replay said
      (inTurn (runStage hooks) positions replay) := by
  induction positions generalizing replay with
  | nil => exact ⟨[], .nil⟩
  | cons position others ih =>
      obtain ⟨said, stage⟩ := runStage_speech hooks position replay
      rw [inTurn]
      generalize runStage hooks position replay = acted at stage ⊢
      obtain ⟨result, next⟩ := acted
      cases result with
      | error fault => exact ⟨said, .fault stage⟩
      | ok _ =>
          obtain ⟨more, rest⟩ := ih next
          exact ⟨said ++ more, .cons stage rest⟩

namespace StagesSpeech

variable {hooks : Hooks σ} {positions : List Position} {replay : Replay σ}
  {said : Transcript} {acted : Except Fault Unit × Replay σ}

theorem speech (stages : StagesSpeech hooks positions replay said acted) :
    Speech hooks replay said acted := by
  induction stages with
  | nil => exact .silent () rfl rfl rfl rfl rfl
  | fault stage => exact stage.toSpeech
  | cons stage _ ih => exact stage.andThen ih

/-- Stages that all succeed are stored in the order in which they are run. -/
theorem storesAll (stages : StagesSpeech hooks positions replay said acted)
    (succeeds : acted.1 = .ok ()) :
    (said.filterMap Exchange.stored?).map Prod.fst = positions := by
  induction stages with
  | nil => rfl
  | fault stage => cases succeeds
  | cons stage _ ih =>
      rw [List.filterMap_append, List.map_append, stage.storesAll rfl, ih succeeds]
      rfl

end StagesSpeech

/-! ## Marking -/

theorem markRows_speech (batchSize fuel : Nat) (declined : List JobId) (replay : Replay σ) :
    ∃ marks,
      Speech hooks replay marks (markRows hooks batchSize fuel declined replay) ∧
      ∀ exchange ∈ marks, ∃ batch answer, exchange = .markProcessed batch answer := by
  induction fuel generalizing declined replay with
  | zero =>
      refine ⟨[], ⟨(List.append_nil _).symm, rfl, rfl, rfl, rfl, .outOfFuel .nil⟩, ?_⟩
      exact fun _ member => absurd member List.not_mem_nil
  | succ fuel ih =>
      rw [markRows]
      dsimp only
      split
      · refine ⟨[], .silent () rfl rfl rfl rfl rfl, ?_⟩
        exact fun _ member => absurd member List.not_mem_nil
      · generalize nextBatch batchSize replay.roster declined = batch
        rw [exchange_eq]
        cases called : hooks.markProcessed replay.hooks batch with
        | mk answer after =>
            have asked : hooks.answer replay.hooks (.markProcessed batch) =
                (.markProcessed batch answer, after) := by
              simp only [Hooks.answer, called]
            cases answer with
            | error reason =>
                refine ⟨_, .one asked rfl rfl rfl (.of_fault rfl), ?_⟩
                intro exchange member
                exact ⟨_, _, List.mem_singleton.mp member⟩
            | ok confirmed =>
                let ids := (batch.map Prod.fst).filter (· ∈ confirmed)
                have marked : Speech hooks replay [.markProcessed batch (.ok confirmed)]
                    ((.ok () : Except Fault Unit), ⟨markAll replay.roster ids, after,
                      replay.transcript ++ [.markProcessed batch (.ok confirmed)]⟩) := by
                  apply Speech.one asked
                  · rw [markAll_eq]
                    rfl
                  · rw [markAll_eq]
                  · rw [markAll_eq]
                  · exact .of_value rfl
                obtain ⟨marks, speech, onlyMarks⟩ := ih
                  (((batch.map Prod.fst).filter (· ∉ confirmed)).reverse ++ declined)
                  ⟨markAll replay.roster ids, after, _⟩
                refine ⟨_, marked.andThen speech, ?_⟩
                intro exchange member
                rcases List.mem_cons.mp member with rfl | member
                · exact ⟨_, _, rfl⟩
                · exact onlyMarks exchange member

/-! ## Whole replays -/

/-- What is said in a whole replay: its stages by ascending position, and if they succeed
the composite of the pipeline, as they leave it, and then marks. -/
inductive RunSpeech (hooks : Hooks σ) (replay : Replay σ) :
    Transcript → Except Fault Unit × Replay σ → Prop where
  | fault {said : Transcript} {fault : Fault} {next : Replay σ}
      (stages : StagesSpeech hooks replay.roster.positions replay said (.error fault, next)) :
      RunSpeech hooks replay said (.error fault, next)
  | closed {said marks : Transcript} {staged : Replay σ} {answer : Except String Unit}
      {acted : Except Fault Unit × Replay σ}
      (stages : StagesSpeech hooks replay.roster.positions replay said (.ok (), staged))
      (closing : Speech hooks staged
        (.persistPipeline staged.roster.all answer :: marks) acted)
      (onlyMarks : ∀ exchange ∈ marks, ∃ batch answer,
        exchange = .markProcessed batch answer) :
      RunSpeech hooks replay (said ++ .persistPipeline staged.roster.all answer :: marks) acted

/-- What follows on the stages: the composite of the pipeline is stored, and rows are
marked. -/
def conclude (batchSize fuel : Nat) (replay : Replay σ) : Except Fault Unit × Replay σ :=
  match storePipeline hooks replay with
  | (.error fault, replay) => (.error fault, replay)
  | (.ok _, replay) => markRows hooks batchSize fuel [] replay

theorem conclude_speech (batchSize fuel : Nat) (staged : Replay σ) :
    ∃ answer marks,
      Speech hooks staged (.persistPipeline staged.roster.all answer :: marks)
        (conclude hooks batchSize fuel staged) ∧
      ∀ exchange ∈ marks, ∃ batch answer, exchange = .markProcessed batch answer := by
  obtain ⟨answer, storing⟩ := storePipeline_speech hooks staged
  rw [conclude]
  generalize storePipeline hooks staged = acted at storing ⊢
  obtain ⟨result, next⟩ := acted
  cases result with
  | error fault => exact ⟨answer, [], storing.fails, fun _ member => absurd member List.not_mem_nil⟩
  | ok composite =>
      obtain ⟨marks, marking, onlyMarks⟩ := markRows_speech hooks batchSize fuel [] next
      exact ⟨answer, marks, storing.andThen marking, onlyMarks⟩

/-- A replay is concluded as soon as its stages have succeeded. -/
theorem run_of_staged (batchSize fuel : Nat) {replay staged : Replay σ}
    (passed : inTurn (runStage hooks) replay.roster.positions replay = (.ok (), staged)) :
    run hooks batchSize fuel replay = conclude hooks batchSize fuel staged := by
  rw [run, passed]
  rfl

theorem run_speech (batchSize fuel : Nat) (replay : Replay σ) :
    ∃ said, RunSpeech hooks replay said (run hooks batchSize fuel replay) := by
  obtain ⟨said, stages⟩ := stages_speech hooks replay.roster.positions replay
  cases passed : inTurn (runStage hooks) replay.roster.positions replay with
  | mk result staged =>
      rw [passed] at stages
      cases result with
      | error fault =>
          rw [run, passed]
          exact ⟨said, .fault stages⟩
      | ok _ =>
          obtain ⟨answer, marks, closing, onlyMarks⟩ :=
            conclude_speech hooks batchSize fuel staged
          rw [run_of_staged hooks batchSize fuel passed]
          exact ⟨_, .closed stages closing onlyMarks⟩

namespace RunSpeech

variable {hooks : Hooks σ} {replay : Replay σ} {said : Transcript}
  {acted : Except Fault Unit × Replay σ}

theorem speech (run : RunSpeech hooks replay said acted) : Speech hooks replay said acted := by
  cases run with
  | fault stages => exact stages.speech
  | closed stages closing _ => exact stages.speech.andThen closing

/-- Behind the stages nothing is offered, and no stage is stored. -/
theorem stages (run : RunSpeech hooks replay said acted) :
    ∃ front closing staged, said = front ++ closing ∧
      StagesSpeech hooks replay.roster.positions replay front staged ∧
      (acted.1 = .ok () → staged.1 = .ok ()) ∧
      closing.filterMap Exchange.offered? = [] ∧ closing.filterMap Exchange.stored? = [] := by
  cases run with
  | fault stages => exact ⟨said, [], _, (List.append_nil _).symm, stages, id, rfl, rfl⟩
  | closed stages _ onlyMarks =>
      refine ⟨_, _, _, rfl, stages, fun _ => rfl, ?_, ?_⟩
      · rw [List.filterMap_cons_none rfl]
        apply List.filterMap_eq_nil_iff.mpr
        intro exchange member
        obtain ⟨batch, answer, rfl⟩ := onlyMarks exchange member
        rfl
      · rw [List.filterMap_cons_none rfl]
        apply List.filterMap_eq_nil_iff.mpr
        intro exchange member
        obtain ⟨batch, answer, rfl⟩ := onlyMarks exchange member
        rfl

/-- A replay that succeeds stores a composite for each position. -/
theorem storesAll (run : RunSpeech hooks replay said acted) (succeeds : acted.1 = .ok ()) :
    (said.filterMap Exchange.stored?).map Prod.fst = replay.roster.positions := by
  obtain ⟨front, closing, staged, rfl, stages, stagesSucceed, _, silent⟩ := run.stages
  rw [List.filterMap_append, silent, List.append_nil]
  exact stages.storesAll (stagesSucceed succeeds)

/-- A replay that succeeds stores the composite of the pipeline. -/
theorem resolves (run : RunSpeech hooks replay said acted) (succeeds : acted.1 = .ok ()) :
    ∃ composite, .persistPipeline composite (.ok ()) ∈ said := by
  cases run with
  | fault stages => cases succeeds
  | @closed _ marks staged answer _ stages closing onlyMarks =>
      have ends := closing.ends
      rw [succeeds] at ends
      have answered := ends.succeeds _ List.mem_cons_self
      cases answer with
      | ok _ => exact ⟨_, List.mem_append_right _ List.mem_cons_self⟩
      | error reason => cases answered

end RunSpeech

end Replay

/-! ## Passes -/

/-- What an outcome shows of a replay is what was said in the replay. -/
theorem Outcome.transcript_eq {pass : Pass σ} {hooks : σ} {outcome : Outcome σ}
    {pipeline : PipelineId} {stamps : Stamps} {outbox : Outbox} {roster : Roster}
    {replayed : Except Fault Unit × Replay σ} {said : Transcript}
    (showing : outcome.showing = Replay.showing pipeline stamps outbox replayed)
    (speech : Replay.Speech pass.hooks (.start roster hooks) said replayed) :
    outcome.transcript pass hooks = said := by
  have traceEq : outcome.trace = replayed.2.transcript.trace pipeline :=
    congrArg Showing.trace showing
  have saidEq : replayed.2.transcript = said := speech.transcript
  rw [transcript, traceEq, Transcript.trace_filterMap_call?, saidEq]
  exact congrArg Prod.fst speech.answers

/-- An outcome that shows a replay has a report if the replay succeeds, and it is that of
the transcript. -/
theorem Outcome.report_eq {outcome : Outcome σ} {pipeline : PipelineId} {stamps : Stamps}
    {outbox : Outbox} {replayed : Except Fault Unit × Replay σ} {report : Report}
    (showing : outcome.showing = Replay.showing pipeline stamps outbox replayed)
    (result : outcome.result = .ok report) :
    replayed.1 = .ok () ∧
      report = (replayed.2.transcript.report (.start stamps pipeline)).finish stamps := by
  have resultEq : outcome.result = _ := congrArg Showing.result showing
  rw [result] at resultEq
  obtain ⟨fault | _, replay⟩ := replayed
  · cases resultEq
  · exact ⟨rfl, Except.ok.inj resultEq⟩

/-- A replay that succeeded has a report. -/
theorem Outcome.exists_report {σ : Type} {outcome : Outcome σ} {pipeline : PipelineId}
    {stamps : Stamps} {outbox : Outbox} {replayed : Except Fault Unit × Replay σ}
    (showing : outcome.showing = Replay.showing pipeline stamps outbox replayed)
    (succeeds : replayed.1 = .ok ()) : ∃ report, outcome.result = .ok report := by
  have result : outcome.result = _ := congrArg Showing.result showing
  rw [Replay.showing, succeeds] at result
  exact ⟨_, result⟩

section Runs

variable (pass : Pass σ) (stamps : Stamps) (fuel : Nat) {board : Board}
  (sound : board.Sound) (hooks : σ) (outbox : Outbox)

include sound

/-- Without rows a pass does nothing but load. -/
theorem run_unavailable {cause : Unavailable} (fails : board.loadAside.1 = .error cause) :
    let outcome := pass.run stamps fuel board hooks outbox
    outcome.showing = ⟨.error (.unavailable cause), hooks, outbox, []⟩ ∧
      outcome.transcript pass hooks = [] ∧
      outcome.board.ledger = board.loadAside.2.ledger := by
  intro outcome
  have agrees := Board.run_agrees pass stamps fuel sound hooks outbox
  rcases Board.loadAside_spec sound with
    ⟨_, after, loads, scans, _⟩ | ⟨_, _, loads, _⟩
  · rw [loads] at fails
    cases fails
    simp only [Ledger.runPass, scans] at agrees
    have silent : outcome.trace = [] := congrArg Showing.trace agrees.answer
    refine ⟨agrees.answer, ?_, ?_⟩
    · rw [Outcome.transcript, silent]
      rfl
    · rw [loads]
      exact agrees.ledger
  · rw [loads] at fails
    cases fails

/-- A pass that comes to a report had rows. -/
theorem run_loads {report : Report} :
    (pass.run stamps fuel board hooks outbox).result = .ok report →
      ∃ snapshot, board.loadAside.1 = .ok snapshot := by
  intro result
  cases loads : board.loadAside.1 with
  | ok snapshot => exact ⟨snapshot, rfl⟩
  | error cause =>
      obtain ⟨showing, _⟩ := run_unavailable pass stamps fuel sound hooks outbox loads
      have failure : (pass.run stamps fuel board hooks outbox).result = _ :=
        congrArg Showing.result showing
      rw [failure] at result
      cases result

/-- A pass over rows says what the replay of the rows says, shows what it shows, and
leaves its rows. -/
theorem run_of_rows {snapshot : Snapshot} (loads : board.loadAside.1 = .ok snapshot) :
    let outcome := pass.run stamps fuel board hooks outbox
    let start : Replay σ := .start ⟨snapshot.rows, board.resolver⟩ hooks
    let replayed := Replay.run pass.hooks pass.batchSize fuel start
    InStageOrder snapshot.rows ∧
      Replay.RunSpeech pass.hooks start (outcome.transcript pass hooks) replayed ∧
      outcome.showing = Replay.showing board.pipeline stamps outbox replayed ∧
      outcome.board.ledger = board.loadAside.2.ledger.close replayed.2.roster := by
  intro outcome start replayed
  have agrees := Board.run_agrees pass stamps fuel sound hooks outbox
  rcases Board.loadAside_spec sound with
    ⟨_, _, fails, _⟩ | ⟨_, after, loaded, scans, soundAfter, state⟩
  · rw [fails] at loads
    cases loads
  · rw [loaded] at loads
    cases loads
    obtain ⟨resolverEq, pipelineEq⟩ := Ledger.loadAside_eq_ok scans
    have rosterEq : (after.opened snapshot).roster = ⟨snapshot.rows, board.resolver⟩ :=
      congrArg (Roster.mk snapshot.rows) resolverEq
    simp only [Ledger.runPass, scans, rosterEq, pipelineEq] at agrees
    have ordered : InStageOrder snapshot.rows := (soundAfter.loaded state).coherent.ordered
    obtain ⟨said, course⟩ := Replay.run_speech pass.hooks pass.batchSize fuel start
    have showing : outcome.showing = Replay.showing board.pipeline stamps outbox replayed :=
      agrees.answer
    rw [← Outcome.transcript_eq showing course.speech] at course
    rw [loaded]
    exact ⟨ordered, course, showing, agrees.ledger⟩

end Runs

end Pass

end Rollup
