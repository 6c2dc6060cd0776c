import Rollup.Proofs.Answers
import Rollup.Proofs.Pass.Replay

/-!
# Passes against replays

A pass over sound loaded parts does what its replay does: it makes the same calls with
the same values, gets the same answers, meets the same fault, and leaves the same rows,
and its trace, its outbox and its report are those of the transcript.  This is shown
action by action, and carried through the three loops of a pass by induction on their
lists and on the fuel of marking.
-/

namespace Rollup

namespace Pass

variable {σ α : Type}

/-- A progress that stands where a replay stands, counted from where both began. -/
structure Follows (origin progress : Progress σ) (replay : Replay σ) : Prop where
  sound : progress.loaded.Sound
  roster : progress.loaded.roster = replay.roster
  hooks : progress.hooks = replay.hooks
  pipeline : progress.pipeline = origin.pipeline
  trace : progress.trace = origin.trace ++ replay.transcript.trace origin.pipeline
  outbox : progress.outbox = replay.transcript.deliver origin.pipeline origin.outbox
  report : progress.report = replay.transcript.report origin.report

/-- A pass and a replay came to the same value or to the same fault, and stand where
the other stands. -/
def Agree (origin : Progress σ) (acted : Except Fault α × Progress σ)
    (replayed : Except Fault α × Replay σ) : Prop :=
  acted.1 = replayed.1 ∧ Follows origin acted.2 replayed.2

/-- An action that does what an action of the replay does. -/
def Mirrors (act : Action σ α) (step : Replay σ → Except Fault α × Replay σ) : Prop :=
  ∀ {origin progress : Progress σ} {replay : Replay σ}, Follows origin progress replay →
    Agree origin (act progress) (step replay)

theorem Agree.cases {origin : Progress σ} {acted : Except Fault α × Progress σ}
    {replayed : Except Fault α × Replay σ} (agree : Agree origin acted replayed) :
    (∃ fault progress replay, acted = (.error fault, progress) ∧
        replayed = (.error fault, replay) ∧ Follows origin progress replay) ∨
      ∃ value progress replay, acted = (.ok value, progress) ∧
        replayed = (.ok value, replay) ∧ Follows origin progress replay := by
  obtain ⟨result, progress⟩ := acted
  obtain ⟨replayedResult, replay⟩ := replayed
  obtain ⟨rfl, follows⟩ := agree
  cases result with
  | error fault => exact .inl ⟨fault, progress, replay, rfl, rfl, follows⟩
  | ok value => exact .inr ⟨value, progress, replay, rfl, rfl, follows⟩

/-- A call leaves the board alone. -/
theorem Progress.loaded_of_call {progress after : Progress σ} {operation : Operation} {call : Call}
    {run : σ → Except String α × σ} {result : Except Fault α}
    (called : progress.call operation call run = (result, after)) :
    after.loaded = progress.loaded := by
  have same : (progress.call operation call run).2.loaded = progress.loaded := by
    dsimp only [Progress.call]
    split <;> rfl
  rw [called] at same
  exact same

namespace Follows

variable {origin progress : Progress σ} {replay : Replay σ}

/-- A progress follows the replay that starts from its own rows and hooks. -/
theorem refl (sound : progress.loaded.Sound) :
    Follows progress progress (.start progress.loaded.roster progress.hooks) where
  sound := sound
  roster := rfl
  hooks := rfl
  pipeline := rfl
  trace := (List.append_nil _).symm
  outbox := rfl
  report := rfl

/-- Records concern the journal only. -/
theorem record (follows : Follows origin progress replay) (records : List Record) :
    Follows origin { progress with loaded := progress.loaded.record records } replay :=
  ⟨follows.sound.record records, follows.roster, follows.hooks, follows.pipeline,
    follows.trace, follows.outbox, follows.report⟩

/-- Asking the board is asking the roster. -/
theorem ask (follows : Follows origin progress replay)
    {question : Board.Loaded → α × Board.Loaded} {scan : Roster → α × Roster}
    (refines : Board.Loaded.Refines question scan) :
    ∃ next, progress.ask question = ((scan replay.roster).1, next) ∧
      Follows origin next { replay with roster := (scan replay.roster).2 } := by
  have answer := refines.answer follows.sound
  have rosterEq := refines.roster follows.sound
  rw [follows.roster] at answer rosterEq
  refine ⟨(progress.ask question).2, ?_, ?_⟩
  · rw [← answer]
    rfl
  · exact ⟨refines.sound follows.sound, rosterEq, follows.hooks, follows.pipeline,
      follows.trace, follows.outbox, follows.report⟩

/-- A progress that took over an exchange follows the replay that noted it. -/
theorem extend (follows : Follows origin progress replay) (exchange : Exchange)
    {next : Progress σ} {roster : Roster} {hooks : σ}
    (sound : next.loaded.Sound) (rosterEq : next.loaded.roster = roster)
    (hooksEq : next.hooks = hooks) (pipeline : next.pipeline = progress.pipeline)
    (trace : next.trace = progress.trace ++ exchange.steps progress.pipeline)
    (outbox : next.outbox = exchange.announce progress.pipeline progress.outbox)
    (report : next.report = exchange.enter progress.report) :
    Follows origin next ⟨roster, hooks, replay.transcript ++ [exchange]⟩ where
  sound := sound
  roster := rosterEq
  hooks := hooksEq
  pipeline := pipeline.trans follows.pipeline
  trace := by
    rw [trace, follows.trace, follows.pipeline]
    simp [Transcript.trace]
  outbox := by
    rw [outbox, follows.outbox, follows.pipeline]
    simp [Transcript.deliver]
  report := by
    rw [report, follows.report]
    simp [Transcript.report]

/-- A hook is called with the same state on both sides.  A call that fails is an
exchange of its own; of one that succeeds the pass still has to take over the value. -/
theorem call (follows : Follows origin progress replay) (operation : Operation)
    (call : Call) (note : Except String α → Exchange) (run : σ → Except String α × σ)
    (calls : ∀ answer, (note answer).call = call)
    (unannounced : ∀ reason pipeline, (note (.error reason)).event? pipeline = none)
    (unreported : ∀ reason report, (note (.error reason)).enter report = report) :
    (∃ fault next noted, progress.call operation call run = (.error fault, next) ∧
        replay.exchange operation note run = (.error fault, noted) ∧
        Follows origin next noted) ∨
      ∃ value after,
        progress.call operation call run =
          (.ok value,
            { progress with hooks := after, trace := progress.trace ++ [.called call] }) ∧
        replay.exchange operation note run =
          (.ok value, ⟨replay.roster, after, replay.transcript ++ [note (.ok value)]⟩) := by
  simp only [Progress.call, Replay.exchange, follows.hooks]
  cases run replay.hooks with
  | mk answer after =>
      cases answer with
      | error reason =>
          refine .inl ⟨_, _, _, rfl, rfl, follows.extend (note (.error reason))
            follows.sound follows.roster rfl rfl ?_ ?_ ?_⟩
          · simp only [Exchange.steps, calls, unannounced]
            rfl
          · simp only [Exchange.announce, unannounced]
          · exact (unreported reason _).symm
      | ok value => exact .inr ⟨value, after, rfl, rfl⟩

end Follows

/-- Actions that mirror each other for each item do so one after the other. -/
theorem mirrors_forEach {act : α → Action σ Unit}
    {step : α → Replay σ → Except Fault Unit × Replay σ}
    (each : ∀ item, Mirrors (act item) (step item)) (items : List α) :
    Mirrors (forEach act items) (inTurn step items) := by
  induction items with
  | nil => exact fun follows => ⟨rfl, follows⟩
  | cons item rest ih =>
      intro origin progress replay follows
      simp only [forEach, inTurn]
      rcases (each item follows).cases with
        ⟨fault, next, noted, acted, stepped, after⟩ | ⟨_, next, noted, acted, stepped, after⟩
      · simp only [acted, stepped]
        exact ⟨rfl, after⟩
      · simp only [acted, stepped]
        exact ih after

/-! ## Stages -/

variable (hooks : Hooks σ)

theorem dependencyStatus_follows {origin progress : Progress σ} {replay : Replay σ}
    (follows : Follows origin progress replay) (position : Position) (id : JobId) :
    ∃ next,
      dependencyStatus hooks position id progress =
        ((Replay.dependencyStatus hooks position id replay).1, next) ∧
      Follows origin next (Replay.dependencyStatus hooks position id replay).2 := by
  rw [dependencyStatus, Replay.dependencyStatus, follows.hooks]
  cases hooks.scheduling replay.hooks id with
  | stage => exact follows.ask (Board.Loaded.windowStatus_refines _)
  | dag needs =>
      cases needs with
      | nil => exact ⟨progress, rfl, follows⟩
      | cons need needs => exact follows.ask (Board.Loaded.forNames_refines _ .dag)

theorem mirrors_releaseJob (position : Position) (id : JobId) :
    Mirrors (releaseJob hooks position id) (Replay.releaseJob hooks position id) := by
  intro origin progress replay follows
  obtain ⟨next, waited, asked⟩ := dependencyStatus_follows hooks follows position id
  simp only [releaseJob, Replay.releaseJob, waited]
  generalize Replay.dependencyStatus hooks position id replay = scanned at asked ⊢
  obtain ⟨dependency, replay⟩ := scanned
  dsimp only at asked ⊢
  rcases asked.call .release (.release id dependency) (.release id dependency)
      (hooks.release · id dependency)
      (fun _ => rfl) (fun _ _ => rfl) (fun _ _ => rfl) with
    ⟨fault, failed, noted, called, exchanged, after⟩ | ⟨update?, after, called, exchanged⟩
  · simp only [called, exchanged]
    exact ⟨rfl, after⟩
  · simp only [called, exchanged]
    cases update? with
    | none =>
        exact ⟨rfl, asked.extend (.release id dependency (.ok none)) asked.sound
          asked.roster rfl rfl rfl rfl rfl⟩
    | some update =>
        have set := Board.Loaded.setStatus_refines id update
        have rosterEq := set.roster asked.sound
        rw [asked.roster] at rosterEq
        exact ⟨rfl, asked.extend (.release id dependency (.ok (some update)))
          ((set.sound asked.sound).record _) rosterEq rfl rfl
          (List.append_assoc _ _ _) rfl rfl⟩

theorem mirrors_storeStage (position : Position) :
    Mirrors (storeStage hooks position) (Replay.storeStage hooks position) := by
  intro origin progress replay follows
  obtain ⟨next, resolved, asked⟩ :=
    follows.ask (Board.Loaded.windowStatus_refines (.atStage position))
  simp only [storeStage, Replay.storeStage, resolved]
  generalize replay.roster.windowStatus (.atStage position) = status
  rcases asked.call .persistStage (.persistStage position status)
      (.persistStage position status) (hooks.persistStage · position status)
      (fun _ => rfl) (fun _ _ => rfl) (fun _ _ => rfl) with
    ⟨fault, failed, noted, called, exchanged, after⟩ | ⟨_, after, called, exchanged⟩
  · simp only [called, exchanged]
    exact ⟨rfl, after⟩
  · simp only [called, exchanged]
    exact ⟨rfl, asked.extend (.persistStage position status (.ok ())) (asked.sound.record _)
      asked.roster rfl rfl (List.append_assoc _ _ _) rfl rfl⟩

theorem mirrors_runStage (position : Position) :
    Mirrors (runStage hooks position) (Replay.runStage hooks position) := by
  intro origin progress replay follows
  obtain ⟨next, entered, asked⟩ := follows.ask (Board.Loaded.createdIds_refines position)
  simp only [runStage, Replay.runStage, entered]
  rcases (mirrors_forEach (mirrors_releaseJob hooks position)
      (replay.roster.createdIds position) asked).cases with
    ⟨fault, offered, noted, acted, stepped, after⟩ | ⟨_, offered, noted, acted, stepped, after⟩
  · simp only [acted, stepped]
    exact ⟨rfl, after⟩
  · simp only [acted, stepped]
    exact mirrors_storeStage hooks position after

theorem mirrors_storePipeline :
    Mirrors (storePipeline hooks) (Replay.storePipeline hooks) := by
  intro origin progress replay follows
  obtain ⟨next, resolved, asked⟩ := follows.ask Board.Loaded.all_refines
  simp only [storePipeline, Replay.storePipeline, resolved]
  generalize replay.roster.all = composite
  rcases asked.call .persistPipeline (.persistPipeline composite)
      (.persistPipeline composite) (hooks.persistPipeline · composite)
      (fun _ => rfl) (fun _ _ => rfl) (fun _ _ => rfl) with
    ⟨fault, failed, noted, called, exchanged, after⟩ | ⟨_, after, called, exchanged⟩
  · simp only [called, exchanged]
    exact ⟨rfl, after⟩
  · simp only [called, exchanged]
    exact ⟨rfl, asked.extend (.persistPipeline composite (.ok ())) (asked.sound.record _)
      asked.roster rfl rfl (List.append_assoc _ _ _) rfl rfl⟩

/-! ## Marking -/

/-- Settling a batch of known ids marks the confirmed ones, counts them, and declines
the others. -/
theorem settle_spec (confirmed : List JobId) {ids : List JobId} (declined : List JobId)
    (progress : Progress σ) (sound : progress.loaded.Sound)
    (known : ∀ id ∈ ids, id ∈ progress.loaded.roster.rows.map Row.id) :
    ∃ loaded : Board.Loaded,
      loaded.Sound ∧
      loaded.roster =
        Replay.markAll progress.loaded.roster (ids.filter (· ∈ confirmed)) ∧
      settle confirmed ids (declined, progress) =
        ((ids.filter (· ∉ confirmed)).reverse ++ declined,
          { progress with
            loaded := loaded
            report :=
              { progress.report with
                processed := progress.report.processed + ids.countP (· ∈ confirmed) } }) := by
  induction ids generalizing declined progress with
  | nil => exact ⟨progress.loaded, sound, rfl, rfl⟩
  | cons id rest ih =>
      by_cases isConfirmed : id ∈ confirmed
      · have set := Board.Loaded.setProcessed_refines id
        have found : (progress.loaded.setProcessed id).1 = true := by
          rw [set.answer sound]
          exact decide_eq_true (known id List.mem_cons_self)
        have markedEq := set.roster sound
        obtain ⟨loaded, soundAfter, rosterEq, settled⟩ := ih declined
          { progress with
            loaded := (progress.loaded.setProcessed id).2
            report := { progress.report with processed := progress.report.processed + 1 } }
          (set.sound sound) (by
            intro other member
            rw [markedEq]
            change other ∈ (changeLast id Row.marked _).map Row.id
            rw [map_changeLast id Row.marked fun _ => rfl]
            exact known other (List.mem_cons_of_mem _ member))
        refine ⟨loaded, soundAfter, ?_, ?_⟩
        · rw [rosterEq, markedEq]
          simp [isConfirmed, Replay.markAll]
        · simp only [settle, isConfirmed, if_true, Progress.ask, found, settled]
          simp [isConfirmed, Nat.add_assoc, Nat.add_comm 1]
      · have restKnown : ∀ id ∈ rest, id ∈ progress.loaded.roster.rows.map Row.id :=
          fun id member => known id (List.mem_cons_of_mem _ member)
        obtain ⟨loaded, soundAfter, rosterEq, settled⟩ :=
          ih (id :: declined) progress sound restKnown
        refine ⟨loaded, soundAfter, ?_, ?_⟩
        · simpa [isConfirmed] using rosterEq
        · simp only [settle, isConfirmed, if_false, settled]
          simp [isConfirmed]

/-- Offered ids are ids of rows. -/
theorem mem_of_mem_nextBatch {batchSize : Nat} {roster : Roster} {declined : List JobId}
    {id : JobId} (member : id ∈ (Replay.nextBatch batchSize roster declined).map Prod.fst) :
    id ∈ roster.rows.map Row.id := by
  rw [Replay.nextBatch, List.map_map] at member
  obtain ⟨row, taken, rfl⟩ := List.mem_map.mp member
  have candidate := (List.mem_filter.mp (List.mem_of_mem_take taken)).1
  exact List.mem_map_of_mem (List.mem_filter.mp candidate).1

theorem mirrors_markRows (batchSize fuel : Nat) (declined : List JobId) :
    Mirrors (markRows hooks batchSize fuel declined)
      (Replay.markRows hooks batchSize fuel declined) := by
  induction fuel generalizing declined with
  | zero => exact fun follows => ⟨rfl, follows⟩
  | succ fuel ih =>
      intro origin progress replay follows
      have batchEq : nextBatch batchSize declined progress.loaded =
          Replay.nextBatch batchSize replay.roster declined := by
        rw [← follows.roster]
        rfl
      have known : ∀ id ∈ (Replay.nextBatch batchSize replay.roster declined).map Prod.fst,
          id ∈ progress.loaded.roster.rows.map Row.id := by
        rw [follows.roster]
        exact fun id => mem_of_mem_nextBatch
      simp only [markRows, Replay.markRows, batchEq]
      generalize Replay.nextBatch batchSize replay.roster declined = batch at known ⊢
      cases batch with
      | nil => exact ⟨rfl, follows⟩
      | cons offer offers =>
          simp only [List.isEmpty_cons, Bool.false_eq_true, if_false, reduceCtorEq]
          rcases follows.call .markProcessed (.markProcessed (offer :: offers))
              (.markProcessed (offer :: offers))
              (hooks.markProcessed · (offer :: offers))
              (fun _ => rfl) (fun _ _ => rfl) (fun _ _ => rfl) with
            ⟨fault, failed, noted, called, exchanged, after⟩ |
              ⟨confirmed, after, called, exchanged⟩
          · simp only [called, exchanged]
            exact ⟨rfl, after⟩
          · simp only [called, exchanged]
            obtain ⟨loaded, sound, rosterEq, settled⟩ := settle_spec confirmed declined
              { progress with
                hooks := after
                trace := progress.trace ++ [.called (.markProcessed (offer :: offers))] }
              follows.sound known
            rw [follows.roster] at rosterEq
            simp only [settled]
            exact ih _ (follows.extend (.markProcessed _ (.ok confirmed)) sound
              rosterEq rfl rfl rfl rfl rfl)

/-! ## Whole passes -/

theorem mirrors_runLoaded (batchSize fuel : Nat) :
    Mirrors (runLoaded hooks batchSize fuel) (Replay.run hooks batchSize fuel) := by
  intro origin progress replay follows
  obtain ⟨next, entered, asked⟩ := follows.ask Board.Loaded.positions_refines
  simp only [runLoaded, Replay.run, entered]
  rcases (mirrors_forEach (mirrors_runStage hooks) replay.roster.positions asked).cases with
    ⟨fault, staged, noted, acted, stepped, after⟩ | ⟨_, staged, noted, acted, stepped, after⟩
  · simp only [acted, stepped]
    exact ⟨rfl, after⟩
  simp only [acted, stepped]
  rcases (mirrors_storePipeline hooks after).cases with
    ⟨fault, stored, noted, acted, stepped, after⟩ | ⟨_, stored, noted, acted, stepped, after⟩
  · simp only [acted, stepped]
    exact ⟨rfl, after⟩
  simp only [acted, stepped]
  rcases (mirrors_markRows hooks batchSize fuel [] after).cases with
    ⟨fault, marked, noted, acted, stepped, after⟩ | ⟨_, marked, noted, acted, stepped, after⟩
  · simp only [acted, stepped]
    exact ⟨rfl, after⟩
  · simp only [acted, stepped]
    exact ⟨rfl, after.record _⟩

end Pass

end Rollup
