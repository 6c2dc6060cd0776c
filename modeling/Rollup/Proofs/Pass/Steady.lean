import Rollup.Pass.Recording
import Rollup.Proofs.Pass.Offers

/-!
# Steady hooks

Steady hooks always tell the same of a job: what it waits for, and what becomes of it when
it is offered with some composite.  They fail no call.  So a pass with such hooks over rows
of distinct ids comes to a report, and what it was answered is known from what it asked.
-/

namespace Rollup

universe u

/-- Hooks that, in the states that they usually are in and never leave, decide about a job by
its id and the composite that it is offered with.  They make no job created, and they answer
every call. -/
structure Hooks.Steady {σ : Type} (hooks : Hooks σ) (usual : σ → Prop)
    (waits : JobId → Scheduling) (decides : JobId → Status → Option Status) : Prop where
  scheduling : ∀ {state}, usual state → hooks.scheduling state = waits
  release : ∀ {state}, usual state → ∀ id dependency, ∃ reply after,
    hooks.release state id dependency = (.ok reply, after) ∧
      reply.map Update.status = decides id dependency ∧ usual after
  creates : ∀ id dependency, decides id dependency ≠ some .created
  persistStage : ∀ {state}, usual state → ∀ position status, ∃ after,
    hooks.persistStage state position status = (.ok (), after) ∧ usual after
  persistPipeline : ∀ {state}, usual state → ∀ composite, ∃ after,
    hooks.persistPipeline state composite = (.ok (), after) ∧ usual after
  markProcessed : ∀ {state}, usual state → ∀ batch, ∃ confirmed after,
    hooks.markProcessed state batch = (.ok confirmed, after) ∧ usual after

namespace Pass

/-- An offer in a conversation was answered by what is decided about the job. -/
def Exchange.Decided (decides : JobId → Status → Option Status) : Exchange → Prop
  | .release id dependency answer =>
      ∃ reply, answer = .ok reply ∧ reply.map Update.status = decides id dependency
  | _ => True

/-- Who is not made created by the decision is not made created by the answer. -/
theorem Exchange.Decided.not_created {decides : JobId → Status → Option Status}
    (creates : ∀ id dependency, decides id dependency ≠ some .created) {exchange : Exchange}
    (decided : exchange.Decided decides) {id : JobId} {update : Update}
    (updates : exchange.update? id = some update) : update.status ≠ .created := by
  rw [update?.eq_def] at updates
  split at updates
  · split at updates
    · cases updates
      obtain ⟨reply, answered, same⟩ := decided
      cases answered
      intro created
      rw [Option.map_some, created] at same
      exact creates _ _ same.symm
    · cases updates
  · cases updates

end Pass

/-- Actions that all succeed, and keep up what they need for it, succeed in turn. -/
theorem Pass.inTurn_succeeds {α S : Type} {act : α → S → Except Fault Unit × S}
    {good : S → Prop}
    (succeeds : ∀ item state, good state →
      (act item state).1 = .ok () ∧ good (act item state).2)
    (items : List α) {state : S} (begins : good state) :
    (inTurn act items state).1 = .ok () ∧ good (inTurn act items state).2 := by
  induction items generalizing state with
  | nil => exact ⟨rfl, begins⟩
  | cons item rest ih =>
      obtain ⟨done, goesOn⟩ := succeeds item state begins
      rw [inTurn]
      generalize act item state = acted at done goesOn ⊢
      obtain ⟨result, next⟩ := acted
      cases done
      exact ih goesOn

namespace Hooks.Steady

open Pass

variable {σ : Type} {hooks : Hooks σ} {usual : σ → Prop} {waits : JobId → Scheduling}
  {decides : JobId → Status → Option Status} (steady : hooks.Steady usual waits decides)

include steady

/-! ## Answers -/

theorem answer {state : σ} (stands : usual state) (call : Call) :
    (hooks.answer state call).1.Decided decides ∧ usual (hooks.answer state call).2 := by
  cases call with
  | release id dependency =>
      obtain ⟨reply, after, called, decided, goesOn⟩ := steady.release stands id dependency
      rw [Hooks.answer, called]
      exact ⟨⟨reply, rfl, decided⟩, goesOn⟩
  | persistStage position status =>
      obtain ⟨after, called, goesOn⟩ := steady.persistStage stands position status
      rw [Hooks.answer, called]
      exact ⟨trivial, goesOn⟩
  | persistPipeline composite =>
      obtain ⟨after, called, goesOn⟩ := steady.persistPipeline stands composite
      rw [Hooks.answer, called]
      exact ⟨trivial, goesOn⟩
  | markProcessed batch =>
      obtain ⟨confirmed, after, called, goesOn⟩ := steady.markProcessed stands batch
      rw [Hooks.answer, called]
      exact ⟨trivial, goesOn⟩

theorem converse {state : σ} (stands : usual state) (calls : List Call) :
    (∀ exchange ∈ (hooks.converse calls state).1, exchange.Decided decides) ∧
      usual (hooks.converse calls state).2 := by
  induction calls generalizing state with
  | nil => exact ⟨fun _ member => absurd member List.not_mem_nil, stands⟩
  | cons call rest ih =>
      obtain ⟨decided, goesOn⟩ := steady.answer stands call
      obtain ⟨others, ends⟩ := ih goesOn
      exact ⟨List.forall_mem_cons.mpr ⟨decided, others⟩, ends⟩

theorem speech {α : Type} {replay : Replay σ} {said : Transcript}
    {acted : Except Fault α × Replay σ} (stands : usual replay.hooks)
    (speech : Replay.Speech hooks replay said acted) :
    (∀ exchange ∈ said, exchange.Decided decides) ∧ usual acted.2.hooks := by
  have conversed := steady.converse stands (said.map Exchange.call)
  rw [speech.answers] at conversed
  exact conversed

/-- Who is created when something was said was so before, and was not released. -/
theorem created_of_speech {α : Type} {replay : Replay σ} {said : Transcript}
    {acted : Except Fault α × Replay σ} (stands : usual replay.hooks)
    (speech : Replay.Speech hooks replay said acted)
    (unique : (replay.roster.rows.map Row.id).Nodup) {row : Row}
    (member : row ∈ acted.2.roster.rows) (created : row.status = .created) :
    row.id ∈ createdJobs replay.roster.rows ∧ row.id ∉ said.filterMap Exchange.released? := by
  have harmless : ∀ id update, ∀ exchange ∈ said, exchange.update? id = some update →
      update.status ≠ .created := by
    intro id update exchange member
    exact ((steady.speech stands speech).1 exchange member).not_created steady.creates
  rw [speech.rows, said.apply_of_nodup unique] at member
  obtain ⟨origin, inRows, rfl⟩ := List.mem_map.mp member
  obtain ⟨wasCreated, notReleased⟩ := origin.created_of_after harmless created
  exact ⟨mem_createdJobs.mpr ⟨origin, inRows, wasCreated, rfl⟩, notReleased⟩

/-! ## Success -/

theorem releaseJob_succeeds {replay : Replay σ} (stands : usual replay.hooks)
    (position : Position) (id : JobId) :
    (Replay.releaseJob hooks position id replay).1 = .ok () ∧
      usual (Replay.releaseJob hooks position id replay).2.hooks := by
  have waited := Replay.dependencyStatus_speech hooks position id replay
  rw [Replay.releaseJob]
  generalize Replay.dependencyStatus hooks position id replay = answered at waited ⊢
  obtain ⟨dependency, next⟩ := answered
  have same : replay.hooks = next.hooks := congrArg Prod.snd waited.answers
  rw [same] at stands
  obtain ⟨reply, after, called, _, goesOn⟩ := steady.release stands id dependency
  simp only [Replay.exchange_eq, called]
  cases reply with
  | none => exact ⟨rfl, goesOn⟩
  | some update => exact ⟨rfl, goesOn⟩

theorem storeStage_succeeds {replay : Replay σ} (stands : usual replay.hooks)
    (position : Position) :
    (Replay.storeStage hooks position replay).1 = .ok () ∧
      usual (Replay.storeStage hooks position replay).2.hooks := by
  obtain ⟨after, called, goesOn⟩ := steady.persistStage stands position
    (replay.roster.windowStatus (.atStage position))
  simp only [Replay.storeStage, Replay.exchange_eq, called]
  exact ⟨rfl, goesOn⟩

theorem runStage_succeeds {replay : Replay σ} (stands : usual replay.hooks)
    (position : Position) :
    (Replay.runStage hooks position replay).1 = .ok () ∧
      usual (Replay.runStage hooks position replay).2.hooks := by
  obtain ⟨released, goesOn⟩ := @inTurn_succeeds _ _ _ (fun replay : Replay σ => usual replay.hooks)
    (fun id _ stands => steady.releaseJob_succeeds stands position id)
    (replay.roster.createdIds position) _ stands
  rw [Replay.runStage]
  generalize inTurn (Replay.releaseJob hooks position) _ replay = acted at released goesOn ⊢
  obtain ⟨result, next⟩ := acted
  cases released
  exact steady.storeStage_succeeds goesOn position

/-- A replay comes to its marking, behind the stages and the composite of the pipeline. -/
theorem run_marks {replay : Replay σ} (stands : usual replay.hooks) (batchSize fuel : Nat) :
    ∃ said staged stored,
      Replay.StagesSpeech hooks replay.roster.positions replay said (.ok (), staged) ∧
      Replay.Speech hooks staged [.persistPipeline staged.roster.all (.ok ())]
        ((.ok staged.roster.all : Except Fault Composite), stored) ∧
      usual stored.hooks ∧
      Replay.run hooks batchSize fuel replay =
        Replay.markRows hooks batchSize fuel [] stored := by
  obtain ⟨passed, goesOn⟩ := @inTurn_succeeds _ _ _ (fun replay : Replay σ => usual replay.hooks)
    (fun position _ stands => steady.runStage_succeeds stands position)
    replay.roster.positions _ stands
  obtain ⟨said, stages⟩ := Replay.stages_speech hooks replay.roster.positions replay
  rw [Replay.run]
  generalize inTurn (Replay.runStage hooks) _ replay = acted at passed goesOn stages ⊢
  obtain ⟨result, staged⟩ := acted
  cases passed
  obtain ⟨after, called, goesOn⟩ := steady.persistPipeline goesOn staged.roster.all
  have asked : hooks.answer staged.hooks (.persistPipeline staged.roster.all) =
      (.persistPipeline staged.roster.all (.ok ()), after) := by
    simp only [Hooks.answer, called]
  refine ⟨said, staged, _, stages, .one asked rfl rfl rfl (.of_value rfl), goesOn, ?_⟩
  simp only [Replay.storePipeline, Replay.exchange_eq, called]
  rfl

/-- A replay of rows of distinct ids succeeds. -/
theorem run_succeeds {replay : Replay σ} (stands : usual replay.hooks)
    (unique : (replay.roster.rows.map Row.id).Nodup) (batchSize : Nat) {fuel : Nat}
    (enough : replay.roster.rows.length < fuel) :
    (Replay.run hooks batchSize fuel replay).1 = .ok () := by
  obtain ⟨said, staged, stored, stages, closing, goesOn, runs⟩ :=
    steady.run_marks stands batchSize fuel
  have ids : stored.roster.rows.map Row.id = replay.roster.rows.map Row.id :=
    (stages.speech.andThen closing).map_id
  have fits : (Replay.candidates stored.roster []).length < fuel := by
    have count := congrArg List.length ids
    rw [List.length_map, List.length_map] at count
    exact Nat.lt_of_le_of_lt (Replay.length_candidates_le _ _) (count ▸ enough)
  rw [← ids] at unique
  rw [runs]
  exact (Replay.markRows_ends (fun _ stands => steady.markProcessed stands) batchSize goesOn
    (.of_nodup unique) fits).1

end Hooks.Steady

/-! ## Recording hooks -/

/-- The account goes by successes, and some jobs wait for named jobs. -/
def Recording.GoesBySuccess (needs : List (JobId × List String)) (account : Account) : Prop :=
  account.policy = .onSuccess ∧ account.needs = needs

/-- Recording hooks that go by successes are steady. -/
theorem Recording.steady (needs : List (JobId × List String)) :
    hooks.Steady (GoesBySuccess needs) (Account.ofPolicy .onSuccess needs []).scheduling
      (fun _ dependency => Account.statusAfter? dependency) where
  scheduling := by
    intro account stands
    funext id
    simp only [hooks, Account.scheduling, Account.ofPolicy, stands.2]
  release := by
    intro account stands id dependency
    simp only [hooks, Account.release, stands.1]
    cases decided : Account.statusAfter? dependency with
    | none => exact ⟨none, _, rfl, rfl, rfl, stands.2⟩
    | some status => exact ⟨some _, _, rfl, rfl, rfl, stands.2⟩
  creates := by
    intro _ dependency
    cases dependency <;> decide
  persistStage stands _ _ := ⟨_, rfl, stands⟩
  persistPipeline stands _ := ⟨_, rfl, stands⟩
  markProcessed stands _ := ⟨_, _, rfl, stands⟩

end Rollup
