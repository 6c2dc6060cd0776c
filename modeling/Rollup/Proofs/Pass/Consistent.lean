import Rollup.Proofs.Pass.Steady
import Rollup.Proofs.Pass.Waiting

/-!
# Consistent hooks

Consistent hooks decide about a job by its id and the composite that it is offered with, as
steady ones do, but they may fail, and they may make a job created again.  A pass over rows of
distinct ids in which none of their calls fails comes to a report.
-/

namespace Rollup

/-- Hooks that, in the states that they usually are in and that no successful call leads out
of, always tell the same of a job: what it waits for, and what becomes of it when it is
offered with some composite. -/
structure Hooks.Consistent {σ : Type} (hooks : Hooks σ) (usual : σ → Prop)
    (waits : JobId → Scheduling) (decides : JobId → Status → Option Status) : Prop where
  scheduling : ∀ {state}, usual state → hooks.scheduling state = waits
  answer : ∀ {state}, usual state → ∀ call, (hooks.answer state call).1.failure? = none →
    (hooks.answer state call).1.Decided decides ∧ usual (hooks.answer state call).2

/-- Steady hooks are consistent. -/
theorem Hooks.Steady.consistent {σ : Type} {hooks : Hooks σ} {usual : σ → Prop}
    {waits : JobId → Scheduling} {decides : JobId → Status → Option Status}
    (steady : hooks.Steady usual waits decides) : hooks.Consistent usual waits decides where
  scheduling := steady.scheduling
  answer stands call _ := steady.answer stands call

namespace Hooks.Consistent

open Pass

variable {σ : Type} {hooks : Hooks σ} {usual : σ → Prop} {waits : JobId → Scheduling}
  {decides : JobId → Status → Option Status} (consistent : hooks.Consistent usual waits decides)

include consistent

theorem converse {state : σ} (stands : usual state) {calls : List Call}
    (succeeds : (hooks.converse calls state).1.Succeeds) :
    (∀ exchange ∈ (hooks.converse calls state).1, exchange.Decided decides) ∧
      usual (hooks.converse calls state).2 := by
  induction calls generalizing state with
  | nil => exact ⟨fun _ member => absurd member List.not_mem_nil, stands⟩
  | cons call rest ih =>
      obtain ⟨fine, restFine⟩ := List.forall_mem_cons.mp succeeds
      obtain ⟨decided, goesOn⟩ := consistent.answer stands call fine
      obtain ⟨others, ends⟩ := ih goesOn restFine
      exact ⟨List.forall_mem_cons.mpr ⟨decided, others⟩, ends⟩

theorem speech {α : Type} {replay : Replay σ} {said : Transcript}
    {acted : Except Fault α × Replay σ} (stands : usual replay.hooks)
    (speech : Replay.Speech hooks replay said acted) (succeeds : said.Succeeds) :
    (∀ exchange ∈ said, exchange.Decided decides) ∧ usual acted.2.hooks := by
  have conversed := @converse _ _ _ _ _ consistent _ stands (said.map Exchange.call)
  rw [speech.answers] at conversed
  exact conversed succeeds

/-- A job is offered with what it waits for in the rows as the answers before left them. -/
theorem awaits {replay : Replay σ} (stands : usual replay.hooks) {position : Position}
    {before : Transcript} {id : JobId} {dependency : Status}
    (awaits : Replay.Awaits hooks position replay before id dependency) :
    ∃ roster : Roster, roster.rows = before.apply replay.roster.rows ∧
      roster.resolver.table = replay.roster.resolver.table ∧
      roster.resolver.toggles.answers = replay.roster.resolver.toggles.answers ∧
      dependency = roster.awaited position (waits id) := by
  obtain ⟨current, speech, waited⟩ := awaits
  refine ⟨current.roster, speech.rows, speech.table, speech.switches, ?_⟩
  have usually := (consistent.speech stands speech speech.ends.succeeds).2
  rw [waited, Replay.dependencyStatus_eq_awaited, consistent.scheduling usually]

end Hooks.Consistent

namespace Pass

/-! ## Success -/

/-- A fault that no action comes to is not come to in turn. -/
theorem inTurn_ne {α S : Type} {act : α → S → Except Fault Unit × S} {fault : Fault}
    (never : ∀ item state, (act item state).1 ≠ .error fault) (items : List α) (state : S) :
    (inTurn act items state).1 ≠ .error fault := by
  induction items generalizing state with
  | nil => simp [inTurn]
  | cons item rest ih =>
      have here := never item state
      rw [inTurn]
      generalize act item state = acted at here ⊢
      obtain ⟨result, next⟩ := acted
      cases result with
      | error other => exact here
      | ok _ => exact ih next

namespace Replay

variable {σ : Type} (hooks : Hooks σ)

theorem releaseJob_ne_outOfFuel (position : Position) (id : JobId) (replay : Replay σ) :
    (releaseJob hooks position id replay).1 ≠ .error .outOfFuel := by
  rw [releaseJob]
  generalize dependencyStatus hooks position id replay = waited
  obtain ⟨dependency, next⟩ := waited
  simp only [exchange_eq]
  cases (hooks.release next.hooks id dependency).1 with
  | error reason => simp
  | ok reply => cases reply <;> simp

theorem storeStage_ne_outOfFuel (position : Position) (replay : Replay σ) :
    (storeStage hooks position replay).1 ≠ .error .outOfFuel := by
  simp only [storeStage, exchange_eq]
  cases (hooks.persistStage replay.hooks position _).1 <;> simp

theorem runStage_ne_outOfFuel (position : Position) (replay : Replay σ) :
    (runStage hooks position replay).1 ≠ .error .outOfFuel := by
  have released := inTurn_ne (releaseJob_ne_outOfFuel hooks position)
    (replay.roster.createdIds position) replay
  rw [runStage]
  generalize inTurn (releaseJob hooks position) _ replay = acted at released ⊢
  obtain ⟨fault | _, next⟩ := acted
  · exact released
  · exact storeStage_ne_outOfFuel hooks position next

/-- Where ids are distinct, each batch takes a candidate away, so marking never runs out of as
much fuel as there are candidates. -/
theorem markRows_ne_outOfFuel (batchSize : Nat) {fuel : Nat} {declined : List JobId}
    {replay : Replay σ} (unique : (replay.roster.rows.map Row.id).Nodup)
    (enough : (candidates replay.roster declined).length < fuel) :
    (markRows hooks batchSize fuel declined replay).1 ≠ .error .outOfFuel := by
  induction fuel generalizing declined replay with
  | zero => exact absurd enough (Nat.not_lt_zero _)
  | succ fuel ih =>
      by_cases silent : nextBatch batchSize replay.roster declined = []
      · rw [markRows]
        simp [silent]
      · cases answered : hooks.markProcessed replay.hooks
            (nextBatch batchSize replay.roster declined) with
        | mk answer after =>
            cases answer with
            | error reason =>
                rw [markRows]
                simp [silent, exchange_eq, answered]
            | ok confirmed =>
                have fewer := length_candidates_lt (.of_nodup unique) declined confirmed silent
                rw [markRows_succ fuel silent answered]
                apply ih
                · rw [rows_markAll (.of_nodup unique), List.map_map]
                  simpa only [Function.comp_def, Row.id_markedIn] using unique
                · exact Nat.lt_of_lt_of_le fewer (Nat.le_of_lt_succ enough)

theorem run_ne_outOfFuel (batchSize : Nat) {fuel : Nat} {replay : Replay σ}
    (unique : (replay.roster.rows.map Row.id).Nodup)
    (enough : replay.roster.rows.length < fuel) :
    (run hooks batchSize fuel replay).1 ≠ .error .outOfFuel := by
  have passed := inTurn_ne (runStage_ne_outOfFuel hooks) replay.roster.positions replay
  obtain ⟨said, stages⟩ := stages_speech hooks replay.roster.positions replay
  have idsEq := stages.speech.map_id
  rw [run]
  generalize inTurn (runStage hooks) replay.roster.positions replay = acted at passed idsEq ⊢
  obtain ⟨fault | _, staged⟩ := acted
  · exact passed
  · have idsEq : staged.roster.rows.map Row.id = replay.roster.rows.map Row.id := idsEq
    simp only [storePipeline, exchange_eq]
    cases (hooks.persistPipeline staged.hooks staged.roster.all).1 with
    | error reason => simp
    | ok _ =>
        apply markRows_ne_outOfFuel hooks batchSize
        · exact idsEq ▸ unique
        · have count := congrArg List.length idsEq
          rw [List.length_map, List.length_map] at count
          exact Nat.lt_of_le_of_lt (length_candidates_le _ _) (count ▸ enough)

/-- A replay of rows of distinct ids in which no call fails succeeds. -/
theorem run_succeeds {batchSize fuel : Nat} {replay : Replay σ} {said : Transcript}
    (unique : (replay.roster.rows.map Row.id).Nodup)
    (enough : replay.roster.rows.length < fuel)
    (course : RunSpeech hooks replay said (run hooks batchSize fuel replay))
    (fine : said.Succeeds) : (run hooks batchSize fuel replay).1 = .ok () := by
  have ends := course.speech.ends
  cases result : (run hooks batchSize fuel replay).1 with
  | ok _ => rfl
  | error fault =>
      rw [result] at ends
      cases ends with
      | fault succeeds failed =>
          rw [fine _ (List.mem_append_right _ (List.mem_singleton_self _))] at failed
          cases failed
      | outOfFuel succeeds => exact absurd result (run_ne_outOfFuel hooks batchSize unique enough)

end Replay

end Pass

end Rollup
