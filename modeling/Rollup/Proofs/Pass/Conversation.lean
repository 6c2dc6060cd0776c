import Rollup.Proofs.Ledger

/-!
# Conversations

A pass and its hooks are in conversation: the trace has the calls, and the hooks, asked
the same calls again from the same state, give the answers.  Every action of a replay
adds to the conversation, changes rows only as the answers say, and goes on if and only
if no call failed.  `Speech` is this of one action, and it goes through from one action to
the next.
-/

namespace Rollup

/-! ## Places in a conversation -/

/-- Something in a list of two parts is in the first or in the second one. -/
theorem split_append {α : Type} {left right before after : List α} {item : α}
    (split : left ++ right = before ++ item :: after) :
    (∃ inner, left = before ++ item :: inner ∧ after = inner ++ right) ∨
      ∃ inner, before = left ++ inner ∧ right = inner ++ item :: after := by
  rcases List.append_eq_append_iff.mp split with ⟨inner, rfl, rest⟩ | ⟨inner, rfl, rest⟩
  · exact .inr ⟨inner, rfl, rest⟩
  · rcases List.cons_eq_append_iff.mp rest with ⟨rfl, same⟩ | ⟨others, rfl, same⟩
    · exact .inr ⟨[], by simp, same⟩
    · exact .inl ⟨others, rfl, same⟩

/-- Something in a list is its last item, or in front of it. -/
theorem split_concat {α : Type} {items before after : List α} {last item : α}
    (split : items ++ [last] = before ++ item :: after) :
    (before = items ∧ last = item ∧ after = []) ∨ ∃ inner, items = before ++ item :: inner := by
  rcases split_append split with ⟨inner, inFront, _⟩ | ⟨inner, rfl, rest⟩
  · exact .inr ⟨inner, inFront⟩
  · rcases List.cons_eq_append_iff.mp rest with ⟨rfl, same⟩ | ⟨others, rfl, none⟩
    · cases same
      exact .inl ⟨List.append_nil items, rfl, rfl⟩
    · exact absurd none.symm (List.append_ne_nil_of_right_ne_nil _ (List.cons_ne_nil _ _))

/-! ## Asking hooks -/

namespace Hooks

open Pass

variable {σ : Type} (hooks : Hooks σ)

/-- What the hooks answer to a call, with the state that it leaves them in. -/
def answer (state : σ) : Call → Exchange × σ
  | .release id dependency =>
      let (answer, after) := hooks.release state id dependency
      (.release id dependency answer, after)
  | .persistStage position status =>
      let (answer, after) := hooks.persistStage state position status
      (.persistStage position status answer, after)
  | .persistPipeline composite =>
      let (answer, after) := hooks.persistPipeline state composite
      (.persistPipeline composite answer, after)
  | .markProcessed batch =>
      let (answer, after) := hooks.markProcessed state batch
      (.markProcessed batch answer, after)

/-- What the hooks answer to calls that are made one after the other. -/
def converse : List Call → σ → Transcript × σ
  | [], state => ([], state)
  | call :: rest, state =>
      let (exchange, state) := hooks.answer state call
      let (transcript, state) := converse rest state
      (exchange :: transcript, state)

theorem converse_append {calls others : List Call} {state after : σ}
    {transcript : Transcript} (conversed : hooks.converse calls state = (transcript, after)) :
    hooks.converse (calls ++ others) state =
      (transcript ++ (hooks.converse others after).1, (hooks.converse others after).2) := by
  induction calls generalizing state transcript with
  | nil =>
      cases conversed
      rfl
  | cons call rest ih =>
      simp only [converse] at conversed
      obtain ⟨rfl, rfl⟩ := Prod.mk.inj conversed
      simp only [List.cons_append, converse, ih rfl]

end Hooks

namespace Pass

variable {σ α β : Type}

/-- What was said in a pass that began with the hooks in some state: its calls with what
the hooks answer to them. -/
def Outcome.transcript (outcome : Outcome σ) (pass : Pass σ) (hooks : σ) : Transcript :=
  (pass.hooks.converse (outcome.trace.filterMap Step.call?) hooks).1

namespace Exchange

/-- The job that an exchange offered. -/
def offered? : Exchange → Option JobId
  | .release id _ _ => some id
  | _ => none

/-- What was released was offered. -/
theorem offered?_of_released? {exchange : Exchange} {id : JobId}
    (released : exchange.released? = some id) : exchange.offered? = some id := by
  rw [released?.eq_def] at released
  split at released
  · exact released
  · cases released

theorem stored?_of_offered? {exchange : Exchange} {id : JobId}
    (offered : exchange.offered? = some id) : exchange.stored? = none := by
  cases exchange <;> first | rfl | cases offered

/-- The fault of an exchange whose call failed: the operation, and what the hooks say. -/
def failure? : Exchange → Option Fault
  | .release _ _ (.error reason) => some (.hook .release reason)
  | .persistStage _ _ (.error reason) => some (.hook .persistStage reason)
  | .persistPipeline _ (.error reason) => some (.hook .persistPipeline reason)
  | .markProcessed _ (.error reason) => some (.hook .markProcessed reason)
  | _ => none

/-- The rows after an exchange: an update goes to the last row of its id, and so do the
marks of those offers that are confirmed. -/
def apply (rows : List Row) : Exchange → List Row
  | .release id _ (.ok (some update)) => changeLast id (Row.updated update) rows
  | .markProcessed batch (.ok confirmed) =>
      ((batch.map Prod.fst).filter (· ∈ confirmed)).foldl
        (fun rows id => changeLast id Row.marked rows) rows
  | _ => rows

end Exchange

namespace Transcript

/-- The rows after the exchanges of a transcript. -/
def apply (transcript : Transcript) (rows : List Row) : List Row :=
  transcript.foldl Exchange.apply rows

@[simp] theorem apply_nil (rows : List Row) : apply [] rows = rows := rfl

@[simp] theorem apply_cons (exchange : Exchange) (rest : Transcript) (rows : List Row) :
    apply (exchange :: rest) rows = rest.apply (exchange.apply rows) := rfl

@[simp] theorem apply_append (said more : Transcript) (rows : List Row) :
    apply (said ++ more) rows = more.apply (said.apply rows) :=
  List.foldl_append

/-- No call failed. -/
def Succeeds (transcript : Transcript) : Prop :=
  ∀ exchange ∈ transcript, exchange.failure? = none

theorem Succeeds.nil : Succeeds [] :=
  fun _ member => absurd member List.not_mem_nil

theorem Succeeds.append {said more : Transcript} (first : said.Succeeds)
    (second : more.Succeeds) : Succeeds (said ++ more) := by
  intro exchange member
  rcases List.mem_append.mp member with member | member
  · exact first exchange member
  · exact second exchange member

end Transcript

/-- What was said led to a result: a value after calls that succeeded, the fault of the
last call, or no end within the fuel. -/
inductive Ends : Except Fault α → Transcript → Prop where
  | value {value : α} {said : Transcript} (succeeds : said.Succeeds) :
      Ends (.ok value) said
  | fault {said : Transcript} {last : Exchange} {fault : Fault} (succeeds : said.Succeeds)
      (failed : last.failure? = some fault) : Ends (.error fault) (said ++ [last])
  | outOfFuel {said : Transcript} (succeeds : said.Succeeds) :
      Ends (.error .outOfFuel) said

theorem Ends.prepend {said more : Transcript} (succeeds : said.Succeeds)
    {result : Except Fault α} (ends : Ends result more) : Ends result (said ++ more) := by
  cases ends with
  | value fine => exact .value (succeeds.append fine)
  | outOfFuel fine => exact .outOfFuel (succeeds.append fine)
  | fault fine failed =>
      rw [← List.append_assoc]
      exact .fault (succeeds.append fine) failed

theorem Ends.succeeds {said : Transcript} {value : α}
    (ends : Ends (.ok value : Except Fault α) said) : said.Succeeds := by
  cases ends with
  | value succeeds => exact succeeds

theorem Ends.of_value {value : α} {exchange : Exchange} (fine : exchange.failure? = none) :
    Ends (.ok value) [exchange] := by
  apply Ends.value
  intro other member
  rw [List.mem_singleton.mp member]
  exact fine

theorem Ends.of_fault {fault : Fault} {exchange : Exchange}
    (failed : exchange.failure? = some fault) :
    Ends (.error fault : Except Fault α) [exchange] :=
  .fault Transcript.Succeeds.nil failed

/-- A call that failed was the last one, and the result is its fault. -/
theorem Ends.of_failure {result : Except Fault α} {said before after : Transcript}
    {exchange : Exchange} {fault : Fault} (ends : Ends result said)
    (split : said = before ++ exchange :: after) (failed : exchange.failure? = some fault) :
    after = [] ∧ result = .error fault := by
  have impossible : ∀ {fine : Transcript}, fine.Succeeds → exchange ∈ fine → False := by
    intro fine succeeds member
    rw [succeeds exchange member] at failed
    cases failed
  have among : exchange ∈ said := by simp [split]
  cases ends with
  | value succeeds => exact (impossible succeeds among).elim
  | outOfFuel succeeds => exact (impossible succeeds among).elim
  | @fault fine last lastFault succeeds lastFailed =>
      rcases split_concat split with ⟨_, rfl, rfl⟩ | ⟨inner, rfl⟩
      · rw [lastFailed] at failed
        cases failed
        exact ⟨rfl, rfl⟩
      · exact (impossible succeeds (by simp)).elim

namespace Replay

/-- An action said something to the hooks on its way, and did what follows from that. -/
structure Speech (hooks : Hooks σ) (replay : Replay σ) (said : Transcript)
    (acted : Except Fault α × Replay σ) : Prop where
  transcript : acted.2.transcript = replay.transcript ++ said
  answers : hooks.converse (said.map Exchange.call) replay.hooks = (said, acted.2.hooks)
  rows : acted.2.roster.rows = said.apply replay.roster.rows
  table : acted.2.roster.resolver.table = replay.roster.resolver.table
  /-- The switches may have been consulted, and are the same. -/
  switches : acted.2.roster.resolver.toggles.answers = replay.roster.resolver.toggles.answers
  ends : Ends acted.1 said

namespace Speech

variable {hooks : Hooks σ} {replay : Replay σ}

/-- Nothing is said where nothing but the switches is consulted. -/
theorem silent (value : α) {next : Replay σ} (transcript : next.transcript = replay.transcript)
    (state : next.hooks = replay.hooks) (rows : next.roster.rows = replay.roster.rows)
    (table : next.roster.resolver.table = replay.roster.resolver.table)
    (switches : next.roster.resolver.toggles.answers =
      replay.roster.resolver.toggles.answers) :
    Speech hooks replay [] ((.ok value : Except Fault α), next) where
  transcript := transcript.trans (List.append_nil _).symm
  answers := by rw [state]; rfl
  rows := rows
  table := table
  switches := switches
  ends := .value .nil

/-- One call, with what its answer does to the rows. -/
theorem one {result : Except Fault α} {exchange : Exchange} {roster : Roster} {after : σ}
    (answered : hooks.answer replay.hooks exchange.call = (exchange, after))
    (rows : roster.rows = exchange.apply replay.roster.rows)
    (table : roster.resolver.table = replay.roster.resolver.table)
    (switches : roster.resolver.toggles.answers = replay.roster.resolver.toggles.answers)
    (ends : Ends result [exchange]) :
    Speech hooks replay [exchange]
      (result, ⟨roster, after, replay.transcript ++ [exchange]⟩) where
  transcript := rfl
  answers := by simp only [List.map_cons, List.map_nil, Hooks.converse, answered]
  rows := rows
  table := table
  switches := switches
  ends := ends

/-- An action that came to a value is followed by another one. -/
theorem andThen {said more : Transcript} {value : α} {next : Replay σ}
    {acted : Except Fault β × Replay σ}
    (first : Speech hooks replay said ((.ok value : Except Fault α), next))
    (second : Speech hooks next more acted) : Speech hooks replay (said ++ more) acted where
  transcript := by rw [second.transcript, first.transcript, List.append_assoc]
  answers := by rw [List.map_append, hooks.converse_append first.answers, second.answers]
  rows := by rw [second.rows, first.rows, Transcript.apply_append]
  table := second.table.trans first.table
  switches := second.switches.trans first.switches
  ends := second.ends.prepend first.ends.succeeds

/-- A fault goes through unchanged. -/
theorem fails {said : Transcript} {fault : Fault} {next : Replay σ}
    (first : Speech hooks replay said ((.error fault : Except Fault α), next)) :
    Speech hooks replay said ((.error fault : Except Fault β), next) where
  transcript := first.transcript
  answers := first.answers
  rows := first.rows
  table := first.table
  switches := first.switches
  ends := by
    cases first.ends with
    | fault succeeds failed => exact .fault succeeds failed
    | outOfFuel succeeds => exact .outOfFuel succeeds

end Speech

/-! ## Single actions -/

variable (hooks : Hooks σ)

@[simp] theorem mapError_error {α ε φ : Type} (change : ε → φ) (reason : ε) :
    (Except.error reason : Except ε α).mapError change = .error (change reason) := rfl

@[simp] theorem mapError_ok {α ε φ : Type} (change : ε → φ) (value : α) :
    (Except.ok value : Except ε α).mapError change = .ok value := rfl

theorem exchange_eq (replay : Replay σ) (operation : Operation)
    (note : Except String α → Exchange) (run : σ → Except String α × σ) :
    replay.exchange operation note run =
      ((run replay.hooks).1.mapError (.hook operation),
        ⟨replay.roster, (run replay.hooks).2,
          replay.transcript ++ [note (run replay.hooks).1]⟩) := by
  rw [exchange]
  cases run replay.hooks with
  | mk answer after => cases answer <;> rfl

theorem dependencyStatus_speech (position : Position) (id : JobId) (replay : Replay σ) :
    Speech hooks replay []
      ((.ok (dependencyStatus hooks position id replay).1 : Except Fault Status),
        (dependencyStatus hooks position id replay).2) := by
  rw [dependencyStatus]
  split
  · exact .silent _ rfl rfl rfl rfl rfl
  · split
    · exact .silent _ rfl rfl rfl rfl rfl
    · exact .silent _ rfl rfl rfl rfl rfl

theorem releaseJob_speech (position : Position) (id : JobId) (replay : Replay σ) :
    ∃ answer,
      Speech hooks replay [.release id (dependencyStatus hooks position id replay).1 answer]
        (releaseJob hooks position id replay) := by
  have waited := dependencyStatus_speech hooks position id replay
  rw [releaseJob]
  generalize dependencyStatus hooks position id replay = answered at waited ⊢
  obtain ⟨dependency, next⟩ := answered
  cases called : hooks.release next.hooks id dependency with
  | mk answer after =>
      have asked : hooks.answer next.hooks (.release id dependency) =
          (.release id dependency answer, after) := by
        simp only [Hooks.answer, called]
      refine ⟨answer, ?_⟩
      refine waited.andThen (?_ : Speech hooks next [_] _)
      simp only [exchange_eq, called]
      cases answer with
      | error reason => exact .one asked rfl rfl rfl (.of_fault rfl)
      | ok given =>
          cases given with
          | none => exact .one asked rfl rfl rfl (.of_value rfl)
          | some update => exact .one asked rfl rfl rfl (.of_value rfl)

theorem storeStage_speech (position : Position) (replay : Replay σ) :
    ∃ answer,
      Speech hooks replay
        [.persistStage position (replay.roster.windowStatus (.atStage position)) answer]
        (storeStage hooks position replay) := by
  simp only [storeStage, exchange_eq]
  cases called : hooks.persistStage replay.hooks position
      (replay.roster.windowStatus (.atStage position)) with
  | mk answer after =>
      have asked : hooks.answer replay.hooks (.persistStage position
          (replay.roster.windowStatus (.atStage position))) =
            (.persistStage position (replay.roster.windowStatus (.atStage position)) answer,
              after) := by
        simp only [Hooks.answer, called]
      refine ⟨answer, ?_⟩
      cases answer with
      | error reason => exact .one asked rfl rfl rfl (.of_fault rfl)
      | ok value => exact .one asked rfl rfl rfl (.of_value rfl)

theorem storePipeline_speech (replay : Replay σ) :
    ∃ answer,
      Speech hooks replay [.persistPipeline replay.roster.all answer]
        (storePipeline hooks replay) := by
  simp only [storePipeline, exchange_eq]
  cases called : hooks.persistPipeline replay.hooks replay.roster.all with
  | mk answer after =>
      have asked : hooks.answer replay.hooks (.persistPipeline replay.roster.all) =
          (.persistPipeline replay.roster.all answer, after) := by
        simp only [Hooks.answer, called]
      refine ⟨answer, ?_⟩
      cases answer with
      | error reason => exact .one asked rfl rfl rfl (.of_fault rfl)
      | ok value => exact .one asked rfl rfl rfl (.of_value rfl)

end Replay

end Pass

end Rollup
