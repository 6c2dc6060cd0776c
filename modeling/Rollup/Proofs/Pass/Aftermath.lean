import Rollup.Proofs.LastRow
import Rollup.Proofs.Pass.Marking

/-!
# What a pass leaves

A pass may be cut short by any call.  What it leaves then is told from what was said up
to there, and this is what it leaves at its end as well: the rows have the updates and
the marks that were answered, and the sink has one event for each answer to announce.
-/

namespace Rollup

namespace Pass

/-! ## What no answer changes -/

theorem map_foldl_marked {β : Type} {field : Row → β}
    (marked : ∀ row, field row.marked = field row) (ids : List JobId) (rows : List Row) :
    (ids.foldl (fun rows id => changeLast id Row.marked rows) rows).map field =
      rows.map field := by
  induction ids generalizing rows with
  | nil => rfl
  | cons id rest ih =>
      rw [List.foldl_cons, ih]
      exact map_changeLast id Row.marked marked rows

section Fields

variable {β : Type} {field : Row → β}

/-- A field that neither an update nor a mark touches is the same in every row. -/
theorem Transcript.map_apply
    (updated : ∀ update row, field (Row.updated update row) = field row)
    (marked : ∀ row, field row.marked = field row) (said : Transcript) (rows : List Row) :
    (said.apply rows).map field = rows.map field := by
  induction said generalizing rows with
  | nil => rfl
  | cons exchange rest ih =>
      rw [apply_cons, ih, Exchange.apply.eq_def]
      split
      · exact map_changeLast _ _ (updated _) rows
      · exact map_foldl_marked marked _ rows
      · rfl

/-- No action touches the ids of the rows. -/
theorem Replay.Speech.map_id {σ α : Type} {hooks : Hooks σ} {replay : Replay σ}
    {said : Transcript} {acted : Except Fault α × Replay σ}
    (speech : Replay.Speech hooks replay said acted) :
    acted.2.roster.rows.map Row.id = replay.roster.rows.map Row.id := by
  rw [speech.rows]
  exact Transcript.map_apply (fun _ _ => rfl) (fun _ => rfl) said _

/-- No action moves a row to another stage. -/
theorem Replay.Speech.map_position {σ α : Type} {hooks : Hooks σ} {replay : Replay σ}
    {said : Transcript} {acted : Except Fault α × Replay σ}
    (speech : Replay.Speech hooks replay said acted) :
    acted.2.roster.rows.map Row.position = replay.roster.rows.map Row.position := by
  rw [speech.rows]
  exact Transcript.map_apply (fun _ _ => rfl) (fun _ => rfl) said _

theorem Transcript.lastPosition?_apply (said : Transcript) (id : JobId) (rows : List Row) :
    lastPosition? id (said.apply rows) = lastPosition? id rows :=
  lastPosition?_congr (map_apply (fun _ _ => rfl) (fun _ => rfl) said rows) id

variable {accept : Position → Bool}

theorem map_filter_foldl_marked (marked : ∀ row, field row.marked = field row)
    (ids : List JobId) (rows : List Row) :
    ((ids.foldl (fun rows id => changeLast id Row.marked rows) rows).filter
        fun row => accept row.position).map field =
      (rows.filter fun row => accept row.position).map field := by
  have columns : ∀ rows : List Row,
      (rows.filter fun row => accept row.position).map field =
        ((rows.map fun row => (row.position, field row)).filter
          fun part => accept part.1).map Prod.snd := by
    intro rows
    rw [List.filter_map, List.map_map]
    rfl
  have same := @map_foldl_marked _ (fun row => (row.position, field row))
    (fun row => congrArg (Prod.mk row.position) (marked row)) ids rows
  rw [columns, same, columns]

/-- A field that no mark touches is the same in the rows of some stages, where no job was
released whose last row runs in one of them. -/
theorem Transcript.map_filter_apply (marked : ∀ row, field row.marked = field row)
    {said : Transcript} {rows : List Row}
    (elsewhere : ∀ exchange ∈ said, ∀ id ∈ exchange.released?,
      ∀ position ∈ lastPosition? id rows, accept position = false) :
    ((said.apply rows).filter fun row => accept row.position).map field =
      (rows.filter fun row => accept row.position).map field := by
  induction said generalizing rows with
  | nil => rfl
  | cons exchange rest ih =>
      have restElsewhere : ∀ other ∈ rest, ∀ id ∈ other.released?,
          ∀ position ∈ lastPosition? id (exchange.apply rows), accept position = false := by
        intro other member id released position found
        have kept := lastPosition?_apply [exchange] id rows
        rw [apply_cons, apply_nil] at kept
        rw [kept] at found
        exact elsewhere other (.tail _ member) id released position found
      rw [apply_cons, ih restElsewhere, Exchange.apply.eq_def]
      split
      · rename_i id dependency update
        apply congrArg (List.map field)
        apply filter_changeLast
        · exact fun _ => rfl
        · exact elsewhere _ List.mem_cons_self id rfl
      · exact map_filter_foldl_marked marked _ rows
      · rfl

end Fields

/-! ## The rows, where ids are distinct -/

/-- The update that an exchange has for a job. -/
def Exchange.update? (id : JobId) : Exchange → Option Update
  | .release other _ (.ok (some update)) => if other = id then some update else none
  | _ => none

theorem Exchange.update?_of_released? {exchange : Exchange} {id : JobId}
    (released : exchange.released? = some id) :
    ∃ update, exchange.update? id = some update := by
  rw [released?.eq_def] at released
  split at released
  · rename_i update
    cases released
    exact ⟨update, if_pos rfl⟩
  · cases released

theorem Exchange.released?_of_update? {exchange : Exchange} {id : JobId} {update : Update}
    (updates : exchange.update? id = some update) : exchange.released? = some id := by
  rw [update?.eq_def] at updates
  split at updates
  · split at updates
    · rename_i same
      exact congrArg some same
    · cases updates
  · cases updates

/-- Whether an exchange confirmed the mark of a job that it offered. -/
def Exchange.confirms (id : JobId) : Exchange → Bool
  | .markProcessed batch (.ok confirmed) => id ∈ batch.map Prod.fst ∧ id ∈ confirmed
  | _ => false

/-- The update that a job was given. -/
def Transcript.update? (said : Transcript) (id : JobId) : Option Update :=
  (said.filterMap (Exchange.update? id)).getLast?

def Transcript.confirms (said : Transcript) (id : JobId) : Bool :=
  said.any (Exchange.confirms id)

theorem Transcript.update?_cons (exchange : Exchange) (rest : Transcript) (id : JobId) :
    update? (exchange :: rest) id = (rest.update? id).or (exchange.update? id) :=
  getLast?_filterMap_cons _ exchange rest

/-- A job that was not released was given no update. -/
theorem Transcript.update?_eq_none {said : Transcript} {id : JobId}
    (held : ∀ exchange ∈ said, exchange.released? ≠ some id) : said.update? id = none := by
  have silent : said.filterMap (Exchange.update? id) = [] := by
    apply List.filterMap_eq_nil_iff.mpr
    intro exchange member
    cases updates : exchange.update? id with
    | none => rfl
    | some update => exact absurd (Exchange.released?_of_update? updates) (held exchange member)
  rw [update?, silent]
  rfl

/-- Rows stay as they are where nothing is released and nothing marked. -/
theorem Transcript.apply_of_idle {said : Transcript} (rows : List Row)
    (silent : ∀ exchange ∈ said, exchange.released? = none)
    (unmarked : ∀ batch answer, .markProcessed batch answer ∉ said) :
    said.apply rows = rows := by
  induction said with
  | nil => rfl
  | cons exchange rest ih =>
      obtain ⟨here, silentRest⟩ := List.forall_mem_cons.mp silent
      have unmarkedRest : ∀ batch answer, .markProcessed batch answer ∉ rest :=
        fun batch answer member => unmarked batch answer (.tail _ member)
      have idle : exchange.apply rows = rows := by
        rw [Exchange.apply.eq_def]
        split
        · cases here
        · exact absurd List.mem_cons_self (unmarked _ _)
        · rfl
      rw [apply_cons, idle, ih silentRest unmarkedRest]

end Pass

/-- The row after a conversation: it has the status and the token of the update that its
job was given, and is processed if it was or if its mark was confirmed. -/
def Row.after (said : Pass.Transcript) (row : Row) : Row :=
  { row with
    status := ((said.update? row.id).map Update.status).getD row.status
    token := ((said.update? row.id).map Update.token).getD row.token
    processed := row.processed || said.confirms row.id }

@[simp] theorem Row.after_nil (row : Row) : row.after [] = row := by
  simp [after, Pass.Transcript.update?, Pass.Transcript.confirms]

theorem Row.after_singleton (exchange : Pass.Exchange) (row : Row) :
    row.after [exchange] =
      { row with
        status := ((exchange.update? row.id).map Update.status).getD row.status
        token := ((exchange.update? row.id).map Update.token).getD row.token
        processed := row.processed || exchange.confirms row.id } := by
  simp only [after, Pass.Transcript.update?_cons, Pass.Transcript.confirms, List.any_cons,
    List.any_nil, Bool.or_false]
  rfl

theorem Row.after_cons (exchange : Pass.Exchange) (rest : Pass.Transcript) (row : Row) :
    row.after (exchange :: rest) = (row.after [exchange]).after rest := by
  simp only [after, Pass.Transcript.update?_cons, Pass.Transcript.confirms, List.any_cons,
    List.any_nil, Bool.or_false, Bool.or_assoc]
  cases rest.update? row.id <;> rfl

theorem Row.after_append (said more : Pass.Transcript) (row : Row) :
    row.after (said ++ more) = (row.after said).after more := by
  induction said generalizing row with
  | nil => rw [List.nil_append, after_nil]
  | cons exchange rest ih =>
      rw [List.cons_append, after_cons, ih, ← after_cons]

namespace Pass

theorem Exchange.apply_of_nodup (exchange : Exchange) {rows : List Row}
    (unique : (rows.map Row.id).Nodup) :
    exchange.apply rows = rows.map (Row.after [exchange]) := by
  have markable := Markable.of_nodup unique
  rw [apply.eq_def]
  split
  · rename_i id dependency update
    rw [changeLast_of_nodup _ _ unique]
    apply List.map_congr_left
    intro row _
    by_cases same : row.id = id
    · simp [Row.after_singleton, update?, confirms, Row.updated, same]
    · simp [Row.after_singleton, update?, confirms, same, Ne.symm same]
  · rename_i batch confirmed
    rw [markable.foldl_changeLast_marked]
    apply List.map_congr_left
    intro row _
    have isConfirmed : confirms row.id (.markProcessed batch (.ok confirmed)) =
        decide (row.id ∈ (batch.map Prod.fst).filter (· ∈ confirmed)) := by
      rw [confirms, decide_eq_decide, List.mem_filter, decide_eq_true_eq]
    rw [Row.after_singleton, isConfirmed, Row.markedIn]
    split
    · rename_i among
      simp [update?, Row.marked, among]
    · rename_i absent
      simp only [update?, absent, decide_false, Bool.or_false]
      rfl
  · rename_i noUpdate noMarks
    have unchanged : ∀ row : Row, row.after [exchange] = row := by
      intro row
      have noneFor : exchange.update? row.id = none := by
        rw [update?.eq_def]
        split
        · exact (noUpdate _ _ _ rfl).elim
        · rfl
      have unconfirmed : exchange.confirms row.id = false := by
        rw [confirms.eq_def]
        split
        · exact (noMarks _ _ rfl).elim
        · rfl
      rw [Row.after_singleton, noneFor, unconfirmed, Bool.or_false]
      rfl
    exact (List.map_id'' unchanged rows).symm

theorem Transcript.apply_of_nodup (said : Transcript) {rows : List Row}
    (unique : (rows.map Row.id).Nodup) : said.apply rows = rows.map (Row.after said) := by
  induction said generalizing rows with
  | nil => exact (List.map_id'' Row.after_nil rows).symm
  | cons exchange rest ih =>
      have uniqueAfter : ((exchange.apply rows).map Row.id).Nodup := by
        have kept := @map_apply _ Row.id (fun _ _ => rfl) (fun _ => rfl) [exchange] rows
        rw [apply_cons, apply_nil] at kept
        rw [kept]
        exact unique
      rw [apply_cons, ih uniqueAfter, exchange.apply_of_nodup unique, List.map_map]
      apply List.map_congr_left
      intro row _
      exact (Row.after_cons exchange rest row).symm

/-! ## Events -/

/-- The events on the trace are those of the answers, in the order of the calls. -/
theorem Transcript.trace_filterMap_event? (said : Transcript) (pipeline : PipelineId) :
    (said.trace pipeline).filterMap Step.event? =
      said.filterMap (Exchange.event? pipeline) := by
  induction said with
  | nil => rfl
  | cons exchange rest ih =>
      have first : (exchange.steps pipeline).filterMap Step.event? =
          (exchange.event? pipeline).toList := by
        rw [Exchange.steps]
        cases exchange.event? pipeline <;> rfl
      rw [trace, List.flatMap_cons, List.filterMap_append, first, List.filterMap_cons]
      rw [trace] at ih
      cases exchange.event? pipeline with
      | none => exact ih
      | some event => exact congrArg (event :: ·) ih

/-- The sink is given the events one after the other. -/
theorem Transcript.deliver_eq (said : Transcript) (pipeline : PipelineId) (outbox : Outbox) :
    said.deliver pipeline outbox =
      (said.filterMap (Exchange.event? pipeline)).foldl
        (fun outbox event => (outbox.emit event).1) outbox := by
  induction said generalizing outbox with
  | nil => rfl
  | cons exchange rest ih =>
      simp only [deliver] at ih
      rw [deliver, List.foldl_cons, Exchange.announce, List.filterMap_cons]
      cases exchange.event? pipeline with
      | none => exact ih outbox
      | some event => exact ih (outbox.emit event).1

/-! ## Passes -/

section Passes

variable {σ : Type} (pass : Pass σ) (stamps : Stamps) (fuel : Nat) {board : Board}
  (sound : board.Sound) (hooks : σ) (outbox : Outbox)

include sound

/-- What was said is all that a pass shows on its trace, to its sink and to its hooks. -/
theorem run_tells :
    let outcome := pass.run stamps fuel board hooks outbox
    let said := outcome.transcript pass hooks
    outcome.trace = said.trace board.pipeline ∧
      outcome.outbox = said.deliver board.pipeline outbox ∧
      pass.hooks.converse (said.map Exchange.call) hooks = (said, outcome.hooks) := by
  intro outcome said
  cases loads : board.loadAside.1 with
  | error cause =>
      obtain ⟨showing, nothing, _⟩ := run_unavailable pass stamps fuel sound hooks outbox loads
      have nothing : said = [] := nothing
      have same : outcome.hooks = hooks := congrArg Showing.hooks showing
      rw [nothing, same]
      exact ⟨congrArg Showing.trace showing, congrArg Showing.outbox showing, rfl⟩
  | ok snapshot =>
      obtain ⟨_, course, showing, _⟩ := run_of_rows pass stamps fuel sound hooks outbox loads
      have transcriptEq : _ = said := course.speech.transcript
      have traceEq := (congrArg Showing.trace showing).trans
        (congrArg (Transcript.trace · board.pipeline) transcriptEq)
      have outboxEq := (congrArg Showing.outbox showing).trans
        (congrArg (Transcript.deliver · board.pipeline outbox) transcriptEq)
      have hooksEq : outcome.hooks = _ := congrArg Showing.hooks showing
      refine ⟨traceEq, outboxEq, course.speech.answers.trans ?_⟩
      exact congrArg (Prod.mk said) hooksEq.symm

theorem run_failure {before after : Transcript} {exchange : Exchange} {fault : Fault}
    (failed : exchange.failure? = some fault) :
    let outcome := pass.run stamps fuel board hooks outbox
    outcome.transcript pass hooks = before ++ exchange :: after →
      after = [] ∧ outcome.result = .error fault := by
  intro outcome split
  cases loads : board.loadAside.1 with
  | error cause =>
      obtain ⟨_, nothing, _⟩ := run_unavailable pass stamps fuel sound hooks outbox loads
      have occurs : before ++ exchange :: after ≠ [] :=
        List.append_ne_nil_of_right_ne_nil _ (List.cons_ne_nil _ _)
      exact absurd (split.symm.trans nothing) occurs
  | ok snapshot =>
      obtain ⟨_, course, showing, _⟩ := run_of_rows pass stamps fuel sound hooks outbox loads
      obtain ⟨last, replayFails⟩ := course.speech.ends.of_failure split failed
      have result : outcome.result = _ := congrArg Showing.result showing
      rw [Replay.showing, replayFails] at result
      exact ⟨last, result⟩

/-- The rows that a pass leaves are those that it found, changed as the answers say. -/
theorem run_rows {snapshot : Snapshot} (loads : board.loadAside.1 = .ok snapshot) :
    let outcome := pass.run stamps fuel board hooks outbox
    ∃ final, outcome.board.state = some (.ok final) ∧
      final.rows = (outcome.transcript pass hooks).apply snapshot.rows := by
  intro outcome
  obtain ⟨_, course, _, ledgerEq⟩ := run_of_rows pass stamps fuel sound hooks outbox loads
  obtain ⟨final, state, rowsEq⟩ := Board.state_of_ledger (congrArg Ledger.state ledgerEq)
  exact ⟨final, state, rowsEq.trans course.speech.rows⟩

end Passes

/-- A call that fails ends its pass with the fault of that call, and is the last one.
However a pass ends, the hooks are left as its calls leave them, each call is followed by
the event that its answer gives, the sink is given these events, and where ids are
distinct the rows are as the answers say.  A sink that collects keeps the events behind
those that it had, and any other sink keeps none.  Without rows there is neither a call nor
an event. -/
theorem run_aftermath {σ : Type} (pass : Pass σ) (stamps : Stamps) (fuel : Nat)
    {board : Board} (reached : board.Reached) (hooks : σ) (outbox : Outbox) :
    let outcome := pass.run stamps fuel board hooks outbox
    let said := outcome.transcript pass hooks
    (∀ before exchange after fault, said = before ++ exchange :: after →
        exchange.failure? = some fault → after = [] ∧ outcome.result = .error fault) ∧
      outcome.trace = said.trace board.pipeline ∧
      pass.hooks.converse (said.map Exchange.call) hooks = (said, outcome.hooks) ∧
      outcome.trace.filterMap Step.event? =
        said.filterMap (Exchange.event? board.pipeline) ∧
      outcome.outbox = (outcome.trace.filterMap Step.event?).foldl
        (fun outbox event => (outbox.emit event).1) outbox ∧
      outcome.outbox.sink = outbox.sink ∧
      outcome.outbox.kept = outbox.kept ++
        (if outbox.sink = .collect then outcome.trace.filterMap Step.event? else []) ∧
      (∀ snapshot, board.loadAside.1 = .ok snapshot → (snapshot.rows.map Row.id).Nodup →
        ∃ final, outcome.board.state = some (.ok final) ∧
          final.rows = snapshot.rows.map (Row.after said)) ∧
      ∀ cause, board.loadAside.1 = .error cause →
        outcome.result = .error (.unavailable cause) ∧ outcome.trace = [] ∧
          outcome.hooks = hooks ∧ outcome.outbox = outbox := by
  intro outcome said
  have sound := reached.sound
  obtain ⟨traceEq, outboxEq, answered⟩ := run_tells pass stamps fuel sound hooks outbox
  have events : outcome.trace.filterMap Step.event? =
      said.filterMap (Exchange.event? board.pipeline) :=
    (congrArg (List.filterMap Step.event?) traceEq).trans (said.trace_filterMap_event? _)
  have delivered : outcome.outbox = (outcome.trace.filterMap Step.event?).foldl
      (fun outbox event => (outbox.emit event).1) outbox := by
    rw [events]
    exact outboxEq.trans (said.deliver_eq _ _)
  have kept := delivered.trans (outbox.foldl_emit _)
  refine ⟨?failure, traceEq, answered, events, delivered, ?sink, ?kept, ?rows, ?unavailable⟩
  case failure =>
    intro before exchange after fault split failed
    exact run_failure pass stamps fuel sound hooks outbox failed split
  case sink => rw [kept]
  case kept => rw [kept]
  case rows =>
    intro snapshot loads unique
    obtain ⟨final, state, rowsEq⟩ := run_rows pass stamps fuel sound hooks outbox loads
    exact ⟨final, state, rowsEq.trans (said.apply_of_nodup unique)⟩
  case unavailable =>
    intro cause fails
    obtain ⟨showing, _⟩ := run_unavailable pass stamps fuel sound hooks outbox fails
    exact ⟨congrArg Showing.result showing, congrArg Showing.trace showing,
      congrArg Showing.hooks showing, congrArg Showing.outbox showing⟩

/-- Hooks that release every job as pending, and cannot store composites of stages from
some position on. -/
def readOnlyFrom (first : Position) : Hooks Unit where
  scheduling _ _ := .stage
  release _ _ _ := (.ok (some ⟨.pending, ⟨1⟩⟩), ())
  persistStage _ position _ := (if first ≤ position then .error "read only" else .ok (), ())
  persistPipeline _ _ := (.ok (), ())
  markProcessed _ batch := (.ok (batch.map Prod.fst), ())

/-- The second stage is released, but not stored. -/
theorem run_aftermath_read_only :
    let rows : List Row := [.fresh ⟨1⟩ "build" .created 0, .fresh ⟨2⟩ "test" .created 1]
    let board := Board.ofSource ⟨7⟩ (.memory [(⟨7⟩, rows)]) (.fixed ⟨false, true⟩)
    let outcome := (ofHooks (readOnlyFrom 1)).run .blank 2 board () (.ofSink .collect)
    board.Reached ∧
      outcome.result = .error (.hook .persistStage "read only") ∧
      outcome.trace.filterMap Step.event? =
        [.jobReleased ⟨7⟩ ⟨1⟩ .success .pending, .stageResolved ⟨7⟩ 0 .pending,
          .jobReleased ⟨7⟩ ⟨2⟩ .pending .pending] ∧
      outcome.outbox.kept = outcome.trace.filterMap Step.event? ∧
      ∃ final, outcome.board.state = some (.ok final) ∧
        final.rows = rows.map fun row => { row with status := .pending, token := ⟨1⟩ } := by
  intro rows board outcome
  have reached : board.Reached := ⟨_, _, _, [], rfl⟩
  have aftermath :=
    run_aftermath (ofHooks (readOnlyFrom 1)) .blank 2 reached () (.ofSink .collect)
  simp only [outcome]
  obtain ⟨failure, _, _, events, _, _, kept, left, _⟩ := aftermath
  let released : Transcript := [.release ⟨1⟩ .success (.ok (some ⟨.pending, ⟨1⟩⟩)),
    .persistStage 0 .pending (.ok ()), .release ⟨2⟩ .pending (.ok (some ⟨.pending, ⟨1⟩⟩))]
  let refused : Exchange := .persistStage 1 .pending (.error "read only")
  have said : outcome.transcript (ofHooks (readOnlyFrom 1)) () = released ++ [refused] := by
    decide
  refine ⟨reached, (failure released refused [] _ said rfl).2, ?events, ?kept, ?rows⟩
  case events =>
    rw [said] at events
    exact events.trans (by decide)
  case kept =>
    exact kept.trans ((List.nil_append _).trans (if_pos rfl))
  case rows =>
    obtain ⟨final, state, rowsEq⟩ := left (Snapshot.ofRows rows).withStages rfl (by decide)
    rw [said] at rowsEq
    exact ⟨final, state, rowsEq.trans (by decide)⟩

end Pass

end Rollup
