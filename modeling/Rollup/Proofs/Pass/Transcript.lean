import Rollup.Pass.Run

/-!
# Transcripts

What a pass and its hooks say to each other: every call that may change the hooks,
with what was passed and what was answered.  All that a pass shows to the outside
follows from its transcript, namely the events it delivers and the report it returns.
-/

namespace Rollup

/-- A status for a position behind all others is put at the end. -/
theorem insertStatus_of_lt {position : Position} {status : Status}
    {entries : List (Position × Status)} (later : ∀ entry ∈ entries, entry.1 < position) :
    insertStatus position status entries = entries ++ [(position, status)] := by
  induction entries with
  | nil => rfl
  | cons head rest ih =>
      have below := later head List.mem_cons_self
      rw [insertStatus, if_neg (UInt32.lt_asymm below), if_neg (UInt32.ne_of_lt below).symm,
        ih fun entry member => later entry (List.mem_cons_of_mem _ member)]
      rfl

theorem StageStatuses.entries_insert_of_lt {statuses : StageStatuses} {position : Position}
    {status : Status} (later : ∀ entry ∈ statuses.entries, entry.1 < position) :
    (statuses.insert position status).entries = statuses.entries ++ [(position, status)] :=
  insertStatus_of_lt later

theorem StageStatuses.eq_of_entries {left right : StageStatuses}
    (same : left.entries = right.entries) : left = right := by
  cases left
  cases right
  cases same
  rfl

namespace Pass

-- Answers can be compared, so whole conversations can be decided.
deriving instance DecidableEq for Except

/-- A call to the hooks with its answer. -/
inductive Exchange where
  | release (id : JobId) (dependency : Status) (answer : Except String (Option Update))
  | persistStage (position : Position) (status : Status) (answer : Except String Unit)
  | persistPipeline (composite : Composite) (answer : Except String Unit)
  | markProcessed (batch : List Offer) (answer : Except String (List JobId))
  deriving DecidableEq

namespace Exchange

def call : Exchange → Call
  | .release id dependency _ => .release id dependency
  | .persistStage position status _ => .persistStage position status
  | .persistPipeline composite _ => .persistPipeline composite
  | .markProcessed batch _ => .markProcessed batch

/-- The job that an exchange released: a call of release that was answered by an
update. -/
def released? : Exchange → Option JobId
  | .release id _ (.ok (some _)) => some id
  | _ => none

/-- The composite that an exchange stored for a stage. -/
def stored? : Exchange → Option (Position × Status)
  | .persistStage position status (.ok ()) => some (position, status)
  | _ => none

/-- The composite that an exchange stored for the pipeline. -/
def resolved? : Exchange → Option Composite
  | .persistPipeline composite (.ok ()) => some composite
  | _ => none

/-- How many offers an exchange confirmed. -/
def confirmations : Exchange → Nat
  | .markProcessed batch (.ok confirmed) => (batch.map Prod.fst).countP (· ∈ confirmed)
  | _ => 0

/-- The event that is delivered after an exchange, if it is one to announce. -/
def event? (pipeline : PipelineId) : Exchange → Option Event
  | .release id dependency (.ok (some update)) =>
      some (.jobReleased pipeline id dependency update.status)
  | .persistStage position status (.ok ()) => some (.stageResolved pipeline position status)
  | .persistPipeline composite (.ok ()) => some (.pipelineResolved pipeline composite)
  | _ => none

/-- What an exchange leaves on the trace: its call, and its event if it has one. -/
def steps (pipeline : PipelineId) (exchange : Exchange) : List Step :=
  .called exchange.call :: ((exchange.event? pipeline).map .delivered).toList

/-- An outbox after the event of an exchange. -/
def announce (pipeline : PipelineId) (outbox : Outbox) (exchange : Exchange) : Outbox :=
  match exchange.event? pipeline with
  | some event => (outbox.emit event).1
  | none => outbox

/-- A report after an exchange. -/
def enter (report : Report) : Exchange → Report
  | .release id _ (.ok (some _)) => { report with released := report.released ++ [id] }
  | .persistStage position status (.ok ()) =>
      { report with stageStatuses := report.stageStatuses.insert position status }
  | .persistPipeline composite (.ok ()) => { report with pipelineStatus := some composite }
  | .markProcessed batch (.ok confirmed) =>
      { report with
        processed := report.processed + (batch.map Prod.fst).countP (· ∈ confirmed) }
  | _ => report

theorem stored?_eq_some {exchange : Exchange} {position : Position} {status : Status} :
    exchange.stored? = some (position, status) ↔
      exchange = .persistStage position status (.ok ()) := by
  rw [stored?.eq_def]
  split
  · simp
  · rename_i others
    constructor
    · intro impossible
      cases impossible
    · exact fun same => (others _ _ same).elim

theorem resolved?_eq_some {exchange : Exchange} {composite : Composite} :
    exchange.resolved? = some composite ↔ exchange = .persistPipeline composite (.ok ()) := by
  rw [resolved?.eq_def]
  split
  · simp
  · rename_i others
    constructor
    · intro impossible
      cases impossible
    · exact fun same => (others _ same).elim

theorem steps_filterMap_call? (pipeline : PipelineId) (exchange : Exchange) :
    (exchange.steps pipeline).filterMap Step.call? = [exchange.call] := by
  rw [steps]
  cases exchange.event? pipeline <;> rfl

theorem released_enter (report : Report) (exchange : Exchange) :
    (exchange.enter report).released = report.released ++ exchange.released?.toList := by
  rw [enter.eq_def, released?.eq_def]
  split <;> simp

theorem stageStatuses_enter (report : Report) (exchange : Exchange) :
    (exchange.enter report).stageStatuses =
      match exchange.stored? with
      | some (position, status) => report.stageStatuses.insert position status
      | none => report.stageStatuses := by
  rw [enter.eq_def, stored?.eq_def]
  split <;> simp

theorem pipelineStatus_enter (report : Report) (exchange : Exchange) :
    (exchange.enter report).pipelineStatus =
      (exchange.resolved? <|> report.pipelineStatus) := by
  rw [enter.eq_def, resolved?.eq_def]
  split <;> simp

theorem processed_enter (report : Report) (exchange : Exchange) :
    (exchange.enter report).processed = report.processed + exchange.confirmations := by
  rw [enter.eq_def, confirmations.eq_def]
  split <;> simp

end Exchange

abbrev Transcript := List Exchange

namespace Transcript

/-- The trace that a transcript leaves. -/
def trace (transcript : Transcript) (pipeline : PipelineId) : List Step :=
  transcript.flatMap (Exchange.steps pipeline)

/-- An outbox after the events of a transcript. -/
def deliver (transcript : Transcript) (pipeline : PipelineId) (outbox : Outbox) : Outbox :=
  transcript.foldl (Exchange.announce pipeline) outbox

/-- A report after the exchanges of a transcript. -/
def report (transcript : Transcript) (start : Report) : Report :=
  transcript.foldl Exchange.enter start

/-- How many offers were confirmed in all. -/
def confirmations (transcript : Transcript) : Nat :=
  transcript.foldr (fun exchange total => exchange.confirmations + total) 0

/-- Where no marks are asked for, none is confirmed. -/
theorem confirmations_eq_zero {transcript : Transcript}
    (unmarked : ∀ batch answer, .markProcessed batch answer ∉ transcript) :
    transcript.confirmations = 0 := by
  induction transcript with
  | nil => rfl
  | cons exchange rest ih =>
      have unmarkedRest : ∀ batch answer, .markProcessed batch answer ∉ rest :=
        fun batch answer member => unmarked batch answer (.tail _ member)
      have none : exchange.confirmations = 0 := by
        rw [Exchange.confirmations.eq_def]
        split
        · exact absurd List.mem_cons_self (unmarked _ _)
        · rfl
      rw [confirmations, List.foldr_cons, none, Nat.zero_add]
      exact ih unmarkedRest

/-- The calls on the trace are those of the transcript. -/
theorem trace_filterMap_call? (transcript : Transcript) (pipeline : PipelineId) :
    (transcript.trace pipeline).filterMap Step.call? = transcript.map Exchange.call := by
  induction transcript with
  | nil => rfl
  | cons exchange rest ih =>
      rw [trace, List.flatMap_cons, List.filterMap_append, Exchange.steps_filterMap_call?]
      exact congrArg (exchange.call :: ·) ih

theorem report_cons (exchange : Exchange) (rest : Transcript) (start : Report) :
    report (exchange :: rest) start = rest.report (exchange.enter start) := rfl

/-- A report lists the released jobs in the order of their release. -/
theorem released_report (transcript : Transcript) (start : Report) :
    (transcript.report start).released =
      start.released ++ transcript.filterMap Exchange.released? := by
  induction transcript generalizing start with
  | nil => simp [report]
  | cons exchange rest ih =>
      rw [report_cons, ih, Exchange.released_enter]
      cases released : exchange.released? <;> simp [released]

/-- A report has the composite that was stored last for the pipeline. -/
theorem pipelineStatus_report (transcript : Transcript) (start : Report) :
    (transcript.report start).pipelineStatus =
      ((transcript.filterMap Exchange.resolved?).getLast? <|> start.pipelineStatus) := by
  induction transcript generalizing start with
  | nil => rfl
  | cons exchange rest ih =>
      rw [report_cons, ih, Exchange.pipelineStatus_enter]
      cases resolved : exchange.resolved? <;> simp [resolved, List.getLast?_cons]

/-- A report counts the offers that were confirmed. -/
theorem processed_report (transcript : Transcript) (start : Report) :
    (transcript.report start).processed =
      start.processed + transcript.confirmations := by
  induction transcript generalizing start with
  | nil => rfl
  | cons exchange rest ih =>
      rw [report_cons, ih, Exchange.processed_enter, Nat.add_assoc]
      rfl

/-- A report has each composite that was stored for a stage, where the stages were
stored by ascending position. -/
theorem stageStatuses_report (transcript : Transcript) (start : Report)
    (ascending : (start.stageStatuses.entries ++
      transcript.filterMap Exchange.stored?).Pairwise fun left right => left.1 < right.1) :
    (transcript.report start).stageStatuses.entries =
      start.stageStatuses.entries ++ transcript.filterMap Exchange.stored? := by
  induction transcript generalizing start with
  | nil => simp [report]
  | cons exchange rest ih =>
      rw [report_cons]
      cases stored : exchange.stored? with
      | none =>
          rw [List.filterMap_cons_none stored] at ascending ⊢
          have kept : (exchange.enter start).stageStatuses = start.stageStatuses := by
            simp only [Exchange.stageStatuses_enter, stored]
          rw [← kept] at ascending ⊢
          exact ih _ ascending
      | some entry =>
          rw [List.filterMap_cons_some stored] at ascending ⊢
          have added : (exchange.enter start).stageStatuses.entries =
              start.stageStatuses.entries ++ [entry] := by
            have below := (List.pairwise_append.mp ascending).2.2
            simp only [Exchange.stageStatuses_enter, stored]
            apply StageStatuses.entries_insert_of_lt
            intro earlier member
            exact below earlier member entry List.mem_cons_self
          rw [List.append_cons, ← added] at ascending ⊢
          exact ih _ ascending

end Transcript

end Pass

end Rollup
