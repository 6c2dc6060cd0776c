import Rollup.Proofs.Pass.Consistent
import Rollup.Proofs.Pass.Quiet
import Rollup.Proofs.Shuffles

/-!
# Confluence

Jobs of one stage are offered one after the other, in the order in which their rows were
listed, and each answer changes the rows that the next ones are asked about.  But what a job
waits for are rows of earlier stages, and when a job is offered, these are already as the pass
leaves them.  So two passes over the same rows, listed in different orders, offer every job
with the same composite: this is shown stage by stage, the rows before a job being already
the same.
-/

namespace Rollup

/-- Entries whose keys are those of some items, in their order, and whose values follow from
the items of their keys. -/
theorem eq_map_of_items {α κ β : Type} {key : α → κ} {value : α → β} {items : List α}
    {entries : List (κ × β)} (keys : entries.map Prod.fst = items.map key)
    (follows : ∀ entry ∈ entries, ∀ item ∈ items, key item = entry.1 → entry.2 = value item) :
    entries = items.map fun item => (key item, value item) := by
  induction items generalizing entries with
  | nil => exact List.map_eq_nil_iff.mp keys
  | cons item rest ih =>
      cases entries with
      | nil => cases keys
      | cons entry others =>
          obtain ⟨first, restKeys⟩ := List.cons.inj keys
          have here := follows entry List.mem_cons_self item List.mem_cons_self first.symm
          have there := ih restKeys fun entry inOthers item inRest =>
            follows entry (.tail _ inOthers) item (.tail _ inRest)
          rw [List.map_cons, ← there, ← first, ← here]

/-- The rows before a position, without tokens and marks. -/
def rowsBefore (rows : List Row) (position : Position) : List Row :=
  (rows.filter fun row => row.position < position).map Row.plain

/-- Each job that waits for named jobs runs in a later stage than all rows that the names
resolve to. -/
def NeedsEarlier (waits : JobId → Scheduling) (rows : List Row) : Prop :=
  ∀ row ∈ rows, ∀ needs, waits row.id = .dag needs →
    ∀ named, NamedBy rows needs named → named.position < row.position

/-- Where names are distinct, no row from the stage of a job on has a name that the job
needs. -/
theorem NeedsEarlier.unnamed {waits : JobId → Scheduling} {rows : List Row}
    (earlier : NeedsEarlier waits rows) (names : (rows.map Row.name).Nodup) {row : Row}
    (member : row ∈ rows) {needs : List String} (needed : waits row.id = .dag needs) :
    ∀ other ∈ rows, row.position ≤ other.position → other.name ∉ needs := by
  intro other inRows behind among
  have before := earlier row member needs needed other ((namedBy_iff names).mpr ⟨inRows, among⟩)
  exact UInt32.not_lt.mpr behind before

/-- The row, with the status that was decided if its job was created. -/
def Row.decided (decides : JobId → Status → Option Status) (dependency : Status) (row : Row) :
    Row :=
  if row.status = .created then
    { row.plain with status := (decides row.id dependency).getD .created }
  else
    row.plain

namespace Roster

/-- What a job waits for is a matter of the rows before its stage, if it needs no others. -/
theorem awaited_eq_of_rowsBefore {roster : Roster} {found : Switches} {position : Position}
    {scheduling : Scheduling} (ordered : InStageOrder roster.rows)
    (fixed : ∀ number, roster.resolver.toggles.answers number = found)
    (unnamed : ∀ needs, scheduling = .dag needs →
      ∀ row ∈ roster.rows, position ≤ row.position → row.name ∉ needs) :
    roster.awaited position scheduling =
      (⟨rowsBefore roster.rows position, ⟨roster.resolver.table, .fixed found⟩⟩ :
        Roster).awaited position scheduling := by
  apply awaited_eq_of_front (filter_lt_append ordered position).symm fixed
  · intro row member
    exact UInt32.le_of_lt (of_decide_eq_true (List.mem_filter.mp member).2)
  · exact fun row member => of_decide_eq_true (List.mem_filter.mp member).2
  · intro needs waits row member
    obtain ⟨inRows, behind⟩ := List.mem_filter.mp member
    exact unnamed needs waits row inRows (of_decide_eq_true behind)

theorem Shuffle.awaited {left right : Roster} (shuffle : left.Shuffle right)
    (position : Position) (scheduling : Scheduling) :
    left.awaited position scheduling = right.awaited position scheduling := by
  cases scheduling with
  | stage => exact shuffle.windowStatus _
  | dag needs =>
      rw [Roster.awaited, Roster.awaited, (shuffle.forNames (fun _ _ => Iff.rfl) .dag).1]

end Roster

namespace Pass

/-- The job that an exchange offered, with the composite of what it waits for. -/
def Exchange.offer? : Exchange → Option (JobId × Status)
  | .release id dependency _ => some (id, dependency)
  | _ => none

theorem Exchange.offer?_eq_some {exchange : Exchange} {id : JobId} {dependency : Status} :
    exchange.offer? = some (id, dependency) ↔
      ∃ answer, exchange = .release id dependency answer := by
  cases exchange <;> simp [offer?]

theorem Transcript.map_fst_offers (said : Transcript) :
    (said.filterMap Exchange.offer?).map Prod.fst = said.filterMap Exchange.offered? := by
  rw [List.map_filterMap]
  apply congrArg (List.filterMap · said)
  funext exchange
  cases exchange <;> rfl

/-- Where no job is offered twice, a job has the update that was answered to its offer. -/
theorem Transcript.update?_of_offer {said : Transcript} {id : JobId} {dependency : Status}
    {reply : Option Update} (once : (said.filterMap Exchange.offered?).Nodup)
    (member : .release id dependency (.ok reply) ∈ said) : said.update? id = reply := by
  have elsewhere : ∀ rest : Transcript, id ∉ rest.filterMap Exchange.offered? →
      ∀ exchange ∈ rest, exchange.released? ≠ some id := by
    intro rest absent exchange inRest released
    exact absent (List.mem_filterMap.mpr
      ⟨exchange, inRest, Exchange.offered?_of_released? released⟩)
  induction said with
  | nil => cases member
  | cons exchange rest ih =>
      rw [update?_cons]
      rcases List.mem_cons.mp member with rfl | inRest
      · have absent := (List.nodup_cons.mp once).1
        rw [update?_eq_none (elsewhere rest absent), Option.none_or]
        cases reply with
        | none => rfl
        | some update => exact if_pos rfl
      · have inOffers : id ∈ rest.filterMap Exchange.offered? :=
          List.mem_filterMap.mpr ⟨_, inRest, rfl⟩
        have onceRest : (rest.filterMap Exchange.offered?).Nodup :=
          once.sublist (List.sublist_cons_self exchange rest |>.filterMap _)
        have silent : exchange.update? id = none := by
          cases updates : exchange.update? id with
          | none => rfl
          | some update =>
              have offered := Exchange.offered?_of_released?
                (Exchange.released?_of_update? updates)
              rw [List.filterMap_cons_some offered] at once
              exact absurd inOffers (List.nodup_cons.mp once).1
        rw [ih onceRest inRest, silent, Option.or_none]

namespace Replay

/-! ## One replay -/

/-- What a replay that succeeded stored for stages is what its rows give at its end. -/
theorem RunSpeech.stored_eq {σ : Type} {hooks : Hooks σ} {replay : Replay σ}
    {said : Transcript} {acted : Except Fault Unit × Replay σ}
    (course : RunSpeech hooks replay said acted) (ordered : InStageOrder replay.roster.rows)
    (succeeds : acted.1 = .ok ()) :
    said.filterMap Exchange.stored? = replay.roster.positions.map fun position =>
      (position, acted.2.roster.windowStatus (.atStage position)) := by
  rw [← course.storesAll succeeds]
  apply eq_map_of_keys
  rintro ⟨position, status⟩ member
  obtain ⟨exchange, inSaid, stored⟩ := List.mem_filterMap.mp member
  rw [Exchange.stored?_eq_some.mp stored] at inSaid
  exact course.holds ordered _ inSaid

/-- For the pipeline it stored one composite, which is that of its rows at its end. -/
theorem RunSpeech.resolved_eq {σ : Type} {hooks : Hooks σ} {replay : Replay σ}
    {said : Transcript} {acted : Except Fault Unit × Replay σ}
    (course : RunSpeech hooks replay said acted) (ordered : InStageOrder replay.roster.rows)
    (succeeds : acted.1 = .ok ()) :
    said.filterMap Exchange.resolved? = [acted.2.roster.all] := by
  have holds := course.holds ordered
  cases course with
  | fault stages => cases succeeds
  | @closed front marks staged answer _ stages closing onlyMarks =>
      have ascending := distinctPositions_ascending (replay.roster.rows.map Row.position)
      have inStages : front.filterMap Exchange.resolved? = [] := by
        apply List.filterMap_eq_nil_iff.mpr
        intro exchange member
        rcases stages.shape ascending ordered exchange member with
          ⟨id, offered⟩ | ⟨position, answer, rfl⟩
        · cases exchange <;> first | rfl | cases offered
        · rfl
      have inMarks : marks.filterMap Exchange.resolved? = [] := by
        apply List.filterMap_eq_nil_iff.mpr
        intro exchange member
        obtain ⟨batch, answer, rfl⟩ := onlyMarks exchange member
        rfl
      have ends := closing.ends
      rw [succeeds] at ends
      have answered := ends.succeeds _ List.mem_cons_self
      have whole : staged.roster.all = acted.2.roster.all :=
        holds (.persistPipeline staged.roster.all answer)
          (List.mem_append_right _ List.mem_cons_self)
      cases answer with
      | error reason => cases answered
      | ok _ =>
          rw [List.filterMap_append, inStages, List.nil_append,
            List.filterMap_cons_some (Exchange.resolved?_eq_some.mpr rfl), inMarks, whole]

/-- A replay with consistent hooks and fixed switches that succeeded, over rows of distinct
ids and names in which needs are met by earlier stages. -/
structure Settles {σ : Type} (hooks : Hooks σ) (usual : σ → Prop) (waits : JobId → Scheduling)
    (decides : JobId → Status → Option Status) (found : Switches) (replay : Replay σ)
    (said : Transcript) (acted : Except Fault Unit × Replay σ) : Prop where
  consistent : hooks.Consistent usual waits decides
  begins : usual replay.hooks
  ids : (replay.roster.rows.map Row.id).Nodup
  names : (replay.roster.rows.map Row.name).Nodup
  ordered : InStageOrder replay.roster.rows
  earlier : NeedsEarlier waits replay.roster.rows
  fixed : ∀ number, replay.roster.resolver.toggles.answers number = found
  course : RunSpeech hooks replay said acted
  succeeds : acted.1 = .ok ()

namespace Settles

variable {σ : Type} {hooks : Hooks σ} {usual : σ → Prop} {waits : JobId → Scheduling}
  {decides : JobId → Status → Option Status} {found : Switches} {replay : Replay σ}
  {said : Transcript} {acted : Except Fault Unit × Replay σ}
  (settles : Settles hooks usual waits decides found replay said acted)

include settles

theorem rows : acted.2.roster.rows = replay.roster.rows.map (Row.after said) := by
  rw [settles.course.speech.rows, Transcript.apply_of_nodup said settles.ids]

theorem table : acted.2.roster.resolver.table = replay.roster.resolver.table :=
  settles.course.speech.table

/-- Whatever was said, what a job waits for is a matter of the rows before its stage. -/
theorem awaited {roster : Roster} {before : Transcript}
    (rows : roster.rows = replay.roster.rows.map (Row.after before))
    (switches : roster.resolver.toggles.answers = replay.roster.resolver.toggles.answers)
    {row : Row} (member : row ∈ replay.roster.rows) :
    roster.awaited row.position (waits row.id) =
      (⟨rowsBefore (replay.roster.rows.map (Row.after before)) row.position,
        ⟨roster.resolver.table, .fixed found⟩⟩ : Roster).awaited row.position (waits row.id) := by
  rw [← rows]
  apply Roster.awaited_eq_of_rowsBefore
  · rw [rows]
    apply inStageOrder_congr _ settles.ordered
    rw [List.map_map]
    rfl
  · rw [switches]
    exact settles.fixed
  · intro needs needed other inRows behind
    rw [rows] at inRows
    obtain ⟨origin, inOrigin, rfl⟩ := List.mem_map.mp inRows
    exact settles.earlier.unnamed settles.names member needed origin inOrigin behind

/-- A job is offered with what it would wait for in the rows that the replay leaves. -/
theorem offered_eq {id : JobId} {dependency : Status} {answer : Except String (Option Update)}
    (member : .release id dependency answer ∈ said) :
    ∀ row ∈ replay.roster.rows, row.id = id →
      dependency = acted.2.roster.awaited row.position (waits row.id) := by
  rintro row inRows rfl
  obtain ⟨before, after, split⟩ := List.append_of_mem member
  obtain ⟨position, turn⟩ := settles.course.inTurn settles.ordered split
  obtain rfl := position_eq_of_nodup settles.ids inRows turn.runs
  obtain ⟨roster, rows, table, switches, waited⟩ :=
    settles.consistent.awaits settles.begins turn.awaits
  rw [Transcript.apply_of_nodup before settles.ids] at rows
  -- From here on no job is released that runs in an earlier stage.
  have kept : rowsBefore (replay.roster.rows.map (Row.after before)) row.position =
      rowsBefore (replay.roster.rows.map (Row.after said)) row.position := by
    simp only [rowsBefore, List.filter_map, List.map_map]
    apply List.map_congr_left
    intro other isBefore
    obtain ⟨inOthers, isEarlier⟩ := List.mem_filter.mp isBefore
    have isEarlier : other.position < row.position := of_decide_eq_true isEarlier
    have silent : (Transcript.update? (.release row.id dependency answer :: after) other.id) =
        none := by
      apply Transcript.update?_eq_none
      intro exchange inRest released
      have notBefore := turn.reaches exchange inRest other.id
        (Exchange.offered?_of_released? released) other.position
        (lastPosition?_of_nodup settles.ids inOthers)
      exact UInt32.not_lt.mpr notBefore isEarlier
    have same : (other.after said).plain = (other.after before).plain := by
      rw [split, Row.after_append]
      exact Row.plain_after silent
    exact same.symm
  rw [waited, settles.awaited rows switches inRows, kept, table, ← settles.table]
  exact (settles.awaited settles.rows settles.course.speech.switches inRows).symm

/-- The replay leaves a job as it is decided about it by what it would wait for then. -/
theorem after_eq {row : Row} (member : row ∈ replay.roster.rows) :
    (row.after said).plain =
      row.decided decides (acted.2.roster.awaited row.position (waits row.id)) := by
  have offers := (settles.course.offers settles.ordered settles.ids).2 settles.succeeds
  rw [Row.decided]
  split
  · rename_i created
    have among : row.id ∈ said.filterMap Exchange.offered? := by
      rw [offers]
      exact mem_createdJobs.mpr ⟨row, member, created, rfl⟩
    obtain ⟨exchange, inSaid, offered⟩ := List.mem_filterMap.mp among
    cases exchange with
    | release id dependency answer =>
        cases offered
        have fine := settles.course.speech.ends
        rw [settles.succeeds] at fine
        obtain ⟨decided, _⟩ :=
          settles.consistent.speech settles.begins settles.course.speech fine.succeeds
        obtain ⟨reply, rfl, same⟩ := decided _ inSaid
        have once : (said.filterMap Exchange.offered?).Nodup :=
          offers ▸ createdJobs_nodup settles.ids
        rw [← settles.offered_eq inSaid row member rfl, ← same, Row.after,
          Transcript.update?_of_offer once inSaid, created]
        rfl
    | persistStage position status answer => cases offered
    | persistPipeline composite answer => cases offered
    | markProcessed batch answer => cases offered
  · rename_i notCreated
    apply Row.plain_after
    apply Transcript.update?_eq_none
    intro exchange inSaid released
    have among : row.id ∈ createdJobs replay.roster.rows := by
      rw [← offers]
      exact List.mem_filterMap.mpr ⟨exchange, inSaid, Exchange.offered?_of_released? released⟩
    obtain ⟨other, inRows, created, same⟩ := mem_createdJobs.mp among
    rw [eq_of_key_eq settles.ids inRows member same] at created
    exact notCreated created

/-- The offers are those of the created jobs, each with what it would wait for in the rows
that the replay leaves. -/
theorem offers_eq :
    said.filterMap Exchange.offer? =
      (replay.roster.rows.filter fun row => row.status = .created).map fun row =>
        (row.id, acted.2.roster.awaited row.position (waits row.id)) := by
  apply eq_map_of_items
  · rw [Transcript.map_fst_offers]
    exact (settles.course.offers settles.ordered settles.ids).2 settles.succeeds
  · rintro ⟨id, dependency⟩ offer row member same
    obtain ⟨exchange, inSaid, offered⟩ := List.mem_filterMap.mp offer
    obtain ⟨answer, rfl⟩ := Exchange.offer?_eq_some.mp offered
    exact settles.offered_eq inSaid row (List.mem_filter.mp member).1 same

end Settles

/-! ## Two replays -/

section Two

variable {σ τ : Type} {hooks : Hooks σ} {others : Hooks τ} {usual : σ → Prop}
  {usualToo : τ → Prop} {waits : JobId → Scheduling}
  {decides : JobId → Status → Option Status} {found : Switches} {replay : Replay σ}
  {replayToo : Replay τ} {said more : Transcript} {acted : Except Fault Unit × Replay σ}
  {actedToo : Except Fault Unit × Replay τ}
  (left : Settles hooks usual waits decides found replay said acted)
  (right : Settles others usualToo waits decides found replayToo more actedToo)
  (perm : replay.roster.rows.Perm replayToo.roster.rows)
  (table : replay.roster.resolver.table = replayToo.roster.resolver.table)

include left right perm table

/-- Where the rows before a job are left the same by both, the job waits for the same. -/
theorem awaited_congr {row : Row} (member : row ∈ replay.roster.rows)
    (agree : ∀ other ∈ replay.roster.rows, other.position < row.position →
      (other.after said).plain = (other.after more).plain) :
    acted.2.roster.awaited row.position (waits row.id) =
      actedToo.2.roster.awaited row.position (waits row.id) := by
  rw [left.awaited left.rows left.course.speech.switches member,
    right.awaited right.rows right.course.speech.switches (perm.mem_iff.mp member)]
  have leftBefore : rowsBefore (replay.roster.rows.map (Row.after said)) row.position =
      (replay.roster.rows.filter fun other => other.position < row.position).map
        fun other => (other.after said).plain := by
    simp only [rowsBefore, List.filter_map, List.map_map]
    rfl
  have rightBefore : rowsBefore (replayToo.roster.rows.map (Row.after more)) row.position =
      (replayToo.roster.rows.filter fun other => other.position < row.position).map
        fun other => (other.after said).plain := by
    simp only [rowsBefore, List.filter_map, List.map_map]
    apply List.map_congr_left
    intro other isBefore
    obtain ⟨inRows, isEarlier⟩ := List.mem_filter.mp isBefore
    exact (agree other (perm.mem_iff.mpr inRows) (of_decide_eq_true isEarlier)).symm
  have shuffle : (⟨rowsBefore (replay.roster.rows.map (Row.after said)) row.position,
        ⟨acted.2.roster.resolver.table, .fixed found⟩⟩ : Roster).Shuffle
      ⟨rowsBefore (replayToo.roster.rows.map (Row.after more)) row.position,
        ⟨actedToo.2.roster.resolver.table, .fixed found⟩⟩ := by
    refine ⟨?rows, ?ids, ?names, ?resolver⟩
    case rows =>
      rw [leftBefore, rightBefore]
      exact (perm.filter _).map _
    case ids =>
      rw [leftBefore, List.map_map]
      exact (List.filter_sublist.map Row.id).nodup left.ids
    case names =>
      rw [leftBefore, List.map_map]
      exact (List.filter_sublist.map Row.name).nodup left.names
    case resolver =>
      rw [left.table, right.table, table]
  exact shuffle.awaited _ _

/-- Both replays leave a job with the same status. -/
theorem agree : ∀ row ∈ replay.roster.rows, (row.after said).plain = (row.after more).plain := by
  apply forall_mem_of_first
  intro front row back split agreed
  have member : row ∈ replay.roster.rows := by simp [split]
  have ordered := left.ordered
  rw [split] at ordered
  have fromHere := (List.pairwise_append.mp ordered).2.1
  rw [left.after_eq member, right.after_eq (perm.mem_iff.mp member),
    awaited_congr left right perm table member]
  intro other inRows isEarlier
  apply agreed
  rw [split] at inRows
  rcases List.mem_append.mp inRows with inFront | inBack
  · exact inFront
  · rcases List.mem_cons.mp inBack with rfl | inBack
    · exact absurd isEarlier (UInt32.lt_irrefl _)
    · exact absurd isEarlier (UInt32.not_lt.mpr ((List.pairwise_cons.mp fromHere).1 other inBack))

/-- Both replays leave the same rows, up to their order, their tokens and their marks. -/
theorem final_perm : acted.2.roster.plain.rows.Perm actedToo.2.roster.plain.rows := by
  have same : replay.roster.rows.map (Row.plain ∘ Row.after said) =
      replay.roster.rows.map (Row.plain ∘ Row.after more) :=
    List.map_congr_left (agree left right perm table)
  rw [Roster.plain, Roster.plain, left.rows, right.rows, List.map_map, List.map_map, same]
  exact perm.map _

theorem offers_perm : (said.filterMap Exchange.offer?).Perm (more.filterMap Exchange.offer?) := by
  have same : ∀ row ∈ replay.roster.rows.filter fun row => row.status = .created,
      (row.id, acted.2.roster.awaited row.position (waits row.id)) =
        (row.id, actedToo.2.roster.awaited row.position (waits row.id)) := by
    intro row chosen
    have member := (List.mem_filter.mp chosen).1
    rw [awaited_congr left right perm table member
      fun other inRows _ => agree left right perm table other inRows]
  rw [left.offers_eq, right.offers_eq, List.map_congr_left same]
  exact (perm.filter _).map _

/-- Both replays leave rosters of the same composites. -/
theorem final_composites :
    (∀ window, acted.2.roster.windowStatus window = actedToo.2.roster.windowStatus window) ∧
      acted.2.roster.all = actedToo.2.roster.all := by
  have tables : acted.2.roster.resolver.table = actedToo.2.roster.resolver.table := by
    rw [left.table, right.table, table]
  have contributions : acted.2.roster.contributions.Perm actedToo.2.roster.contributions := by
    have plain := (final_perm left right perm table).map fun row => (row.position, row.entry)
    rw [Roster.plain, Roster.plain, List.map_map, List.map_map] at plain
    exact plain
  exact ⟨Roster.windowStatus_of_perm tables contributions,
    Roster.all_of_perm tables contributions⟩

end Two

end Replay

/-! ## Two passes -/

/-- A pass in which no call fails comes to a report of what it stored, and its replay settles. -/
theorem run_settles {σ : Type} (pass : Pass σ) {usual : σ → Prop} {waits : JobId → Scheduling}
    {decides : JobId → Status → Option Status}
    (consistent : pass.hooks.Consistent usual waits decides) (stamps : Stamps) {fuel : Nat}
    {board : Board} (sound : board.Sound) {snapshot : Snapshot}
    (loads : board.loadAside.1 = .ok snapshot) (ids : (snapshot.rows.map Row.id).Nodup)
    (names : (snapshot.rows.map Row.name).Nodup) {found : Switches}
    (fixed : ∀ number, board.resolver.toggles.answers number = found)
    (earlier : NeedsEarlier waits snapshot.rows) (enough : snapshot.rows.length < fuel)
    {state : σ} (begins : usual state) (outbox : Outbox) :
    let outcome := pass.run stamps fuel board state outbox
    let said := outcome.transcript pass state
    said.Succeeds →
      ∃ replayed report final,
        Replay.Settles pass.hooks usual waits decides found
          (.start ⟨snapshot.rows, board.resolver⟩ state) said replayed ∧
        outcome.result = .ok report ∧
        report.stageStatuses.entries = said.filterMap Exchange.stored? ∧
        report.pipelineStatus = (said.filterMap Exchange.resolved?).getLast? ∧
        outcome.board.state = some (.ok final) ∧ final.rows = replayed.2.roster.rows := by
  intro outcome said fine
  obtain ⟨ordered, course, showing, ledgerEq⟩ :=
    run_of_rows pass stamps fuel sound state outbox loads
  have succeeds := Replay.run_succeeds pass.hooks ids enough course fine
  obtain ⟨report, result⟩ := Outcome.exists_report showing succeeds
  obtain ⟨final, left, rowsEq⟩ := Board.state_of_ledger (congrArg Ledger.state ledgerEq)
  obtain ⟨_, reportEq⟩ := Outcome.report_eq showing result
  obtain ⟨_, stages, _, pipeline, _⟩ := Replay.report_run pass.hooks pass.batchSize fuel
    ⟨snapshot.rows, board.resolver⟩ state stamps board.pipeline succeeds
  have told : _ = said := course.speech.transcript
  rw [told] at stages pipeline
  refine ⟨_, report, final, ?_, result, ?_, ?_, left, rowsEq⟩
  · exact { consistent, begins, ids, names, ordered, earlier, fixed, course, succeeds }
  · rw [reportEq, told]
    exact stages
  · rw [reportEq, told]
    exact pipeline

/-- Two passes over the same rows of distinct ids and names, listed in different orders, come
to reports if no call fails, whatever their batches: they offer the same jobs with the same
composites, store the same composites for every stage and for the pipeline, and leave the same
rows, up to the order, the tokens and the marks.  Their hooks decide alike and by the job and
its composite only, and what a job needs runs in earlier stages. -/
theorem run_rearranged {σ τ : Type} (pass : Pass σ) (other : Pass τ) {usual : σ → Prop}
    {usualToo : τ → Prop} {waits : JobId → Scheduling}
    {decides : JobId → Status → Option Status}
    (consistent : pass.hooks.Consistent usual waits decides)
    (consistentToo : other.hooks.Consistent usualToo waits decides) (stamps again : Stamps)
    {fuel fuelToo : Nat} {board rearranged : Board} (reached : board.Reached)
    (reachedToo : rearranged.Reached) {left right : Snapshot}
    (loads : board.loadAside.1 = .ok left) (loadsToo : rearranged.loadAside.1 = .ok right)
    (perm : left.rows.Perm right.rows) (ids : (left.rows.map Row.id).Nodup)
    (names : (left.rows.map Row.name).Nodup)
    (table : board.resolver.table = rearranged.resolver.table) {found : Switches}
    (fixed : ∀ number, board.resolver.toggles.answers number = found)
    (fixedToo : ∀ number, rearranged.resolver.toggles.answers number = found)
    (earlier : NeedsEarlier waits left.rows) (enough : left.rows.length < fuel)
    (enoughToo : right.rows.length < fuelToo) {state : σ} {stateToo : τ}
    (begins : usual state) (beginsToo : usualToo stateToo) (outbox later : Outbox) :
    let first := pass.run stamps fuel board state outbox
    let second := other.run again fuelToo rearranged stateToo later
    let said := first.transcript pass state
    let more := second.transcript other stateToo
    said.Succeeds → more.Succeeds →
      (said.filterMap Exchange.offer?).Perm (more.filterMap Exchange.offer?) ∧
      said.filterMap Exchange.stored? = more.filterMap Exchange.stored? ∧
      said.filterMap Exchange.resolved? = more.filterMap Exchange.resolved? ∧
      ∃ report rereport final finalToo,
        first.result = .ok report ∧ second.result = .ok rereport ∧
        report.stageStatuses = rereport.stageStatuses ∧
        report.pipelineStatus = rereport.pipelineStatus ∧
        first.board.state = some (.ok final) ∧ second.board.state = some (.ok finalToo) ∧
        (final.rows.map Row.plain).Perm (finalToo.rows.map Row.plain) := by
  intro first second said more fine fineToo
  have idsToo : (right.rows.map Row.id).Nodup := (perm.map Row.id).nodup_iff.mp ids
  have namesToo : (right.rows.map Row.name).Nodup := (perm.map Row.name).nodup_iff.mp names
  have earlierToo : NeedsEarlier waits right.rows := by
    intro row member needs needed named resolves
    apply earlier row (perm.mem_iff.mpr member) needs needed
    rw [namedBy_iff namesToo, ← perm.mem_iff] at resolves
    exact (namedBy_iff names).mpr resolves
  obtain ⟨replayed, report, final, settles, result, stages, pipeline, state, rows⟩ :=
    run_settles pass consistent stamps reached.sound loads ids names fixed earlier enough begins
      outbox fine
  obtain ⟨replayedToo, rereport, finalToo, settlesToo, resultToo, stagesToo, pipelineToo,
      stateToo, rowsToo⟩ :=
    run_settles other consistentToo again reachedToo.sound loadsToo idsToo namesToo fixedToo
      earlierToo enoughToo beginsToo later fineToo
  obtain ⟨windows, whole⟩ := Replay.final_composites settles settlesToo perm table
  have stored : said.filterMap Exchange.stored? = more.filterMap Exchange.stored? := by
    rw [settles.course.stored_eq settles.ordered settles.succeeds,
      settlesToo.course.stored_eq settlesToo.ordered settlesToo.succeeds]
    have positions := distinctPositions_perm (perm.map Row.position)
    simp only [windows]
    exact congrArg _ positions
  have resolved : said.filterMap Exchange.resolved? = more.filterMap Exchange.resolved? := by
    rw [settles.course.resolved_eq settles.ordered settles.succeeds,
      settlesToo.course.resolved_eq settlesToo.ordered settlesToo.succeeds, whole]
  refine ⟨Replay.offers_perm settles settlesToo perm table, stored, resolved, report, rereport,
    final, finalToo, result, resultToo, ?_, ?_, state, stateToo, ?_⟩
  · apply StageStatuses.eq_of_entries
    rw [stages, stagesToo, stored]
  · rw [pipeline, pipelineToo, resolved]
  · rw [rows, rowsToo]
    exact Replay.final_perm settles settlesToo perm table

/-- The jobs of the second stage are offered the other way round in the second pass, which
marks row by row. -/
theorem run_rearranged_recorded :
    let rows : List Row :=
      [.fresh ⟨1⟩ "build" .success 0, .fresh ⟨2⟩ "test" .created 1,
        .fresh ⟨3⟩ "lint" .created 1, .fresh ⟨4⟩ "deploy" .created 2]
    let needs : List (JobId × List String) := [(⟨4⟩, ["test", "ghost"])]
    let account : Recording.Account := .ofPolicy .onSuccess needs []
    let board := Board.ofSource ⟨7⟩ (.memory [(⟨7⟩, rows)]) (.fixed ⟨false, true⟩)
    let rearranged := Board.ofSource ⟨7⟩ (.memory [(⟨7⟩, rows.reverse)]) (.fixed ⟨false, true⟩)
    let left := (Snapshot.ofRows rows).withStages
    let right := (Snapshot.ofRows rows.reverse).withStages
    let pass := ofHooks Recording.hooks
    let other := pass.withBatchSize 1
    let first := pass.run .blank 5 board account (.ofSink .discard)
    let second := other.run .blank 5 rearranged account (.ofSink .discard)
    let said := first.transcript pass account
    let more := second.transcript other account
    board.Reached ∧ rearranged.Reached ∧ board.loadAside.1 = .ok left ∧
      rearranged.loadAside.1 = .ok right ∧ left.rows.Perm right.rows ∧
      NeedsEarlier account.scheduling left.rows ∧ said.Succeeds ∧ more.Succeeds ∧
      said.filterMap Exchange.offer? = [(⟨2⟩, .success), (⟨3⟩, .success), (⟨4⟩, .running)] ∧
      more.filterMap Exchange.offer? = [(⟨3⟩, .success), (⟨2⟩, .success), (⟨4⟩, .running)] ∧
      (said.filterMap Exchange.offer?).Perm (more.filterMap Exchange.offer?) ∧
      said.filterMap Exchange.stored? = more.filterMap Exchange.stored? ∧
      said.filterMap Exchange.resolved? = more.filterMap Exchange.resolved? := by
  intro rows needs account board rearranged left right pass other first second said more
  have reached : board.Reached := ⟨_, _, _, [], rfl⟩
  have reachedToo : rearranged.Reached := ⟨_, _, _, [], rfl⟩
  have loads : board.loadAside.1 = .ok left := rfl
  have loadsToo : rearranged.loadAside.1 = .ok right := rfl
  have stands : Recording.GoesBySuccess needs account := ⟨rfl, rfl⟩
  have perm : left.rows.Perm right.rows := by decide +kernel
  have earlier : NeedsEarlier account.scheduling left.rows := by
    have waitsForStage : ∀ row ∈ left.rows, row.id ≠ ⟨4⟩ →
        account.scheduling row.id = .stage := by
      decide
    have waitsForTest : account.scheduling ⟨4⟩ = .dag ["test", "ghost"] := by decide
    have isLast : ∀ row ∈ left.rows, row.id = ⟨4⟩ → row.position = 2 := by decide
    have namedBefore : ∀ row ∈ left.rows, row.name ∈ ["test", "ghost"] → row.position < 2 := by
      decide
    intro row member needed waits named resolves
    by_cases last : row.id = ⟨4⟩
    · rw [last, waitsForTest] at waits
      cases waits
      obtain ⟨inRows, among⟩ := (namedBy_iff (by decide)).mp resolves
      rw [isLast row member last]
      exact namedBefore named inRows among
    · rw [waitsForStage row member last] at waits
      cases waits
  have fine : said.Succeeds := by
    have all : ∀ exchange ∈ said, exchange.failure? = none := by decide +kernel
    exact all
  have fineToo : more.Succeeds := by
    have all : ∀ exchange ∈ more, exchange.failure? = none := by decide +kernel
    exact all
  have consistent := (Recording.steady needs).consistent
  obtain ⟨offers, stored, resolved, _⟩ := run_rearranged pass other consistent consistent .blank
    .blank reached reachedToo loads loadsToo perm (by decide) (by decide) rfl (fun _ => rfl)
    (fun _ => rfl) earlier (by decide) (by decide) stands stands (.ofSink .discard)
    (.ofSink .discard) fine fineToo
  exact ⟨reached, reachedToo, loads, loadsToo, perm, earlier, fine, fineToo, by decide +kernel,
    by decide +kernel, offers, stored, resolved⟩

end Pass

end Rollup
