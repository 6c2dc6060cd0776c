import Rollup.Proofs.Requests

/-!
# Writes as an overlay

Jobs are given statuses and marks between questions of any kind.  What comes of it is an
overlay over the rows as they were: the last row of each id has the last update that was
written for the id, and is processed if it was or if some write marks it.
-/

namespace Rollup

/-! ## Rows under writes -/

/-- A change of the job with an id. -/
inductive Write where
  | status (id : JobId) (update : Update)
  | mark (id : JobId)
  deriving DecidableEq, Repr

namespace Write

def id : Write → JobId
  | .status id _ | .mark id => id

/-- What becomes of the row. -/
def apply : Write → Row → Row
  | .status _ update => Row.updated update
  | .mark _ => Row.marked

/-- No write touches the id. -/
theorem id_apply (write : Write) (row : Row) : (write.apply row).id = row.id := by
  cases write <;> rfl

/-- The update for a job. -/
def update? (id : JobId) : Write → Option Update
  | .status other update => if other = id then some update else none
  | .mark _ => none

end Write

/-- The row with an update, if there is one, and with a mark, if it gets one. -/
def Row.overlaid (update? : Option Update) (marked : Bool) (row : Row) : Row :=
  { row with
    status := (update?.map Update.status).getD row.status
    token := (update?.map Update.token).getD row.token
    processed := row.processed || marked }

/-- The row under writes: it has the last update for its id, and is processed if it was or
if some write marks it. -/
def Row.under (writes : List Write) (row : Row) : Row :=
  row.overlaid (writes.filterMap (Write.update? row.id)).getLast? (.mark row.id ∈ writes)

/-- Rows under writes: the last row of each id is under them, and no other row. -/
def overlay (writes : List Write) : List Row → List Row
  | [] => []
  | row :: rest =>
      (if row.id ∈ rest.map Row.id then row else row.under writes) :: overlay writes rest

theorem Row.under_nil (row : Row) : row.under [] = row := by
  simp [under, overlaid]

theorem Row.under_cons (write : Write) (rest : List Write) (row : Row) :
    row.under (write :: rest) =
      if row.id = write.id then (write.apply row).under rest else row.under rest := by
  have marks : decide (.mark row.id ∈ write :: rest) =
      (decide (.mark row.id = write) || decide (.mark row.id ∈ rest)) := by simp
  rw [under, getLast?_filterMap_cons, marks]
  cases write with
  | status id update =>
      by_cases same : row.id = id
      · cases found : (rest.filterMap (Write.update? id)).getLast? <;>
          simp [under, overlaid, updated, Write.update?, Write.apply, Write.id, same, found]
      · simp [under, Write.update?, Write.id, same, Ne.symm same]
  | mark id =>
      by_cases same : row.id = id
      · simp [under, overlaid, marked, Write.update?, Write.apply, Write.id, same]
      · simp [under, Write.update?, Write.id, same]

theorem overlay_congr {writes others : List Write}
    (same : ∀ row : Row, row.under writes = row.under others) (rows : List Row) :
    overlay writes rows = overlay others rows := by
  induction rows with
  | nil => rfl
  | cons row rest ih => rw [overlay, overlay, ih, same]

theorem overlay_nil (rows : List Row) : overlay [] rows = rows := by
  induction rows with
  | nil => rfl
  | cons row rest ih => rw [overlay, ih, Row.under_nil, ite_self]

/-- The first write comes first. -/
theorem overlay_cons (write : Write) (rest : List Write) (rows : List Row) :
    overlay (write :: rest) rows = overlay rest (changeLast write.id write.apply rows) := by
  induction rows with
  | nil => rfl
  | cons row others ih =>
      have ids := map_changeLast write.id write.apply write.id_apply others
      rw [overlay, ih, Row.under_cons]
      by_cases later : write.id ∈ others.map Row.id
      · rw [changeLast, if_pos later, overlay, ids]
        by_cases same : row.id = write.id
        · rw [if_pos same, same, if_pos later, if_pos later]
        · rw [if_neg same]
      · rw [changeLast, if_neg later, changeLast_of_not_mem write.apply later]
        by_cases same : row.id = write.id
        · rw [if_pos same, if_pos same, overlay, write.id_apply, same, if_neg later, if_neg later]
        · rw [if_neg same, if_neg same, overlay]

theorem overlay_singleton (write : Write) (rows : List Row) :
    overlay [write] rows = changeLast write.id write.apply rows := by
  rw [overlay_cons, overlay_nil]

/-- A field that no write touches is the same in every row. -/
theorem map_overlay {α : Type} {field : Row → α}
    (untouched : ∀ update? marked row, field (Row.overlaid update? marked row) = field row)
    (writes : List Write) (rows : List Row) :
    (overlay writes rows).map field = rows.map field := by
  induction rows with
  | nil => rfl
  | cons row rest ih =>
      rw [overlay, List.map_cons, List.map_cons, ih]
      split
      · rfl
      · rw [Row.under, untouched]

/-! ## Requests that write -/

def Write.request : Write → Request
  | .status id update => .setStatus id update
  | .mark id => .setProcessed id

/-- What a request writes. -/
def Request.write? : Request → Option Write
  | .setStatus id update => some (.status id update)
  | .setProcessed id => some (.mark id)
  | _ => none

namespace Ledger

variable {ledger : Ledger} {rows : List Row}

theorem perform_write (state : ledger.state = some (.ok rows)) (write : Write) :
    ledger.perform write.request =
      (.flag (decide (write.id ∈ rows.map Row.id)),
        { ledger with state := some (.ok (changeLast write.id write.apply rows)) }) := by
  cases write with
  | status id update =>
      rw [Write.request, perform, query_of_state state]
      rfl
  | mark id =>
      rw [Write.request, perform, query_of_state state]
      rfl

/-- A request that runs no pass leaves loaded rows under what it writes. -/
theorem perform_rows (state : ledger.state = some (.ok rows)) {request : Request}
    (noPass : request.runsPass = false) :
    (ledger.perform request).2.state = some (.ok (overlay request.write?.toList rows)) := by
  have writes : ∀ write : Write, (ledger.perform write.request).2.state =
      some (.ok (overlay [write] rows)) := by
    intro write
    rw [perform_write state, overlay_singleton]
  -- What a question leaves alone is under no writes.
  have asked : ∀ {α : Type} (wrap : α → Answer) (scan : Roster → α × Roster),
      (∀ roster, (scan roster).2.rows = roster.rows) →
      (answered wrap (ledger.query scan)).2.state = some (.ok (overlay [] rows)) := by
    intro α wrap scan reads
    rw [answered, query_of_state state, close, reads, overlay_nil]
  have kept : ledger.state = some (.ok (overlay [] rows)) := by rw [state, overlay_nil]
  cases request with
  | setStatus id update => exact writes (.status id update)
  | setProcessed id => exact writes (.mark id)
  | load =>
      rw [perform, answered, load, state]
      exact kept
  | loadAside =>
      rw [perform, answeredAside, loadAside, load, state]
      exact kept
  | isLoaded => exact kept
  | withTable table => exact kept
  | withToggles toggles => exact kept
  | forNames names discipline =>
      apply asked
      cases discipline <;> exact fun _ => rfl
  | all => exact asked _ _ fun _ => rfl
  | windowStatus window => exact asked _ _ fun _ => rfl
  | createdIds position => exact asked _ _ fun _ => rfl
  | unprocessed => exact asked _ _ fun _ => rfl
  | positions => exact asked _ _ fun _ => rfl
  | row id => exact asked _ _ fun _ => rfl
  | pass pass stamps fuel hooks outbox => cases noPass

theorem perform_answers_write (state : ledger.state = some (.ok rows)) {request : Request}
    {write : Write} (writes : request.write? = some write) :
    (ledger.perform request).1 = .flag (decide (write.id ∈ rows.map Row.id)) := by
  have same : request = write.request := by
    cases request <;> cases writes <;> rfl
  rw [same, perform_write state]

/-- A run without passes leaves loaded rows under its writes, and each write is answered by
whether its id is known. -/
theorem performAll_rows (state : ledger.state = some (.ok rows)) {requests : List Request}
    (noPass : ∀ request ∈ requests, request.runsPass = false) :
    (ledger.performAll requests).2.state =
        some (.ok (overlay (requests.filterMap Request.write?) rows)) ∧
      ∀ (place : Nat) (write : Write), (requests[place]?).bind Request.write? = some write →
        (ledger.performAll requests).1[place]? =
          some (.flag (decide (write.id ∈ rows.map Row.id))) := by
  induction requests generalizing ledger rows with
  | nil =>
      rw [List.filterMap_nil, overlay_nil]
      refine ⟨state, ?_⟩
      intro place write writes
      rw [List.getElem?_nil] at writes
      cases writes
  | cons request rest ih =>
      obtain ⟨first, others⟩ := List.forall_mem_cons.mp noPass
      obtain ⟨rowsAfter, answers⟩ := ih (perform_rows state first) others
      have idsKept : (overlay request.write?.toList rows).map Row.id = rows.map Row.id :=
        map_overlay (fun _ _ _ => rfl) _ rows
      refine ⟨?_, ?_⟩
      · refine rowsAfter.trans ?_
        rw [List.filterMap_cons]
        cases request.write? with
        | none => rw [Option.toList_none, overlay_nil]
        | some write => rw [Option.toList_some, overlay_singleton, overlay_cons]
      · intro place write writes
        cases place with
        | zero => exact congrArg some (perform_answers_write state writes)
        | succ place =>
            rw [idsKept] at answers
            exact answers place write writes

end Ledger

/-! ## Boards after writes -/

namespace Snapshot.Coherent

variable {snapshot : Snapshot}

/-- A change builds the index of ids, and is a change of the last row with the id. -/
theorem modifyRow_eq (coherent : snapshot.Coherent) (id : JobId) (change : Row → Row) :
    snapshot.modifyRow id change =
      { snapshot.withIds with rows := changeLast id change snapshot.rows } := by
  rw [← coherent.rows_modifyRow, Snapshot.modifyRow]
  split <;> rfl

theorem written (coherent : snapshot.Coherent) (write : Write) :
    (snapshot.modifyRow write.id write.apply).Coherent := by
  cases write with
  | status id update => exact coherent.modifyRow id (fun _ => rfl) (fun _ => rfl) fun _ => rfl
  | mark id => exact coherent.modifyRow id (fun _ => rfl) (fun _ => rfl) fun _ => rfl

theorem modifyRow_modifyRow (coherent : snapshot.Coherent) (first second : Write) :
    (snapshot.modifyRow first.id first.apply).modifyRow second.id second.apply =
      { snapshot.withIds with rows := overlay [first, second] snapshot.rows } := by
  rw [(coherent.written first).modifyRow_eq, coherent.rows_modifyRow, overlay_cons,
    overlay_singleton, coherent.modifyRow_eq]
  rfl

/-- Writing the same once more changes no row. -/
theorem modifyRow_again (coherent : snapshot.Coherent) (write : Write) :
    (snapshot.modifyRow write.id write.apply).modifyRow write.id write.apply =
      snapshot.modifyRow write.id write.apply := by
  have same : ∀ row : Row, row.under [write, write] = row.under [write] := by
    intro row
    have again : write.apply (write.apply row) = write.apply row := by cases write <;> rfl
    by_cases ours : row.id = write.id
    · simp only [Row.under_cons, Row.under_nil, write.id_apply, ours, if_true, again]
    · simp only [Row.under_cons, if_neg ours]
  rw [coherent.modifyRow_modifyRow, overlay_congr same, overlay_singleton, coherent.modifyRow_eq]

/-- Writes for different ids can be swapped. -/
theorem modifyRow_swap (coherent : snapshot.Coherent) {first second : Write}
    (different : first.id ≠ second.id) :
    (snapshot.modifyRow first.id first.apply).modifyRow second.id second.apply =
      (snapshot.modifyRow second.id second.apply).modifyRow first.id first.apply := by
  have same : ∀ row : Row, row.under [first, second] = row.under [second, first] := by
    intro row
    simp only [Row.under_cons, Row.under_nil, Write.id_apply]
    by_cases ours : row.id = first.id
    · simp only [ours, different, if_true, if_false]
    · simp only [ours, if_false]
  rw [coherent.modifyRow_modifyRow, coherent.modifyRow_modifyRow, overlay_congr same]

end Snapshot.Coherent

/-- What becomes of a memo when the write is made where these ids are known. -/
def Write.onMemo (known : List JobId) (memo : Memo) : Write → Memo
  | .status id _ => if id ∈ known then memo.invalidate else memo
  | .mark _ => memo

theorem Write.onMemo_of_not_mem {write : Write} {known : List JobId} (unknown : write.id ∉ known)
    (memo : Memo) : write.onMemo known memo = memo := by
  cases write with
  | status id update => exact if_neg unknown
  | mark id => rfl

/-- The memo is emptied once for each update, whichever is first. -/
theorem Write.onMemo_swap (first second : Write) (known : List JobId) (memo : Memo) :
    second.onMemo known (first.onMemo known memo) =
      first.onMemo known (second.onMemo known memo) := by
  cases first <;> cases second <;> simp only [onMemo]
  split <;> split <;> rfl

namespace Board

namespace Loaded

variable {loaded : Loaded} (coherent : loaded.snapshot.Coherent)

include coherent

theorem setStatus_eq (id : JobId) (update : Update) :
    ∃ records, loaded.setStatus id update =
      (decide (id ∈ loaded.snapshot.rows.map Row.id),
        { loaded with
          snapshot := loaded.snapshot.modifyRow id (Row.updated update)
          memo :=
            if id ∈ loaded.snapshot.rows.map Row.id then loaded.memo.invalidate else loaded.memo
          journal := loaded.journal ++ records }) := by
  have found : (loaded.snapshot.row? id).isSome = decide (id ∈ loaded.snapshot.rows.map Row.id) :=
    isSome_row? coherent id
  rw [setStatus]
  cases held : loaded.snapshot.row? id with
  | none =>
      rw [held] at found
      have unknown : id ∉ loaded.snapshot.rows.map Row.id := of_decide_eq_false found.symm
      have same : loaded.snapshot.modifyRow id (Row.updated update) = loaded.snapshot.withIds := by
        rw [coherent.modifyRow_eq, changeLast_of_not_mem _ unknown]
        rfl
      refine ⟨loaded.snapshot.idRecords, ?_⟩
      rw [← found, if_neg unknown, same]
      rfl
  | some row =>
      rw [held] at found
      have known : id ∈ loaded.snapshot.rows.map Row.id := of_decide_eq_true found.symm
      refine ⟨loaded.snapshot.idRecords ++
        [.statusChanged id row.status update.status, .memoInvalidated], ?_⟩
      rw [← found, if_pos known, ← List.append_assoc]
      rfl

theorem setProcessed_eq (id : JobId) :
    ∃ records, loaded.setProcessed id =
      (decide (id ∈ loaded.snapshot.rows.map Row.id),
        { loaded with
          snapshot := loaded.snapshot.modifyRow id Row.marked
          journal := loaded.journal ++ records }) := by
  refine ⟨loaded.snapshot.idRecords, ?_⟩
  exact congrArg (·, _) (isSome_row? coherent id)

end Loaded

variable {board : Board} {snapshot : Snapshot}

/-- The board after a write, with what it recorded. -/
def written (board : Board) (snapshot : Snapshot) (write : Write) (records : List Record) :
    Board :=
  { board with
    state := some (.ok (snapshot.modifyRow write.id write.apply))
    memo := write.onMemo (snapshot.rows.map Row.id) board.memo
    journal := board.journal ++ records }

theorem query_of_state {α : Type} (state : board.state = some (.ok snapshot))
    (ask : Loaded → α × Loaded) :
    board.query ask =
      (.ok (ask (board.opened snapshot)).1, board.close (ask (board.opened snapshot)).2) := by
  rw [query, load, state]

theorem Sound.perform_write (sound : board.Sound) (state : board.state = some (.ok snapshot))
    (write : Write) :
    ∃ records, board.perform write.request =
      (.flag (decide (write.id ∈ snapshot.rows.map Row.id)),
        board.written snapshot write records) := by
  have coherent : (board.opened snapshot).snapshot.Coherent := (sound.loaded state).coherent
  cases write with
  | mark id =>
      obtain ⟨records, done⟩ := Loaded.setProcessed_eq coherent id
      refine ⟨records, ?_⟩
      rw [Write.request, perform, setProcessed, query_of_state state, done]
      rfl
  | status id update =>
      obtain ⟨records, done⟩ := Loaded.setStatus_eq coherent id update
      refine ⟨records, ?_⟩
      rw [Write.request, perform, setStatus, query_of_state state, done]
      rfl

namespace Sound

variable (sound : board.Sound)

include sound

/-- What is answered later is a matter of the ledger. -/
theorem answers_congr {other : Board} (otherSound : other.Sound)
    (same : board.ledger = other.ledger) (later : List Request) :
    (board.performAll later).1 = (other.performAll later).1 := by
  rw [(performAll_agrees sound later).answer, (performAll_agrees otherSound later).answer, same]

variable (state : board.state = some (.ok snapshot))

include state

theorem write_unknown {write : Write} (unknown : write.id ∉ snapshot.rows.map Row.id) :
    (board.perform write.request).2.ledger = board.ledger ∧
      (board.perform write.request).2.memo = board.memo := by
  have given := ledger_state state
  constructor
  · rw [(perform_agrees sound _).ledger, Ledger.perform_write given,
      changeLast_of_not_mem _ unknown, ← given]
  · obtain ⟨records, done⟩ := sound.perform_write state write
    rw [done]
    exact Write.onMemo_of_not_mem unknown board.memo

/-- What two writes leave is told from the rows under both. -/
theorem perform_both (first second : Write) :
    let known := snapshot.rows.map Row.id
    ∃ records, board.performAll [first.request, second.request] =
      ([.flag (decide (first.id ∈ known)), .flag (decide (second.id ∈ known))],
        { board with
          state :=
            some (.ok { snapshot.withIds with rows := overlay [first, second] snapshot.rows })
          memo := second.onMemo known (first.onMemo known board.memo)
          journal := board.journal ++ records }) := by
  intro known
  have coherent : snapshot.Coherent := (sound.loaded state).coherent
  have both := coherent.modifyRow_modifyRow first second
  have idsKept : (snapshot.modifyRow first.id first.apply).rows.map Row.id = known := by
    rw [coherent.rows_modifyRow, ← overlay_singleton]
    exact map_overlay (fun _ _ _ => rfl) _ _
  obtain ⟨records, done⟩ := sound.perform_write state first
  have soundAfter : (board.written snapshot first records).Sound := by
    have agrees := perform_agrees sound first.request
    rw [done] at agrees
    exact agrees.sound
  obtain ⟨more, doneToo⟩ := soundAfter.perform_write rfl second
  refine ⟨records ++ more, ?_⟩
  have pair : board.performAll [first.request, second.request] =
      ([(board.perform first.request).1,
          ((board.perform first.request).2.perform second.request).1],
        ((board.perform first.request).2.perform second.request).2) := rfl
  rw [pair, done, doneToo, idsKept]
  simp only [written, idsKept, both, List.append_assoc, known]

/-- The second of two equal updates changes nothing but a counter and the journal. -/
theorem update_again (id : JobId) (update : Update) :
    let once := board.perform (.setStatus id update)
    let twice := once.2.perform (.setStatus id update)
    let stats := once.2.memo.stats
    let invalidations := stats.invalidations + if id ∈ snapshot.rows.map Row.id then 1 else 0
    twice.1 = once.1 ∧
      twice.2 = { once.2 with
        memo := { once.2.memo with stats := { stats with invalidations } }
        journal := twice.2.journal } ∧
      ∀ later, (twice.2.performAll later).1 = (once.2.performAll later).1 := by
  intro once twice stats invalidations
  have coherent : snapshot.Coherent := (sound.loaded state).coherent
  have onceSound : once.2.Sound := (perform_agrees sound _).sound
  have twiceSound : twice.2.Sound := (perform_agrees onceSound _).sound
  obtain ⟨records, done⟩ := sound.perform_write state (.status id update)
  obtain ⟨more, both⟩ := sound.perform_both state (.status id update) (.status id update)
  have onceEq : once = _ := done
  have bothEq : ([once.1, twice.1], twice.2) = _ := both
  obtain ⟨answers, twiceEq⟩ := Prod.mk.inj bothEq
  obtain ⟨firstAnswer, secondAnswer⟩ := List.cons.inj answers
  have rowsAgain := coherent.modifyRow_again (.status id update)
  rw [coherent.modifyRow_modifyRow] at rowsAgain
  have memoAgain : Write.onMemo (snapshot.rows.map Row.id) once.2.memo (.status id update) =
      { once.2.memo with stats := { stats with invalidations } } := by
    simp only [stats, invalidations, onceEq, written, Write.onMemo]
    split <;> rfl
  have same : twice.2 = { once.2 with
      memo := { once.2.memo with stats := { stats with invalidations } }
      journal := twice.2.journal } := by
    rw [← memoAgain, twiceEq, rowsAgain, onceEq]
    rfl
  refine ⟨(List.cons.inj secondAnswer).1.trans firstAnswer.symm, same, ?_⟩
  apply answers_congr twiceSound onceSound
  rw [same]
  rfl

/-- Writes for different jobs leave the same in either order, but for the order of what
the journal has of them. -/
theorem writes_swap {first second : Write} (different : first.id ≠ second.id) :
    let left := board.performAll [first.request, second.request]
    let right := board.performAll [second.request, first.request]
    left.1 = right.1.reverse ∧ left.2 = { right.2 with journal := left.2.journal } ∧
      ∀ later, (left.2.performAll later).1 = (right.2.performAll later).1 := by
  intro left right
  have coherent : snapshot.Coherent := (sound.loaded state).coherent
  obtain ⟨records, leftEq⟩ := sound.perform_both state first second
  obtain ⟨others, rightEq⟩ := sound.perform_both state second first
  have rows := coherent.modifyRow_swap different
  rw [coherent.modifyRow_modifyRow, coherent.modifyRow_modifyRow] at rows
  have leftDone : left = _ := leftEq
  have rightDone : right = _ := rightEq
  have same : left.2 = { right.2 with journal := left.2.journal } := by
    rw [leftDone, rightDone, rows, Write.onMemo_swap]
  refine ⟨?_, same, ?_⟩
  · rw [leftDone, rightDone]
    rfl
  · apply answers_congr (performAll_agrees sound _).sound (performAll_agrees sound _).sound
    have ledgers := congrArg ledger same
    exact ledgers

end Sound

/-- Whatever is asked of a board with rows, passes apart, its rows are the rows before under
what was written: the last row of each id has the last update that was written for it, and is
processed if it was or if some write marks it.  A write is answered by whether some row has
the id, and where none has it, the write leaves rows and memo alone.  So an update can be
repeated, which shows in the count of invalidations only, and writes for different jobs can be
swapped. -/
theorem writes_overlay (reached : board.Reached) (state : board.state = some (.ok snapshot))
    {requests : List Request} (noPass : ∀ request ∈ requests, request.runsPass = false) :
    let run := board.performAll requests
    let known := snapshot.rows.map Row.id
    (∃ final, run.2.state = some (.ok final) ∧
      final.rows = overlay (requests.filterMap Request.write?) snapshot.rows ∧
      final.rows.map (fun row => (row.id, row.name, row.allowFailure, row.position)) =
        snapshot.rows.map fun row => (row.id, row.name, row.allowFailure, row.position)) ∧
    (∀ (place : Nat) (write : Write), (requests[place]?).bind Request.write? = some write →
      run.1[place]? = some (.flag (decide (write.id ∈ known)))) ∧
    (∀ write : Write, write.id ∉ known →
      (run.2.perform write.request).2.ledger = run.2.ledger ∧
        (run.2.perform write.request).2.memo = run.2.memo) ∧
    (∀ id update,
      let once := run.2.perform (.setStatus id update)
      let twice := once.2.perform (.setStatus id update)
      let stats := once.2.memo.stats
      let invalidations := stats.invalidations + if id ∈ known then 1 else 0
      twice.1 = once.1 ∧
        twice.2 = { once.2 with
          memo := { once.2.memo with stats := { stats with invalidations } }
          journal := twice.2.journal } ∧
        ∀ later, (twice.2.performAll later).1 = (once.2.performAll later).1) ∧
    ∀ first second : Write, first.id ≠ second.id →
      let left := run.2.performAll [first.request, second.request]
      let right := run.2.performAll [second.request, first.request]
      left.1 = right.1.reverse ∧ left.2 = { right.2 with journal := left.2.journal } ∧
        ∀ later, (left.2.performAll later).1 = (right.2.performAll later).1 := by
  intro run known
  have given := ledger_state state
  have agrees : Agrees run (board.ledger.performAll requests) :=
    performAll_agrees reached.sound requests
  obtain ⟨rowsAfter, answers⟩ := Ledger.performAll_rows given noPass
  obtain ⟨final, finalState, finalRows⟩ : ∃ final, run.2.state = some (.ok final) ∧
      final.rows = overlay (requests.filterMap Request.write?) snapshot.rows := by
    apply state_of_ledger
    rw [agrees.ledger]
    exact rowsAfter
  have sameIds : final.rows.map Row.id = known := by
    rw [finalRows]
    exact map_overlay (fun _ _ _ => rfl) _ _
  refine ⟨⟨final, finalState, finalRows, ?fixed⟩, ?answers, ?unknown, ?again, ?swap⟩
  case fixed =>
    rw [finalRows]
    exact map_overlay (fun _ _ _ => rfl) _ _
  case answers =>
    rw [agrees.answer]
    exact answers
  case unknown =>
    intro write unknown
    rw [← sameIds] at unknown
    exact agrees.sound.write_unknown finalState unknown
  case again =>
    intro id update
    rw [← sameIds]
    exact agrees.sound.update_again finalState id update
  case swap =>
    intro first second different
    exact agrees.sound.writes_swap finalState different

/-- Of two rows of one job the last one is written, twice and with a mark in between. -/
theorem writes_overlay_repeated_id :
    let first : Row := .fresh ⟨1⟩ "build" .running 0
    let last : Row := .fresh ⟨1⟩ "build" .pending 0
    let other : Row := .fresh ⟨2⟩ "test" .created 1
    let source : Source := ⟨fun _ _ => .rows [other, first, last]⟩
    let board := ((ofSource ⟨7⟩ source (.fixed ⟨false, true⟩)).performAll [.load]).2
    let requests : List Request :=
      [.windowStatus (.beforeStage 1), .setStatus ⟨1⟩ ⟨.success, ⟨5⟩⟩, .setProcessed ⟨1⟩,
        .setStatus ⟨9⟩ ⟨.failed, ⟨6⟩⟩, .forNames ["test"] .dag, .setStatus ⟨1⟩ ⟨.failed, ⟨8⟩⟩]
    let run := board.performAll requests
    (∃ final, run.2.state = some (.ok final) ∧
      final.rows =
        [first, { last with status := .failed, processed := true, token := ⟨8⟩ }, other]) ∧
      run.1[3]? = some (.flag false) ∧ run.1[5]? = some (.flag true) := by
  intro first last other source board requests run
  have reached : board.Reached := ⟨⟨7⟩, source, .fixed ⟨false, true⟩, [.load], rfl⟩
  have noPass : ∀ request ∈ requests, request.runsPass = false := by
    simp [requests, Request.runsPass]
  obtain ⟨⟨final, state, rows, _⟩, answers, _⟩ := writes_overlay reached rfl noPass
  refine ⟨⟨final, state, rows.trans (by decide)⟩, ?_, ?_⟩
  · exact answers 3 (.status ⟨9⟩ ⟨.failed, ⟨6⟩⟩) rfl
  · exact answers 5 (.status ⟨1⟩ ⟨.failed, ⟨8⟩⟩) rfl

end Board

end Rollup
