import Rollup.Proofs.Probes
import Rollup.Proofs.Requests
import Rollup.Proofs.Standard

/-!
# The gate of dependency queries

When a job of a dependency graph may start is a matter of the composite of the jobs that
it names.  Under the standard table that composite is told from the rows alone: from the
named rows, and from the rows of earlier stages where a named row holds something up.
-/

namespace Rollup

/-- A row that one of some names resolves to: the last one with the name. -/
def NamedBy (rows : List Row) (names : List String) (row : Row) : Prop :=
  ∃ name ∈ names, rows.reverse.find? (·.name = name) = some row

/-- The row is neither a success nor tolerated, so what is before it matters. -/
def Row.HoldsUp (row : Row) : Prop :=
  row.status ≠ .success ∧ ¬ row.entry.Tolerated

/-! ## Named rows -/

theorem mem_distinctById {seen : List JobId} {rows : List Row} {row : Row}
    (unique : ∀ left ∈ rows, ∀ right ∈ rows, left.id = right.id → left = right) :
    row ∈ Board.Loaded.distinctById seen rows ↔ row ∈ rows ∧ row.id ∉ seen := by
  induction rows generalizing seen with
  | nil => simp [Board.Loaded.distinctById]
  | cons head rest ih =>
      have uniqueRest : ∀ left ∈ rest, ∀ right ∈ rest,
          left.id = right.id → left = right := by
        intro left leftMember right rightMember
        exact unique left (.tail _ leftMember) right (.tail _ rightMember)
      rw [Board.Loaded.distinctById]
      split
      · rename_i repeated
        rw [ih uniqueRest, List.mem_cons]
        constructor
        · rintro ⟨member, unseen⟩
          exact ⟨.inr member, unseen⟩
        · rintro ⟨rfl | member, unseen⟩
          · exact absurd repeated unseen
          · exact ⟨member, unseen⟩
      · rename_i new
        rw [List.mem_cons, List.mem_cons, ih uniqueRest, List.mem_cons, not_or]
        constructor
        · rintro (rfl | ⟨member, _, unseen⟩)
          · exact ⟨.inl rfl, new⟩
          · exact ⟨.inr member, unseen⟩
        · rintro ⟨rfl | member, unseen⟩
          · exact .inl rfl
          · by_cases same : row.id = head.id
            · exact .inl (unique row (.tail _ member) head (.head _) same)
            · exact .inr ⟨member, same, unseen⟩

/-! ## What holds something up -/

theorem Table.mem_blockingPositions {table : Table} {named : List Row} {position : Position} :
    position ∈ table.blockingPositions (named.map Dependency.ofRow) ↔
      ∃ row ∈ named, table.holdsUp (.ofRow row) = true ∧ row.position = position := by
  rw [mem_blockingPositions_iff]
  constructor
  · rintro ⟨dependency, member, blocks, here⟩
    obtain ⟨row, inNamed, rfl⟩ := List.mem_map.mp member
    exact ⟨row, inNamed, holdsUp_eq_true.mpr blocks, here⟩
  · rintro ⟨row, inNamed, holds, here⟩
    exact ⟨.ofRow row, List.mem_map_of_mem inNamed, holdsUp_eq_true.mp holds, here⟩

theorem Table.standard_ignores {entry : Entry} :
    standard.ignores entry = true ↔ entry.Tolerated := by
  simp [ignores, standard, ofRules, Entry.Tolerated]

theorem Table.standard_holdsUp {row : Row} :
    standard.holdsUp (.ofRow row) = true ↔ row.HoldsUp := by
  rw [holdsUp, Bool.and_eq_true, Bool.not_eq_true', ← Bool.not_eq_true, standard_ignores]
  simp [Row.HoldsUp, Dependency.ofRow, Row.entry]

namespace Roster

variable {roster : Roster}

theorem mem_of_mem_lookups {names : List String} {row : Row}
    (member : row ∈ names.filterMap roster.rowNamed?) : row ∈ roster.rows := by
  obtain ⟨name, _, lookup⟩ := List.mem_filterMap.mp member
  exact List.mem_reverse.mp (List.mem_of_find?_eq_some lookup)

theorem mem_namedRows (unique : (roster.rows.map Row.id).Nodup) {names : List String}
    {row : Row} : row ∈ roster.namedRows names ↔ NamedBy roster.rows names row := by
  rw [namedRows, mem_distinctById, List.mem_filterMap]
  · simp only [List.not_mem_nil, not_false_eq_true, and_true]
    rfl
  · intro left leftMember right rightMember
    exact eq_of_key_eq unique (mem_of_mem_lookups leftMember) (mem_of_mem_lookups rightMember)

theorem mem_blockingPositions (standard : roster.resolver.table = .standard)
    (unique : (roster.rows.map Row.id).Nodup) {names : List String} {position : Position} :
    position ∈ roster.resolver.table.blockingPositions
        ((roster.namedRows names).map Dependency.ofRow) ↔
      ∃ row, NamedBy roster.rows names row ∧ row.HoldsUp ∧ row.position = position := by
  rw [standard]
  simp only [Table.mem_blockingPositions, mem_namedRows unique, Table.standard_holdsUp]

/-! ## The entries of a query -/

/-- What holds of every entry of a query holds of the named rows, and of the composite
before each named row that holds something up. -/
theorem forall_dependencyEntries (standard : roster.resolver.table = .standard)
    (unique : (roster.rows.map Row.id).Nodup) {names : List String} {tree : Bool}
    {P : Entry → Prop} :
    (∀ entry ∈ roster.dependencyEntries tree names, P entry) ↔
      (∀ row, NamedBy roster.rows names row → P row.entry) ∧
        (tree = true → ∀ row, NamedBy roster.rows names row → row.HoldsUp →
          P (.required (roster.windowStatus (.beforeStage row.position)))) := by
  rw [dependencyEntries, List.forall_mem_append]
  apply and_congr
  · simp only [List.forall_mem_map, mem_namedRows unique]
  · cases tree with
    | false => simp
    | true =>
        simp only [if_true, priorEntries, List.forall_mem_map, forall_const,
          mem_blockingPositions standard unique]
        constructor
        · intro each row named holds
          exact each _ ⟨row, named, holds, rfl⟩
        · rintro each _ ⟨row, named, holds, rfl⟩
          exact each row named holds

/-! ## The stages before a position -/

theorem before_passes (standard : roster.resolver.table = .standard) (position : Position) :
    roster.windowStatus (.beforeStage position) ∈ [.success, .skipped] ↔
      ∀ earlier ∈ roster.rows, earlier.position < position → earlier.entry.Passes := by
  rw [windowStatus, standard, Table.standard_stage_passes]
  simp only [List.forall_mem_map, window, List.mem_filter, Window.covers, decide_eq_true_eq,
    and_imp]

theorem before_completed (standard : roster.resolver.table = .standard)
    (position : Position) :
    (roster.windowStatus (.beforeStage position)).isCompleted = true ↔
      ∀ earlier ∈ roster.rows, earlier.position < position → earlier.entry.Settled := by
  rw [windowStatus, standard, Table.standard_stage_completed]
  simp only [List.forall_mem_map, window, List.mem_filter, Window.covers, decide_eq_true_eq,
    and_imp]

/-! ## The gate -/

/-- A class of completed statuses that the stages before a position are in when each
earlier row is of some kind.  The entries of a query are all in the class or may fail,
and nothing is blocked, if and only if this is so for the named rows and the rows before
those that hold something up are of that kind. -/
theorem unblocked_dependencyEntries (standard : roster.resolver.table = .standard)
    (unique : (roster.rows.map Row.id).Nodup) (names : List String) (legacy tree : Bool)
    (fine : Status → Prop) (before : Entry → Prop)
    (completed : ∀ status, fine status → status.isCompleted = true)
    (window : ∀ position, fine (roster.windowStatus (.beforeStage position)) ↔
      ∀ earlier ∈ roster.rows, earlier.position < position → before earlier.entry) :
    (Table.Unblocked legacy (roster.dependencyEntries tree names) ∧
        ∀ entry ∈ roster.dependencyEntries tree names,
          fine entry.status ∨ entry.allowFailure = true) ↔
      (∀ row, NamedBy roster.rows names row → fine row.status ∨ row.allowFailure = true) ∧
        (legacy = true → ∀ row, NamedBy roster.rows names row →
          row.status.isCompleted = true) ∧
        (tree = true → ∀ row, NamedBy roster.rows names row → row.HoldsUp →
          ∀ earlier ∈ roster.rows, earlier.position < row.position →
            before earlier.entry) := by
  rw [Table.Unblocked, forall_dependencyEntries standard unique,
    forall_dependencyEntries standard unique]
  have required : ∀ status, (fine (Entry.required status).status ∨
      (Entry.required status).allowFailure = true) ↔ fine status := by
    intro status
    simp [Entry.required]
  simp only [required, window]
  constructor
  · rintro ⟨unblocked, named, prior⟩
    exact ⟨named, fun on => (unblocked on).1, prior⟩
  · rintro ⟨named, unblocked, prior⟩
    refine ⟨?_, named, prior⟩
    intro on
    refine ⟨unblocked on, ?_⟩
    intro isTree row isNamed holds
    exact completed _ ((window _).mpr (prior isTree row isNamed holds))

end Roster

/-- The composite of named jobs in a dependency graph, under the standard table, by the
rows alone.  It passes, or is completed, if each named row does or may fail; with the
blocking switch on each named row must be completed; and with the other switch on the
rows of the stages before a named row that holds something up must pass, or be settled.
The switch for earlier stages is consulted first and the blocking switch after it. -/
theorem Board.forNames_dag_gate {board : Board} (reached : board.Reached)
    {snapshot : Snapshot} (loaded : board.state = some (.ok snapshot))
    (standard : board.resolver.table = .standard)
    (unique : (snapshot.rows.map Row.id).Nodup) (names : List String) :
    let legacy := board.resolver.toggles.advance.current.legacyBlocking
    let tree := board.resolver.toggles.current.dependencyTree
    ∃ status, (board.forNames names .dag).1 = .ok status ∧
      (status ∈ [.success, .skipped] ↔
        (∀ row, NamedBy snapshot.rows names row →
          row.status ∈ [.success, .skipped] ∨ row.allowFailure = true) ∧
        (legacy = true → ∀ row, NamedBy snapshot.rows names row →
          row.status.isCompleted = true) ∧
        (tree = true → ∀ row, NamedBy snapshot.rows names row → row.HoldsUp →
          ∀ earlier ∈ snapshot.rows, earlier.position < row.position →
            earlier.entry.Passes)) ∧
      (status.isCompleted = true ↔
        (∀ row, NamedBy snapshot.rows names row →
          row.status.isCompleted = true ∨ row.allowFailure = true) ∧
        (legacy = true → ∀ row, NamedBy snapshot.rows names row →
          row.status.isCompleted = true) ∧
        (tree = true → ∀ row, NamedBy snapshot.rows names row → row.HoldsUp →
          ∀ earlier ∈ snapshot.rows, earlier.position < row.position →
            earlier.entry.Settled)) := by
  intro legacy tree
  let roster : Roster := ⟨snapshot.rows, board.resolver⟩
  have gate := roster.unblocked_dependencyEntries standard unique names legacy tree
  have statusEq : (roster.forNames names .dag).1 =
      (Table.standard.composite .dag legacy
        (roster.dependencyEntries tree names)).status := by
    rw [← standard]
    rfl
  have answer := query_of_loaded (Loaded.forNames_refines names .dag) reached.sound loaded
  refine ⟨_, answer, ?_, ?_⟩
  · rw [statusEq, Table.standard_dag_passes]
    apply gate (· ∈ [.success, .skipped]) Entry.Passes
    · intro status passes
      revert passes
      cases status <;> decide
    · exact Roster.before_passes standard
  · rw [statusEq, Table.standard_dag_completed]
    apply gate (·.isCompleted = true) Entry.Settled
    · exact fun _ completed => completed
    · exact Roster.before_completed standard

/-- A skipped job holds things up, so the tolerated failure before it is looked at. -/
theorem Board.forNames_dag_gate_skipped :
    let rows : List Row :=
      [.fresh ⟨1⟩ "build" .success 0,
        { Row.fresh ⟨2⟩ "lint" .failed 0 with allowFailure := true },
        .fresh ⟨3⟩ "test" .skipped 1]
    let board := ((ofSource ⟨7⟩ (.memory [(⟨7⟩, rows)])
      (.fixed ⟨false, true⟩)).performAll [.load]).2
    let snapshot := (Snapshot.ofRows rows).withStages
    board.Reached ∧ board.state = some (.ok snapshot) ∧
      board.resolver.table = .standard ∧ (snapshot.rows.map Row.id).Nodup ∧
      (board.forNames ["test"] .dag).1 = .ok .success ∧
      ∀ row, NamedBy snapshot.rows ["test"] row → row.HoldsUp →
        ∀ earlier ∈ snapshot.rows, earlier.position < row.position →
          earlier.entry.Passes := by
  intro rows board snapshot
  have reached : board.Reached := ⟨_, _, _, _, rfl⟩
  have loaded : board.state = some (.ok snapshot) := rfl
  have unique : (snapshot.rows.map Row.id).Nodup := by decide
  obtain ⟨status, answered, passes, _⟩ :=
    forNames_dag_gate reached loaded rfl unique ["test"]
  have known : (board.forNames ["test"] .dag).1.toOption = some .success := by
    decide +kernel
  rw [answered] at known
  cases known
  exact ⟨reached, loaded, rfl, unique, answered, (passes.mp (by decide)).2.2 rfl⟩

end Rollup
