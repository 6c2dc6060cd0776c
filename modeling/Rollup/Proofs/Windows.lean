import Rollup.Proofs.ClosedForm
import Rollup.Proofs.DependencyGate

/-!
# Windows and their stages

The composite of some composites is in general not the composite of what these were made
of.  Under the standard table it is so where everything is settled, and whether everything
is settled, or passes, can be told from the composites of the parts alone.  The rows before
a position are in this way told from the composites of the earlier stages.
-/

namespace Rollup

namespace Table

/-! ## What settled entries come to -/

variable {entries : List Entry}

theorem settledStatus_eq_failed :
    settledStatus entries = .failed ↔ .required .failed ∈ entries := by
  rw [settledStatus]
  split
  · simp [*]
  · split
    · simp [*]
    · split <;> simp [*]

theorem settledStatus_eq_canceled (noneFailed : .required .failed ∉ entries) :
    settledStatus entries = .canceled ↔ .required .canceled ∈ entries := by
  rw [settledStatus, if_neg noneFailed]
  split
  · simp [*]
  · split <;> simp [*]

theorem settledStatus_eq_success (noneFailed : .required .failed ∉ entries)
    (noneCanceled : .required .canceled ∉ entries) :
    settledStatus entries = .success ↔
      ∃ entry ∈ entries, entry.status = .success ∨ entry.Warns := by
  rw [settledStatus, if_neg noneFailed, if_neg noneCanceled]
  split
  · simp [*]
  · simp [*]

/-! ## Groups -/

/-- The entries of a list in groups, of which none is empty. -/
structure Groups (groups : List (List Entry)) (entries : List Entry) : Prop where
  occupied : ∀ group ∈ groups, group ≠ []
  mem : ∀ {entry}, entry ∈ entries ↔ ∃ group ∈ groups, entry ∈ group

/-- The composites of groups, as entries that must not fail. -/
def groupEntries (groups : List (List Entry)) : List Entry :=
  groups.map fun group => .required (standard.stageComposite group).status

/-- These entries have no warning, so a success among them is one that must not fail. -/
theorem success_groupEntries (groups : List (List Entry)) :
    (∃ entry ∈ groupEntries groups, entry.status = .success ∨ entry.Warns) ↔
      .required .success ∈ groupEntries groups := by
  constructor
  · rintro ⟨entry, member, succeeded | warns⟩
    · obtain ⟨group, _, rfl⟩ := List.mem_map.mp member
      rw [← succeeded]
      exact member
    · obtain ⟨group, _, rfl⟩ := List.mem_map.mp member
      cases warns.1
  · exact fun member => ⟨_, member, .inl rfl⟩

namespace Groups

variable {groups : List (List Entry)}

theorem forall_mem (grouped : Groups groups entries) {property : Entry → Prop} :
    (∀ entry ∈ entries, property entry) ↔
      ∀ group ∈ groups, ∀ entry ∈ group, property entry := by
  constructor
  · intro each group among entry member
    exact each entry (grouped.mem.mpr ⟨group, among, member⟩)
  · intro each entry member
    obtain ⟨group, among, inGroup⟩ := grouped.mem.mp member
    exact each group among entry inGroup

theorem exists_mem (grouped : Groups groups entries) {property : Entry → Prop} :
    (∃ entry ∈ entries, property entry) ↔
      ∃ group ∈ groups, ∃ entry ∈ group, property entry := by
  constructor
  · rintro ⟨entry, member, holds⟩
    obtain ⟨group, among, inGroup⟩ := grouped.mem.mp member
    exact ⟨group, among, entry, inGroup, holds⟩
  · rintro ⟨group, among, entry, inGroup, holds⟩
    exact ⟨entry, grouped.mem.mpr ⟨group, among, inGroup⟩, holds⟩

theorem completed (grouped : Groups groups entries) :
    (standard.stageComposite entries).status.isCompleted = true ↔
      ∀ group ∈ groups, (standard.stageComposite group).status.isCompleted = true := by
  simp only [standard_stage_completed, grouped.forall_mem]

theorem passes (grouped : Groups groups entries) :
    (standard.stageComposite entries).status ∈ [.success, .skipped] ↔
      ∀ group ∈ groups, (standard.stageComposite group).status ∈ [.success, .skipped] := by
  simp only [standard_stage_passes, grouped.forall_mem]

theorem entries_eq_nil (grouped : Groups groups entries) : entries = [] ↔ groups = [] := by
  constructor
  · rintro rfl
    cases groups with
    | nil => rfl
    | cons group rest =>
        obtain ⟨entry, member⟩ :=
          List.exists_mem_of_ne_nil group (grouped.occupied group List.mem_cons_self)
        cases grouped.mem.mpr ⟨group, List.mem_cons_self, member⟩
  · rintro rfl
    apply List.eq_nil_iff_forall_not_mem.mpr
    intro entry member
    obtain ⟨group, among, _⟩ := grouped.mem.mp member
    cases among

/-- What is told of each group by its composite is told of all entries by the composites. -/
theorem required_mem_groupEntries {status : Status} (occursIn : List Entry → Prop)
    (together : occursIn entries ↔ ∃ group ∈ groups, occursIn group)
    (each : ∀ group ∈ groups,
      (standard.stageComposite group).status = status ↔ occursIn group) :
    .required status ∈ groupEntries groups ↔ occursIn entries := by
  have among : .required status ∈ groupEntries groups ↔
      ∃ group ∈ groups, (standard.stageComposite group).status = status := by
    simp [groupEntries, Entry.required]
  rw [among, together]
  exact exists_congr fun group => and_congr_right (each group)

/-- The composite of settled entries is that of the composites of their groups. -/
theorem status_of_settled (grouped : Groups groups entries)
    (settled : ∀ entry ∈ entries, entry.Settled) :
    (standard.stageComposite entries).status =
      (standard.stageComposite (groupEntries groups)).status := by
  by_cases isEmpty : entries = []
  · have noGroups := grouped.entries_eq_nil.mp isEmpty
    subst isEmpty
    subst noGroups
    rfl
  have someGroup : groupEntries groups ≠ [] := by
    intro none
    exact isEmpty (grouped.entries_eq_nil.mpr (List.map_eq_nil_iff.mp none))
  have groupsSettled : ∀ entry ∈ groupEntries groups, entry.Settled := by
    have completed := grouped.completed.mp (standard_stage_completed.mpr settled)
    simp only [groupEntries, List.forall_mem_map]
    exact fun group among => .inl (completed group among)
  have each : ∀ group ∈ groups,
      (standard.stageComposite group).status = settledStatus group := by
    intro group among
    exact Table.status_of_settled (grouped.occupied group among)
      (grouped.forall_mem.mp settled group among)
  rw [Table.status_of_settled isEmpty settled,
    Table.status_of_settled someGroup groupsSettled, settledStatus, settledStatus]
  -- The conditions of the closed form are compared one after the other, each where the
  -- ones before it fail.
  have failed : .required .failed ∈ groupEntries groups ↔ .required .failed ∈ entries := by
    apply required_mem_groupEntries (.required .failed ∈ ·) grouped.mem
    intro group among
    rw [each group among, settledStatus_eq_failed]
  simp only [failed]
  refine ite_congr rfl (fun _ => rfl) fun noneFailed => ?_
  have noneFailedIn : ∀ group ∈ groups, .required .failed ∉ group :=
    fun group among member => noneFailed (grouped.mem.mpr ⟨group, among, member⟩)
  have canceled :
      .required .canceled ∈ groupEntries groups ↔ .required .canceled ∈ entries := by
    apply required_mem_groupEntries (.required .canceled ∈ ·) grouped.mem
    intro group among
    rw [each group among, settledStatus_eq_canceled (noneFailedIn group among)]
  simp only [canceled]
  refine ite_congr rfl (fun _ => rfl) fun noneCanceled => ?_
  have noneCanceledIn : ∀ group ∈ groups, .required .canceled ∉ group :=
    fun group among member => noneCanceled (grouped.mem.mpr ⟨group, among, member⟩)
  have succeeded : .required .success ∈ groupEntries groups ↔
      ∃ entry ∈ entries, entry.status = .success ∨ entry.Warns := by
    apply required_mem_groupEntries
      (fun group => ∃ entry ∈ group, entry.status = .success ∨ entry.Warns) grouped.exists_mem
    intro group among
    rw [each group among,
      settledStatus_eq_success (noneFailedIn group among) (noneCanceledIn group among)]
  simp only [success_groupEntries, succeeded]

end Groups

end Table

namespace Roster

variable {roster : Roster} {position : Position}

/-! ## The rows before a position -/

/-- The composites of the stages before a position, as entries that must not fail. -/
def stageEntries (roster : Roster) (position : Position) : List Entry :=
  (roster.positions.filter (· < position)).map fun earlier =>
    .required (roster.windowStatus (.atStage earlier))

theorem mem_entries_window {window : Window} {entry : Entry} :
    entry ∈ (roster.window window).map Row.entry ↔
      ∃ row ∈ roster.rows, window.covers row.position = true ∧ row.entry = entry := by
  simp [Roster.window, and_assoc]

/-- The rows before a position are those of the earlier stages. -/
theorem groups_beforeStage (roster : Roster) (position : Position) :
    Table.Groups
      ((roster.positions.filter (· < position)).map fun earlier =>
        (roster.window (.atStage earlier)).map Row.entry)
      ((roster.window (.beforeStage position)).map Row.entry) where
  occupied := by
    rw [List.forall_mem_map]
    intro earlier member
    obtain ⟨row, inRows, here⟩ :=
      List.mem_map.mp (mem_distinctPositions.mp (List.mem_filter.mp member).1)
    have inStage : row.entry ∈ (roster.window (.atStage earlier)).map Row.entry :=
      mem_entries_window.mpr ⟨row, inRows, by simp [Window.covers, here], rfl⟩
    exact List.ne_nil_of_mem inStage
  mem := by
    intro entry
    constructor
    · intro member
      obtain ⟨row, inRows, before, rfl⟩ := mem_entries_window.mp member
      have occurs : row.position ∈ roster.positions :=
        mem_distinctPositions.mpr (List.mem_map_of_mem inRows)
      refine ⟨_, List.mem_map_of_mem (List.mem_filter.mpr ⟨occurs, before⟩), ?_⟩
      exact mem_entries_window.mpr ⟨row, inRows, by simp [Window.covers], rfl⟩
    · rintro ⟨group, among, member⟩
      obtain ⟨earlier, inPositions, rfl⟩ := List.mem_map.mp among
      obtain ⟨row, inRows, here, rfl⟩ := mem_entries_window.mp member
      have here : row.position = earlier := of_decide_eq_true here
      exact mem_entries_window.mpr
        ⟨row, inRows, here ▸ (List.mem_filter.mp inPositions).2, rfl⟩

/-- What holds of the earlier stages holds of those that are picked out of all stages. -/
theorem forall_mem_earlier {property : Position → Prop} :
    (∀ earlier ∈ roster.positions.filter (· < position), property earlier) ↔
      ∀ earlier ∈ roster.positions, earlier < position → property earlier := by
  simp only [List.mem_filter, decide_eq_true_eq, and_imp]

section Standard

variable (standard : roster.resolver.table = .standard)

include standard

theorem before_completed_iff (position : Position) :
    (roster.windowStatus (.beforeStage position)).isCompleted = true ↔
      ∀ earlier ∈ roster.positions, earlier < position →
        (roster.windowStatus (.atStage earlier)).isCompleted = true := by
  simp only [windowStatus, standard, (roster.groups_beforeStage position).completed,
    List.forall_mem_map, forall_mem_earlier]

theorem before_passes_iff (position : Position) :
    roster.windowStatus (.beforeStage position) ∈ [.success, .skipped] ↔
      ∀ earlier ∈ roster.positions, earlier < position →
        roster.windowStatus (.atStage earlier) ∈ [.success, .skipped] := by
  simp only [windowStatus, standard, (roster.groups_beforeStage position).passes,
    List.forall_mem_map, forall_mem_earlier]

/-- Where the earlier stages are completed, the rows before a position come to what the
composites of these stages come to. -/
theorem before_eq_of_completed
    (completed : (roster.windowStatus (.beforeStage position)).isCompleted = true) :
    roster.windowStatus (.beforeStage position) =
      (Table.standard.stageComposite (roster.stageEntries position)).status := by
  simp only [windowStatus, standard] at completed
  have settled := Table.standard_stage_completed.mp completed
  have folded := (roster.groups_beforeStage position).status_of_settled settled
  simp only [windowStatus, standard, stageEntries, folded, Table.groupEntries, List.map_map]
  rfl

end Standard

/-- Before all stages there is nothing, which is a success. -/
theorem before_eq_success (none : ∀ earlier ∈ roster.positions, ¬ earlier < position) :
    roster.windowStatus (.beforeStage position) = .success := by
  have nothing : roster.window (.beforeStage position) = [] := by
    apply List.filter_eq_nil_iff.mpr
    intro row member before
    apply none row.position
    · exact mem_distinctPositions.mpr (List.mem_map_of_mem member)
    · exact of_decide_eq_true before
  rw [windowStatus, nothing]
  rfl

/-- Behind all stages, the rows before a position are all rows. -/
theorem all_eq_before (behind : ∀ earlier ∈ roster.positions, earlier < position) :
    roster.all.status = roster.windowStatus (.beforeStage position) := by
  have everything : roster.window (.beforeStage position) = roster.rows := by
    apply List.filter_eq_self.mpr
    intro row member
    exact decide_eq_true (behind _ (mem_distinctPositions.mpr (List.mem_map_of_mem member)))
  rw [all, windowStatus, everything]

end Roster

/-! ## Reached boards -/

namespace Board

/-- Under the standard table the rows before a position are completed, or pass, if and only
if each earlier stage does, and where the earlier stages are completed the composite is that
of their composites.  Behind all stages it is the composite of all rows. -/
theorem before_of_stages {board : Board} (reached : board.Reached) {snapshot : Snapshot}
    (loaded : board.state = some (.ok snapshot))
    (standard : board.resolver.table = .standard) (position : Position) :
    let positions := distinctPositions (snapshot.rows.map Row.position)
    ∃ (stage : Position → Status) (before : Status) (whole : Composite),
      board.positions.1 = .ok positions ∧
      (∀ place, (board.windowStatus (.atStage place)).1 = .ok (stage place)) ∧
      (board.windowStatus (.beforeStage position)).1 = .ok before ∧
      board.all.1 = .ok whole ∧
      (before.isCompleted = true ↔
        ∀ earlier ∈ positions, earlier < position → (stage earlier).isCompleted = true) ∧
      ((∀ earlier ∈ positions, earlier < position → (stage earlier).isCompleted = true) →
        before = (Table.standard.stageComposite
          ((positions.filter (· < position)).map fun earlier =>
            .required (stage earlier))).status) ∧
      ((∀ earlier ∈ positions, ¬ earlier < position) → before = .success) ∧
      (before ∈ [.success, .skipped] ↔
        ∀ earlier ∈ positions, earlier < position → stage earlier ∈ [.success, .skipped]) ∧
      ((∀ earlier ∈ positions, earlier < position) → whole.status = before) := by
  intro positions
  let roster : Roster := ⟨snapshot.rows, board.resolver⟩
  have asked := fun {α : Type} {ask : Loaded → α × Loaded} {scan : Roster → α × Roster}
    (refines : Loaded.Refines ask scan) => query_of_loaded refines reached.sound loaded
  have completed := @Roster.before_completed_iff roster standard position
  have folded : (∀ earlier ∈ positions, earlier < position →
      (roster.windowStatus (.atStage earlier)).isCompleted = true) →
        roster.windowStatus (.beforeStage position) =
          (Table.standard.stageComposite (roster.stageEntries position)).status :=
    fun each => Roster.before_eq_of_completed standard (completed.mpr each)
  exact ⟨fun place => roster.windowStatus (.atStage place),
    roster.windowStatus (.beforeStage position), roster.all,
    asked Loaded.positions_refines,
    fun place => asked (Loaded.windowStatus_refines (.atStage place)),
    asked (Loaded.windowStatus_refines (.beforeStage position)),
    asked Loaded.all_refines, completed, folded,
    @Roster.before_eq_success roster position,
    @Roster.before_passes_iff roster standard position,
    @Roster.all_eq_before roster position⟩

/-- The failure of the first stage is tolerated and the second one was canceled, so before
the third one the jobs are canceled. -/
theorem before_of_stages_canceled :
    let rows : List Row :=
      [{ Row.fresh ⟨1⟩ "lint" .failed 0 with allowFailure := true },
        .fresh ⟨2⟩ "build" .canceled 1, .fresh ⟨3⟩ "deploy" .created 2]
    let board := ((ofSource ⟨7⟩ (.memory [(⟨7⟩, rows)])
      (.fixed ⟨false, true⟩)).performAll [.load]).2
    let snapshot := (Snapshot.ofRows rows).withStages
    board.Reached ∧ board.state = some (.ok snapshot) ∧
      board.resolver.table = .standard ∧
      (board.windowStatus (.atStage 0)).1 = .ok .success ∧
      (board.windowStatus (.atStage 1)).1 = .ok .canceled ∧
      (board.windowStatus (.beforeStage 2)).1 = .ok .canceled := by
  intro rows board snapshot
  have reached : board.Reached := ⟨_, _, _, _, rfl⟩
  have loaded : board.state = some (.ok snapshot) := rfl
  obtain ⟨stage, before, whole, _, stages, asked, _, _, folded, _⟩ :=
    before_of_stages reached loaded rfl 2
  have first : (board.windowStatus (.atStage 0)).1 = .ok .success := by decide +kernel
  have second : (board.windowStatus (.atStage 1)).1 = .ok .canceled := by decide +kernel
  have firstStage : stage 0 = .success := Except.ok.inj ((stages 0).symm.trans first)
  have secondStage : stage 1 = .canceled := Except.ok.inj ((stages 1).symm.trans second)
  have earlier : (distinctPositions (snapshot.rows.map Row.position)).filter (· < 2) =
      [0, 1] := by
    decide
  have completed : ∀ place ∈ distinctPositions (snapshot.rows.map Row.position),
      place < 2 → (stage place).isCompleted = true := by
    intro place member before
    have among : place ∈ [(0 : Position), 1] :=
      earlier ▸ List.mem_filter.mpr ⟨member, decide_eq_true before⟩
    rcases List.mem_cons.mp among with rfl | among
    · rw [firstStage]
      rfl
    · rw [List.mem_singleton.mp among, secondStage]
      rfl
  refine ⟨reached, loaded, rfl, first, second, asked.trans ?_⟩
  rw [folded completed, earlier, List.map_cons, List.map_cons, List.map_nil, firstStage,
    secondStage]
  decide

end Board

end Rollup
