import Rollup.Proofs.DependencyGate
import Rollup.Proofs.Pass.Waiting

/-!
# What a job looks back on

The composite of what a job waits for is made of the rows in front of it, as long as the
names that it needs are all found there.  Rows that stand behind do not matter, and neither
do the tokens and the marks of those in front.
-/

namespace Rollup

/-- The row without its token and its mark, which no composite is made of. -/
def Row.plain (row : Row) : Row :=
  { row with token := ⟨0⟩, processed := false }

theorem distinctById_plain (seen : List JobId) (rows : List Row) :
    Board.Loaded.distinctById seen (rows.map Row.plain) =
      (Board.Loaded.distinctById seen rows).map Row.plain := by
  induction rows generalizing seen with
  | nil => rfl
  | cons row rest ih =>
      have same : row.plain.id = row.id := rfl
      rw [List.map_cons, Board.Loaded.distinctById, Board.Loaded.distinctById, same]
      split
      · exact ih seen
      · rw [ih, List.map_cons]

theorem mem_of_mem_distinctById {seen : List JobId} {rows : List Row} {row : Row}
    (member : row ∈ Board.Loaded.distinctById seen rows) : row ∈ rows := by
  induction rows generalizing seen with
  | nil => exact member
  | cons head rest ih =>
      rw [Board.Loaded.distinctById] at member
      split at member
      · exact .tail _ (ih member)
      · rcases List.mem_cons.mp member with rfl | member
        · exact .head _
        · exact .tail _ (ih member)

namespace Roster

theorem mem_of_mem_namedRows {roster : Roster} {names : List String} {row : Row}
    (member : row ∈ roster.namedRows names) : row ∈ roster.rows :=
  mem_of_mem_lookups (mem_of_mem_distinctById member)

/-! ## Tokens and marks -/

/-- The roster without tokens and marks. -/
def plain (roster : Roster) : Roster :=
  { roster with rows := roster.rows.map Row.plain }

variable (roster : Roster)

theorem windowStatus_plain (window : Window) :
    roster.plain.windowStatus window = roster.windowStatus window := by
  have same : roster.plain.contributions = roster.contributions := by
    rw [contributions, plain, List.map_map]
    rfl
  rw [windowStatus, windowStatus, map_entry_window, map_entry_window, same]
  rfl

theorem rowNamed?_plain (name : String) :
    roster.plain.rowNamed? name = (roster.rowNamed? name).map Row.plain := by
  rw [rowNamed?, rowNamed?, plain, ← List.map_reverse, List.find?_map]
  rfl

theorem namedRows_plain (names : List String) :
    roster.plain.namedRows names = (roster.namedRows names).map Row.plain := by
  have found : names.filterMap roster.plain.rowNamed? =
      (names.filterMap roster.rowNamed?).map Row.plain := by
    rw [List.map_filterMap]
    exact congrArg (List.filterMap · names) (funext roster.rowNamed?_plain)
  rw [namedRows, namedRows, found, distinctById_plain]

theorem dependencyEntries_plain (tree : Bool) (names : List String) :
    roster.plain.dependencyEntries tree names = roster.dependencyEntries tree names := by
  have dependencies : ((roster.namedRows names).map Row.plain).map Dependency.ofRow =
      (roster.namedRows names).map Dependency.ofRow := by
    rw [List.map_map]
    rfl
  have entries : ((roster.namedRows names).map Row.plain).map Row.entry =
      (roster.namedRows names).map Row.entry := by
    rw [List.map_map]
    rfl
  simp only [dependencyEntries, namedRows_plain, dependencies, entries, priorEntries,
    windowStatus_plain]
  rfl

/-! ## Rows behind -/

section Behind

variable {front back : List Row} {resolver : Resolver} {position : Position}

/-- Rows from a position on are not before it. -/
theorem windowStatus_append (behind : ∀ row ∈ back, position ≤ row.position) :
    (⟨front ++ back, resolver⟩ : Roster).windowStatus (.beforeStage position) =
      (⟨front, resolver⟩ : Roster).windowStatus (.beforeStage position) := by
  have outside : back.filter (fun row => (Window.beforeStage position).covers row.position) =
      [] := by
    apply List.filter_eq_nil_iff.mpr
    intro row member before
    exact UInt32.not_lt.mpr (behind row member) (of_decide_eq_true before)
  simp only [windowStatus, Roster.window, List.filter_append, outside, List.append_nil]

theorem rowNamed?_append {name : String} (unnamed : ∀ row ∈ back, row.name ≠ name) :
    (⟨front ++ back, resolver⟩ : Roster).rowNamed? name =
      (⟨front, resolver⟩ : Roster).rowNamed? name := by
  have absent : back.reverse.find? (fun row => row.name = name) = none := by
    apply List.find?_eq_none.mpr
    intro row member named
    exact unnamed row (List.mem_reverse.mp member) (of_decide_eq_true named)
  rw [rowNamed?, rowNamed?, List.reverse_append, List.find?_append, absent]
  rfl

theorem namedRows_append {names : List String} (unnamed : ∀ row ∈ back, row.name ∉ names) :
    (⟨front ++ back, resolver⟩ : Roster).namedRows names =
      (⟨front, resolver⟩ : Roster).namedRows names := by
  have lookups : names.map (⟨front ++ back, resolver⟩ : Roster).rowNamed? =
      names.map (⟨front, resolver⟩ : Roster).rowNamed? := by
    apply List.map_congr_left
    intro name member
    apply rowNamed?_append
    intro row inBack same
    exact unnamed row inBack (same ▸ member)
  have found := congrArg (List.filterMap id) lookups
  rw [List.filterMap_map, List.filterMap_map] at found
  exact congrArg (Board.Loaded.distinctById []) found

theorem dependencyEntries_append {tree : Bool} {names : List String}
    (upTo : ∀ row ∈ front, row.position ≤ position)
    (behind : ∀ row ∈ back, position ≤ row.position)
    (unnamed : ∀ row ∈ back, row.name ∉ names) :
    (⟨front ++ back, resolver⟩ : Roster).dependencyEntries tree names =
      (⟨front, resolver⟩ : Roster).dependencyEntries tree names := by
  have priors : (⟨front ++ back, resolver⟩ : Roster).priorEntries
        (((⟨front, resolver⟩ : Roster).namedRows names).map Dependency.ofRow) =
      (⟨front, resolver⟩ : Roster).priorEntries
        (((⟨front, resolver⟩ : Roster).namedRows names).map Dependency.ofRow) := by
    apply List.map_congr_left
    intro place blocks
    obtain ⟨row, named, _, rfl⟩ := Table.mem_blockingPositions.mp blocks
    apply congrArg Entry.required
    apply windowStatus_append
    intro later inBack
    exact UInt32.le_trans (upTo row (mem_of_mem_namedRows named)) (behind later inBack)
  rw [dependencyEntries, dependencyEntries, namedRows_append unnamed, priors]

end Behind

/-! ## What is awaited -/

/-- Where the switches are fixed, what a job waits for is a matter of the table and of the
rows in front of it, up to their tokens and marks. -/
theorem awaited_eq_of_front {roster : Roster} {found : Switches} {front back : List Row}
    {position : Position} {scheduling : Scheduling} (rows : roster.rows = front ++ back)
    (fixed : ∀ number, roster.resolver.toggles.answers number = found)
    (upTo : ∀ row ∈ front, row.position ≤ position)
    (behind : ∀ row ∈ back, position ≤ row.position)
    (unnamed : ∀ needs, scheduling = .dag needs → ∀ row ∈ back, row.name ∉ needs) :
    roster.awaited position scheduling =
      (⟨front.map Row.plain, ⟨roster.resolver.table, .fixed found⟩⟩ : Roster).awaited position
        scheduling := by
  obtain ⟨_, table, toggles⟩ := roster
  obtain rfl : _ = front ++ back := rows
  let settled : Roster := ⟨front, ⟨table, .fixed found⟩⟩
  change _ = settled.plain.awaited position scheduling
  cases scheduling with
  | stage =>
      have before := @windowStatus_append front back ⟨table, toggles⟩ _ behind
      exact before.trans (settled.windowStatus_plain (.beforeStage position)).symm
  | dag needs =>
      rw [awaited, awaited]
      split
      · rfl
      · have entries (tree : Bool) :
            (⟨front ++ back, ⟨table, toggles⟩⟩ : Roster).dependencyEntries tree needs =
              settled.plain.dependencyEntries tree needs := by
          rw [dependencyEntries_append upTo behind (unnamed needs rfl), dependencyEntries_plain]
          rfl
        have tree : toggles.current = found := fixed _
        have blocking : toggles.advance.current = found := fixed _
        simp only [forNames, entries, switches, consulted, tree, blocking]
        rfl

end Roster

/-! ## What is said meanwhile -/

/-- A job that was given no update has the same row, up to the token and the mark. -/
theorem Row.plain_after {said : Pass.Transcript} {row : Row}
    (silent : said.update? row.id = none) : (row.after said).plain = row.plain := by
  rw [after, silent]
  rfl

/-- What a job waits for is still the same when more was said, as long as no job in front of
it was given an update. -/
theorem Roster.awaited_of_silent {left right : Roster} {found : Switches}
    {front back : List Row} {row : Row} {scheduling : Scheduling}
    {said more : Pass.Transcript}
    (leftRows : left.rows = said.apply (front ++ row :: back))
    (rightRows : right.rows = (said ++ more).apply (front ++ row :: back))
    (table : left.resolver.table = right.resolver.table)
    (leftFixed : ∀ number, left.resolver.toggles.answers number = found)
    (rightFixed : ∀ number, right.resolver.toggles.answers number = found)
    (unique : ((front ++ row :: back).map Row.id).Nodup)
    (ordered : InStageOrder (front ++ row :: back))
    (unnamed : ∀ needs, scheduling = .dag needs → ∀ other ∈ row :: back, other.name ∉ needs)
    (silent : ∀ other ∈ front, more.update? other.id = none) :
    left.awaited row.position scheduling = right.awaited row.position scheduling := by
  obtain ⟨_, fromHere, before⟩ := List.pairwise_append.mp ordered
  have upTo (said : Pass.Transcript) :
      ∀ other ∈ front.map (Row.after said), other.position ≤ row.position := by
    intro other member
    obtain ⟨earlier, inFront, rfl⟩ := List.mem_map.mp member
    exact before earlier inFront row List.mem_cons_self
  have behind (said : Pass.Transcript) :
      ∀ other ∈ (row :: back).map (Row.after said), row.position ≤ other.position := by
    intro other member
    obtain ⟨later, inBack, rfl⟩ := List.mem_map.mp member
    rcases List.mem_cons.mp inBack with rfl | inBack
    · exact UInt32.le_refl _
    · exact (List.pairwise_cons.mp fromHere).1 later inBack
  have nowhere (said : Pass.Transcript) : ∀ needs, scheduling = .dag needs →
      ∀ other ∈ (row :: back).map (Row.after said), other.name ∉ needs := by
    intro needs waits other member
    obtain ⟨later, inBack, rfl⟩ := List.mem_map.mp member
    exact unnamed needs waits later inBack
  have same : (front.map (Row.after said)).map Row.plain =
      (front.map (Row.after (said ++ more))).map Row.plain := by
    rw [List.map_map, List.map_map]
    apply List.map_congr_left
    intro other member
    have kept : ((other.after said).after more).plain = (other.after said).plain :=
      Row.plain_after (silent other member)
    rw [← Row.after_append] at kept
    exact kept.symm
  rw [Pass.Transcript.apply_of_nodup _ unique, List.map_append] at leftRows rightRows
  rw [awaited_eq_of_front leftRows leftFixed (upTo _) (behind _) (nowhere _),
    awaited_eq_of_front rightRows rightFixed (upTo _) (behind _) (nowhere _), same, table]

/-! ## The order of needs -/

/-- Where ids are distinct, a job runs at one position. -/
theorem position_eq_of_nodup {rows : List Row} (unique : (rows.map Row.id).Nodup) {row : Row}
    (member : row ∈ rows) {position : Position}
    (runs : (row.id, position) ∈ rows.map fun row => (row.id, row.position)) :
    position = row.position := by
  obtain ⟨other, inRows, same⟩ := List.mem_map.mp runs
  obtain ⟨sameId, rfl⟩ := Prod.mk.inj same
  exact congrArg Row.position (eq_of_key_eq unique inRows member sameId)

/-- Each job that waits for named jobs stands behind all rows that the names resolve to. -/
def InNeedOrder (waits : JobId → Scheduling) (rows : List Row) : Prop :=
  ∀ front row back needs, rows = front ++ row :: back → waits row.id = .dag needs →
    ∀ named, NamedBy rows needs named → named ∈ front

/-- No row from the job on has a name that the job needs. -/
theorem InNeedOrder.unnamed {waits : JobId → Scheduling} {front back : List Row} {row : Row}
    (inNeedOrder : InNeedOrder waits (front ++ row :: back))
    (unique : ((front ++ row :: back).map Row.id).Nodup) {needs : List String}
    (needed : waits row.id = .dag needs) : ∀ other ∈ row :: back, other.name ∉ needs := by
  intro other member named
  rw [List.map_append] at unique
  have apart := (List.nodup_append.mp unique).2.2
  cases found : (row :: back).reverse.find? (fun last => last.name = other.name) with
  | none =>
      have missing := List.find?_eq_none.mp found other (List.mem_reverse.mpr member)
      exact missing (decide_eq_true rfl)
  | some last =>
      have inBack := List.mem_reverse.mp (List.mem_of_find?_eq_some found)
      have resolves : NamedBy (front ++ row :: back) needs last := by
        refine ⟨other.name, named, ?_⟩
        rw [List.reverse_append, List.find?_append, found]
        rfl
      have inFront := inNeedOrder front row back needs rfl needed last resolves
      exact apart _ (List.mem_map_of_mem inFront) _ (List.mem_map_of_mem inBack) rfl

end Rollup
