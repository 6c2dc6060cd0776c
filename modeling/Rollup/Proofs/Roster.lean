import Rollup.Board

/-!
# Rosters

A roster is what a loaded board is about: the rows in stage order, and the table and
switches by which composites are resolved.  It keeps no memo and no index.  Every
question is answered by a scan of the rows as they are, and where a key occurs in
several rows the last of them is meant.
-/

namespace Rollup

/-- Whether a window takes in the rows at a position. -/
def Window.covers : Window → Position → Bool
  | .atStage position, other => other = position
  | .beforeStage position, other => other < position

/-- The row after an update of its status. -/
def Row.updated (update : Update) (row : Row) : Row :=
  { row with status := update.status, token := update.token }

/-- The row once it is processed. -/
def Row.marked (row : Row) : Row :=
  { row with processed := true }

/-- Change the last row with an id, if there is one. -/
def changeLast (id : JobId) (change : Row → Row) : List Row → List Row
  | [] => []
  | row :: rest =>
      if id ∈ rest.map Row.id then
        row :: changeLast id change rest
      else if row.id = id then
        change row :: rest
      else
        row :: rest

/-- The rows of a pipeline with what resolves their composites. -/
structure Roster where
  rows : List Row
  resolver : Resolver

namespace Roster

/-! ## Composites -/

def window (roster : Roster) (window : Window) : List Row :=
  roster.rows.filter fun row => window.covers row.position

def windowStatus (roster : Roster) (window : Window) : Status :=
  (roster.resolver.table.stageComposite ((roster.window window).map Row.entry)).status

def all (roster : Roster) : Composite :=
  roster.resolver.table.stageComposite (roster.rows.map Row.entry)

def rowNamed? (roster : Roster) (name : String) : Option Row :=
  roster.rows.reverse.find? (·.name = name)

/-- The rows that a list of names resolves to, each once. -/
def namedRows (roster : Roster) (names : List String) : List Row :=
  Board.Loaded.distinctById [] (names.filterMap roster.rowNamed?)

/-- One entry for each position at which a named job is held up: the composite of
the rows before it. -/
def priorEntries (roster : Roster) (named : List Dependency) : List Entry :=
  (roster.resolver.table.blockingPositions named).map fun position =>
    .required (roster.windowStatus (.beforeStage position))

/-- The entries that a dependency-graph query resolves. -/
def dependencyEntries (roster : Roster) (tree : Bool) (names : List String) : List Entry :=
  (roster.namedRows names).map Row.entry ++
    if tree then roster.priorEntries ((roster.namedRows names).map Dependency.ofRow) else []

/-- The roster after one more consultation of the switches. -/
def consulted (roster : Roster) : Roster :=
  { roster with
    resolver := { roster.resolver with toggles := roster.resolver.toggles.advance } }

/-- The switches as the next consultation finds them. -/
def switches (roster : Roster) : Switches :=
  roster.resolver.toggles.current

/-- The composite of the named jobs.  In a dependency graph the switch for the stages
before them is consulted first, and the blocking switch after it. -/
def forNames (roster : Roster) (names : List String) : Discipline → Status × Roster
  | .stage =>
      let named := (roster.namedRows names).map Row.entry
      ((roster.resolver.table.stageComposite named).status, roster)
  | .dag =>
      let entries := roster.dependencyEntries roster.switches.dependencyTree names
      let blocking := roster.consulted.switches.legacyBlocking
      ((roster.resolver.table.composite .dag blocking entries).status,
        roster.consulted.consulted)

/-! ## Rows -/

def row? (roster : Roster) (id : JobId) : Option Row :=
  roster.rows.reverse.find? (·.id = id)

def positions (roster : Roster) : List Position :=
  distinctPositions (roster.rows.map Row.position)

/-- The ids of the created jobs at a position, in row order. -/
def createdIds (roster : Roster) (position : Position) : List JobId :=
  ((roster.window (.atStage position)).filter fun row => row.status = .created).map Row.id

def unprocessed (roster : Roster) : List Row :=
  roster.rows.filter fun row => !row.processed

/-! ## Changes -/

/-- The roster with the last row of an id changed. -/
def change (roster : Roster) (id : JobId) (change : Row → Row) : Roster :=
  { roster with rows := changeLast id change roster.rows }

/-- Give the job with an id a new status and token.  Says whether there is one. -/
def setStatus (roster : Roster) (id : JobId) (update : Update) : Bool × Roster :=
  (decide (id ∈ roster.rows.map Row.id), roster.change id (Row.updated update))

/-- Mark the job with an id as processed.  Says whether there is one. -/
def setProcessed (roster : Roster) (id : JobId) : Bool × Roster :=
  (decide (id ∈ roster.rows.map Row.id), roster.change id Row.marked)

end Roster

/-! ## Lookups -/

section Lookups

variable {α κ : Type} {key : α → κ} {items others : List α}

/-- Of items whose keys are distinct, only one has a given key. -/
theorem eq_of_key_eq (unique : (items.map key).Nodup) {left right : α} (leftMember : left ∈ items)
    (rightMember : right ∈ items) (same : key left = key right) : left = right := by
  induction items with
  | nil => cases leftMember
  | cons head rest ih =>
      obtain ⟨new, uniqueRest⟩ := List.nodup_cons.mp unique
      rcases List.mem_cons.mp leftMember with rfl | leftRest
      · rcases List.mem_cons.mp rightMember with rfl | rightRest
        · rfl
        · rw [same] at new
          exact absurd (List.mem_map_of_mem rightRest) new
      · rcases List.mem_cons.mp rightMember with rfl | rightRest
        · rw [← same] at new
          exact absurd (List.mem_map_of_mem leftRest) new
        · exact ih uniqueRest leftRest rightRest

/-- What the last items have goes before what the first one has. -/
theorem getLast?_filterMap_cons (read : α → Option κ) (item : α) (rest : List α) :
    ((item :: rest).filterMap read).getLast? = ((rest.filterMap read).getLast?).or (read item) := by
  rw [List.filterMap_cons]
  cases read item with
  | none => exact Option.or_none.symm
  | some value =>
      cases found : (rest.filterMap read).getLast? <;> simp [List.getLast?_cons, found]

variable [DecidableEq κ]

/-- Where keys are distinct, each item is the only one of its key. -/
theorem filter_key_eq_singleton (unique : (items.map key).Nodup) {item : α}
    (member : item ∈ items) : items.filter (fun other => key other = key item) = [item] := by
  induction items with
  | nil => cases member
  | cons head rest ih =>
      obtain ⟨new, uniqueRest⟩ := List.nodup_cons.mp unique
      rcases List.mem_cons.mp member with rfl | inRest
      · have others : rest.filter (fun other => key other = key item) = [] := by
          apply List.filter_eq_nil_iff.mpr
          intro other inRest same
          exact new (of_decide_eq_true same ▸ List.mem_map_of_mem inRest)
        simp [others]
      · have different : key head ≠ key item :=
          fun same => new (same ▸ List.mem_map_of_mem inRest)
        simp [different, ih uniqueRest inRest]

/-- Where keys are distinct, the item that is found is the one that has the key. -/
theorem find?_reverse_eq_some (unique : (items.map key).Nodup) {value : κ} {item : α} :
    items.reverse.find? (fun item => key item = value) = some item ↔
      item ∈ items ∧ key item = value := by
  constructor
  · intro found
    refine ⟨List.mem_reverse.mp (List.mem_of_find?_eq_some found), ?_⟩
    simpa using List.find?_some found
  · rintro ⟨member, rfl⟩
    cases found : items.reverse.find? (fun other => key other = key item) with
    | none =>
        have missed := List.find?_eq_none.mp found item (List.mem_reverse.mpr member)
        exact absurd (decide_eq_true rfl) missed
    | some other =>
        have among := List.mem_reverse.mp (List.mem_of_find?_eq_some found)
        have same : key other = key item := by simpa using List.find?_some found
        rw [eq_of_key_eq unique among member same]

theorem find?_reverse_perm (perm : items.Perm others) (unique : (items.map key).Nodup)
    (value : κ) :
    items.reverse.find? (fun item => key item = value) =
      others.reverse.find? fun item => key item = value := by
  have uniqueToo := (perm.map key).nodup_iff.mp unique
  apply Option.ext
  intro item
  rw [find?_reverse_eq_some unique, find?_reverse_eq_some uniqueToo, perm.mem_iff]

end Lookups

/-! ## Changing the last row of an id -/

/-- A change that leaves a field of each row alone leaves the column of that field
alone. -/
theorem map_changeLast {α : Type} {field : Row → α} (id : JobId) (change : Row → Row)
    (kept : ∀ row, field (change row) = field row) (rows : List Row) :
    (changeLast id change rows).map field = rows.map field := by
  induction rows with
  | nil => rfl
  | cons row rest ih =>
      rw [changeLast]
      split
      · simp only [List.map_cons, ih]
      · split
        · simp only [List.map_cons, kept]
        · rfl

theorem changeLast_of_not_mem {id : JobId} (change : Row → Row) {rows : List Row}
    (absent : id ∉ rows.map Row.id) : changeLast id change rows = rows := by
  cases rows with
  | nil => rfl
  | cons row rest =>
      rw [List.map_cons, List.mem_cons, not_or] at absent
      rw [changeLast, if_neg absent.2, if_neg (Ne.symm absent.1)]

namespace Roster

/-- Composites are a matter of the rows and of the table. -/
theorem windowStatus_congr {left right : Roster} (rows : left.rows = right.rows)
    (table : left.resolver.table = right.resolver.table) (window : Window) :
    left.windowStatus window = right.windowStatus window := by
  simp only [windowStatus, Roster.window, rows, table]

theorem mem_createdIds {roster : Roster} {position : Position} {id : JobId} :
    id ∈ roster.createdIds position ↔
      ∃ row ∈ roster.rows, row.status = .created ∧ row.position = position ∧ row.id = id := by
  simp [createdIds, window, Window.covers, and_assoc]

/-- What composites are made of: where each row runs and what it contributes. -/
def contributions (roster : Roster) : List (Position × Entry) :=
  roster.rows.map fun row => (row.position, row.entry)

theorem map_entry_window (roster : Roster) (window : Window) :
    (roster.window window).map Row.entry =
      (roster.contributions.filter fun part => window.covers part.1).map Prod.snd := by
  simp only [Roster.window, contributions, List.filter_map, List.map_map]
  rfl

/-- Marking a row as processed changes no composite. -/
theorem windowStatus_change_marked (roster : Roster) (id : JobId) (window : Window) :
    (roster.change id Row.marked).windowStatus window = roster.windowStatus window := by
  have same : (roster.change id Row.marked).contributions = roster.contributions :=
    map_changeLast id Row.marked (fun _ => rfl) roster.rows
  simp only [windowStatus, map_entry_window, same]
  rfl

end Roster

end Rollup
