import Rollup.Proofs.Ledger

/-!
# Properties of the rows

A ledger may not have its rows yet, and what it will come to have is a matter of its
source.  A property holds of its rows when it holds of those that it has or else of all
that the source may give.  Loading keeps such a property, and so does every question that
keeps it in the rows it finds.
-/

namespace Rollup

/-- The rows of a ledger have a property, those that it has or else those that it may
come to fetch. -/
structure Ledger.Holds (ledger : Ledger) (property : List Row → Prop) : Prop where
  loaded : ∀ {rows}, ledger.state = some (.ok rows) → property rows
  fetched : ledger.state = none → ∀ {number rows},
    ledger.source.fetch number ledger.pipeline = .rows rows → property (sortByPosition rows)

namespace Ledger.Holds

variable {ledger : Ledger} {property other : List Row → Prop}

theorem imp (holds : ledger.Holds property) (implies : ∀ rows, property rows → other rows) :
    ledger.Holds other where
  loaded state := implies _ (holds.loaded state)
  fetched state _ _ fetched := implies _ (holds.fetched state fetched)

theorem of_loaded {rows : List Row} (state : ledger.state = some (.ok rows))
    (kept : property rows) : ledger.Holds property where
  loaded found := by
    rw [state] at found
    cases found
    exact kept
  fetched missing := by
    rw [state] at missing
    cases missing

theorem of_unavailable {cause : Unavailable} (state : ledger.state = some (.error cause)) :
    ledger.Holds property where
  loaded found := by
    rw [state] at found
    cases found
  fetched missing := by
    rw [state] at missing
    cases missing

/-- Loading gives rows that have the property, and leaves a ledger whose rows have it. -/
theorem load (holds : ledger.Holds property) :
    (∀ roster, ledger.load.1 = .ok roster → property roster.rows) ∧
      ledger.load.2.Holds property := by
  rw [Ledger.load]
  split
  · rename_i rows state
    refine ⟨?_, holds⟩
    intro roster loads
    cases loads
    exact holds.loaded state
  · refine ⟨?_, holds⟩
    intro roster loads
    cases loads
  · rename_i state
    dsimp only
    split
    · rename_i rows fetched
      refine ⟨?_, .of_loaded rfl (holds.fetched state fetched)⟩
      intro roster loads
      cases loads
      exact holds.fetched state fetched
    · refine ⟨?_, .of_unavailable rfl⟩
      intro roster loads
      cases loads
    · refine ⟨?_, holds.loaded, holds.fetched⟩
      intro roster loads
      cases loads

theorem loadAside (holds : ledger.Holds property) :
    (∀ roster, ledger.loadAside.1 = .ok roster → property roster.rows) ∧
      ledger.loadAside.2.Holds property := by
  obtain ⟨given, left⟩ := holds.load
  rw [Ledger.loadAside]
  split
  · rename_i roster after loads
    rw [loads] at given left
    refine ⟨?_, left⟩
    intro other same
    cases same
    exact given roster rfl
  · rename_i failure after loads
    rw [loads] at left
    refine ⟨?_, left⟩
    intro roster loads
    cases loads
  · refine ⟨?_, .of_unavailable rfl⟩
    intro roster loads
    cases loads

/-- A question keeps a property of the rows that its answer keeps. -/
theorem query {α : Type} {scan : Roster → α × Roster} (holds : ledger.Holds property)
    (keeps : ∀ roster, property roster.rows → property (scan roster).2.rows) :
    (ledger.query scan).2.Holds property := by
  obtain ⟨given, left⟩ := holds.load
  rw [Ledger.query]
  split
  · rename_i roster after loads
    rw [loads] at given
    exact .of_loaded rfl (keeps roster (given roster rfl))
  · rename_i failure after loads
    rw [loads] at left
    exact left

end Ledger.Holds

namespace Board

variable {board : Board}

theorem holds_loadAside (sound : board.Sound) {property : List Row → Prop}
    (holds : board.ledger.Holds property) :
    (∀ snapshot, board.loadAside.1 = .ok snapshot → property snapshot.rows) ∧
      board.loadAside.2.ledger.Holds property := by
  obtain ⟨given, left⟩ := holds.loadAside
  rcases loadAside_spec sound with
    ⟨cause, after, loads, scans, _⟩ | ⟨snapshot, after, loads, scans, _⟩
  · rw [scans] at left
    rw [loads]
    refine ⟨?_, left⟩
    intro snapshot impossible
    cases impossible
  · rw [scans] at given left
    rw [loads]
    refine ⟨?_, left⟩
    intro other same
    cases same
    exact given _ rfl

end Board

end Rollup
