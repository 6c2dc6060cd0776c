import Rollup.Expansion

/-!
# Stage order

Rows are kept in ascending position and the positions of a pipeline are asked about
in strictly ascending order.  This module proves that sorting reorders the rows and
nothing else, and that the distinct positions of a list are determined by the
positions that occur in it.
-/

namespace Rollup

/-! ## Rows in stage order -/

/-- Rows of which none runs in an earlier stage than one before it. -/
def InStageOrder (rows : List Row) : Prop :=
  rows.Pairwise fun earlier later => earlier.position ≤ later.position

/-- It is a matter of the positions. -/
theorem inStageOrder_congr {rows others : List Row}
    (same : rows.map Row.position = others.map Row.position) (ordered : InStageOrder rows) :
    InStageOrder others := by
  apply List.pairwise_map.mp
  rw [← same]
  exact List.pairwise_map.mpr ordered

theorem insertByPosition_perm (row : Row) (rows : List Row) :
    (row.insertByPosition rows).Perm (row :: rows) := by
  induction rows with
  | nil => exact .refl _
  | cons head rest ih =>
      rw [Row.insertByPosition]
      split
      · exact (ih.cons head).trans (.swap row head rest)
      · exact .refl _

/-- Sorting by position reorders the rows. -/
theorem sortByPosition_perm (rows : List Row) : (sortByPosition rows).Perm rows := by
  induction rows with
  | nil => exact .refl _
  | cons row rest ih =>
      exact (insertByPosition_perm row _).trans (ih.cons row)

theorem insertByPosition_inStageOrder (row : Row) {rows : List Row}
    (ordered : InStageOrder rows) : InStageOrder (row.insertByPosition rows) := by
  induction ordered with
  | nil => exact List.pairwise_singleton _ row
  | @cons head rest below ordered ih =>
      rw [Row.insertByPosition]
      split
      · rename_i earlier
        refine List.Pairwise.cons ?_ ih
        intro later member
        rcases List.mem_cons.mp ((insertByPosition_perm row rest).mem_iff.mp member)
          with rfl | member
        · exact UInt32.le_of_lt earlier
        · exact below later member
      · rename_i notEarlier
        have rowFirst : row.position ≤ head.position := UInt32.not_lt.mp notEarlier
        refine List.Pairwise.cons ?_ (List.Pairwise.cons below ordered)
        intro later member
        rcases List.mem_cons.mp member with rfl | member
        · exact rowFirst
        · exact UInt32.le_trans rowFirst (below later member)

/-- Sorted rows are in stage order. -/
theorem sortByPosition_inStageOrder (rows : List Row) :
    InStageOrder (sortByPosition rows) := by
  induction rows with
  | nil => exact .nil
  | cons row rest ih => exact insertByPosition_inStageOrder row ih

theorem filter_insertByPosition (row : Row) (rows : List Row) (position : Position) :
    (row.insertByPosition rows).filter (fun row => row.position = position) =
      (row :: rows).filter fun row => row.position = position := by
  induction rows with
  | nil => rfl
  | cons head rest ih =>
      rw [Row.insertByPosition]
      split
      · rename_i earlier
        -- Of the two that change places, at most one is at the position.
        by_cases here : head.position = position
        · have later : row.position ≠ position := (UInt32.ne_of_lt (here ▸ earlier)).symm
          simp [ih, here, later]
        · simp [List.filter_cons, ih, here]
      · rfl

/-- Sorting by position keeps the order of the rows of one stage. -/
theorem filter_sortByPosition (rows : List Row) (position : Position) :
    (sortByPosition rows).filter (fun row => row.position = position) =
      rows.filter fun row => row.position = position := by
  induction rows with
  | nil => rfl
  | cons row rest ih =>
      rw [sortByPosition, filter_insertByPosition, List.filter_cons, List.filter_cons, ih]

/-- Rows of which none runs before a position are those at the position and the later
ones behind them. -/
theorem filter_append_filter_lt {position : Position} {rows : List Row}
    (ordered : InStageOrder rows) (notBefore : ∀ row ∈ rows, position ≤ row.position) :
    (rows.filter fun row => row.position = position) ++
      (rows.filter fun row => position < row.position) = rows := by
  induction ordered with
  | nil => rfl
  | @cons head rest below ordered ih =>
      by_cases here : head.position = position
      · subst here
        have restNotBefore : ∀ row ∈ rest, head.position ≤ row.position :=
          fun row member => notBefore row (.tail _ member)
        simp [ih restNotBefore]
      · have later : ∀ row ∈ head :: rest, position < row.position := by
          have first : position < head.position :=
            UInt32.lt_of_le_of_ne (notBefore head List.mem_cons_self) (Ne.symm here)
          intro row member
          rcases List.mem_cons.mp member with rfl | member
          · exact first
          · exact UInt32.lt_of_lt_of_le first (below row member)
        have noneHere : (head :: rest).filter (fun row => row.position = position) = [] := by
          apply List.filter_eq_nil_iff.mpr
          intro row member
          simpa using (UInt32.ne_of_lt (later row member)).symm
        have allLater :
            (head :: rest).filter (fun row => position < row.position) = head :: rest := by
          apply List.filter_eq_self.mpr
          intro row member
          simpa using later row member
        rw [noneHere, allLater, List.nil_append]

/-- By ascending position what runs before a position stands in front of the others. -/
theorem filter_lt_append {α : Type} {place : α → Position} {items : List α}
    (ordered : items.Pairwise fun earlier later => place earlier ≤ place later)
    (position : Position) :
    (items.filter fun item => place item < position) ++
      (items.filter fun item => position ≤ place item) = items := by
  induction ordered with
  | nil => rfl
  | @cons head rest below _ ih =>
      by_cases before : place head < position
      · have notFrom : ¬ position ≤ place head := UInt32.not_le.mpr before
        simpa [before, notFrom] using ih
      · have fromHere : position ≤ place head := UInt32.not_lt.mp before
        have restFrom : ∀ item ∈ rest, position ≤ place item :=
          fun item member => UInt32.le_trans fromHere (below item member)
        have noneBefore : rest.filter (fun item => place item < position) = [] := by
          apply List.filter_eq_nil_iff.mpr
          intro item member earlier
          exact UInt32.not_lt.mpr (restFrom item member) (of_decide_eq_true earlier)
        rw [noneBefore, List.nil_append] at ih
        simp [before, fromHere, noneBefore, ih]

/-- Rows in stage order are those of one stage after those of the other. -/
theorem flatMap_filter_position {positions : List Position}
    (ascending : positions.Pairwise (· < ·)) {rows : List Row} (ordered : InStageOrder rows)
    (among : ∀ row ∈ rows, row.position ∈ positions) :
    (positions.flatMap fun position => rows.filter fun row => row.position = position) =
      rows := by
  induction ascending generalizing rows with
  | nil =>
      cases rows with
      | nil => rfl
      | cons head rest => cases among head List.mem_cons_self
  | @cons first others before _ ih =>
      have notBefore : ∀ row ∈ rows, first ≤ row.position := by
        intro row member
        rcases List.mem_cons.mp (among row member) with equal | later
        · exact equal ▸ UInt32.le_refl _
        · exact UInt32.le_of_lt (before _ later)
      let later := rows.filter fun row => first < row.position
      have laterAmong : ∀ row ∈ later, row.position ∈ others := by
        intro row member
        obtain ⟨inRows, behind⟩ := List.mem_filter.mp member
        have behind : first < row.position := by simpa using behind
        rcases List.mem_cons.mp (among row inRows) with equal | inOthers
        · exact absurd equal (UInt32.ne_of_lt behind).symm
        · exact inOthers
      have same : ∀ position ∈ others,
          (rows.filter fun row => row.position = position) =
            later.filter fun row => row.position = position := by
        intro position member
        rw [List.filter_filter]
        apply List.filter_congr
        intro row _
        by_cases here : row.position = position
        · simp [here, before position member]
        · simp [here]
      have laterOrdered : InStageOrder later := ordered.filter _
      calc
        ((first :: others).flatMap fun position =>
            rows.filter fun row => row.position = position) =
            (rows.filter fun row => row.position = first) ++
              others.flatMap fun position =>
                later.filter fun row => row.position = position := by
          rw [List.flatMap_cons, List.flatMap_def, List.map_congr_left same,
            ← List.flatMap_def]
        _ = (rows.filter fun row => row.position = first) ++ later := by
          rw [ih laterOrdered laterAmong]
        _ = rows := filter_append_filter_lt ordered notBefore

/-- Rows in stage order whose positions are accepted are those of the accepted stages, one
after the other. -/
theorem flatMap_filter_of_accepted {positions : List Position} {rows : List Row}
    (ascending : positions.Pairwise (· < ·)) (ordered : InStageOrder rows)
    (among : ∀ row ∈ rows, row.position ∈ positions) (accept : Position → Bool) :
    ((positions.filter accept).flatMap fun position =>
      rows.filter fun row => row.position = position) =
        rows.filter fun row => accept row.position := by
  let accepted := rows.filter fun row => accept row.position
  have amongAccepted : ∀ row ∈ accepted, row.position ∈ positions.filter accept := by
    intro row member
    obtain ⟨inRows, accepts⟩ := List.mem_filter.mp member
    exact List.mem_filter.mpr ⟨among row inRows, accepts⟩
  have same : ∀ position ∈ positions.filter accept,
      (rows.filter fun row => row.position = position) =
        accepted.filter fun row => row.position = position := by
    intro position member
    rw [List.filter_filter]
    apply List.filter_congr
    intro row _
    by_cases here : row.position = position
    · simp [here, (List.mem_filter.mp member).2]
    · simp [here]
  rw [List.flatMap_def, List.map_congr_left same, ← List.flatMap_def]
  exact flatMap_filter_position (ascending.filter _) (ordered.filter _) amongAccepted

/-! ## Distinct positions -/

@[simp] theorem mem_insertPosition {position other : Position} {positions : List Position} :
    other ∈ insertPosition position positions ↔ other = position ∨ other ∈ positions := by
  induction positions with
  | nil => simp [insertPosition]
  | cons head rest ih =>
      rw [insertPosition]
      split
      · exact List.mem_cons
      · split
        · rename_i equal
          simp [equal]
        · simp only [List.mem_cons, ih]
          exact or_left_comm

theorem insertPosition_ascending (position : Position) {positions : List Position}
    (ascending : positions.Pairwise (· < ·)) :
    (insertPosition position positions).Pairwise (· < ·) := by
  induction ascending with
  | nil => exact List.pairwise_singleton _ position
  | @cons head rest below ascending ih =>
      rw [insertPosition]
      split
      · rename_i before
        refine .cons ?_ (.cons below ascending)
        intro other member
        rcases List.mem_cons.mp member with rfl | member
        · exact before
        · exact UInt32.lt_trans before (below other member)
      · rename_i notBefore
        split
        · exact .cons below ascending
        · rename_i different
          refine .cons ?_ ih
          intro other member
          rcases mem_insertPosition.mp member with rfl | member
          · exact UInt32.lt_of_le_of_ne (UInt32.not_lt.mp notBefore) (Ne.symm different)
          · exact below other member

@[simp] theorem mem_distinctPositions {position : Position} {positions : List Position} :
    position ∈ distinctPositions positions ↔ position ∈ positions := by
  induction positions with
  | nil => exact Iff.rfl
  | cons head rest ih => simp [distinctPositions, ih]

theorem distinctPositions_ascending (positions : List Position) :
    (distinctPositions positions).Pairwise (· < ·) := by
  induction positions with
  | nil => exact .nil
  | cons head rest ih => exact insertPosition_ascending head ih

/-- Strictly ascending lists with the same members are equal. -/
theorem ascending_ext {left right : List Position}
    (leftAscending : left.Pairwise (· < ·)) (rightAscending : right.Pairwise (· < ·))
    (same : ∀ position, position ∈ left ↔ position ∈ right) : left = right := by
  have distinct : ∀ {positions : List Position}, positions.Pairwise (· < ·) →
      positions.Nodup := fun ascending => ascending.imp UInt32.ne_of_lt
  have permuted : left.Perm right :=
    (List.perm_ext_iff_of_nodup (distinct leftAscending) (distinct rightAscending)).mpr same
  refine permuted.eq_of_pairwise ?_ leftAscending rightAscending
  intro first second _ _ before after
  exact absurd before (UInt32.lt_asymm after)

/-- The distinct positions of a list depend on its members only. -/
theorem distinctPositions_congr {left right : List Position}
    (same : ∀ position, position ∈ left ↔ position ∈ right) :
    distinctPositions left = distinctPositions right := by
  apply ascending_ext
  · exact distinctPositions_ascending _
  · exact distinctPositions_ascending _
  · intro position
    rw [mem_distinctPositions, mem_distinctPositions, same]

end Rollup
