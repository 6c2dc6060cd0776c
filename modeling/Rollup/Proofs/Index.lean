import Rollup.Proofs.StageOrder
import Rollup.Snapshot

/-!
# Indexes against scans

An index answers from offsets that were numbered once.  The offset kept for a key is
the one of the last value with that key, so a lookup finds what a scan from the end
finds.  For positions that ascend, the offsets kept for a window select exactly the
values that a filter selects, in the same order.
-/

namespace Rollup

/-! ## Offsets by key -/

namespace Offsets

variable {κ : Type}

/-- Numbering from one offset further on shifts every offset by one. -/
theorem numberFrom_succ (offset : Nat) (keys : List κ) :
    numberFrom (offset + 1) keys =
      (numberFrom offset keys).map fun entry => (entry.1, entry.2 + 1) := by
  induction keys generalizing offset with
  | nil => rfl
  | cons key rest ih => simp only [numberFrom, List.map_cons, ih]

variable [DecidableEq κ]

theorem offset?_map_succ (offsets : Offsets κ) (key : κ) :
    offset? (offsets.map fun entry => (entry.1, entry.2 + 1)) key =
      (offsets.offset? key).map (· + 1) := by
  simp only [offset?, List.find?_map, Option.map_map]
  rfl

@[simp] theorem offset?_ofKeys_nil (key : κ) : (ofKeys []).offset? key = none := rfl

/-- A later occurrence of a key goes before the first one. -/
theorem offset?_ofKeys_cons (head : κ) (rest : List κ) (key : κ) :
    (ofKeys (head :: rest)).offset? key =
      (((ofKeys rest).offset? key).map (· + 1)).or
        (if head = key then some 0 else none) := by
  have shifted : offset? (numberFrom 1 rest).reverse key =
      ((ofKeys rest).offset? key).map (· + 1) := by
    rw [numberFrom_succ, ← List.map_reverse]
    exact offset?_map_succ _ key
  rw [← shifted]
  simp only [ofKeys, numberFrom, offset?, List.reverse_cons, List.find?_append,
    Option.map_or, List.find?_singleton]
  by_cases equal : head = key <;> simp [equal]

/-- The offset kept for a key is an offset of that key. -/
theorem getElem?_of_offset? {keys : List κ} {key : κ} {offset : Nat}
    (found : (ofKeys keys).offset? key = some offset) : keys[offset]? = some key := by
  induction keys generalizing offset with
  | nil => simp at found
  | cons head rest ih =>
      rw [offset?_ofKeys_cons] at found
      cases inRest : (ofKeys rest).offset? key with
      | some later =>
          simp only [inRest, Option.map_some, Option.some_or, Option.some.injEq] at found
          subst found
          exact ih inRest
      | none =>
          simp only [inRest, Option.map_none, Option.none_or] at found
          by_cases equal : head = key
          · simp only [equal, if_true, Option.some.injEq] at found
            subst found
            simp [equal]
          · simp [equal] at found

/-- An offset is kept for the keys that occur. -/
theorem offset?_ofKeys_eq_none {keys : List κ} {key : κ} :
    (ofKeys keys).offset? key = none ↔ key ∉ keys := by
  induction keys with
  | nil => simp
  | cons head rest ih =>
      rw [offset?_ofKeys_cons, Option.or_eq_none_iff, Option.map_eq_none_iff, ih,
        List.mem_cons]
      by_cases equal : head = key
      · simp [equal]
      · simp [equal, Ne.symm equal]

/-- Looking a key up finds the last value with that key. -/
theorem lookup_ofKeys {α : Type} (keyOf : α → κ) (values : List α) (key : κ) :
    ((ofKeys (values.map keyOf)).offset? key).bind (values[·]?) =
      values.reverse.find? (keyOf · = key) := by
  induction values with
  | nil => rfl
  | cons value rest ih =>
      rw [List.map_cons, offset?_ofKeys_cons, List.reverse_cons, List.find?_append, ← ih]
      cases inRest : (ofKeys (rest.map keyOf)).offset? key with
      | some later =>
          have present := getElem?_of_offset? inRest
          rw [List.getElem?_map, Option.map_eq_some_iff] at present
          obtain ⟨kept, keptEq, _⟩ := present
          simp [keptEq]
      | none => by_cases equal : keyOf value = key <;> simp [equal]

end Offsets

/-! ## Offsets by stage -/

namespace StageOffsets

/-- The offsets kept for the accepted positions. -/
def accepted (stages : StageOffsets) (accept : Position → Bool) : List Nat :=
  (stages.filter fun stage => accept stage.1).flatMap Prod.snd

theorem map_fst_add (position : Position) (offset : Nat) (stages : StageOffsets) :
    (add position offset stages).map Prod.fst =
      insertPosition position (stages.map Prod.fst) := by
  induction stages with
  | nil => rfl
  | cons head rest ih =>
      obtain ⟨head, offsets⟩ := head
      simp only [add, List.map_cons, insertPosition]
      split
      · rfl
      · split
        · rfl
        · simp only [List.map_cons, ih]

/-- The kept positions after adding those of a list. -/
theorem mem_map_fst_addAll {position : Position} (stages : StageOffsets) (offset : Nat)
    (positions : List Position) :
    position ∈ (addAll stages offset positions).map Prod.fst ↔
      position ∈ stages.map Prod.fst ∨ position ∈ positions := by
  induction positions generalizing stages offset with
  | nil => simp [addAll]
  | cons head rest ih =>
      rw [addAll, ih, map_fst_add, mem_insertPosition, List.mem_cons]
      exact or_assoc.trans or_left_comm

theorem map_fst_addAll_ascending {stages : StageOffsets} (offset : Nat)
    (positions : List Position) (ascending : (stages.map Prod.fst).Pairwise (· < ·)) :
    ((addAll stages offset positions).map Prod.fst).Pairwise (· < ·) := by
  induction positions generalizing stages offset with
  | nil => exact ascending
  | cons head rest ih =>
      refine ih (offset + 1) ?_
      rw [map_fst_add]
      exact insertPosition_ascending head ascending

/-- The index keeps the distinct positions. -/
theorem map_fst_ofPositions (positions : List Position) :
    (ofPositions positions).map Prod.fst = distinctPositions positions := by
  refine ascending_ext (map_fst_addAll_ascending 0 positions .nil)
    (distinctPositions_ascending positions) ?_
  intro position
  simp [ofPositions, mem_map_fst_addAll]

/-- Adding an offset behind every kept position puts it last in each selection. -/
theorem accepted_add {accept : Position → Bool} {position : Position} (offset : Nat)
    {stages : StageOffsets} (ascending : (stages.map Prod.fst).Pairwise (· < ·))
    (behind : ∀ kept ∈ stages.map Prod.fst, kept ≤ position) :
    (add position offset stages).accepted accept =
      stages.accepted accept ++ if accept position then [offset] else [] := by
  induction stages with
  | nil => cases accepts : accept position <;> simp [add, accepted, accepts]
  | cons head rest ih =>
      obtain ⟨head, offsets⟩ := head
      simp only [List.map_cons, List.pairwise_cons, List.mem_cons, forall_eq_or_imp]
        at ascending behind
      have notBefore : ¬position < head := UInt32.not_lt.mpr behind.1
      rw [add, if_neg notBefore]
      split
      · rename_i equal
        subst equal
        -- Nothing is kept behind the position, so its own offsets are the last ones.
        have nothingBehind : rest = [] := by
          cases rest with
          | nil => rfl
          | cons next others =>
              have before := ascending.1 next.1 (by simp)
              exact absurd before (UInt32.not_lt.mpr (behind.2 next.1 (by simp)))
        subst nothingBehind
        cases accepts : accept position <;> simp [accepted, accepts]
      · have inRest := ih ascending.2 behind.2
        simp only [accepted, List.filter_cons] at inRest ⊢
        split <;> simp [inRest]

/-- Adding ascending positions puts their accepted offsets last, in order. -/
theorem accepted_addAll {accept : Position → Bool} {stages : StageOffsets} (offset : Nat)
    {positions : List Position} (ascending : (stages.map Prod.fst).Pairwise (· < ·))
    (ordered : positions.Pairwise (· ≤ ·))
    (behind : ∀ kept ∈ stages.map Prod.fst, ∀ position ∈ positions, kept ≤ position) :
    (addAll stages offset positions).accepted accept =
      stages.accepted accept ++
        ((Offsets.numberFrom offset positions).filter fun entry => accept entry.1).map
          Prod.snd := by
  induction positions generalizing stages offset with
  | nil => simp [addAll, Offsets.numberFrom]
  | cons position rest ih =>
      obtain ⟨below, ordered⟩ := List.pairwise_cons.mp ordered
      have headBehind : ∀ kept ∈ stages.map Prod.fst, kept ≤ position :=
        fun kept member => behind kept member position List.mem_cons_self
      rw [addAll, ih (offset + 1) ?ascending ordered ?behind,
        accepted_add offset ascending headBehind, Offsets.numberFrom]
      case ascending =>
        rw [map_fst_add]
        exact insertPosition_ascending position ascending
      case behind =>
        intro kept member later laterMem
        rw [map_fst_add, mem_insertPosition] at member
        rcases member with rfl | member
        · exact below later laterMem
        · exact behind kept member later (List.mem_cons_of_mem _ laterMem)
      cases accepts : accept position <;> simp [accepts]

end StageOffsets

/-- Offsets numbered behind a prefix select the values that a filter selects. -/
theorem filterMap_numberFrom {α : Type} (before values : List α) (positionOf : α → Position)
    (accept : Position → Bool) :
    (((Offsets.numberFrom before.length (values.map positionOf)).filter
        fun entry => accept entry.1).map Prod.snd).filterMap ((before ++ values)[·]?) =
      values.filter fun value => accept (positionOf value) := by
  induction values generalizing before with
  | nil => rfl
  | cons value rest ih =>
      have step := ih (before ++ [value])
      simp only [List.length_append, List.length_cons, List.length_nil, Nat.zero_add,
        List.append_assoc, List.cons_append, List.nil_append] at step
      simp only [List.map_cons, Offsets.numberFrom, List.filter_cons]
      cases accepts : accept (positionOf value) <;> simp [step]

/-- In stage order, the rows at the offsets kept for a window are those a filter finds. -/
theorem filterMap_accepted_ofPositions {rows : List Row} (ordered : InStageOrder rows)
    (accept : Position → Bool) :
    ((StageOffsets.ofPositions (rows.map Row.position)).accepted accept).filterMap
        (rows[·]?) =
      rows.filter fun row => accept row.position := by
  have positionsOrdered : (rows.map Row.position).Pairwise (· ≤ ·) :=
    List.pairwise_map.mpr ordered
  rw [StageOffsets.ofPositions,
    StageOffsets.accepted_addAll 0 .nil positionsOrdered (by simp)]
  exact filterMap_numberFrom [] rows Row.position accept

end Rollup
