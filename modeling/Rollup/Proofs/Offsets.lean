import Rollup.Proofs.Index

/-!
# What the indexes hold

An index is made of the offsets of the values that it was built from.  A lookup by key
finds the last offset of the key, a stage has all offsets of its position, and a window
has those of its stages, one stage after the other, whether the values are in stage order
or not.  No index holds an offset out of range.
-/

namespace Rollup

/-- The offsets of the values that are accepted, ascending. -/
def offsetsWhere {α : Type} (accept : α → Bool) (values : List α) : List Nat :=
  (values.zipIdx.filter fun entry => accept entry.1).map Prod.snd

theorem offsetsWhere_map {α β : Type} (accept : β → Bool) (image : α → β) (values : List α) :
    offsetsWhere accept (values.map image) =
      offsetsWhere (fun value => accept (image value)) values := by
  simp only [offsetsWhere, List.zipIdx_map, List.filter_map, List.map_map]
  rfl

theorem lt_of_mem_offsetsWhere {α : Type} {accept : α → Bool} {values : List α} {offset : Nat}
    (member : offset ∈ offsetsWhere accept values) : offset < values.length := by
  obtain ⟨entry, inFilter, rfl⟩ := List.mem_map.mp member
  have inZip := (List.mem_filter.mp inFilter).1
  simpa using List.snd_lt_add_of_mem_zipIdx inZip

/-! ## Offsets by key -/

namespace Offsets

variable {κ : Type}

theorem numberFrom_eq_zipIdx (offset : Nat) (keys : List κ) :
    numberFrom offset keys = keys.zipIdx offset := by
  induction keys generalizing offset with
  | nil => rfl
  | cons key rest ih => rw [numberFrom, List.zipIdx_cons, ih]

theorem lt_of_mem_ofKeys {keys : List κ} {entry : κ × Nat} (member : entry ∈ ofKeys keys) :
    entry.2 < keys.length := by
  rw [ofKeys, List.mem_reverse, numberFrom_eq_zipIdx] at member
  simpa using List.snd_lt_add_of_mem_zipIdx member

variable [DecidableEq κ]

/-- The offset kept for a key is the last one of the key. -/
theorem offset?_ofKeys (keys : List κ) (key : κ) :
    (ofKeys keys).offset? key = (offsetsWhere (· = key) keys).getLast? := by
  rw [offset?, ofKeys, numberFrom_eq_zipIdx, ← List.head?_filter, List.filter_reverse,
    List.head?_reverse, offsetsWhere, List.getLast?_map]

end Offsets

/-! ## Repeated keys -/

/-- The keys that occur in an earlier value already, one for each such value. -/
def repeatsOf {α κ : Type} [DecidableEq κ] (keyOf : α → κ) (values : List α) : List κ :=
  (values.zipIdx.filter fun entry => keyOf entry.1 ∈ (values.take entry.2).map keyOf).map
    fun entry => keyOf entry.1

/-- What was seen before are the keys in front. -/
theorem repeatedKeys_eq {κ : Type} [DecidableEq κ] {seen : List κ} (front : List κ)
    (same : ∀ key, key ∈ seen ↔ key ∈ front) (keys : List κ) :
    repeatedKeys seen keys =
      ((keys.zipIdx front.length).filter fun entry =>
        entry.1 ∈ (front ++ keys).take entry.2).map Prod.fst := by
  induction keys generalizing seen front with
  | nil => rfl
  | cons key rest ih =>
      have inFront : ∀ other, other ∈ front ++ [key] ↔ other ∈ seen ∨ other = key := by
        intro other
        rw [List.mem_append, List.mem_singleton, same]
      have later : ∀ {seen}, (∀ other, other ∈ seen ↔ other ∈ front ++ [key]) →
          repeatedKeys seen rest =
            ((rest.zipIdx (front.length + 1)).filter fun entry =>
              entry.1 ∈ (front ++ key :: rest).take entry.2).map Prod.fst := by
        intro seen sameWith
        rw [ih (front ++ [key]) sameWith, List.append_assoc, List.length_append]
        rfl
      rw [repeatedKeys, List.zipIdx_cons, List.filter_cons]
      simp only [List.take_left, ← same]
      by_cases again : key ∈ seen
      · rw [if_pos again, if_pos (decide_eq_true again), List.map_cons]
        congr 1
        apply later
        intro other
        rw [inFront]
        constructor
        · exact .inl
        · rintro (earlier | rfl)
          · exact earlier
          · exact again
      · rw [if_neg again, if_neg (by simpa using again)]
        apply later
        intro other
        rw [inFront, List.mem_cons]
        exact or_comm

/-- Building an index finds each repetition once, in order. -/
theorem repeatedKeys_map {α κ : Type} [DecidableEq κ] (keyOf : α → κ) (values : List α) :
    repeatedKeys [] (values.map keyOf) = repeatsOf keyOf values := by
  rw [repeatedKeys_eq [] (fun _ => Iff.rfl), repeatsOf]
  simp only [List.nil_append, List.length_nil, List.zipIdx_map, List.filter_map, List.map_map,
    List.map_take]
  rfl

/-! ## Offsets by stage -/

namespace StageOffsets

theorem atStage_cons (head : Position) (offsets : List Nat) (rest : StageOffsets)
    (position : Position) :
    atStage ((head, offsets) :: rest) position =
      (if head = position then offsets else []) ++ atStage rest position := by
  rw [atStage, List.filter_cons]
  by_cases here : head = position <;> simp [here, atStage]

theorem atStage_eq_nil {stages : StageOffsets} {position : Position}
    (absent : position ∉ stages.map Prod.fst) : stages.atStage position = [] := by
  rw [atStage, List.filter_eq_nil_iff.mpr]
  · rfl
  · intro stage member same
    have here : stage.1 = position := by simpa using same
    exact absent (here ▸ List.mem_map_of_mem member)

/-- Adding an offset puts it behind those of its position, and leaves the others alone. -/
theorem atStage_add {position other : Position} (offset : Nat) {stages : StageOffsets}
    (ascending : (stages.map Prod.fst).Pairwise (· < ·)) :
    (add position offset stages).atStage other =
      stages.atStage other ++ if position = other then [offset] else [] := by
  induction stages with
  | nil =>
      rw [add, atStage_cons]
      exact List.append_nil _
  | cons head rest ih =>
      obtain ⟨head, offsets⟩ := head
      obtain ⟨below, ascending⟩ := List.pairwise_cons.mp ascending
      -- Nothing is kept behind the first position for one that is not behind it.
      have notBehind : position ≤ head → position ∉ rest.map Prod.fst := by
        intro notAfter among
        exact UInt32.not_lt.mpr notAfter (below position among)
      rw [add]
      split
      · rename_i before
        rw [atStage_cons]
        split
        · rename_i same
          subst same
          have none := atStage_eq_nil (notBehind (UInt32.le_of_lt before))
          rw [atStage_cons, if_neg (UInt32.ne_of_lt before).symm, none]
          rfl
        · rw [List.append_nil]
          rfl
      · split
        · rename_i same
          subst same
          have none := atStage_eq_nil (notBehind (UInt32.le_refl _))
          rw [atStage_cons, atStage_cons]
          split
          · rename_i same
            subst same
            rw [none, List.append_nil, List.append_nil]
          · rw [List.append_nil]
        · rw [atStage_cons, atStage_cons, ih ascending, List.append_assoc]

theorem atStage_addAll {stages : StageOffsets} (offset : Nat) (positions : List Position)
    (other : Position) (ascending : (stages.map Prod.fst).Pairwise (· < ·)) :
    (addAll stages offset positions).atStage other =
      stages.atStage other ++
        ((positions.zipIdx offset).filter fun entry => entry.1 = other).map Prod.snd := by
  induction positions generalizing stages offset with
  | nil => simp [addAll]
  | cons position rest ih =>
      have ascendingToo : ((add position offset stages).map Prod.fst).Pairwise (· < ·) := by
        rw [map_fst_add]
        exact insertPosition_ascending position ascending
      rw [addAll, ih (offset + 1) ascendingToo, atStage_add offset ascending, List.zipIdx_cons,
        List.filter_cons]
      by_cases here : position = other <;> simp [here]

theorem accepted_eq_flatMap {accept : Position → Bool} {stages : StageOffsets}
    (ascending : (stages.map Prod.fst).Pairwise (· < ·)) :
    stages.accepted accept =
      ((stages.map Prod.fst).filter accept).flatMap stages.atStage := by
  induction stages with
  | nil => rfl
  | cons head rest ih =>
      obtain ⟨head, offsets⟩ := head
      obtain ⟨below, ascending⟩ := List.pairwise_cons.mp ascending
      have absent : head ∉ rest.map Prod.fst := by
        intro among
        exact UInt32.lt_irrefl _ (below head among)
      have others : ∀ position ∈ (rest.map Prod.fst).filter accept,
          atStage ((head, offsets) :: rest) position = atStage rest position := by
        intro position among
        have different : head ≠ position := by
          rintro rfl
          exact absent (List.mem_filter.mp among).1
        rw [atStage_cons, if_neg different]
        rfl
      have behind : accepted rest accept =
          ((rest.map Prod.fst).filter accept).flatMap
            (atStage ((head, offsets) :: rest)) := by
        rw [ih ascending, List.flatMap_def, List.flatMap_def, List.map_congr_left others]
      have first : atStage ((head, offsets) :: rest) head = offsets := by
        rw [atStage_cons, if_pos rfl, atStage_eq_nil absent, List.append_nil]
      simp only [accepted, List.filter_cons, List.map_cons] at behind ⊢
      split
      · rw [List.flatMap_cons, List.flatMap_cons, first, behind]
      · exact behind

/-- A position has all its offsets, whatever order the positions come in. -/
theorem atStage_ofPositions (positions : List Position) (position : Position) :
    (ofPositions positions).atStage position = offsetsWhere (· = position) positions :=
  atStage_addAll 0 positions position .nil

/-- The offsets kept for accepted positions are those of one position after the other. -/
theorem accepted_ofPositions (accept : Position → Bool) (positions : List Position) :
    (ofPositions positions).accepted accept =
      ((distinctPositions positions).filter accept).flatMap fun position =>
        offsetsWhere (· = position) positions := by
  have ascending : ((ofPositions positions).map Prod.fst).Pairwise (· < ·) :=
    map_fst_addAll_ascending 0 positions .nil
  have each : (ofPositions positions).atStage =
      fun position => offsetsWhere (· = position) positions :=
    funext (atStage_ofPositions positions)
  rw [accepted_eq_flatMap ascending, map_fst_ofPositions, each]

theorem lt_of_mem_ofPositions {positions : List Position} {offset : Nat}
    (member : offset ∈ (ofPositions positions).flatMap Prod.snd) : offset < positions.length := by
  have everywhere : (ofPositions positions).flatMap Prod.snd =
      (ofPositions positions).accepted fun _ => true :=
    congrArg (List.flatMap Prod.snd) (List.filter_eq_self.mpr fun _ _ => rfl).symm
  rw [everywhere, accepted_ofPositions, List.mem_flatMap] at member
  obtain ⟨position, _, inStage⟩ := member
  exact lt_of_mem_offsetsWhere inStage

end StageOffsets

end Rollup

