import Rollup.Wire.Basic

/-!
# Natural numbers on the wire

A natural number is written in decimal digits, as a value and as a key.  Its digits are read
back as the number, and a word of 64 bits is finite in double precision, so a record that is
taken in before its kind is known may hold it.
-/

namespace Rollup

/-! ## Digits -/

theorem foldl_congr_of_mem {α β : Type} {left right : β → α → β} {items : List α}
    (same : ∀ value, ∀ item ∈ items, left value item = right value item) (value : β) :
    items.foldl left value = items.foldl right value := by
  induction items generalizing value with
  | nil => rfl
  | cons first rest ih =>
      rw [List.foldl_cons, List.foldl_cons, same value first List.mem_cons_self]
      exact ih (fun value item member => same value item (.tail _ member)) _

/-- A loop in which every step goes on with one and the same state ends in it. -/
theorem forIn_of_yields {α σ : Type} {step : α → σ → Id (ForInStep σ)} {last : σ}
    {items : List α} (some : items ≠ [])
    (yields : ∀ item ∈ items, ∀ state, step item state = pure (.yield last)) (state : σ) :
    forIn items state step = pure last := by
  induction items generalizing state with
  | nil => exact absurd rfl some
  | cons first rest ih =>
      obtain ⟨here, there⟩ := List.forall_mem_cons.mp yields
      rw [List.forIn_cons, here state, pure_bind]
      cases rest with
      | nil => rfl
      | cons next others => exact ih (List.cons_ne_nil _ _) there last

theorem ne_underscore_of_isDigit {character : Char} (isDigit : character.isDigit = true) :
    character ≠ '_' := by
  rintro rfl
  cases isDigit

/-- A text of digits is a natural number. -/
theorem isNat_of_isDigit {text : String} (some : text.toList ≠ [])
    (digits : ∀ character ∈ text.toList, character.isDigit = true) :
    text.toSlice.isNat = true := by
  rw [String.Slice.isNat]
  simp only [String.Slice.forIn_eq_forIn_toList, String.copy_toSlice]
  rw [@forIn_of_yields _ _ _ (none, true) _ some]
  · rfl
  · intro character member _
    have isDigit := digits character member
    simp only [ne_underscore_of_isDigit isDigit, if_false, isDigit, if_true]

theorem toList_toString (value : Nat) : (toString value).toList = Nat.toDigits 10 value := by
  rw [Nat.toString_eq_ofList_toDigits, String.toList_ofList]

theorem isDigit_of_mem_toString {value : Nat} :
    ∀ character ∈ (toString value).toList, character.isDigit = true := by
  rw [toList_toString]
  exact fun _ member => Nat.isDigit_of_mem_toDigits (by decide) (by decide) member

/-- The decimal text of a natural number is read back as the number. -/
theorem toNat?_toString (value : Nat) : (toString value).toNat? = some value := by
  have isNat : (toString value).toSlice.isNat = true := by
    apply isNat_of_isDigit _ isDigit_of_mem_toString
    rw [toList_toString]
    exact Nat.toDigits_ne_nil
  have folded : (toString value).toList.foldl (fun (sofar : Nat) character =>
      if character = '_' then sofar else sofar * 10 + (character.toNat - '0'.toNat)) 0 =
        value := by
    calc
      _ = (toString value).toList.foldl
          (fun (sofar : Nat) character => 10 * sofar + (character.toNat - '0'.toNat)) 0 := by
        apply foldl_congr_of_mem
        intro sofar character member
        rw [if_neg (ne_underscore_of_isDigit (isDigit_of_mem_toString character member)),
          Nat.mul_comm]
      _ = value := by
        rw [toList_toString, ← Nat.ofDigitChars_eq_foldl, Nat.ofDigitChars_ten_toDigits]
  rw [String.toNat?, String.Slice.toNat?, if_pos isNat]
  simp only [String.Slice.foldl_eq_foldl_toList, String.copy_toSlice, folded]

/-- The decimal text of a natural number is a numeral for it. -/
theorem Wire.numeral?_toString {bound value : Nat} (below : value < bound) :
    numeral? bound (.ofString (toString value)) = some value := by
  simp only [numeral?, Json.Key.ofString, Bool.false_eq_true, if_false, Option.bind_eq_bind,
    Option.bind_some, toNat?_toString, decide_true, Bool.true_and, decide_eq_true below, if_true]

namespace Json.Number

theorem ofDigits_digits (value : Nat) : ofDigits (digits value) = value := by
  rw [ofDigits, digits, List.foldl_map]
  exact Nat.ofDigitChars_eq_foldl.symm.trans Nat.ofDigitChars_ten_toDigits

/-- Digits only make a number greater. -/
theorem le_foldl_digits (digits : List Nat) (value : Nat) :
    value ≤ digits.foldl (fun value digit => 10 * value + digit) value := by
  induction digits generalizing value with
  | nil => exact Nat.le_refl _
  | cons digit rest ih =>
      refine Nat.le_trans ?_ (ih (10 * value + digit))
      omega

/-- Digits that stay below the bound are all taken. -/
theorem takeDigits_of_lt {digits : List Nat} {value : Nat}
    (below : digits.foldl (fun value digit => 10 * value + digit) value < Nat.pow 2 64) :
    takeDigits value digits =
      (digits.foldl (fun value digit => 10 * value + digit) value, []) := by
  induction digits generalizing value with
  | nil => rfl
  | cons digit rest ih =>
      have fits := Nat.lt_of_le_of_lt (le_foldl_digits rest _) below
      rw [takeDigits, if_pos fits, ih below]
      rfl

/-- A word is its own significand. -/
theorem significandAndScale_ofNat {value : Nat} (below : value < Nat.pow 2 64) :
    (ofNat value).significandAndScale = (value, 0) := by
  have taken : takeDigits 0 (digits value) = (value, []) := by
    have folded := ofDigits_digits value
    rw [ofDigits] at folded
    have all := @takeDigits_of_lt (digits value) 0 (by rw [folded]; exact below)
    rwa [folded] at all
  simp only [significandAndScale, ofNat, taken, takeDigits]
  rfl

end Json.Number

/-! ## Double precision -/

namespace Double

theorem roundedQuotient_le (numerator denominator : Nat) :
    roundedQuotient numerator denominator ≤ numerator / denominator + 1 := by
  rw [roundedQuotient]
  split
  · exact Nat.le_refl _
  · exact Nat.le_succ _

/-- A quotient of so many bits has a rank in the group of ranks that they tell, or the first
rank behind it. -/
theorem nearestRank_le {numerator denominator bits : Nat}
    (small : numerator * unitsOfOne / denominator < Nat.pow 2 (53 + bits)) :
    nearestRank numerator denominator ≤ (bits + 2) * Nat.pow 2 52 := by
  let quotient := numerator * unitsOfOne / denominator
  let shift := quotient.log2 - 52
  have shifted : shift ≤ bits := by
    by_cases zero : quotient = 0
    · simp [shift, zero]
    · have := (Nat.log2_lt zero).mpr small
      omega
  have rounded : roundedQuotient (numerator * unitsOfOne) (denominator * Nat.pow 2 shift) ≤
      2 * Nat.pow 2 52 := by
    refine Nat.le_trans (roundedQuotient_le _ _) ?_
    rw [← Nat.div_div_eq_div_mul]
    apply Nat.succ_le_of_lt
    apply (Nat.div_lt_iff_lt_mul (Nat.two_pow_pos shift)).mpr
    calc
      quotient < Nat.pow 2 (quotient.log2 + 1) := Nat.lt_log2_self
      _ ≤ Nat.pow 2 (53 + shift) := Nat.pow_le_pow_right (by decide) (by omega)
      _ = 2 * Nat.pow 2 52 * Nat.pow 2 shift := Nat.pow_add 2 53 shift
  calc
    nearestRank numerator denominator ≤ bits * Nat.pow 2 52 + 2 * Nat.pow 2 52 :=
      Nat.add_le_add (Nat.mul_le_mul_right _ shifted) rounded
    _ = (bits + 2) * Nat.pow 2 52 := (Nat.add_mul bits 2 _).symm

/-- A quotient of not too many bits is finite. -/
theorem ofQuotient?_of_lt {numerator denominator bits : Nat}
    (small : numerator * unitsOfOne / denominator < Nat.pow 2 (53 + bits))
    (fits : bits + 2 < 2047) :
    ∃ magnitude, ofQuotient? numerator denominator = some magnitude ∧
      magnitude.rank ≤ (bits + 2) * Nat.pow 2 52 := by
  have finite : nearestRank numerator denominator < 2047 * Nat.pow 2 52 :=
    Nat.lt_of_le_of_lt (nearestRank_le small)
      (Nat.mul_lt_mul_of_pos_right fits (Nat.two_pow_pos 52))
  exact ⟨⟨_, finite⟩, by rw [ofQuotient?, dif_pos finite], nearestRank_le small⟩

/-- What is left of a number less than two groups, when only one group of it is kept. -/
theorem sub_mul_lt {rank group : Nat} (positive : 0 < group) :
    rank - (rank / group - 1) * group < 2 * group := by
  have whole := Nat.div_add_mod' rank group
  have rest := Nat.mod_lt rank positive
  rw [Nat.sub_mul, Nat.one_mul]
  omega

theorem units_lt {magnitude : Double} {bits : Nat}
    (low : magnitude.rank ≤ (bits + 2) * Nat.pow 2 52) :
    magnitude.units < Nat.pow 2 (53 + (bits + 1)) := by
  have shifted : magnitude.rank / Nat.pow 2 52 - 1 ≤ bits + 1 := by
    have : magnitude.rank / Nat.pow 2 52 ≤ bits + 2 :=
      Nat.div_le_of_le_mul (by rwa [Nat.mul_comm])
    omega
  calc
    magnitude.units < 2 * Nat.pow 2 52 * Nat.pow 2 (bits + 1) :=
      Nat.mul_lt_mul_of_lt_of_le (sub_mul_lt (Nat.two_pow_pos 52))
        (Nat.pow_le_pow_right (by decide) shifted) (Nat.two_pow_pos _)
    _ = Nat.pow 2 (53 + (bits + 1)) := (Nat.pow_add 2 53 (bits + 1)).symm

theorem unitsOfOne_pos : 0 < unitsOfOne := by
  decide +kernel

/-- The magnitude one. -/
def one : Double :=
  ⟨1023 * Nat.pow 2 52, by decide⟩

theorem ofDecimal?_one : ofDecimal? 1 0 = some one := by
  decide +kernel

theorem units_one : one.units = unitsOfOne := by
  decide +kernel

/-- A natural number below 2^64 is finite. -/
theorem ofDecimal?_of_lt {value : Nat} (below : value < Nat.pow 2 64) :
    ∃ magnitude, ofDecimal? value 0 = some magnitude ∧
      magnitude.rank ≤ (1085 + 2) * Nat.pow 2 52 := by
  have quotient : value * unitsOfOne / 1 < Nat.pow 2 (53 + 1085) := by
    rw [Nat.div_one]
    calc
      _ < Nat.pow 2 64 * unitsOfOne := Nat.mul_lt_mul_of_pos_right below unitsOfOne_pos
      _ ≤ Nat.pow 2 (53 + 1085) := by decide +kernel
  obtain ⟨magnitude, found, low⟩ := ofQuotient?_of_lt quotient (by decide)
  exact ⟨magnitude, by simpa [ofDecimal?] using found, low⟩

/-- A magnitude times one is finite. -/
theorem mul?_one_of_le {magnitude : Double} {bits : Nat}
    (low : magnitude.rank ≤ (bits + 2) * Nat.pow 2 52) (fits : bits + 3 < 2047) :
    ∃ product, magnitude.mul? one = some product := by
  have quotient : magnitude.units * one.units * unitsOfOne / (unitsOfOne * unitsOfOne) <
      Nat.pow 2 (53 + (bits + 1)) := by
    rw [units_one, Nat.mul_assoc,
      Nat.mul_div_cancel _ (Nat.mul_pos unitsOfOne_pos unitsOfOne_pos)]
    exact units_lt low
  obtain ⟨product, found, _⟩ := ofQuotient?_of_lt quotient fits
  exact ⟨product, found⟩

/-- A magnitude that is finite times one is so when it is scaled by no power of ten. -/
theorem isSome_scale?_zero {magnitude product : Double}
    (multiplied : magnitude.mul? one = some product) :
    (magnitude.scale? 0).isSome = true := by
  rw [scale?]
  by_cases nothing : magnitude = zero
  · rw [if_pos nothing, Option.isSome_some]
  · rw [if_neg nothing, if_neg (Int.lt_irrefl 0), if_pos (by decide), ofDecimal?_one,
      Option.bind_eq_bind, Option.bind_some, multiplied, Option.isSome_some]

end Double

/-- A word is finite in double precision. -/
theorem Json.Number.isFinite_ofNat {value : Nat} (below : value < Nat.pow 2 64) :
    (ofNat value).isFinite = true := by
  obtain ⟨magnitude, read, low⟩ := Double.ofDecimal?_of_lt below
  obtain ⟨product, multiplied⟩ := Double.mul?_one_of_le low (by decide)
  rw [isFinite, magnitude?, significandAndScale_ofNat below]
  simp only [Option.bind_eq_bind, read, Option.bind_some]
  exact Double.isSome_scale?_zero multiplied

end Rollup
