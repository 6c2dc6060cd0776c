import Rollup.Proofs.Numerals
import Rollup.Settings

/-!
# Settings from variables

What a variable may hold is told by a grammar: a word for a switch position, or decimal
digits for a size, with blanks around it.  Settings are read if each variable that is there
holds what it may, and else the first one that does not is refused.  So settings that are
written into variables are read back.
-/

namespace Rollup

/-! ## Blanks -/

namespace Text

/-- The characters are those of a word, with blanks around it. -/
def Holds (characters word : List Char) : Prop :=
  ∃ front back, characters = front ++ word ++ back ∧
    (∀ character ∈ front, isBlank character = true) ∧
    ∀ character ∈ back, isBlank character = true

theorem isBlank_of_mem_takeWhile {characters : List Char} :
    ∀ character ∈ characters.takeWhile isBlank, isBlank character = true :=
  List.all_eq_true.mp List.all_takeWhile

/-- Nothing but blanks is cut off. -/
theorem holds_trim (characters : List Char) : Holds characters (trim characters) := by
  let behind := characters.dropWhile isBlank
  refine ⟨characters.takeWhile isBlank, (behind.reverse.takeWhile isBlank).reverse, ?_,
    isBlank_of_mem_takeWhile, ?_⟩
  · have cut : trim characters ++ (behind.reverse.takeWhile isBlank).reverse = behind := by
      rw [trim, ← List.reverse_append, List.takeWhile_append_dropWhile, List.reverse_reverse]
    rw [List.append_assoc, cut, List.takeWhile_append_dropWhile]
  · intro character member
    exact isBlank_of_mem_takeWhile character (List.mem_reverse.mp member)

theorem dropWhile_isBlank_append {word back : List Char} (some : word ≠ [])
    (bare : ∀ character ∈ word, isBlank character = false) :
    (word ++ back).dropWhile isBlank = word ++ back := by
  cases word with
  | nil => exact absurd rfl some
  | cons first rest =>
      apply List.dropWhile_cons_of_neg
      rw [bare first List.mem_cons_self]
      exact Bool.false_ne_true

/-- All blanks around a word without blanks are cut off. -/
theorem trim_of_holds {characters word : List Char} (some : word ≠ [])
    (bare : ∀ character ∈ word, isBlank character = false) (holds : Holds characters word) :
    trim characters = word := by
  obtain ⟨front, back, rfl, blankFront, blankBack⟩ := holds
  have someReversed : word.reverse ≠ [] := fun none => some (List.reverse_eq_nil_iff.mp none)
  have bareReversed : ∀ character ∈ word.reverse, isBlank character = false :=
    fun character member => bare character (List.mem_reverse.mp member)
  have blankReversed : ∀ character ∈ back.reverse, isBlank character = true :=
    fun character member => blankBack character (List.mem_reverse.mp member)
  have fromBehind := @dropWhile_isBlank_append _ [] someReversed bareReversed
  rw [List.append_nil] at fromBehind
  rw [trim, List.append_assoc, List.dropWhile_append_of_pos blankFront,
    dropWhile_isBlank_append some bare, List.reverse_append,
    List.dropWhile_append_of_pos blankReversed, fromBehind, List.reverse_reverse]

/-- A character that is no blank once it is written small was none before. -/
theorem isBlank_of_toLower {character : Char} (bare : isBlank character.toLower = false) :
    isBlank character = false := by
  by_cases upper : character.val ≥ 'A'.val ∧ character.val ≤ 'Z'.val
  · have low : 65 ≤ character.toNat := upper.1
    have high : character.toNat ≤ 90 := upper.2
    simp only [isBlank, Bool.or_eq_false_iff, Bool.and_eq_false_iff, decide_eq_false_iff_not,
      beq_eq_false_iff_ne]
    omega
  · have same : character.toLower = character := dif_neg upper
    rwa [same] at bare

theorem isBlank_of_isDigit {character : Char} (digit : character.isDigit = true) :
    isBlank character = false := by
  rw [Char.isDigit, Bool.and_eq_true, decide_eq_true_eq, decide_eq_true_eq] at digit
  have low : 48 ≤ character.toNat := digit.1
  have high : character.toNat ≤ 57 := digit.2
  simp only [isBlank, Bool.or_eq_false_iff, Bool.and_eq_false_iff, decide_eq_false_iff_not,
    beq_eq_false_iff_ne]
  omega

end Text

namespace Settings

/-! ## Switches -/

/-- The words for a switch position. -/
def switchWords : Bool → List String
  | true => ["1", "true", "yes", "on"]
  | false => ["0", "false", "no", "off"]

/-- The text has a word for the switch position, in small or in capital letters. -/
def SwitchText (text : String) (position : Bool) : Prop :=
  ∃ word, Text.Holds text.toList word ∧
    String.ofList (word.map Char.toLower) ∈ switchWords position

/-- Words for switch positions have no blanks. -/
theorem bare_of_mem_switchWords {position : Bool} {word : List Char}
    (member : String.ofList (word.map Char.toLower) ∈ switchWords position) :
    word ≠ [] ∧ ∀ character ∈ word, Text.isBlank character = false := by
  have good : (switchWords position).all (fun spelled => !spelled.toList.isEmpty &&
      spelled.toList.all fun character => !Text.isBlank character) = true := by
    cases position <;> decide
  have goodWord := List.all_eq_true.mp good _ member
  rw [Bool.and_eq_true, String.toList_ofList] at goodWord
  obtain ⟨some, bare⟩ := goodWord
  constructor
  · rintro rfl
    cases some
  · intro character inWord
    have small := List.all_eq_true.mp bare _ (List.mem_map_of_mem inWord)
    exact Text.isBlank_of_toLower (Bool.not_eq_true' _ |>.mp small)

theorem readSwitch?_eq_some {text : String} {position : Bool} :
    readSwitch? text = some position ↔ SwitchText text position := by
  have decided : readSwitch? text = some position ↔
      String.ofList ((Text.trim text.toList).map Char.toLower) ∈ switchWords position := by
    have apart : ∀ word ∈ switchWords false, word ∉ switchWords true := by decide
    simp only [readSwitch?, List.contains_eq_mem, decide_eq_true_eq]
    change (if _ ∈ switchWords true then some true
      else if _ ∈ switchWords false then some false else none) = some position ↔ _
    split
    · rename_i on
      cases position with
      | true => simp [on]
      | false => simpa using fun off => apart _ off on
    · rename_i notOn
      split
      · rename_i off
        cases position with
        | true => simpa using notOn
        | false => simp [off]
      · rename_i notOff
        cases position with
        | true => simpa using notOn
        | false => simpa using notOff
  rw [decided]
  constructor
  · intro member
    exact ⟨Text.trim text.toList, Text.holds_trim _, member⟩
  · rintro ⟨word, holds, member⟩
    obtain ⟨some, bare⟩ := bare_of_mem_switchWords member
    rwa [Text.trim_of_holds some bare holds]

/-! ## Sizes -/

/-- The number that decimal digits stand for: each digit counts as often as the power of ten
of its place. -/
def placeValue : List Char → Nat
  | [] => 0
  | digit :: rest =>
      (digit.toNat - '0'.toNat) * Nat.pow 10 rest.length + placeValue rest

theorem foldl_eq_placeValue (digits : List Char) (value : Nat) :
    digits.foldl (fun value digit => 10 * value + (digit.toNat - '0'.toNat)) value =
      value * Nat.pow 10 digits.length + placeValue digits := by
  induction digits generalizing value with
  | nil => exact (Nat.mul_one value).symm
  | cons digit rest ih =>
      have power : Nat.pow 10 (rest.length + 1) = 10 * Nat.pow 10 rest.length :=
        Nat.mul_comm _ _
      rw [List.foldl_cons, ih, placeValue, List.length_cons, power, Nat.add_mul,
        ← Nat.mul_assoc, Nat.mul_comm 10 value, Nat.add_assoc]

theorem readDigits?_eq_some {digits : List Char} {size : Nat} :
    readDigits? digits = some size ↔ digits ≠ [] ∧
      (∀ digit ∈ digits, digit.isDigit = true) ∧ placeValue digits = size := by
  rw [readDigits?, foldl_eq_placeValue, Nat.zero_mul, Nat.zero_add]
  cases digits with
  | nil => simp
  | cons first rest => simp [and_assoc]

/-- The text has decimal digits for the size, possibly behind a plus sign, and the size is a
word of 64 bits. -/
def SizeText (text : String) (size : Nat) : Prop :=
  ∃ sign digits, Text.Holds text.toList (sign ++ digits) ∧ (sign = [] ∨ sign = ['+']) ∧
    digits ≠ [] ∧ (∀ digit ∈ digits, digit.isDigit = true) ∧ placeValue digits = size ∧
    size < Nat.pow 2 64

/-- The characters behind a plus sign, if there is one in front. -/
def unsigned : List Char → List Char
  | '+' :: digits => digits
  | digits => digits

theorem readSize?_eq (text : String) :
    readSize? text = (readDigits? (unsigned (Text.trim text.toList))).bind fun size =>
      if size < Nat.pow 2 64 then some size else none := rfl

theorem exists_sign (characters : List Char) :
    ∃ sign, (sign = [] ∨ sign = ['+']) ∧ characters = sign ++ unsigned characters := by
  rw [unsigned.eq_def]
  split
  · exact ⟨['+'], .inr rfl, rfl⟩
  · exact ⟨[], .inl rfl, rfl⟩

theorem unsigned_append {sign digits : List Char} (signed : sign = [] ∨ sign = ['+'])
    (areDigits : ∀ digit ∈ digits, digit.isDigit = true) : unsigned (sign ++ digits) = digits := by
  rcases signed with rfl | rfl
  · rw [List.nil_append, unsigned.eq_def]
    split
    · have impossible := areDigits '+' List.mem_cons_self
      cases impossible
    · rfl
  · rfl

theorem readSize?_eq_some {text : String} {size : Nat} :
    readSize? text = some size ↔ SizeText text size := by
  have decided : readSize? text = some size ↔
      readDigits? (unsigned (Text.trim text.toList)) = some size ∧ size < Nat.pow 2 64 := by
    rw [readSize?_eq, Option.bind_eq_some_iff]
    constructor
    · rintro ⟨other, read, fits⟩
      split at fits
      · rename_i below
        cases fits
        exact ⟨read, below⟩
      · cases fits
    · rintro ⟨read, below⟩
      exact ⟨size, read, if_pos below⟩
  rw [decided, readDigits?_eq_some]
  constructor
  · rintro ⟨⟨some, areDigits, value⟩, below⟩
    obtain ⟨sign, signed, parts⟩ := exists_sign (Text.trim text.toList)
    refine ⟨sign, _, ?_, signed, some, areDigits, value, below⟩
    rw [← parts]
    exact Text.holds_trim _
  · rintro ⟨sign, digits, holds, signed, some, areDigits, value, below⟩
    have bare : ∀ character ∈ sign ++ digits, Text.isBlank character = false := by
      intro character member
      rcases List.mem_append.mp member with inSign | inDigits
      · rcases signed with rfl | rfl
        · cases inSign
        · rw [List.mem_singleton.mp inSign]
          decide
      · exact Text.isBlank_of_isDigit (areDigits character inDigits)
    rw [Text.trim_of_holds (List.append_ne_nil_of_right_ne_nil _ some) bare holds,
      unsigned_append signed areDigits]
    exact ⟨⟨some, areDigits, value⟩, below⟩

/-! ## What the variables tell -/

/-- The variables in the order in which they are read. -/
def keys : List String :=
  [legacyBlockingKey, dependencyTreeKey, batchSizeKey]

/-- The variable may hold the text. -/
def Permits (key text : String) : Prop :=
  if key = batchSizeKey then ∃ size, SizeText text size
  else ∃ position, SwitchText text position

/-- The variable holds nothing that it may not hold. -/
def Fits (lookup : String → Option String) (key : String) : Prop :=
  ∀ text, lookup key = some text → Permits key text

/-- The variable is the first one that holds a text it may not hold. -/
def Refused (lookup : String → Option String) (key text : String) : Prop :=
  ∃ before after, keys = before ++ key :: after ∧ (∀ earlier ∈ before, Fits lookup earlier) ∧
    lookup key = some text ∧ ¬ Permits key text

/-- The variable has a text for the value, or it is not there and the value is the one that
holds when nothing is said. -/
def Tells {α : Type} (Means : String → α → Prop) (default value : α) : Option String → Prop
  | none => value = default
  | some text => Means text value

/-- The settings are those that the variables tell. -/
structure Told (lookup : String → Option String) (settings : Settings) : Prop where
  legacyBlocking :
    Tells SwitchText standard.legacyBlocking settings.legacyBlocking (lookup legacyBlockingKey)
  dependencyTree :
    Tells SwitchText standard.dependencyTree settings.dependencyTree (lookup dependencyTreeKey)
  batchSize : ∃ size, Tells SizeText standard.batchSize size (lookup batchSizeKey) ∧
    settings.batchSize = max size 1

theorem forall_mem_keys {Holds : String → Prop} :
    (∀ key ∈ keys, Holds key) ↔
      Holds legacyBlockingKey ∧ Holds dependencyTreeKey ∧ Holds batchSizeKey := by
  simp [keys]

theorem permits_legacyBlockingKey {text : String} :
    Permits legacyBlockingKey text ↔ ∃ position, SwitchText text position := by
  rw [Permits, if_neg (by decide)]

theorem permits_dependencyTreeKey {text : String} :
    Permits dependencyTreeKey text ↔ ∃ position, SwitchText text position := by
  rw [Permits, if_neg (by decide)]

theorem permits_batchSizeKey {text : String} :
    Permits batchSizeKey text ↔ ∃ size, SizeText text size := by
  rw [Permits, if_pos rfl]

section OneVariable

variable {α : Type} {Means : String → α → Prop} {read? : String → Option α} {default : α}
  {found : Option String} (reads : ∀ {text value}, read? text = some value ↔ Means text value)

/-- A variable that tells a value holds what it may. -/
theorem Tells.means {value : α} (tells : Tells Means default value found) {text : String}
    (present : found = some text) : ∃ value, Means text value := by
  rw [present] at tells
  exact ⟨value, tells⟩

include reads

/-- A text that is read at all is read as one value. -/
theorem Tells.unique {left right : α} (tellsLeft : Tells Means default left found)
    (tellsRight : Tells Means default right found) : left = right := by
  cases found with
  | none => exact Eq.trans tellsLeft (Eq.symm tellsRight)
  | some text =>
      exact Option.some.inj ((reads.mpr tellsLeft).symm.trans (reads.mpr tellsRight))

/-- One variable is read if it holds what it may, and else refused as it was found. -/
theorem lookupOr_spec (lookup : String → Option String) (key : String) (default : α) :
    (∃ value, lookupOr lookup key read? default = .ok value ∧
      Tells Means default value (lookup key)) ∨
    ∃ text, lookupOr lookup key read? default = .error ⟨key, text⟩ ∧
      lookup key = some text ∧ ¬ ∃ value, Means text value := by
  rw [lookupOr.eq_def]
  split
  · rename_i absent
    rw [absent]
    exact .inl ⟨default, rfl, rfl⟩
  · rename_i text present
    rw [present]
    split
    · rename_i value read
      exact .inl ⟨value, rfl, reads.mp read⟩
    · rename_i unread
      refine .inr ⟨text, rfl, rfl, ?_⟩
      rintro ⟨value, means⟩
      rw [reads.mpr means] at unread
      cases unread

end OneVariable

/-! ## One outcome -/

/-- The variables that tell the settings hold what they may. -/
theorem Told.fits {lookup : String → Option String} {settings : Settings}
    (told : Told lookup settings) : ∀ key ∈ keys, Fits lookup key := by
  obtain ⟨blocking, tree, size, tells, -⟩ := told
  rw [forall_mem_keys]
  refine ⟨?_, ?_, ?_⟩
  · exact fun text present => permits_legacyBlockingKey.mpr (blocking.means present)
  · exact fun text present => permits_dependencyTreeKey.mpr (tree.means present)
  · exact fun text present => permits_batchSizeKey.mpr (tells.means present)

theorem Told.unique {lookup : String → Option String} {left right : Settings}
    (toldLeft : Told lookup left) (toldRight : Told lookup right) : left = right := by
  obtain ⟨blocking, tree, size, tells, batch⟩ := toldLeft
  obtain ⟨otherBlocking, otherTree, otherSize, otherTells, otherBatch⟩ := toldRight
  have sizes := Tells.unique readSize?_eq_some tells otherTells
  rw [Settings.mk.injEq, batch, otherBatch, sizes]
  exact ⟨Tells.unique readSwitch?_eq_some blocking otherBlocking,
    Tells.unique readSwitch?_eq_some tree otherTree, rfl⟩

/-- A list has one first item with a property. -/
theorem eq_of_first {α : Type} {Fine : α → Prop} {before after others behind : List α}
    {first other : α} (same : before ++ first :: after = others ++ other :: behind)
    (fine : ∀ item ∈ before, Fine item) (notFine : ¬ Fine first)
    (fineOthers : ∀ item ∈ others, Fine item) (notFineOther : ¬ Fine other) :
    first = other := by
  induction before generalizing others with
  | nil =>
      cases others with
      | nil => exact List.head_eq_of_cons_eq same
      | cons head rest =>
          have heads := List.head_eq_of_cons_eq same
          exact absurd (heads ▸ fineOthers head List.mem_cons_self) notFine
  | cons head rest ih =>
      obtain ⟨here, there⟩ := List.forall_mem_cons.mp fine
      cases others with
      | nil => exact absurd (List.head_eq_of_cons_eq same ▸ here) notFineOther
      | cons next further =>
          exact ih (List.tail_eq_of_cons_eq same) there
            (fun item member => fineOthers item (.tail _ member))

theorem Refused.not_fits {lookup : String → Option String} {key text : String}
    (refused : Refused lookup key text) : ¬ ∀ key ∈ keys, Fits lookup key := by
  obtain ⟨before, after, order, -, present, ill⟩ := refused
  intro fits
  rw [order] at fits
  exact ill (fits key (List.mem_append_right _ List.mem_cons_self) text present)

theorem Refused.unique {lookup : String → Option String} {key other text held : String}
    (refused : Refused lookup key text) (refusedOther : Refused lookup other held) :
    key = other ∧ text = held := by
  obtain ⟨before, after, order, fine, present, ill⟩ := refused
  obtain ⟨others, behind, orderOther, fineOther, presentOther, illOther⟩ := refusedOther
  have first : key = other :=
    eq_of_first (order.symm.trans orderOther) fine (fun fits => ill (fits text present))
      fineOther (fun fits => illOther (fits held presentOther))
  rw [first, presentOther] at present
  exact ⟨first, (Option.some.inj present).symm⟩

/-! ## Reading the variables -/

theorem ofLookup_spec (lookup : String → Option String) :
    (∃ settings, ofLookup lookup = .ok settings ∧ Told lookup settings) ∨
    ∃ key text, ofLookup lookup = .error ⟨key, text⟩ ∧ Refused lookup key text := by
  rcases lookupOr_spec readSwitch?_eq_some lookup legacyBlockingKey standard.legacyBlocking with
    ⟨blocking, readBlocking, tellsBlocking⟩ | ⟨text, unread, present, ill⟩
  · have fitBlocking : Fits lookup legacyBlockingKey := fun text present =>
      permits_legacyBlockingKey.mpr (tellsBlocking.means present)
    rcases lookupOr_spec readSwitch?_eq_some lookup dependencyTreeKey standard.dependencyTree with
      ⟨tree, readTree, tellsTree⟩ | ⟨text, unread, present, ill⟩
    · have fitTree : Fits lookup dependencyTreeKey := fun text present =>
        permits_dependencyTreeKey.mpr (tellsTree.means present)
      rcases lookupOr_spec readSize?_eq_some lookup batchSizeKey standard.batchSize with
        ⟨size, readBatch, tellsBatch⟩ | ⟨text, unread, present, ill⟩
      · refine .inl ⟨withBatchSize ⟨blocking, tree, standard.batchSize⟩ size, ?_,
          tellsBlocking, tellsTree, size, tellsBatch, rfl⟩
        rw [ofLookup, readBlocking, readTree, readBatch]
        rfl
      · refine .inr ⟨batchSizeKey, text, ?_, [legacyBlockingKey, dependencyTreeKey], [], rfl, ?_,
          present, fun permits => ill (permits_batchSizeKey.mp permits)⟩
        · rw [ofLookup, readBlocking, readTree, unread]
          rfl
        · simp only [List.forall_mem_cons]
          exact ⟨fitBlocking, fitTree, fun _ none => absurd none List.not_mem_nil⟩
    · refine .inr ⟨dependencyTreeKey, text, ?_, [legacyBlockingKey], [batchSizeKey], rfl, ?_,
        present, fun permits => ill (permits_dependencyTreeKey.mp permits)⟩
      · rw [ofLookup, readBlocking, unread]
        rfl
      · simp only [List.forall_mem_cons]
        exact ⟨fitBlocking, fun _ none => absurd none List.not_mem_nil⟩
  · refine .inr ⟨legacyBlockingKey, text, ?_, [], [dependencyTreeKey, batchSizeKey], rfl,
      fun _ none => absurd none List.not_mem_nil, present,
      fun permits => ill (permits_legacyBlockingKey.mp permits)⟩
    rw [ofLookup, unread]
    rfl

theorem ofLookup_eq_ok {lookup : String → Option String} {settings : Settings} :
    ofLookup lookup = .ok settings ↔ Told lookup settings := by
  rcases ofLookup_spec lookup with ⟨found, read, told⟩ | ⟨key, text, unread, refused⟩
  · rw [read]
    constructor
    · intro same
      cases same
      exact told
    · intro other
      rw [told.unique other]
  · rw [unread]
    constructor
    · intro impossible
      cases impossible
    · intro told
      exact absurd told.fits refused.not_fits

theorem ofLookup_eq_error {lookup : String → Option String} {key text : String} :
    ofLookup lookup = .error ⟨key, text⟩ ↔ Refused lookup key text := by
  rcases ofLookup_spec lookup with ⟨found, read, told⟩ | ⟨other, held, unread, refused⟩
  · rw [read]
    constructor
    · intro impossible
      cases impossible
    · intro refused
      exact absurd told.fits refused.not_fits
  · rw [unread]
    constructor
    · intro same
      cases same
      exact refused
    · intro asked
      obtain ⟨rfl, rfl⟩ := refused.unique asked
      rfl

/-! ## Settings that are written down -/

theorem holds_self (text : String) : Text.Holds text.toList text.toList := by
  refine ⟨[], [], ?_, fun _ none => absurd none List.not_mem_nil,
    fun _ none => absurd none List.not_mem_nil⟩
  rw [List.nil_append, List.append_nil]

theorem switchText_toString (position : Bool) : SwitchText (toString position) position := by
  refine ⟨(toString position).toList, holds_self _, ?_⟩
  cases position <;> decide

theorem sizeText_toString {size : Nat} (below : size < Nat.pow 2 64) :
    SizeText (toString size) size := by
  refine ⟨[], (toString size).toList, holds_self _, .inl rfl, ?_, isDigit_of_mem_toString, ?_,
    below⟩
  · rw [toList_toString]
    exact Nat.toDigits_ne_nil
  · have folded := foldl_eq_placeValue (toString size).toList 0
    rw [Nat.zero_mul, Nat.zero_add] at folded
    rw [← folded, toList_toString, ← Nat.ofDigitChars_eq_foldl, Nat.ofDigitChars_ten_toDigits]

theorem told_of_written {lookup : String → Option String} {settings : Settings}
    (some : 1 ≤ settings.batchSize) (below : settings.batchSize < Nat.pow 2 64)
    (blocking : lookup legacyBlockingKey = .some (toString settings.legacyBlocking))
    (tree : lookup dependencyTreeKey = .some (toString settings.dependencyTree))
    (batch : lookup batchSizeKey = .some (toString settings.batchSize)) :
    Told lookup settings where
  legacyBlocking := by
    rw [blocking]
    exact switchText_toString _
  dependencyTree := by
    rw [tree]
    exact switchText_toString _
  batchSize := by
    rw [batch]
    exact ⟨settings.batchSize, sizeText_toString below, (Nat.max_eq_left some).symm⟩

/-! ## Reading the settings -/

/-- The settings are read just if each variable that is there holds a text of its grammar, and
they are then those that the variables tell.  Else the first variable that does not is refused,
with its text as it was found.  Settings that are written into the variables are read back. -/
theorem ofLookup_reads (lookup : String → Option String) :
    ((∃ settings, ofLookup lookup = .ok settings) ↔
      ∀ key ∈ keys, ∀ text, lookup key = some text → Permits key text) ∧
    (∀ settings, ofLookup lookup = .ok settings ↔ Told lookup settings) ∧
    (∀ key text, ofLookup lookup = .error ⟨key, text⟩ ↔ Refused lookup key text) ∧
    ∀ settings : Settings, 1 ≤ settings.batchSize → settings.batchSize < Nat.pow 2 64 →
      lookup legacyBlockingKey = some (toString settings.legacyBlocking) →
      lookup dependencyTreeKey = some (toString settings.dependencyTree) →
      lookup batchSizeKey = some (toString settings.batchSize) →
      ofLookup lookup = .ok settings := by
  refine ⟨?_, fun _ => ofLookup_eq_ok, fun _ _ => ofLookup_eq_error, ?_⟩
  · constructor
    · rintro ⟨settings, read⟩
      exact (ofLookup_eq_ok.mp read).fits
    · intro fits
      rcases ofLookup_spec lookup with ⟨settings, read, -⟩ | ⟨key, text, -, refused⟩
      · exact ⟨settings, read⟩
      · exact absurd fits refused.not_fits
  · intro settings some below blocking tree batch
    exact ofLookup_eq_ok.mpr (told_of_written some below blocking tree batch)

example : (ofLookup fun key => if key = batchSizeKey then some " +007 " else none).toOption =
    some ⟨false, true, 7⟩ := by decide

end Settings

end Rollup
