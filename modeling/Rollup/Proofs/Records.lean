import Rollup.Proofs.Numerals

/-!
# Records in their written form

An object gives the fields of a record in any order, each under its name.  A field that
has its default may be left out, and members of other names are passed over.  What such an
object answers about a field is the value of the field, or nothing where the default holds.
-/

namespace Rollup

namespace Wire

/-- A field of a record as it is written. -/
structure Field where
  name : String
  value : Json
  /-- Whether an object may leave the field out, because it has its default. -/
  optional : Bool

/-- A value without numbers and containers: a text, a truth value or null. -/
inductive IsPlain : Json → Prop where
  | text (text : String) : IsPlain (.ofString text)
  | bool (value : Bool) : IsPlain (.bool value)
  | null : IsPlain .null

/-- The values that members give under a name. -/
def valuesNamed (name : String) (members : List (Json.Key × Json)) : List Json :=
  (members.filter fun (key, _) => key.text == some name).map Prod.snd

/-- The members of an object that gives the fields of a record. -/
structure Gives (fields : List Field) (members : List (Json.Key × Json)) : Prop where
  /-- Every key denotes a text. -/
  texts : ∀ member ∈ members, member.1.text.isSome = true
  /-- Every field is given once, or left out if it may be. -/
  given : ∀ field ∈ fields, valuesNamed field.name members = [field.value] ∨
    field.optional = true ∧ valuesNamed field.name members = []
  /-- What is given besides is plain. -/
  plain : ∀ member ∈ members,
    member.1.text ∉ fields.map (fun field => some field.name) → IsPlain member.2

/-! ## Fields -/

/-- What a record answers about a field that it gives. -/
inductive Field.FoundIn (field : Field) : Slot → Prop where
  | given : field.FoundIn (.given field.value)
  | leftOut (optional : field.optional = true) : field.FoundIn .unnamed

/-- What a record answers about fields that it gives, one after the other. -/
inductive Found : List Field → List Slot → Prop where
  | nil : Found [] []
  | cons {field : Field} {fields : List Field} {slot : Slot} {slots : List Slot} :
      field.FoundIn slot → Found fields slots → Found (field :: fields) (slot :: slots)

theorem slotNamed?_of_valuesNamed {members : List (Json.Key × Json)} {name : String}
    {value : Json} (once : valuesNamed name members = [value]) :
    slotNamed? members name = some (.given value) := by
  obtain ⟨member, found, rfl⟩ := List.map_eq_singleton_iff.mp once
  rw [slotNamed?, found]

theorem slotNamed?_of_valuesNamed_nil {members : List (Json.Key × Json)} {name : String}
    (never : valuesNamed name members = []) : slotNamed? members name = some .unnamed := by
  rw [slotNamed?, List.map_eq_nil_iff.mp never]

theorem slotNamed?_of_valuesNamed_several {members : List (Json.Key × Json)} {name : String}
    {first second : Json} {rest : List Json}
    (several : valuesNamed name members = first :: second :: rest) :
    slotNamed? members name = none := by
  obtain ⟨_, _, found, -, more⟩ := List.map_eq_cons_iff.mp several
  obtain ⟨_, _, rfl, -, -⟩ := List.map_eq_cons_iff.mp more
  rw [slotNamed?, found]

/-- A member answers for its name, unless there is another one of the name. -/
theorem slotNamed?_of_mem {members : List (Json.Key × Json)} {key : Json.Key} {value : Json}
    {name : String} (member : (key, value) ∈ members) (named : key.text = some name) :
    slotNamed? members name = some (.given value) ∨ slotNamed? members name = none := by
  have found : (key, value) ∈ members.filter fun (key, _) => key.text == some name :=
    List.mem_filter.mpr ⟨member, by simp [named]⟩
  rw [slotNamed?]
  generalize members.filter (fun (key, _) => key.text == some name) = same at found
  rcases same with _ | ⟨only, _ | ⟨second, rest⟩⟩
  · cases found
  · obtain rfl := List.mem_singleton.mp found
    exact .inl rfl
  · exact .inr rfl

/-- An object with the one field that is asked for answers with its value, or cannot be
read. -/
theorem memberSlots?_of_mem {members : List (Json.Key × Json)} {key : Json.Key} {value : Json}
    {name : String} (member : (key, value) ∈ members) (named : key.text = some name) :
    memberSlots? [name] members = some [.given value] ∨ memberSlots? [name] members = none := by
  rw [memberSlots?]
  split
  · rcases slotNamed?_of_mem member named with given | none
    · simp [given]
    · simp [none]
  · exact .inr rfl

namespace Gives

variable {fields : List Field} {members : List (Json.Key × Json)}

theorem slot (gives : Gives fields members) {field : Field} (member : field ∈ fields) :
    ∃ slot, slotNamed? members field.name = some slot ∧ field.FoundIn slot := by
  rcases gives.given field member with once | ⟨optional, never⟩
  · exact ⟨_, slotNamed?_of_valuesNamed once, .given⟩
  · exact ⟨_, slotNamed?_of_valuesNamed_nil never, .leftOut optional⟩

/-- Some of the fields are asked for by their names. -/
theorem slots (gives : Gives fields members) {asked : List Field}
    (among : ∀ field ∈ asked, field ∈ fields) :
    ∃ slots, memberSlots? (asked.map Field.name) members = some slots ∧ Found asked slots := by
  have texts : (members.all fun (key, _) => key.text.isSome) = true :=
    List.all_eq_true.mpr gives.texts
  rw [memberSlots?, if_pos texts]
  clear texts
  induction asked with
  | nil => exact ⟨[], rfl, .nil⟩
  | cons field rest ih =>
      obtain ⟨here, there⟩ := List.forall_mem_cons.mp among
      obtain ⟨slot, answered, found⟩ := gives.slot here
      obtain ⟨slots, others, foundOthers⟩ := ih there
      exact ⟨slot :: slots, by simp [answered, others], .cons found foundOthers⟩

/-- Each member has the value of a field, or is plain. -/
theorem value (gives : Gives fields members) {member : Json.Key × Json}
    (among : member ∈ members) :
    (∃ field ∈ fields, member.2 = field.value) ∨ IsPlain member.2 := by
  by_cases known : member.1.text ∈ fields.map fun field => some field.name
  · left
    obtain ⟨field, inFields, named⟩ := List.mem_map.mp known
    have found : member.2 ∈ valuesNamed field.name members :=
      List.mem_map_of_mem (List.mem_filter.mpr ⟨among, by simp [named]⟩)
    refine ⟨field, inFields, ?_⟩
    rcases gives.given field inFields with once | ⟨_, never⟩
    · rw [once] at found
      exact List.mem_singleton.mp found
    · rw [never] at found
      cases found
  · exact .inr (gives.plain member among known)

end Gives

namespace Field.FoundIn

variable {α : Type} {field : Field} {slot : Slot} {read? : Json → Option α} {value : α}

theorem required (found : field.FoundIn slot) (needed : field.optional = false)
    (reads : read? field.value = some value) : slot.required read? = some value := by
  cases found with
  | given => exact reads
  | leftOut optional => simp [needed] at optional

theorem withDefault {default : α} (found : field.FoundIn slot)
    (assumed : field.optional = true → value = default)
    (reads : read? field.value = some value) :
    slot.withDefault default read? = some value := by
  cases found with
  | given => exact reads
  | leftOut optional => rw [assumed optional, Slot.withDefault]

/-- A flag that may be left out where it does not hold. -/
theorem flag {name : String} {value : Bool}
    (found : FoundIn ⟨name, .bool value, !value⟩ slot) :
    slot.withDefault false bool? = some value := by
  apply found.withDefault
  · simp
  · rfl

end Field.FoundIn

/-! ## Readable records -/

theorem IsPlain.isReadable {json : Json} (plain : IsPlain json) (depth : Nat) :
    Json.isReadable depth json = true := by
  cases plain <;> simp [Json.isReadable, Json.ofString]

@[simp] theorem isReadable_bool (value : Bool) (depth : Nat) :
    Json.isReadable depth (.bool value) = true :=
  (IsPlain.bool value).isReadable depth

@[simp] theorem isReadable_ofString (text : String) (depth : Nat) :
    Json.isReadable depth (.ofString text) = true :=
  (IsPlain.text text).isReadable depth

theorem isReadable_ofNat {value : Nat} (below : value < Nat.pow 2 64) (depth : Nat) :
    Json.isReadable depth (.ofNat value) = true := by
  rw [Json.ofNat, Json.isReadable]
  exact Json.Number.isFinite_ofNat below

theorem allReadable_iff {depth : Nat} {items : List Json} :
    Json.allReadable depth items = true ↔ ∀ item ∈ items, Json.isReadable depth item = true := by
  induction items with
  | nil => simp [Json.allReadable]
  | cons item rest ih => rw [Json.allReadable, Bool.and_eq_true, ih, List.forall_mem_cons]

theorem membersReadable_iff {depth : Nat} {members : List (Json.Key × Json)} :
    Json.membersReadable depth members = true ↔
      ∀ member ∈ members, member.1.text.isSome = true ∧ Json.isReadable depth member.2 = true := by
  induction members with
  | nil => simp [Json.membersReadable]
  | cons member rest ih =>
      rw [Json.membersReadable, Bool.and_eq_true, Bool.and_eq_true, ih, List.forall_mem_cons]

/-- An object is readable if the fields that it gives are. -/
theorem Gives.membersReadable {fields : List Field} {members : List (Json.Key × Json)}
    (gives : Gives fields members) {depth : Nat}
    (readable : ∀ field ∈ fields, Json.isReadable depth field.value = true) :
    Json.membersReadable depth members = true := by
  apply membersReadable_iff.mpr
  intro member among
  refine ⟨gives.texts member among, ?_⟩
  rcases gives.value among with ⟨field, inFields, same⟩ | plain
  · rw [same]
    exact readable field inFields
  · exact plain.isReadable depth

/-! ## Scalars -/

theorem natBelow?_ofNat {bound value : Nat} (below : value < bound) :
    natBelow? bound (.ofNat value) = some value := by
  simp [natBelow?, Json.ofNat, below]

theorem text?_ofString (text : String) : text? (.ofString text) = some text :=
  rfl

theorem word?_ofWord (word : UInt64) : word? (ofWord word) = some word := by
  rw [word?, ofWord, natBelow?_ofNat word.toNat_lt, Option.map_some]
  exact congrArg some UInt64.ofNat_toNat

theorem position?_ofPosition (position : Position) :
    position? (ofPosition position) = some position := by
  rw [position?, ofPosition, natBelow?_ofNat position.toNat_lt, Option.map_some]
  exact congrArg some UInt32.ofNat_toNat

theorem status?_ofStatus (reading : Reading) (status : Status) :
    status? reading (ofStatus status) = some status := by
  simp [status?, ofStatus, Json.ofString, name?]

@[simp] theorem isReadable_ofStatus (status : Status) (depth : Nat) :
    Json.isReadable depth (ofStatus status) = true :=
  isReadable_ofString status.name depth

@[simp] theorem isReadable_ofWord (word : UInt64) (depth : Nat) :
    Json.isReadable depth (ofWord word) = true :=
  isReadable_ofNat word.toNat_lt depth

@[simp] theorem isReadable_ofPosition (position : Position) (depth : Nat) :
    Json.isReadable depth (ofPosition position) = true :=
  isReadable_ofNat (Nat.lt_trans position.toNat_lt (by decide)) depth

/-! ## Lists -/

/-- A list is read if each item is. -/
theorem mapM_map_of_reads {α β γ : Type} {read? : β → Option γ} {write : α → β} {value : α → γ}
    {items : List α} (reads : ∀ item ∈ items, read? (write item) = some (value item)) :
    (items.map write).mapM read? = some (items.map value) := by
  induction items with
  | nil => rfl
  | cons item rest ih =>
      obtain ⟨here, there⟩ := List.forall_mem_cons.mp reads
      simp [here, ih there]

/-- A list of what is read as it is written is read as it is written. -/
theorem list?_array {α : Type} {read? : Json → Option α} {write : α → Json}
    (reads : ∀ item, read? (write item) = some item) (items : List α) :
    list? read? (.array (items.map write)) = some items := by
  have each := @mapM_map_of_reads _ _ _ read? write id items fun item _ => reads item
  rwa [List.map_id] at each

/-- A list is not read if one item is not. -/
theorem mapM_eq_none_of_mem {α β : Type} {read? : α → Option β} {items : List α} {item : α}
    (member : item ∈ items) (fails : read? item = none) : items.mapM read? = none := by
  induction items with
  | nil => cases member
  | cons first rest ih =>
      rw [List.mapM_cons]
      rcases List.mem_cons.mp member with rfl | later
      · rw [fails]
        rfl
      · rw [ih later]
        cases read? first <;> rfl

end Wire

end Rollup
