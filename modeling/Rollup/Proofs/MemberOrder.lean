import Rollup.Event
import Rollup.Pass.Hooks
import Rollup.Proofs.Records

/-!
# The order of members

An object answers for a name with what stands under it, wherever that is.  So the members of a
record can be put into another order before it is read.  This holds of records whose kind is
told by a member as well: what is left when this one is taken out stands in another order, and
in no other way differs.
-/

namespace Rollup

namespace Wire

/-- The members of an object can be put into another order before it is read. -/
def ReadsAnyOrder {α : Type} (read? : Json → Option α) : Prop :=
  ∀ members others : List (Json.Key × Json), members.Perm others →
    read? (.object members) = read? (.object others)

/-- No item, one item, or several of them: another order changes nothing about it. -/
theorem none_one_or_several {α : Type} {here there : List α} (same : here.Perm there) :
    (here = [] ∧ there = []) ∨ (∃ item, here = [item] ∧ there = [item]) ∨
      ∃ first second rest other another others,
        here = first :: second :: rest ∧ there = other :: another :: others := by
  rcases here with _ | ⟨first, _ | ⟨second, rest⟩⟩
  · exact .inl ⟨rfl, List.nil_perm.mp same⟩
  · exact .inr (.inl ⟨first, rfl, (List.singleton_perm.mp same).symm⟩)
  · have count := same.length_eq
    rcases there with _ | ⟨other, _ | ⟨another, others⟩⟩
    · cases count
    · cases count
    · exact .inr (.inr ⟨first, second, rest, other, another, others, rfl, rfl⟩)

section Members

variable {members others : List (Json.Key × Json)} (same : members.Perm others)

include same

theorem slotNamed?_perm (name : String) : slotNamed? members name = slotNamed? others name := by
  have values : (valuesNamed name members).Perm (valuesNamed name others) :=
    (same.filter _).map _
  obtain ⟨here, there⟩ | ⟨value, here, there⟩ | ⟨_, _, _, _, _, _, here, there⟩ :=
    none_one_or_several values
  · rw [slotNamed?_of_valuesNamed_nil here, slotNamed?_of_valuesNamed_nil there]
  · rw [slotNamed?_of_valuesNamed here, slotNamed?_of_valuesNamed there]
  · rw [slotNamed?_of_valuesNamed_several here, slotNamed?_of_valuesNamed_several there]

theorem slots?_perm (names : List String) :
    slots? names (.object members) = slots? names (.object others) := by
  have slots : slotNamed? members = slotNamed? others := funext (slotNamed?_perm same)
  rw [slots?, slots?, memberSlots?, memberSlots?, same.all_eq, slots]

theorem membersReadable_perm (depth : Nat) :
    Json.membersReadable depth members = Json.membersReadable depth others := by
  rw [Bool.eq_iff_iff, membersReadable_iff, membersReadable_iff]
  exact forall_congr' fun member => imp_congr_left same.mem_iff

/-- The kind of a tagged record is told alike, and the rest of it has another order only. -/
theorem tagged?_perm :
    (tagged? (.object members) = none ∧ tagged? (.object others) = none) ∨
      ∃ tag content rest, content.Perm rest ∧
        tagged? (.object members) = some ⟨tag, .object content⟩ ∧
        tagged? (.object others) = some ⟨tag, .object rest⟩ := by
  let isTag : Json.Key × Json → Bool := fun member => member.1.text == some "type"
  have tags := none_one_or_several (same.filter isTag)
  have contents : (members.filter fun member => !isTag member).Perm
      (others.filter fun member => !isTag member) := same.filter _
  have readable := membersReadable_perm contents (depthLimit - 1)
  simp only [isTag] at tags contents readable
  rw [tagged?, tagged?]
  obtain ⟨here, there⟩ | ⟨⟨key, value⟩, here, there⟩ | ⟨_, _, _, _, _, _, here, there⟩ := tags
  · simp only [here, there, and_self, true_or]
  · simp only [here, there, readable]
    split
    · split
      · exact .inr ⟨_, _, _, contents, rfl, rfl⟩
      · exact .inl ⟨rfl, rfl⟩
    · exact .inl ⟨rfl, rfl⟩
  · simp only [here, there, and_self, true_or]

end Members

namespace ReadsAnyOrder

variable {α : Type} {read? : Json → Option α}

/-- What is read of an object by the names of its fields. -/
theorem of_slots {names : List String} {ofSlots? : List Slot → Option α}
    (bySlots : ∀ json, read? json = (slots? names json).bind ofSlots?) : ReadsAnyOrder read? := by
  intro members others same
  rw [bySlots, bySlots, slots?_perm same]

/-- What is read of an object by its kind and by what is left of it. -/
theorem of_tagged {ofTagged? : Tagged → Option α}
    (byTag : ∀ json, read? json = (tagged? json).bind ofTagged?)
    (content : ∀ tag, ReadsAnyOrder fun content => ofTagged? ⟨tag, content⟩) :
    ReadsAnyOrder read? := by
  intro members others same
  rw [byTag, byTag]
  obtain ⟨here, there⟩ | ⟨tag, left, right, contents, here, there⟩ := tagged?_perm same
  · rw [here, there]
  · rw [here, there, Option.bind_some, Option.bind_some]
    exact content tag _ _ contents

/-- So an object can be written by its keys. -/
theorem ofMembersByKey (order : ReadsAnyOrder read?) (members : List (String × Json)) :
    read? (.ofMembersByKey members) = read? (.ofMembers members) :=
  order _ _ ((List.mergeSort_perm members _).map _)

end ReadsAnyOrder

end Wire

theorem Scheduling.readsAnyOrder : Wire.ReadsAnyOrder ofJson? := by
  apply Wire.ReadsAnyOrder.of_tagged (fun _ => rfl)
  intro tag members others same
  simp only [Wire.slots?_perm same]

theorem Event.readsAnyOrder : Wire.ReadsAnyOrder ofJson? := by
  apply Wire.ReadsAnyOrder.of_tagged (fun _ => rfl)
  intro tag members others same
  simp only [Wire.slots?_perm same]

end Rollup
