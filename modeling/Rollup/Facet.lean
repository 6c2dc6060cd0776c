import Rollup.Job

/-!
# Facets and facet sets

Priority rules do not see jobs but facets: the status of a job, or one of two
markers that stand for a tolerated failure. A set of facets is a word with one
bit per facet. Its meaning is the membership test `FacetSet.contains`, and every
operation has one lemma that says what it does to that test.
-/

namespace Rollup

/-- What the rules see of a job. -/
inductive Facet where
  | created
  | waitingForResource
  | preparing
  | pending
  | running
  | success
  | failed
  | canceled
  | skipped
  | manual
  | scheduled
  /-- A tolerated failure that counts as a success. -/
  | successWithWarnings
  /-- A tolerated failure that does not count at all. -/
  | ignored
  deriving DecidableEq, Repr

namespace Facet

def all : List Facet :=
  [.created, .waitingForResource, .preparing, .pending, .running, .success,
    .failed, .canceled, .skipped, .manual, .scheduled, .successWithWarnings,
    .ignored]

@[simp] theorem mem_all (facet : Facet) : facet ∈ all := by
  cases facet <;> decide

/-- The place of a facet in declaration order. -/
def index : Facet → Fin 13
  | .created => 0
  | .waitingForResource => 1
  | .preparing => 2
  | .pending => 3
  | .running => 4
  | .success => 5
  | .failed => 6
  | .canceled => 7
  | .skipped => 8
  | .manual => 9
  | .scheduled => 10
  | .successWithWarnings => 11
  | .ignored => 12

@[simp] theorem index_inj {left right : Facet} :
    left.index = right.index ↔ left = right := by
  constructor
  · cases left <;> cases right <;> decide
  · rintro rfl; rfl

theorem exists_index (place : Fin 13) : ∃ facet : Facet, facet.index = place := by
  match place with
  | 0 => exact ⟨.created, rfl⟩
  | 1 => exact ⟨.waitingForResource, rfl⟩
  | 2 => exact ⟨.preparing, rfl⟩
  | 3 => exact ⟨.pending, rfl⟩
  | 4 => exact ⟨.running, rfl⟩
  | 5 => exact ⟨.success, rfl⟩
  | 6 => exact ⟨.failed, rfl⟩
  | 7 => exact ⟨.canceled, rfl⟩
  | 8 => exact ⟨.skipped, rfl⟩
  | 9 => exact ⟨.manual, rfl⟩
  | 10 => exact ⟨.scheduled, rfl⟩
  | 11 => exact ⟨.successWithWarnings, rfl⟩
  | 12 => exact ⟨.ignored, rfl⟩

/-- The facet of a job that is in the given status. -/
def ofStatus : Status → Facet
  | .created => .created
  | .waitingForResource => .waitingForResource
  | .preparing => .preparing
  | .pending => .pending
  | .running => .running
  | .success => .success
  | .failed => .failed
  | .canceled => .canceled
  | .skipped => .skipped
  | .manual => .manual
  | .scheduled => .scheduled

@[simp] theorem ofStatus_inj {left right : Status} :
    ofStatus left = ofStatus right ↔ left = right := by
  constructor
  · cases left <;> cases right <;> decide
  · rintro rfl; rfl

def name : Facet → String
  | .created => "created"
  | .waitingForResource => "waiting_for_resource"
  | .preparing => "preparing"
  | .pending => "pending"
  | .running => "running"
  | .success => "success"
  | .failed => "failed"
  | .canceled => "canceled"
  | .skipped => "skipped"
  | .manual => "manual"
  | .scheduled => "scheduled"
  | .successWithWarnings => "success_with_warnings"
  | .ignored => "ignored"

/-- The facet with a given written name. -/
def ofName? (text : String) : Option Facet :=
  all.find? fun facet => facet.name == text

@[simp] theorem ofName?_name (facet : Facet) :
    ofName? facet.name = some facet := by
  cases facet <;> decide

/-- The name of a facet in descriptions for developers. -/
def label : Facet → String
  | .created => "Created"
  | .waitingForResource => "WaitingForResource"
  | .preparing => "Preparing"
  | .pending => "Pending"
  | .running => "Running"
  | .success => "Success"
  | .failed => "Failed"
  | .canceled => "Canceled"
  | .skipped => "Skipped"
  | .manual => "Manual"
  | .scheduled => "Scheduled"
  | .successWithWarnings => "SuccessWithWarnings"
  | .ignored => "Ignored"

end Facet

/-- A set of facets: bit `facet.index` is on when the facet is a member. -/
structure FacetSet where
  bits : BitVec 13
  deriving DecidableEq, Repr

namespace FacetSet

def empty : FacetSet :=
  ⟨0#13⟩

def contains (set : FacetSet) (facet : Facet) : Bool :=
  set.bits.getLsbD facet.index

/-- Two sets with the same members are equal. -/
theorem ext_contains {left right : FacetSet}
    (same : ∀ facet, left.contains facet = right.contains facet) : left = right := by
  obtain ⟨left⟩ := left
  obtain ⟨right⟩ := right
  congr 1
  apply BitVec.eq_of_getLsbD_eq
  intro place inRange
  obtain ⟨facet, indexEq⟩ := Facet.exists_index ⟨place, inRange⟩
  have member := same facet
  simpa [contains, indexEq] using member

/-- Whether the facet of a status is a member. -/
def containsStatus (set : FacetSet) (status : Status) : Bool :=
  set.contains (.ofStatus status)

/-- A status is in a set if its facet is. -/
instance : Membership Status FacetSet where
  mem set status := set.containsStatus status = true

instance (status : Status) (set : FacetSet) : Decidable (status ∈ set) :=
  inferInstanceAs (Decidable (set.containsStatus status = true))

@[simp] theorem containsStatus_eq_true {set : FacetSet} {status : Status} :
    set.containsStatus status = true ↔ status ∈ set :=
  Iff.rfl

@[simp] theorem contains_empty (facet : Facet) : empty.contains facet = false := by
  simp [contains, empty]

def insert (set : FacetSet) (facet : Facet) : FacetSet :=
  ⟨set.bits ||| BitVec.twoPow 13 facet.index⟩

@[simp] theorem contains_insert (set : FacetSet) (added facet : Facet) :
    (set.insert added).contains facet =
      (set.contains facet || decide (facet = added)) := by
  have inRange : (facet.index : Nat) < 13 := facet.index.isLt
  simp [contains, insert, inRange, Fin.val_inj]

def ofList (facets : List Facet) : FacetSet :=
  facets.foldl insert empty

/-- The facets of the given statuses. -/
def ofStatuses (statuses : List Status) : FacetSet :=
  ofList (statuses.map .ofStatus)

def toList (set : FacetSet) : List Facet :=
  Facet.all.filter set.contains

@[simp] theorem mem_toList {set : FacetSet} {facet : Facet} :
    facet ∈ set.toList ↔ set.contains facet = true := by
  simp [toList]

def isEmpty (set : FacetSet) : Bool :=
  set.bits == 0#13

/-- Whether the set has a member, and only members of `allowed`. -/
def onlyOf (set allowed : FacetSet) : Bool :=
  !set.isEmpty && (set.bits &&& ~~~allowed.bits) == 0#13

def anyOf (set other : FacetSet) : Bool :=
  (set.bits &&& other.bits) != 0#13

/-- A description for developers: the members between braces. -/
def describe (set : FacetSet) : String :=
  "\x7b" ++ ", ".intercalate (set.toList.map Facet.label) ++ "\x7d"

end FacetSet

end Rollup
