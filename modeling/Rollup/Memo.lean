import Rollup.Journal

/-!
# The memo

Composites of windows, kept from one question to the next, with counters of how
often that helped.
-/

namespace Rollup

/-- How often the memo was asked and emptied. -/
structure MemoStats where
  /-- Questions that the memo answered. -/
  hits : Nat
  /-- Questions whose answer had to be computed. -/
  misses : Nat
  /-- How often everything was forgotten. -/
  invalidations : Nat
  deriving DecidableEq, Repr

/-- Composites by window. -/
structure Memo where
  entries : List (Window × Status)
  stats : MemoStats
  deriving DecidableEq, Repr

namespace Memo

/-- A memo that holds nothing and was never asked. -/
def empty : Memo :=
  ⟨[], ⟨0, 0, 0⟩⟩

/-- The composite kept for a window. -/
def find? (memo : Memo) (window : Window) : Option Status :=
  (memo.entries.find? fun entry => entry.1 = window).map Prod.snd

/-- Count a question that was answered. -/
def countHit (memo : Memo) : Memo :=
  { memo with stats := { memo.stats with hits := memo.stats.hits + 1 } }

/-- Keep a composite that had to be computed. -/
def insert (memo : Memo) (window : Window) (status : Status) : Memo where
  entries := (window, status) :: memo.entries
  stats := { memo.stats with misses := memo.stats.misses + 1 }

/-- Forget every composite. -/
def invalidate (memo : Memo) : Memo where
  entries := []
  stats := { memo.stats with invalidations := memo.stats.invalidations + 1 }

@[simp] theorem find?_empty (window : Window) : empty.find? window = none := rfl

@[simp] theorem find?_countHit (memo : Memo) (window : Window) :
    memo.countHit.find? window = memo.find? window := rfl

@[simp] theorem find?_insert (memo : Memo) (window other : Window) (status : Status) :
    (memo.insert window status).find? other =
      if window = other then some status else memo.find? other := by
  by_cases same : window = other <;> simp [find?, insert, same]

@[simp] theorem find?_invalidate (memo : Memo) (window : Window) :
    memo.invalidate.find? window = none := rfl

end Memo

namespace MemoStats

def toJson (stats : MemoStats) : Json :=
  .ofMembers
    [ ("hits", .ofNat stats.hits),
      ("misses", .ofNat stats.misses),
      ("invalidations", .ofNat stats.invalidations) ]

/-- Read the counters, each a word of 64 bits. -/
def ofJson? (json : Json) : Option MemoStats := do
  let counter := Wire.Slot.required (Wire.natBelow? (Nat.pow 2 64))
  match ← Wire.slots? ["hits", "misses", "invalidations"] json with
  | [hits, misses, invalidations] =>
      some ⟨← counter hits, ← counter misses, ← counter invalidations⟩
  | _ => none

end MemoStats

end Rollup
