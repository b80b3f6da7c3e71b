import Mathlib.Data.UInt

/-!
# Operations that panic

Indexing panics outside of a slice, and arithmetic on `usize` panics where it overflows.
-/

namespace RustStd

/-- What a program would panic with. -/
inductive Fault
  | outOfBounds
  | overflow
  deriving DecidableEq, Repr

/-- A slice; no allocation is larger than `isize::MAX` bytes. -/
structure Slice (Item : Type) where
  /-- The items. -/
  items : List Item
  /-- There are not too many of them. -/
  bounded : items.length < 2 ^ 63

/-- `slice[position]`. -/
def indexed {Item : Type} (items : List Item) (position : Nat) : Except Fault Item :=
  match items[position]? with
  | some item => .ok item
  | none => .error .outOfBounds

/-- `slice.get(start..stop)`. -/
def getRange {Item : Type} (items : List Item) (start stop : Nat) : Option (List Item) :=
  if start ≤ stop ∧ stop ≤ items.length then some ((items.take stop).drop start) else none

/-- `+` on `usize`. -/
def addUsize (left right : Nat) : Except Fault Nat :=
  if left + right < 2 ^ 64 then .ok (left + right) else .error .overflow

/-- `-` on `usize`. -/
def subUsize (left right : Nat) : Except Fault Nat :=
  if right ≤ left then .ok (left - right) else .error .overflow

/-- `usize::checked_add`. -/
def checkedAdd (left right : Nat) : Option Nat :=
  if left + right < 2 ^ 64 then some (left + right) else none

theorem indexed_of_getElem? {Item : Type} {items : List Item} {position : Nat} {item : Item}
    (found : items[position]? = some item) : indexed items position = .ok item := by
  rw [indexed, found]

theorem addUsize_of_lt {left right : Nat} (small : left + right < 2 ^ 64) :
    addUsize left right = .ok (left + right) := if_pos small

theorem subUsize_of_le {left right : Nat} (order : right ≤ left) :
    subUsize left right = .ok (left - right) := if_pos order

theorem checkedAdd_of_lt {left right : Nat} (small : left + right < 2 ^ 64) :
    checkedAdd left right = some (left + right) := if_pos small

end RustStd
