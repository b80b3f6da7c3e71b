import Mathlib.Data.List.Forall2

/-!
# Lists of named items

An item is found by a test that its name passes, and edited where it stands.  What is done to the
first item found in one list, and to the first one found in a related list, keeps them related.
-/

namespace KeyedList

variable {Item Other Name : Type*}

/-- Edit the first item that passes a test, if there is one. -/
def editFirst (test : Item → Bool) (edit : Item → Item) : List Item → Option (List Item)
  | [] => none
  | item :: items =>
      if test item then some (edit item :: items)
      else (editFirst test edit items).map (item :: ·)

/-- The edit by position. -/
theorem editFirst_eq_findIdx (test : Item → Bool) (edit : Item → Item) (items : List Item) :
    editFirst test edit items = (items.findIdx? test).map fun index => items.modify index edit := by
  induction items with
  | nil => rfl
  | cons item items induction =>
      rw [editFirst, List.findIdx?_cons]
      split
      · rfl
      · rw [induction]
        cases items.findIdx? test <;> rfl

theorem editFirst_eq_none_iff {test : Item → Bool} {edit : Item → Item} {items : List Item} :
    editFirst test edit items = none ↔ ∀ item ∈ items, test item = false := by
  rw [editFirst_eq_findIdx, Option.map_eq_none_iff, List.findIdx?_eq_none_iff]

/-- Edits that keep related items related keep related lists related. -/
theorem editFirst_related {Related : Item → Other → Prop} {test : Item → Bool}
    {test' : Other → Bool} {edit : Item → Item} {edit' : Other → Other} {items : List Item}
    {others : List Other} (agree : ∀ item other, Related item other → test item = test' other)
    (edits : ∀ item other, Related item other → test item = true →
      Related (edit item) (edit' other))
    (related : List.Forall₂ Related items others) :
    Option.Rel (List.Forall₂ Related) (editFirst test edit items)
      (editFirst test' edit' others) := by
  induction related with
  | nil => exact .none
  | @cons item other items others head tail induction =>
      rw [editFirst, editFirst, ← agree item other head]
      split
      · exact .some (.cons (edits item other head ‹_›) tail)
      · generalize editFirst test edit items = left at induction
        generalize editFirst test' edit' others = right at induction
        cases induction with
        | none => exact .none
        | some rest => exact .some (.cons head rest)

/-- Adding an item where there is none to edit keeps related lists related. -/
theorem editFirst_getD_related {Related : Item → Other → Prop} {test : Item → Bool}
    {test' : Other → Bool} {edit : Item → Item} {edit' : Other → Other} {items : List Item}
    {others : List Other} {added : Item} {added' : Other}
    (agree : ∀ item other, Related item other → test item = test' other)
    (edits : ∀ item other, Related item other → test item = true →
      Related (edit item) (edit' other))
    (new : Related added added') (related : List.Forall₂ Related items others) :
    List.Forall₂ Related ((editFirst test edit items).getD (items ++ [added]))
      ((editFirst test' edit' others).getD (others ++ [added'])) := by
  have done := editFirst_related agree edits related
  generalize editFirst test edit items = left at done
  generalize editFirst test' edit' others = right at done
  cases done with
  | none => exact List.rel_append related (.cons new .nil)
  | some edited => exact edited

variable [DecidableEq Name] (name : Item → Name)

/-- The item of a name. -/
def find (key : Name) (items : List Item) : Option Item := items.find? fun item => name item = key

/-- Edit the item of a name, or add one. -/
def upsert (key : Name) (edit : Item → Item) (added : Item) (items : List Item) : List Item :=
  (editFirst (fun item => name item = key) edit items).getD (items ++ [added])

/-- Remove the items of a name. -/
def remove (key : Name) (items : List Item) : List Item := items.filter fun item => name item ≠ key

variable {name}

/-- An edit that keeps the names changes what is found under one of them only. -/
theorem find_editFirst {key other : Name} {edit : Item → Item} {items edited : List Item}
    (keeps : ∀ item, name (edit item) = name item)
    (done : editFirst (fun item => name item = key) edit items = some edited) :
    find name other edited = if other = key then (find name key items).map edit
      else find name other items := by
  induction items generalizing edited with
  | nil => cases done
  | cons item items induction =>
      rw [editFirst] at done
      split at done
      · rename_i named
        have named : name item = key := of_decide_eq_true named
        obtain rfl := Option.some.inj done
        by_cases same : other = key
        · rw [if_pos same, find, find, List.find?_cons_of_pos (by simp [keeps, named, same]),
            List.find?_cons_of_pos (by simp [named])]
          rfl
        · rw [if_neg same, find, find,
            List.find?_cons_of_neg (by simp [keeps, named, Ne.symm same]),
            List.find?_cons_of_neg (by simp [named, Ne.symm same])]
      · rename_i different
        have different : name item ≠ key := by simpa using different
        obtain ⟨rest, inner, rfl⟩ := Option.map_eq_some_iff.mp done
        have later := induction inner
        by_cases here : name item = other
        · subst here
          rw [if_neg different, find, find, List.find?_cons_of_pos (by simp),
            List.find?_cons_of_pos (by simp)]
        · rw [find, List.find?_cons_of_neg (by simp [here])]
          rw [find] at later
          rw [later]
          simp only [find]
          split
          · rw [List.find?_cons_of_neg (by simp [different])]
          · rw [List.find?_cons_of_neg (by simp [here])]

theorem find_upsert {key other : Name} {edit : Item → Item} {added : Item} {items : List Item}
    (keeps : ∀ item, name (edit item) = name item) (named : name added = key) :
    find name other (upsert name key edit added items) =
      if other = key then some (((find name key items).map edit).getD added)
      else find name other items := by
  rw [upsert]
  cases done : editFirst (fun item => name item = key) edit items with
  | none =>
      have absent := editFirst_eq_none_iff.mp done
      have missing : find name key items = none :=
        List.find?_eq_none.mpr fun item member => by simpa using absent item member
      rw [Option.getD_none, missing]
      by_cases same : other = key
      · subst same
        rw [find] at missing
        simp [find, missing, named]
      · rw [if_neg same, find, List.find?_append]
        simp [find, named, Ne.symm same]
  | some edited =>
      rw [Option.getD_some, find_editFirst keeps done]
      split
      · have present : (find name key items).isSome := by
          rw [find, List.find?_isSome]
          by_contra absent
          have none : editFirst (fun item => name item = key) edit items = none :=
            editFirst_eq_none_iff.mpr fun item member => by
              simpa using fun passes => absent ⟨item, member, by simpa using passes⟩
          rw [none] at done
          cases done
        obtain ⟨item, found⟩ := Option.isSome_iff_exists.mp present
        rw [found]
        rfl
      · rfl

theorem find_remove (key other : Name) (items : List Item) :
    find name other (remove name key items) =
      if other = key then none else find name other items := by
  rw [find, remove, List.find?_filter]
  split
  · rename_i same
    subst same
    exact List.find?_eq_none.mpr fun item _ => by simp
  · rename_i different
    rw [find]
    congr 1
    funext item
    by_cases here : name item = other
    · simp [here, different]
    · simp [here]

/-- Nothing is removed exactly when nothing is found. -/
theorem length_remove_eq_iff {key : Name} {items : List Item} :
    (remove name key items).length = items.length ↔ find name key items = none := by
  rw [remove, List.length_filter_eq_length_iff, find, List.find?_eq_none]
  simp

end KeyedList
