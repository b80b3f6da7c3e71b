import Mathlib.Data.List.Forall2
import Mathlib.Data.Option.Basic

/-!
# Rust results

Inversion of fallible computations: what it means that a chain of `?`, or a transposed optional
conversion, succeeds.
-/

namespace RustStd.Result

variable {ε α β : Type}

theorem bind_eq_ok {first : Except ε α} {next : α → Except ε β} {value : β} :
    (first >>= next) = .ok value ↔ ∃ middle, first = .ok middle ∧ next middle = .ok value := by
  cases first <;> simp [bind, Except.bind]

theorem map_eq_ok {first : Except ε α} {f : α → β} {value : β} :
    f <$> first = .ok value ↔ ∃ middle, first = .ok middle ∧ f middle = value := by
  cases first <;> simp [Functor.map, Except.map]

@[simp] theorem pure_eq_ok {value result : α} :
    (pure value : Except ε α) = .ok result ↔ value = result := by
  simp [pure, Except.pure]

/-- `Option::ok_or`. -/
def okOr (value : Option α) (error : ε) : Except ε α :=
  match value with
  | some value => .ok value
  | none => .error error

@[simp] theorem okOr_eq_ok {value : Option α} {error : ε} {result : α} :
    okOr value error = .ok result ↔ value = some result := by
  cases value <;> simp [okOr]

/-- `Option::map(read).transpose()`. -/
def transposeMap (read : α → Except ε β) : Option α → Except ε (Option β)
  | none => .ok none
  | some value => (read value).map some

/-- A transposed conversion succeeds when the value is absent or converts. -/
theorem transposeMap_eq_ok {read : α → Except ε β} {value : Option α} {result : Option β} :
    transposeMap read value = .ok result ↔
      (∀ given ∈ value, ∃ converted, read given = .ok converted) ∧
        result = value.bind fun given => (read given).toOption := by
  cases value with
  | none => simp [transposeMap, eq_comm]
  | some value =>
      cases reading : read value with
      | error error => simp [transposeMap, reading, Except.map]
      | ok converted => simp [transposeMap, reading, Except.map, Except.toOption, eq_comm]

/-- Related lists give every element on the left a partner on the right. -/
theorem exists_right_of_forall₂ {Related : α → β → Prop} {left : List α} {right : List β}
    (related : List.Forall₂ Related left right) {value : α} (member : value ∈ left) :
    ∃ partner ∈ right, Related value partner := by
  induction related with
  | nil => simp at member
  | cons head _ induction =>
      rcases List.mem_cons.mp member with rfl | later
      · exact ⟨_, List.mem_cons_self, head⟩
      · obtain ⟨partner, known, holds⟩ := induction later
        exact ⟨partner, List.mem_cons_of_mem _ known, holds⟩

/-- Related lists give every element on the right a partner on the left. -/
theorem exists_left_of_forall₂ {Related : α → β → Prop} {left : List α} {right : List β}
    (related : List.Forall₂ Related left right) {partner : β} (member : partner ∈ right) :
    ∃ value ∈ left, Related value partner :=
  exists_right_of_forall₂ (List.Forall₂.flip related) member

/-- A list has a related one exactly when each of its elements has a partner. -/
theorem exists_forall₂_iff {Related : α → β → Prop} {left : List α} :
    (∃ right, List.Forall₂ Related left right) ↔
      ∀ value ∈ left, ∃ partner, Related value partner := by
  constructor
  · rintro ⟨right, related⟩ value member
    obtain ⟨partner, _, holds⟩ := exists_right_of_forall₂ related member
    exact ⟨partner, holds⟩
  · intro partners
    induction left with
    | nil => exact ⟨[], .nil⟩
    | cons value left induction =>
        obtain ⟨partner, holds⟩ := partners value List.mem_cons_self
        obtain ⟨right, related⟩ := induction fun other member =>
          partners other (List.mem_cons_of_mem value member)
        exact ⟨partner :: right, .cons holds related⟩

/-- Converting every element of a list succeeds when each of them converts. -/
theorem mapM_eq_some_iff {read : α → Option β} {list : List α} {results : List β} :
    list.mapM read = some results ↔
      List.Forall₂ (fun value result => read value = some result) list results := by
  induction list generalizing results with
  | nil => simp [eq_comm]
  | cons value list induction =>
      rw [List.mapM_cons, List.forall₂_cons_left_iff]
      simp only [Option.bind_eq_bind, Option.bind_eq_some_iff, Option.pure_def, Option.some.injEq,
        induction]
      constructor
      · rintro ⟨result, converted, rest, others, rfl⟩
        exact ⟨result, rest, converted, others, rfl⟩
      · rintro ⟨result, rest, converted, others, rfl⟩
        exact ⟨result, converted, rest, others, rfl⟩

end RustStd.Result
