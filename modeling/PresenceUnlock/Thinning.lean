import Mathlib.Data.List.DropRight
import Mathlib.Tactic.Ring

/-!
# Greedy thinning of a time series

Counting one occurrence for every stretch of `gap` time units: an occurrence is kept when it comes
at least `gap` after the occurrence kept before it.  The file gives the selection, the law of its
last step, and the largest number of `gap`-spaced points that a window can hold.
-/

namespace Thinning

/-- Whether `t` comes less than `gap` after the occurrence kept last. -/
def Crowds (gap : ℕ) (last : Option ℕ) (t : ℕ) : Prop := ∃ kept ∈ last, t - kept < gap

instance (gap : ℕ) (last : Option ℕ) (t : ℕ) : Decidable (Crowds gap last t) := by
  unfold Crowds
  infer_instance

/-- The occurrences kept after `last`. -/
def thinAfter (gap : ℕ) : Option ℕ → List ℕ → List ℕ
  | _, [] => []
  | last, t :: ts =>
      if Crowds gap last t then thinAfter gap last ts else t :: thinAfter gap (some t) ts

/-- The greedy subsequence: each kept occurrence is at least `gap` after the one before it. -/
def thin (gap : ℕ) (ts : List ℕ) : List ℕ := thinAfter gap none ts

@[simp] theorem thin_nil (gap : ℕ) : thin gap [] = [] := rfl

private theorem thinAfter_concat (gap : ℕ) (last : Option ℕ) (ts : List ℕ) (t : ℕ) :
    thinAfter gap last (ts ++ [t]) =
      thinAfter gap last ts ++
        if Crowds gap ((thinAfter gap last ts).getLast?.or last) t then [] else [t] := by
  induction ts generalizing last with
  | nil => by_cases crowds : Crowds gap last t <;> simp [thinAfter, crowds]
  | cons first ts induction =>
      by_cases crowds : Crowds gap last first
      · simp [thinAfter, crowds, induction]
      · have newest : (first :: thinAfter gap (some first) ts).getLast?.or last =
            (thinAfter gap (some first) ts).getLast?.or (some first) := by
          rw [List.getLast?_cons]
          cases (thinAfter gap (some first) ts).getLast? <;> rfl
        simp only [List.cons_append, thinAfter, crowds, if_false, induction, newest]

/-- A later occurrence is kept exactly when the newest kept one does not crowd it. -/
theorem thin_concat (gap : ℕ) (ts : List ℕ) (t : ℕ) :
    thin gap (ts ++ [t]) =
      if Crowds gap (thin gap ts).getLast? t then thin gap ts else thin gap ts ++ [t] := by
  change thinAfter gap none (ts ++ [t]) =
    if Crowds gap (thinAfter gap none ts).getLast? t then
      thinAfter gap none ts
    else
      thinAfter gap none ts ++ [t]
  rw [thinAfter_concat, Option.or_none]
  split <;> simp

/-- Consecutive points are at least `gap` apart, in increasing order. -/
def Spaced (gap : ℕ) (ts : List ℕ) : Prop := ts.Pairwise fun earlier later => earlier + gap ≤ later

theorem Spaced.filter {gap : ℕ} {ts : List ℕ} (spaced : Spaced gap ts) (keep : ℕ → Bool) :
    Spaced gap (ts.filter keep) :=
  List.Pairwise.filter keep spaced

theorem Spaced.concat {gap : ℕ} {ts : List ℕ} (spaced : Spaced gap ts) {t : ℕ}
    (after : ∀ s ∈ ts, s + gap ≤ t) : Spaced gap (ts ++ [t]) := by
  refine List.pairwise_append.mpr ⟨spaced, List.pairwise_singleton _ t, ?_⟩
  intro s member t' singleton
  rw [List.mem_singleton.mp singleton]
  exact after s member

private theorem span_of_spaced {gap : ℕ} {ts : List ℕ} (spaced : Spaced gap ts) {low high : ℕ}
    (above : ∀ t ∈ ts, low ≤ t) (below : ∀ t ∈ ts, t ≤ high) (nonempty : ts ≠ []) :
    low + (ts.length - 1) * gap ≤ high := by
  induction ts generalizing low with
  | nil => exact (nonempty rfl).elim
  | cons first ts induction =>
      have first_low : low ≤ first := above first List.mem_cons_self
      have first_high : first ≤ high := below first List.mem_cons_self
      obtain ⟨gaps, spaced⟩ := List.pairwise_cons.mp spaced
      cases ts with
      | nil => simpa using first_low.trans first_high
      | cons second ts =>
          have rest : first + gap + ((second :: ts).length - 1) * gap ≤ high :=
            induction spaced gaps (fun t member => below t (List.mem_cons_of_mem first member))
              (by simp)
          simp only [List.length_cons, Nat.add_sub_cancel] at rest ⊢
          calc
            low + (ts.length + 1) * gap ≤ first + gap + ts.length * gap := by
              rw [Nat.succ_mul]
              omega
            _ ≤ high := rest

/-- A window of length `window` holds at most `window / gap + 1` spaced points. -/
theorem length_le_of_spaced {gap : ℕ} (gap_pos : 0 < gap) {ts : List ℕ} (spaced : Spaced gap ts)
    {window high : ℕ} (below : ∀ t ∈ ts, t ≤ high) (recent : ∀ t ∈ ts, high - t ≤ window) :
    ts.length ≤ window / gap + 1 := by
  cases ts with
  | nil => simp
  | cons first ts =>
      have above : ∀ t ∈ first :: ts, high - window ≤ t := by
        intro t member
        have := recent t member
        omega
      have span := span_of_spaced spaced above below (List.cons_ne_nil first ts)
      simp only [List.length_cons, Nat.add_sub_cancel] at span ⊢
      have count : ts.length ≤ window / gap := by
        rw [Nat.le_div_iff_mul_le gap_pos]
        omega
      omega

/-- `count` occurrences, `gap` apart from zero on. -/
def ticks (gap count : ℕ) : List ℕ := (List.range count).map (· * gap)

@[simp] theorem ticks_zero (gap : ℕ) : ticks gap 0 = [] := rfl

theorem ticks_succ (gap count : ℕ) : ticks gap (count + 1) = ticks gap count ++ [count * gap] := by
  simp [ticks, List.range_succ]

theorem getLast?_ticks_succ (gap count : ℕ) :
    (ticks gap (count + 1)).getLast? = some (count * gap) := by
  simp [ticks_succ]

theorem pairwise_ticks (gap count : ℕ) : (ticks gap count).Pairwise (· ≤ ·) := by
  rw [ticks, List.pairwise_map]
  exact List.pairwise_lt_range.imp fun order => Nat.mul_le_mul_right gap order.le

theorem le_of_mem_ticks {gap count t : ℕ} (member : t ∈ ticks gap count) :
    t ≤ (count - 1) * gap := by
  obtain ⟨i, bound, rfl⟩ := List.mem_map.mp member
  rw [List.mem_range] at bound
  exact Nat.mul_le_mul_right gap (by omega)

/-- Thinning keeps the tightest schedule as it is. -/
@[simp] theorem thin_ticks (gap count : ℕ) : thin gap (ticks gap count) = ticks gap count := by
  induction count with
  | zero => rfl
  | succ count induction =>
      have clear : ¬ Crowds gap (ticks gap count).getLast? (count * gap) := by
        rintro ⟨kept, newest, crowded⟩
        cases count with
        | zero => simp at newest
        | succ count =>
            rw [getLast?_ticks_succ, Option.mem_some_iff] at newest
            subst newest
            rw [Nat.succ_mul] at crowded
            omega
      rw [ticks_succ, thin_concat, induction, if_neg clear]

/-- When the schedule's last tick falls, at least `min count (window / gap + 1)` ticks are within
the window. -/
theorem le_length_recent_ticks {gap window need count : ℕ} (enough : need ≤ count)
    (fits : (need - 1) * gap ≤ window) :
    need ≤ ((ticks gap count).filter fun t => (count - 1) * gap - t ≤ window).length := by
  have late : List.Sublist ((List.range count).drop (count - need)) (List.range count) :=
    List.drop_sublist _ _
  have kept : ∀ i ∈ (List.range count).drop (count - need),
      (count - 1) * gap - i * gap ≤ window := by
    intro i member
    obtain ⟨offset, bound, rfl⟩ := List.mem_drop_iff_getElem.mp member
    simp only [List.getElem_range, List.length_range] at bound ⊢
    rw [← Nat.sub_mul]
    exact (Nat.mul_le_mul_right gap (by omega)).trans fits
  calc
    need = ((List.range count).drop (count - need)).length := by
      simp
      omega
    _ = (((List.range count).drop (count - need)).filter
          fun i => (count - 1) * gap - i * gap ≤ window).length := by
      rw [List.filter_eq_self.mpr (by simpa using kept)]
    _ ≤ ((List.range count).filter fun i => (count - 1) * gap - i * gap ≤ window).length :=
      (late.filter _).length_le
    _ = ((ticks gap count).filter fun t => (count - 1) * gap - t ≤ window).length := by
      simp [ticks, List.filter_map, Function.comp_def]

end Thinning
