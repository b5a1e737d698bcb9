import Mathlib.Data.List.Basic
import Mathlib.Data.List.Flatten

/-!
# Scans

A scan goes through a list and collects what it finds in the elements, or keeps what it found last.

* `foldl_collect` — what a scan collects.
* `foldl_last` — what it keeps when a later find replaces an earlier one.
* `flatMap_filter_eq_iff` — **what is left out does not show exactly where nothing comes of it**.
* `filterMap_filter_eq_iff` — the same where at most one thing comes of an element.
-/

namespace Ospfd

variable {α β σ : Type}

/-! ## A scan with a state -/

section Folds

variable {step : σ → α → σ}

/-- What each step appends is appended in order. -/
theorem foldl_collect {v : σ → List β} {f : α → List β} (h : ∀ s x, v (step s x) = v s ++ f x)
    (xs : List α) (s : σ) : v (xs.foldl step s) = v s ++ xs.flatMap f := by
  induction xs generalizing s with
  | nil => exact (List.append_nil _).symm
  | cons x xs ih => rw [List.foldl_cons, ih, h, List.flatMap_cons, List.append_assoc]

/-- **The last find counts.** -/
theorem foldl_last {v : σ → Option β} {f : α → Option β} (h : ∀ s x, v (step s x) = (f x).or (v s))
    (xs : List α) (s : σ) : v (xs.foldl step s) = (xs.reverse.findSome? f).or (v s) := by
  induction xs generalizing s with
  | nil => rfl
  | cons x xs ih =>
    rw [List.foldl_cons, ih, h, List.reverse_cons, List.findSome?_append, Option.or_assoc]
    congr 1
    rw [List.findSome?_cons, List.findSome?_nil]
    cases f x with
    | none => rfl
    | some b => rfl

/-- What no step changes stays. -/
theorem foldl_keeps {v : σ → β} (h : ∀ s x, v (step s x) = v s) (xs : List α) (s : σ) :
    v (xs.foldl step s) = v s := by
  induction xs generalizing s with
  | nil => rfl
  | cons x xs ih => rw [List.foldl_cons, ih, h]

end Folds

/-! ## Leaving elements out -/

variable {p : α → Bool} {xs : List α}

/-- **What is dropped from a list does not show exactly where nothing comes of it.** -/
theorem flatMap_filter_eq_iff {f : α → List β} :
    (xs.filter p).flatMap f = xs.flatMap f ↔ ∀ x ∈ xs, p x = false → f x = [] := by
  induction xs with
  | nil => simp
  | cons x xs ih =>
    rw [List.forall_mem_cons, List.flatMap_cons]
    by_cases hp : p x = true
    · rw [List.filter_cons_of_pos hp, List.flatMap_cons, List.append_cancel_left_eq, ih]
      simp [hp]
    · rw [List.filter_cons_of_neg hp]
      constructor
      · intro h
        have hle := ((List.filter_sublist (l := xs) (p := p)).flatMap f).length_le
        have hnil : f x = [] := by
          rw [h, List.length_append] at hle
          exact List.eq_nil_of_length_eq_zero (by omega)
        rw [hnil, List.nil_append, ih] at h
        exact ⟨fun _ => hnil, h⟩
      · rintro ⟨hnil, h⟩
        rw [hnil (by simpa using hp), List.nil_append, ih.2 h]

theorem filterMap_filter_eq_iff {f : α → Option β} :
    (xs.filter p).filterMap f = xs.filterMap f ↔ ∀ x ∈ xs, p x = false → f x = none := by
  rw [List.filterMap_eq_flatMap_toList, List.filterMap_eq_flatMap_toList, flatMap_filter_eq_iff]
  simp only [Option.toList_eq_nil_iff]

end Ospfd
