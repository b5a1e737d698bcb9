import Mathlib.Data.List.Induction
import Mathlib.Order.Lattice
import Mathlib.Tactic.Common

/-!
# Latest-wins registers

A register that holds at most one value and takes an offered value when it holds
none, or when the offer ranks strictly above what it holds.

* `Latest.after` — what the register holds after a list of offers.
* `after_spec` — **it holds a greatest offer**, whatever the order of the offers.
* `takes_after_iff` — an offer is taken exactly when it ranks above all before it.
* `after_superseded` — what was once replaced is never held again.
-/

namespace Latest

variable {α β : Type} [LinearOrder β] (rank : α → β)

/-- Whether an offer is taken. -/
def takes (held : Option α) (x : α) : Bool :=
  match held with
  | none => true
  | some c => rank c < rank x

/-- What the register holds after an offer. -/
def offer (held : Option α) (x : α) : Option α := if takes rank held x then some x else held

/-- What an empty register holds after a list of offers. -/
def after (xs : List α) : Option α := xs.foldl (offer rank) none

variable {rank}

@[simp] theorem after_nil : after rank [] = none := rfl

theorem after_concat (xs : List α) (x : α) :
    after rank (xs ++ [x]) = offer rank (after rank xs) x := by
  rw [after, List.foldl_append]
  rfl

/-- Once an offer was made, something is held; it only ever changes to something
of strictly higher rank. -/
theorem after_mono {xs : List α} {c : α} (h : after rank xs = some c) (ys : List α) :
    ∃ d, after rank (xs ++ ys) = some d ∧ (d = c ∨ rank c < rank d) := by
  induction ys using List.reverseRecOn with
  | nil => exact ⟨c, by rw [List.append_nil, h], Or.inl rfl⟩
  | append_singleton ys y ih =>
    obtain ⟨d, hd, hcd⟩ := ih
    rw [← List.append_assoc, after_concat, hd]
    by_cases hy : rank d < rank y
    · refine ⟨y, by simp [offer, takes, hy], Or.inr ?_⟩
      rcases hcd with rfl | hlt
      · exact hy
      · exact hlt.trans hy
    · exact ⟨d, by simp [offer, takes, hy], hcd⟩

/-- **The register holds a greatest offer.** -/
theorem after_spec : ∀ {xs : List α} {c : α}, after rank xs = some c →
    c ∈ xs ∧ ∀ x ∈ xs, rank x ≤ rank c := by
  intro xs
  induction xs using List.reverseRecOn with
  | nil =>
    intro c h
    cases h
  | append_singleton xs x ih =>
    intro c h
    rw [after_concat, offer] at h
    cases hheld : after rank xs with
    | none =>
      rw [hheld] at h
      have hxs : xs = [] := by
        cases xs with
        | nil => rfl
        | cons y ys =>
          obtain ⟨d, hd, -⟩ := after_mono (show after rank [y] = some y from rfl) ys
          rw [List.singleton_append, hheld] at hd
          cases hd
      subst hxs
      cases h
      simp
    | some d =>
      rw [hheld] at h
      obtain ⟨hmem, hmax⟩ := ih hheld
      simp only [List.mem_append, List.mem_singleton]
      split at h
      · rename_i htake
        cases h
        have hlt : rank d < rank x := by simpa [takes] using htake
        refine ⟨Or.inr rfl, fun y hy => ?_⟩
        rcases hy with hy | rfl
        · exact (hmax y hy).trans hlt.le
        · exact le_rfl
      · rename_i hkeep
        cases h
        have hle : ¬rank c < rank x := by simpa [takes] using hkeep
        refine ⟨Or.inl hmem, fun y hy => ?_⟩
        rcases hy with hy | rfl
        · exact hmax y hy
        · exact not_lt.1 hle

theorem after_eq_none_iff {xs : List α} : after rank xs = none ↔ xs = [] := by
  constructor
  · intro h
    cases xs with
    | nil => rfl
    | cons x xs =>
      obtain ⟨d, hd, -⟩ := after_mono (show after rank [x] = some x from rfl) xs
      rw [List.singleton_append, h] at hd
      cases hd
  · rintro rfl
    rfl

/-- An offer is taken exactly when it ranks above every offer before it. -/
theorem takes_after_iff {xs : List α} {x : α} :
    takes rank (after rank xs) x = true ↔ ∀ y ∈ xs, rank y < rank x := by
  cases h : after rank xs with
  | none =>
    rw [after_eq_none_iff] at h
    subst h
    simp [takes]
  | some c =>
    obtain ⟨hmem, hmax⟩ := after_spec h
    constructor
    · intro ht y hy
      have hlt : rank c < rank x := by simpa [takes] using ht
      exact (hmax y hy).trans_lt hlt
    · intro hall
      simpa [takes] using hall c hmem

/-- What was once replaced is never held again. -/
theorem after_superseded {xs ys zs : List α} {c d : α} (hc : after rank xs = some c)
    (hd : after rank (xs ++ ys) = some d) (hne : d ≠ c) : after rank (xs ++ ys ++ zs) ≠ some c := by
  have hlt : rank c < rank d := by
    obtain ⟨d', hd', hor⟩ := after_mono hc ys
    rw [hd] at hd'
    cases hd'
    exact hor.resolve_left hne
  obtain ⟨e, he, hor⟩ := after_mono hd zs
  rw [he]
  intro h
  cases h
  rcases hor with rfl | hde
  · exact hne rfl
  · exact lt_asymm hlt hde

end Latest
