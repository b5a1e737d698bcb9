import Mathlib.Order.Lattice
import Mathlib.Data.List.Induction
import Mathlib.Data.Set.Basic
import Mathlib.Tactic.Common

/-!
# Registers that keep the best, and merge ties

A register takes an offer that ranks strictly below what it holds, ignores one that ranks
strictly above, and merges one of the same rank into what it holds.

* `Ties.offer`, `Ties.after` — what the register holds after an offer, and after several.
* `Merges` — what merging does to the ranks and to what the offers carry.
* `after_induction` — what holds of the offers and of merged ones.
* `after_spec` — **it holds the least rank, and all that the offers of that rank carry**.
* `Best.congr` — so the order of the offers does not matter.
-/

namespace Ties

variable {α β ν : Type} [LinearOrder β]

/-- What the register holds after an offer. -/
def offer (rank : α → β) (merge : α → α → α) (held : Option α) (x : α) : Option α :=
  match held with
  | none => some x
  | some c => if rank x < rank c then some x else if rank c < rank x then some c else some (merge c x)

/-- What an empty register holds after a list of offers. -/
def after (rank : α → β) (merge : α → α → α) (xs : List α) : Option α :=
  xs.foldl (offer rank merge) none

/-- Merging keeps the rank, and joins what the two carry. -/
structure Merges (rank : α → β) (merge : α → α → α) (carries : α → Set ν) : Prop where
  rank : ∀ a b, rank (merge a b) = rank a
  carries : ∀ a b, carries (merge a b) = carries a ∪ carries b

/-- The best of several offers: one of the least rank, with all that the offers of that rank
carry. -/
structure Best (rank : α → β) (carries : α → Set ν) (xs : List α) (c : α) : Prop where
  attained : ∃ x ∈ xs, rank x = rank c
  least : ∀ x ∈ xs, rank c ≤ rank x
  carries : ∀ h, h ∈ carries c ↔ ∃ x ∈ xs, rank x = rank c ∧ h ∈ carries x

variable {rank : α → β} {merge : α → α → α} {carries : α → Set ν}

@[simp] theorem after_nil : after rank merge [] = none := rfl

theorem after_concat (xs : List α) (x : α) :
    after rank merge (xs ++ [x]) = offer rank merge (after rank merge xs) x := by
  simp [after, List.foldl_append]

theorem isSome_offer (held : Option α) (x : α) : (offer rank merge held x).isSome = true := by
  cases held with
  | none => rfl
  | some c =>
    simp only [offer]
    split_ifs <;> rfl

theorem after_eq_none_iff {xs : List α} : after rank merge xs = none ↔ xs = [] := by
  induction xs using List.reverseRecOn with
  | nil => simp
  | append_singleton xs x _ =>
    have hsome : (offer rank merge (after rank merge xs) x).isSome = true := isSome_offer _ x
    rw [after_concat]
    constructor
    · intro h
      simp [h] at hsome
    · intro h
      simp at h

/-- What holds of the offers, and of what merging makes of two, holds of what the register
holds. -/
theorem after_induction {P : α → Prop} (hmerge : ∀ a b, P a → P b → P (merge a b)) {xs : List α}
    (h : ∀ x ∈ xs, P x) {c : α} (hc : after rank merge xs = some c) : P c := by
  induction xs using List.reverseRecOn generalizing c with
  | nil => cases hc
  | append_singleton xs x ih =>
    have hx : P x := h x (by simp)
    rw [after_concat] at hc
    cases hheld : after rank merge xs with
    | none =>
      rw [hheld] at hc
      rwa [← Option.some.inj hc]
    | some b =>
      have hb : P b := ih (fun y hy => h y (List.mem_append_left _ hy)) hheld
      rw [hheld, offer] at hc
      split_ifs at hc <;> rw [← Option.some.inj hc]
      · exact hx
      · exact hb
      · exact hmerge b x hb hx

/-- A single offer is the best. -/
theorem Best.single (x : α) : Best rank carries [x] x := by
  constructor
  · exact ⟨x, by simp, rfl⟩
  · simp
  · simp

/-- **One more offer.** -/
theorem Best.offer (hm : Merges rank merge carries) {xs : List α} {c : α} (h : Best rank carries xs c)
    (x : α) : ∃ d, Ties.offer rank merge (some c) x = some d ∧ Best rank carries (xs ++ [x]) d := by
  rw [Ties.offer]
  split_ifs with hlt hgt
  · -- a better offer replaces what is held
    have hall : ∀ y ∈ xs, rank x < rank y := fun y hy => lt_of_lt_of_le hlt (h.least y hy)
    refine ⟨x, rfl, ⟨x, by simp, rfl⟩, ?_, ?_⟩
    · intro y hy
      rcases List.mem_append.1 hy with hy | hy
      · exact (hall y hy).le
      · rw [List.mem_singleton.1 hy]
    · intro k
      constructor
      · exact fun hk => ⟨x, by simp, rfl, hk⟩
      · rintro ⟨y, hy, hrank, hk⟩
        rcases List.mem_append.1 hy with hy | hy
        · exact absurd hrank (hall y hy).ne'
        · rwa [List.mem_singleton.1 hy] at hk
  · -- a worse one is ignored
    refine ⟨c, rfl, ?_, ?_, ?_⟩
    · obtain ⟨y, hy, hrank⟩ := h.attained
      exact ⟨y, List.mem_append_left _ hy, hrank⟩
    · intro y hy
      rcases List.mem_append.1 hy with hy | hy
      · exact h.least y hy
      · rw [List.mem_singleton.1 hy]
        exact hgt.le
    · intro k
      rw [h.carries k]
      constructor
      · rintro ⟨y, hy, hyk⟩
        exact ⟨y, List.mem_append_left _ hy, hyk⟩
      · rintro ⟨y, hy, hrank, hk⟩
        rcases List.mem_append.1 hy with hy | hy
        · exact ⟨y, hy, hrank, hk⟩
        · rw [List.mem_singleton.1 hy] at hrank
          exact absurd hrank hgt.ne'
  · -- one of the same rank is merged
    have heq : rank x = rank c := le_antisymm (not_lt.1 hgt) (not_lt.1 hlt)
    refine ⟨merge c x, rfl, ?_, ?_, ?_⟩
    · exact ⟨x, by simp, by rw [heq, hm.rank]⟩
    · intro y hy
      rw [hm.rank]
      rcases List.mem_append.1 hy with hy | hy
      · exact h.least y hy
      · rw [List.mem_singleton.1 hy, heq]
    · intro k
      rw [hm.carries, hm.rank, Set.mem_union, h.carries k]
      constructor
      · rintro (⟨y, hy, hyk⟩ | hk)
        · exact ⟨y, List.mem_append_left _ hy, hyk⟩
        · exact ⟨x, by simp, heq, hk⟩
      · rintro ⟨y, hy, hrank, hk⟩
        rcases List.mem_append.1 hy with hy | hy
        · exact Or.inl ⟨y, hy, hrank, hk⟩
        · rw [List.mem_singleton.1 hy] at hk
          exact Or.inr hk

/-- **The register holds the best of the offers.** -/
theorem after_spec (hm : Merges rank merge carries) {xs : List α} {c : α}
    (h : after rank merge xs = some c) : Best rank carries xs c := by
  induction xs using List.reverseRecOn generalizing c with
  | nil => cases h
  | append_singleton xs x ih =>
    rw [after_concat] at h
    cases hheld : after rank merge xs with
    | none =>
      obtain rfl := after_eq_none_iff.1 hheld
      rw [hheld] at h
      obtain rfl := Option.some.inj h
      exact .single x
    | some b =>
      obtain ⟨d, hd, hbest⟩ := (ih hheld).offer hm x
      rw [hheld, hd] at h
      rwa [← Option.some.inj h]

/-- The best of the same offers, in any order, have the same rank and carry the same. -/
theorem Best.congr {xs ys : List α} {c d : α} (hc : Best rank carries xs c) (hd : Best rank carries ys d)
    (h : ∀ x, x ∈ xs ↔ x ∈ ys) : rank c = rank d ∧ carries c = carries d := by
  have hrank : rank c = rank d := by
    obtain ⟨x, hx, hxc⟩ := hc.attained
    obtain ⟨y, hy, hyd⟩ := hd.attained
    apply le_antisymm
    · rw [← hyd]
      exact hc.least y ((h y).2 hy)
    · rw [← hxc]
      exact hd.least x ((h x).1 hx)
  refine ⟨hrank, ?_⟩
  ext k
  rw [hc.carries, hd.carries, hrank]
  simp only [h]

end Ties
