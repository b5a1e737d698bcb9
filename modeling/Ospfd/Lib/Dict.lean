import Mathlib.Data.List.Nodup
import Mathlib.Tactic.Common

/-!
# Insertion-ordered dictionaries

`Dict κ ν` is a finite map that remembers the order in which its keys were first
set, as Python's `dict` does: setting a key that is present replaces its value in
place, setting a new key appends it, and popping a key closes the gap.  That no
key occurs twice is a field of the structure.

* `Dict.get?`, `Dict.set`, `Dict.pop`, `Dict.values` — the operations.
* `get?_set`, `get?_pop` — what a lookup sees after an update.
* `mem_entries_iff` — the entries are exactly the lookups that succeed.
* `size_set` — how an update changes the size.
* `Dict.map` — a function applied to all values.
* `get?_foldl` — what a lookup sees after updates each of which touches one key.
-/

/-- A dictionary from `κ` to `ν` that keeps its keys in insertion order. -/
structure Dict (κ ν : Type) where
  /-- The key-value pairs, oldest key first. -/
  entries : List (κ × ν)
  /-- No key occurs twice. -/
  nodup : (entries.map Prod.fst).Nodup

namespace Dict

variable {κ ν : Type}

/-- The empty dictionary. -/
def empty : Dict κ ν := ⟨[], List.nodup_nil⟩

instance : Inhabited (Dict κ ν) := ⟨empty⟩

/-- The keys, in insertion order. -/
def keys (d : Dict κ ν) : List κ := d.entries.map Prod.fst

/-- The values, in the order of their keys. -/
def values (d : Dict κ ν) : List ν := d.entries.map Prod.snd

/-- The number of keys. -/
def size (d : Dict κ ν) : Nat := d.entries.length

@[simp] theorem keys_empty : (empty : Dict κ ν).keys = [] := rfl

@[simp] theorem values_empty : (empty : Dict κ ν).values = [] := rfl

@[simp] theorem size_empty : (empty : Dict κ ν).size = 0 := rfl

section Lookup

variable [DecidableEq κ]

/-- The value under a key, in a list of pairs. -/
def lookupIn (k : κ) : List (κ × ν) → Option ν
  | [] => none
  | p :: ps => if p.1 = k then some p.2 else lookupIn k ps

/-- Replace the value under a key where it stands, or append the pair. -/
def setIn (k : κ) (v : ν) : List (κ × ν) → List (κ × ν)
  | [] => [(k, v)]
  | p :: ps => if p.1 = k then (k, v) :: ps else p :: setIn k v ps

/-- The value under a key: `d.get(k)`. -/
def get? (d : Dict κ ν) (k : κ) : Option ν := lookupIn k d.entries

theorem lookupIn_eq_some_iff {k : κ} {v : ν} :
    ∀ {ps : List (κ × ν)}, (ps.map Prod.fst).Nodup → (lookupIn k ps = some v ↔ (k, v) ∈ ps)
  | [], _ => by simp [lookupIn]
  | p :: ps, h => by
    rw [List.map_cons, List.nodup_cons] at h
    by_cases hp : p.1 = k
    · rw [lookupIn, if_pos hp, List.mem_cons]
      constructor
      · intro hv
        exact Or.inl (by rw [← hp, ← Option.some.inj hv])
      · rintro (heq | hmem)
        · rw [← heq]
        · exact absurd (List.mem_map.2 ⟨(k, v), hmem, hp.symm⟩) h.1
    · rw [lookupIn, if_neg hp, lookupIn_eq_some_iff h.2, List.mem_cons]
      constructor
      · exact Or.inr
      · rintro (heq | hmem)
        · exact absurd (by rw [← heq]) hp
        · exact hmem

theorem mem_keys_setIn {k k' : κ} {v : ν} : ∀ {ps : List (κ × ν)},
    k' ∈ (setIn k v ps).map Prod.fst ↔ k' = k ∨ k' ∈ ps.map Prod.fst
  | [] => by simp [setIn]
  | p :: ps => by
    by_cases hp : p.1 = k
    · simp [setIn, hp]
    · rw [setIn, if_neg hp, List.map_cons, List.mem_cons, mem_keys_setIn, List.map_cons,
        List.mem_cons]
      exact or_left_comm

theorem nodup_setIn {k : κ} {v : ν} : ∀ {ps : List (κ × ν)}, (ps.map Prod.fst).Nodup →
    ((setIn k v ps).map Prod.fst).Nodup
  | [], _ => by simp [setIn]
  | p :: ps, h => by
    rw [List.map_cons, List.nodup_cons] at h
    by_cases hp : p.1 = k
    · rw [setIn, if_pos hp, List.map_cons, List.nodup_cons]
      exact ⟨hp ▸ h.1, h.2⟩
    · rw [setIn, if_neg hp, List.map_cons, List.nodup_cons]
      refine ⟨fun hmem => ?_, nodup_setIn h.2⟩
      rcases mem_keys_setIn.1 hmem with heq | hmem
      · exact hp heq
      · exact h.1 hmem

/-- `d[k] = v`. -/
def set (d : Dict κ ν) (k : κ) (v : ν) : Dict κ ν := ⟨setIn k v d.entries, nodup_setIn d.nodup⟩

/-- `d.pop(k, None)`, as the dictionary that is left. -/
def pop (d : Dict κ ν) (k : κ) : Dict κ ν :=
  ⟨d.entries.filter fun p => p.1 ≠ k, d.nodup.sublist (List.filter_sublist.map _)⟩

/-- `k in d`. -/
def contains (d : Dict κ ν) (k : κ) : Bool := (d.get? k).isSome

/-- The entries are exactly the lookups that succeed. -/
theorem mem_entries_iff {d : Dict κ ν} {k : κ} {v : ν} : (k, v) ∈ d.entries ↔ d.get? k = some v :=
  (lookupIn_eq_some_iff d.nodup).symm

theorem mem_values_iff {d : Dict κ ν} {v : ν} : v ∈ d.values ↔ ∃ k, d.get? k = some v := by
  simp only [values, List.mem_map, ← mem_entries_iff]
  constructor
  · rintro ⟨⟨k, w⟩, hmem, rfl⟩
    exact ⟨k, hmem⟩
  · rintro ⟨k, hmem⟩
    exact ⟨(k, v), hmem, rfl⟩

theorem mem_keys_iff {d : Dict κ ν} {k : κ} : k ∈ d.keys ↔ (d.get? k).isSome := by
  simp only [keys, List.mem_map, Option.isSome_iff_exists, ← mem_entries_iff]
  constructor
  · rintro ⟨⟨k', v⟩, hmem, rfl⟩
    exact ⟨v, hmem⟩
  · rintro ⟨v, hmem⟩
    exact ⟨(k, v), hmem, rfl⟩

@[simp] theorem get?_empty (k : κ) : (empty : Dict κ ν).get? k = none := rfl

theorem lookupIn_setIn {k k' : κ} {v : ν} : ∀ {ps : List (κ × ν)},
    lookupIn k' (setIn k v ps) = if k = k' then some v else lookupIn k' ps
  | [] => rfl
  | p :: ps => by
    by_cases hp : p.1 = k
    · rw [setIn, if_pos hp, lookupIn, lookupIn, hp]
      split <;> rfl
    · rw [setIn, if_neg hp, lookupIn, lookupIn, lookupIn_setIn]
      by_cases hk : p.1 = k'
      · rw [if_pos hk, if_neg fun h => hp (hk.trans h.symm), if_pos hk]
      · rw [if_neg hk, if_neg hk]

/-- A lookup after `d[k] = v`. -/
theorem get?_set (d : Dict κ ν) (k k' : κ) (v : ν) :
    (d.set k v).get? k' = if k = k' then some v else d.get? k' := lookupIn_setIn

@[simp] theorem get?_set_self (d : Dict κ ν) (k : κ) (v : ν) : (d.set k v).get? k = some v := by
  rw [get?_set, if_pos rfl]

theorem get?_set_of_ne (d : Dict κ ν) {k k' : κ} (h : k ≠ k') (v : ν) :
    (d.set k v).get? k' = d.get? k' := by
  rw [get?_set, if_neg h]

/-- What is there stays when a new key is added. -/
theorem get?_set_of_none {d : Dict κ ν} {k k' : κ} {v w : ν} (hnone : d.get? k = none)
    (h : d.get? k' = some w) : (d.set k v).get? k' = some w := by
  rw [get?_set_of_ne d (fun heq => by rw [heq, h] at hnone; cases hnone), h]

/-- What is found after `d[k] = v` is `v`, or was there before. -/
theorem get?_of_set {d : Dict κ ν} {k k' : κ} {v w : ν} (h : (d.set k v).get? k' = some w) :
    (k = k' ∧ v = w) ∨ d.get? k' = some w := by
  rw [get?_set] at h
  split at h
  · rename_i hk
    exact Or.inl ⟨hk, Option.some.inj h⟩
  · exact Or.inr h

theorem lookupIn_filter {k k' : κ} : ∀ {ps : List (κ × ν)},
    lookupIn k' (ps.filter fun p => p.1 ≠ k) = if k = k' then none else lookupIn k' ps
  | [] => by simp [lookupIn]
  | p :: ps => by
    by_cases hp : p.1 = k
    · rw [List.filter_cons_of_neg (by simpa using hp), lookupIn_filter, lookupIn, hp]
      split <;> rfl
    · rw [List.filter_cons_of_pos (by simpa using hp), lookupIn, lookupIn, lookupIn_filter]
      by_cases hk : p.1 = k'
      · rw [if_pos hk, if_neg fun h => hp (hk.trans h.symm), if_pos hk]
      · rw [if_neg hk, if_neg hk]

/-- A lookup after `d.pop(k, None)`. -/
theorem get?_pop (d : Dict κ ν) (k k' : κ) :
    (d.pop k).get? k' = if k = k' then none else d.get? k' := lookupIn_filter

@[simp] theorem get?_pop_self (d : Dict κ ν) (k : κ) : (d.pop k).get? k = none := by
  rw [get?_pop, if_pos rfl]

theorem get?_pop_of_ne (d : Dict κ ν) {k k' : κ} (h : k ≠ k') :
    (d.pop k).get? k' = d.get? k' := by
  rw [get?_pop, if_neg h]

/-- What is found after `d.pop(k, None)` was there before. -/
theorem get?_of_pop {d : Dict κ ν} {k k' : κ} {v : ν} (h : (d.pop k).get? k' = some v) :
    d.get? k' = some v := by
  rw [get?_pop] at h
  split at h
  · cases h
  · exact h

/-- Popping a key that is not there. -/
theorem pop_eq_self_iff {d : Dict κ ν} {k : κ} : d.pop k = d ↔ d.get? k = none := by
  constructor
  · intro h
    rw [← h, get?_pop_self]
  · intro h
    have hentries : (d.pop k).entries = d.entries := by
      refine List.filter_eq_self.2 fun ⟨j, v⟩ hmem => ?_
      simp only [decide_eq_true_eq]
      rintro rfl
      rw [mem_entries_iff, h] at hmem
      cases hmem
    cases d
    simp only [pop] at hentries ⊢
    simp only [hentries]

/-- A dictionary is empty when every lookup fails. -/
theorem entries_eq_nil_iff {d : Dict κ ν} : d.entries = [] ↔ ∀ k, d.get? k = none := by
  constructor
  · intro h k
    rw [get?, h, lookupIn]
  · intro h
    refine List.eq_nil_iff_forall_not_mem.2 fun ⟨k, v⟩ hmem => ?_
    rw [mem_entries_iff, h k] at hmem
    cases hmem

/-- The order of the entries does not matter to a lookup. -/
theorem get?_eq_of_perm {d d' : Dict κ ν} (h : d.entries.Perm d'.entries) (k : κ) :
    d.get? k = d'.get? k := by
  apply Option.ext
  intro v
  rw [← mem_entries_iff, ← mem_entries_iff]
  exact h.mem_iff

/-- Popping several keys. -/
theorem entries_foldl_pop (ks : List κ) (d : Dict κ ν) :
    (ks.foldl pop d).entries = d.entries.filter fun p => p.1 ∉ ks := by
  induction ks generalizing d with
  | nil => simp
  | cons k ks ih =>
    rw [List.foldl_cons, ih, pop, List.filter_filter]
    refine List.filter_congr fun p _ => ?_
    simp [Bool.and_comm]

theorem get?_foldl_pop (ks : List κ) (d : Dict κ ν) (k : κ) :
    (ks.foldl pop d).get? k = if k ∈ ks then none else d.get? k := by
  induction ks generalizing d with
  | nil => simp
  | cons j ks ih =>
    rw [List.foldl_cons, ih, get?_pop]
    by_cases hk : k ∈ ks
    · rw [if_pos hk, if_pos (List.mem_cons_of_mem _ hk)]
    · by_cases hj : j = k
      · rw [if_neg hk, if_pos hj, if_pos (by simp [hj])]
      · rw [if_neg hk, if_neg hj, if_neg (by simp [hk, Ne.symm hj])]

theorem length_setIn {k : κ} {v : ν} : ∀ {ps : List (κ × ν)},
    (setIn k v ps).length = if (lookupIn k ps).isSome then ps.length else ps.length + 1
  | [] => rfl
  | p :: ps => by
    by_cases hp : p.1 = k
    · simp [setIn, lookupIn, hp]
    · rw [setIn, if_neg hp, lookupIn, if_neg hp, List.length_cons, length_setIn]
      split <;> rfl

theorem setIn_of_none {k : κ} {v : ν} : ∀ {ps : List (κ × ν)}, lookupIn k ps = none →
    setIn k v ps = ps ++ [(k, v)]
  | [], _ => rfl
  | p :: ps, h => by
    rw [lookupIn] at h
    split at h
    · cases h
    · rename_i hne
      rw [setIn, if_neg hne, setIn_of_none h]
      rfl

/-- A new key goes last. -/
theorem entries_set_of_none {d : Dict κ ν} {k : κ} (h : d.get? k = none) (v : ν) :
    (d.set k v).entries = d.entries ++ [(k, v)] := setIn_of_none h

theorem values_set_of_none {d : Dict κ ν} {k : κ} (h : d.get? k = none) (v : ν) :
    (d.set k v).values = d.values ++ [v] := by
  rw [values, entries_set_of_none h, List.map_append]
  rfl

/-- Setting a key that is present keeps the size; a new key adds one. -/
theorem size_set (d : Dict κ ν) (k : κ) (v : ν) :
    (d.set k v).size = if d.contains k then d.size else d.size + 1 := length_setIn

/-- Popping makes nothing larger. -/
theorem size_pop_le (d : Dict κ ν) (k : κ) : (d.pop k).size ≤ d.size := List.length_filter_le ..

/-! ### Mapping the values -/

variable {μ : Type}

/-- The dictionary with a function applied to every value. -/
def map (f : ν → μ) (d : Dict κ ν) : Dict κ μ :=
  ⟨d.entries.map fun p => (p.1, f p.2), by
    rw [List.map_map]
    exact d.nodup⟩

theorem get?_map (f : ν → μ) (d : Dict κ ν) (k : κ) : (d.map f).get? k = (d.get? k).map f := by
  have key : ∀ ps : List (κ × ν),
      lookupIn k (ps.map fun p => (p.1, f p.2)) = (lookupIn k ps).map f := by
    intro ps
    induction ps with
    | nil => rfl
    | cons p ps ih =>
      rw [List.map_cons, lookupIn, lookupIn, ih]
      split
      · rfl
      · rfl
  exact key d.entries

omit [DecidableEq κ] in
@[simp] theorem size_map (f : ν → μ) (d : Dict κ ν) : (d.map f).size = d.size := List.length_map ..

theorem map_set (f : ν → μ) (d : Dict κ ν) (k : κ) (v : ν) : (d.set k v).map f = (d.map f).set k (f v) := by
  have key : ∀ ps : List (κ × ν), (setIn k v ps).map (fun p => (p.1, f p.2)) =
      setIn k (f v) (ps.map fun p => (p.1, f p.2)) := by
    intro ps
    induction ps with
    | nil => rfl
    | cons p ps ih =>
      rw [setIn, List.map_cons, setIn]
      split
      · rfl
      · rw [List.map_cons, ih]
  simp only [map, set, key]

theorem map_pop (f : ν → μ) (d : Dict κ ν) (k : κ) : (d.pop k).map f = (d.map f).pop k := by
  simp only [map, pop, List.filter_map]
  rfl

/-- Only what the function does on the values matters. -/
theorem map_congr {f g : ν → μ} {d : Dict κ ν} (h : ∀ k v, d.get? k = some v → f v = g v) :
    d.map f = d.map g := by
  have hmap : (d.entries.map fun p => (p.1, f p.2)) = d.entries.map fun p => (p.1, g p.2) := by
    apply List.map_congr_left
    intro p hp
    rw [h p.1 p.2 (mem_entries_iff.1 hp)]
  simp only [map, hmap]

/-! ### Several updates -/

variable {α : Type}

section Foldl

variable (key : α → κ) {f : Dict κ ν → α → Dict κ ν} (g : Option ν → α → Option ν)
  (hf : ∀ d x k, (f d x).get? k = if key x = k then g (d.get? k) x else d.get? k)

include hf

/-- When each update changes what is under its own key only, a lookup sees the updates of
its key. -/
theorem get?_foldl (xs : List α) (d : Dict κ ν) (k : κ) :
    (xs.foldl f d).get? k = (xs.filter fun x => key x = k).foldl g (d.get? k) := by
  induction xs generalizing d with
  | nil => rfl
  | cons x xs ih =>
    rw [List.foldl_cons, ih, hf]
    by_cases hk : key x = k
    · rw [if_pos hk, List.filter_cons_of_pos (by simpa using hk), List.foldl_cons]
    · rw [if_neg hk, List.filter_cons_of_neg (by simpa using hk)]

theorem get?_foldl_of_ne {xs : List α} {k : κ} (h : ∀ x ∈ xs, key x ≠ k) (d : Dict κ ν) :
    (xs.foldl f d).get? k = d.get? k := by
  have hnone : (xs.filter fun x => key x = k) = [] :=
    List.filter_eq_nil_iff.2 fun x hx => by simpa using h x hx
  rw [get?_foldl key g hf, hnone]
  rfl

/-- An update that is the only one of its key. -/
theorem get?_foldl_of_mem {xs : List α} {x : α} (hx : x ∈ xs) (hnodup : (xs.map key).Nodup)
    (d : Dict κ ν) : (xs.foldl f d).get? (key x) = g (d.get? (key x)) x := by
  obtain ⟨before, after, rfl⟩ := List.append_of_mem hx
  rw [List.map_append, List.map_cons, List.nodup_append', List.nodup_cons] at hnodup
  obtain ⟨-, ⟨hafter, -⟩, hdisjoint⟩ := hnodup
  have hbefore : ∀ y ∈ before, key y ≠ key x := fun y hy heq =>
    hdisjoint (List.mem_map.2 ⟨y, hy, heq⟩) (by simp)
  rw [List.foldl_append, List.foldl_cons, get?_foldl_of_ne key g hf, hf, if_pos rfl,
    get?_foldl_of_ne key g hf hbefore]
  exact fun y hy heq => hafter (List.mem_map.2 ⟨y, hy, heq⟩)

end Foldl

/-- The values of some of the entries have different keys. -/
theorem nodup_map_filter {key : ν → κ} {d : Dict κ ν} (h : ∀ k v, d.get? k = some v → key v = k)
    (c : κ × ν → Bool) : (((d.entries.filter c).map Prod.snd).map key).Nodup := by
  have hkeys : ((d.entries.filter c).map Prod.snd).map key = (d.entries.filter c).map Prod.fst := by
    rw [List.map_map]
    apply List.map_congr_left
    intro p hp
    exact h p.1 p.2 (mem_entries_iff.1 (List.mem_of_mem_filter hp))
  rw [hkeys]
  exact d.nodup.sublist (List.filter_sublist.map _)

end Lookup
end Dict
