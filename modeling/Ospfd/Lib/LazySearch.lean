import Mathlib.Algebra.BigOperators.Group.Finset.Basic
import Mathlib.Algebra.Order.BigOperators.Group.Finset
import Ospfd.Lib.Dict

/-!
# Best-first search with lazy deletion

Dijkstra's algorithm as it is written with a heap that cannot change priorities: a
candidate is pushed again whenever it is found again, and an entry whose vertex is
already settled is dropped when it is popped.  The heap is a list of which the least
entry is taken; ties are broken by the order of insertion.

* `LazySearch` — what a search needs: the vertex and distance of a candidate, and the
  candidates that a settled one gives rise to.
* `step`, `run` — one turn of the loop, and the loop; `step_cases` — **what a turn does**.
* `Walk` — the walks of a weighted graph.
* `Explores` — the candidates are those of a graph with weights that are not negative.
* `Shortest` — a tree of shortest walks to exactly the reachable vertices.
* `run_shortest` — **with enough fuel the loop ends, with such a tree.**
* `Passed` — what every candidate hands on to those it gives rise to holds of the tree.
-/

/-- A search over the vertices `V` with candidates `E`. -/
structure LazySearch (V E : Type) where
  vertex : E → V
  dist : E → Int
  /-- The candidates to push when a candidate is settled, given the tree by then. -/
  expand : Dict V E → E → List E

namespace LazySearch

variable {V E : Type}

/-! ## The queue -/

/-- An entry of the queue, ordered by distance and then by its number. -/
structure Entry (E : Type) where
  dist : Int
  counter : Nat
  item : E

def Entry.before (a b : Entry E) : Bool :=
  a.dist < b.dist ∨ a.dist = b.dist ∧ a.counter < b.counter

/-- Take the least entry out. -/
def popMin : List (Entry E) → Option (Entry E × List (Entry E))
  | [] => none
  | e :: es =>
      match popMin es with
      | none => some (e, [])
      | some (m, rest) => if m.before e then some (m, e :: rest) else some (e, es)

theorem popMin_eq_none_iff : ∀ {q : List (Entry E)}, popMin q = none ↔ q = []
  | [] => by simp [popMin]
  | e :: es => by
    rw [popMin]
    split
    · simp
    · split <;> simp

/-- The entry that is taken out is one of the queue, and no other is nearer. -/
theorem popMin_spec : ∀ {q rest : List (Entry E)} {m : Entry E}, popMin q = some (m, rest) →
    q.Perm (m :: rest) ∧ ∀ e ∈ rest, m.dist ≤ e.dist
  | [], _, _, h => by cases h
  | e :: es, rest, m, h => by
    rw [popMin] at h
    split at h
    · rename_i hnone
      cases h
      rw [popMin_eq_none_iff.1 hnone]
      exact ⟨.refl _, by simp⟩
    · rename_i m' rest' hpop
      obtain ⟨hperm, hmin⟩ := popMin_spec hpop
      split at h
      · rename_i hbefore
        cases h
        have hle : m.dist ≤ e.dist := by
          simp only [Entry.before, decide_eq_true_eq] at hbefore
          omega
        refine ⟨(hperm.cons e).trans (.swap ..), fun x hx => ?_⟩
        rcases List.mem_cons.1 hx with rfl | hx
        · exact hle
        · exact hmin x hx
      · rename_i hbefore
        cases h
        have hle : e.dist ≤ m'.dist := by
          simp only [Entry.before, decide_eq_true_eq] at hbefore
          omega
        refine ⟨.refl _, fun x hx => ?_⟩
        rcases List.mem_cons.1 (hperm.subset hx) with rfl | hx
        · exact hle
        · exact hle.trans (hmin x hx)

/-! ## The loop -/

/-- The tree of settled candidates, the queue, and the number of the next entry. -/
structure State (V E : Type) where
  tree : Dict V E
  queue : List (Entry E)
  next : Nat

/-- Push a candidate. -/
def push (P : LazySearch V E) (st : State V E) (c : E) : State V E :=
  { st with queue := st.queue ++ [⟨P.dist c, st.next, c⟩], next := st.next + 1 }

/-- The state before the first turn. -/
def start (P : LazySearch V E) (root : E) : State V E := P.push ⟨Dict.empty, [], 0⟩ root

section Loop

variable [DecidableEq V]

/-- One turn of the loop; `none` when the queue is empty. -/
def step (P : LazySearch V E) (st : State V E) : Option (State V E) :=
  match popMin st.queue with
  | none => none
  | some (m, rest) =>
      if st.tree.contains (P.vertex m.item) then some { st with queue := rest }
      else
        let tree := st.tree.set (P.vertex m.item) m.item
        some ((P.expand tree m.item).foldl P.push { st with tree, queue := rest })

/-- The loop, up to a number of turns; `none` when they do not suffice. -/
def run (P : LazySearch V E) : Nat → State V E → Option (Dict V E)
  | 0, _ => none
  | fuel + 1, st =>
      match P.step st with
      | none => some st.tree
      | some st' => P.run fuel st'

end Loop

/-- **What a turn does**: a candidate of least distance leaves the queue; it is dropped when its
vertex is settled, and otherwise settled and expanded. -/
theorem step_cases [DecidableEq V] {P : LazySearch V E} {st st' : State V E} (h : P.step st = some st') :
    ∃ m rest, st.queue.Perm (m :: rest) ∧ (∀ e ∈ rest, m.dist ≤ e.dist) ∧
      (st.tree.contains (P.vertex m.item) = true ∧ st' = { st with queue := rest } ∨
        st.tree.contains (P.vertex m.item) = false ∧
          st' = (P.expand (st.tree.set (P.vertex m.item) m.item) m.item).foldl P.push
            { st with tree := st.tree.set (P.vertex m.item) m.item, queue := rest }) := by
  rw [step] at h
  split at h
  · cases h
  · rename_i m rest hpop
    obtain ⟨hperm, hmin⟩ := popMin_spec hpop
    refine ⟨m, rest, hperm, hmin, ?_⟩
    split at h
    · rename_i hin
      exact Or.inl ⟨hin, (Option.some.inj h).symm⟩
    · rename_i hin
      exact Or.inr ⟨by simpa using hin, (Option.some.inj h).symm⟩

/-- More turns do not change the tree. -/
theorem run_of_le [DecidableEq V] (P : LazySearch V E) {fuel fuel' : Nat} {st : State V E}
    {tree : Dict V E} (hle : fuel ≤ fuel') (h : P.run fuel st = some tree) :
    P.run fuel' st = some tree := by
  induction fuel generalizing fuel' st with
  | zero => cases h
  | succ fuel ih =>
    cases fuel' with
    | zero => omega
    | succ fuel' =>
      rw [run] at h ⊢
      cases hstep : P.step st with
      | none =>
        rw [hstep] at h
        exact h
      | some st' =>
        rw [hstep] at h
        exact ih (by omega) h

theorem tree_foldl_push (P : LazySearch V E) (cs : List E) (st : State V E) :
    (cs.foldl P.push st).tree = st.tree := by
  induction cs generalizing st with
  | nil => rfl
  | cons c cs ih => exact ih _

/-- Pushing adds an entry for each candidate, at its distance. -/
theorem mem_foldl_push (P : LazySearch V E) {cs : List E} {st : State V E} {q : Entry E}
    (h : q ∈ (cs.foldl P.push st).queue) :
    q ∈ st.queue ∨ q.item ∈ cs ∧ q.dist = P.dist q.item := by
  induction cs generalizing st with
  | nil => exact Or.inl h
  | cons c cs ih =>
    rcases ih h with hq | ⟨hq, hd⟩
    · rcases List.mem_append.1 hq with hq | hq
      · exact Or.inl hq
      · rw [List.mem_singleton.1 hq]
        exact Or.inr ⟨List.mem_cons_self .., rfl⟩
    · exact Or.inr ⟨List.mem_cons_of_mem _ hq, hd⟩

theorem queue_subset_foldl_push (P : LazySearch V E) {cs : List E} {st : State V E} {q : Entry E}
    (h : q ∈ st.queue) : q ∈ (cs.foldl P.push st).queue := by
  induction cs generalizing st with
  | nil => exact h
  | cons c cs ih => exact ih (List.mem_append_left _ h)

theorem exists_foldl_push (P : LazySearch V E) {cs : List E} (st : State V E) {c : E} (h : c ∈ cs) :
    ∃ q ∈ (cs.foldl P.push st).queue, q.item = c ∧ q.dist = P.dist c := by
  induction cs generalizing st with
  | nil => cases h
  | cons d cs ih =>
    rcases List.mem_cons.1 h with rfl | h
    · have hpushed : (⟨P.dist c, st.next, c⟩ : Entry E) ∈ (P.push st c).queue :=
        List.mem_append_right _ (List.mem_singleton_self _)
      exact ⟨_, (queue_subset_foldl_push P hpushed : _ ∈ (cs.foldl P.push (P.push st c)).queue), rfl, rfl⟩
    · exact ih _ h

theorem length_foldl_push (P : LazySearch V E) (cs : List E) (st : State V E) :
    (cs.foldl P.push st).queue.length = st.queue.length + cs.length := by
  induction cs generalizing st with
  | nil => rfl
  | cons c cs ih =>
    rw [List.foldl_cons, ih, push, List.length_append, List.length_cons, List.length_cons,
      List.length_nil]
    omega

/-! ## Graphs -/

/-- `Walk adj u v d`: a walk from `u` to `v` of total weight `d`. -/
inductive Walk (adj : V → List (V × Int)) (u : V) : V → Int → Prop where
  | nil : Walk adj u u 0
  | snoc {v x : V} {d w : Int} (h : Walk adj u v d) (he : (x, w) ∈ adj v) : Walk adj u x (d + w)

/-- `u` leads to `v`. -/
def Reach (adj : V → List (V × Int)) (u v : V) : Prop := ∃ d, Walk adj u v d

theorem Walk.nonneg {adj : V → List (V × Int)} (hadj : ∀ v, ∀ p ∈ adj v, 0 ≤ p.2) {u v : V} {d : Int}
    (h : Walk adj u v d) : 0 ≤ d := by
  induction h with
  | nil => exact le_refl 0
  | snoc _ he ih => exact Int.add_nonneg ih (hadj _ _ he)

/-- The candidates of a search are the edges of a graph: a good candidate gives rise to
good ones, one or more for each edge to a vertex outside the tree, and remembers where
it came from. -/
structure Explores [DecidableEq V] (P : LazySearch V E) (adj : V → List (V × Int)) (good : E → Prop)
    (parent : E → Option E) (root : E) : Prop where
  nonneg : ∀ v, ∀ p ∈ adj v, 0 ≤ p.2
  good_root : good root
  dist_root : P.dist root = 0
  parent_root : parent root = none
  sound : ∀ tree e c, good e → c ∈ P.expand tree e →
    good c ∧ parent c = some e ∧ ∃ w, (P.vertex c, w) ∈ adj (P.vertex e) ∧ P.dist c = P.dist e + w
  complete : ∀ tree e v w, good e → (v, w) ∈ adj (P.vertex e) → tree.contains v = false →
    ∃ c ∈ P.expand tree e, P.vertex c = v ∧ P.dist c = P.dist e + w
  length_expand : ∀ tree e, good e → (P.expand tree e).length ≤ (adj (P.vertex e)).length

/-- **A tree of shortest walks** from the vertex of `root` to exactly the reachable
vertices, in the order of their distances. -/
structure Shortest [DecidableEq V] (P : LazySearch V E) (adj : V → List (V × Int)) (good : E → Prop)
    (parent : E → Option E) (root : E) (tree : Dict V E) : Prop where
  contains_iff : ∀ v, (∃ e, tree.get? v = some e) ↔ Reach adj (P.vertex root) v
  vertex : ∀ v e, tree.get? v = some e → P.vertex e = v ∧ good e
  least : ∀ v e, tree.get? v = some e →
    Walk adj (P.vertex root) v (P.dist e) ∧ ∀ d, Walk adj (P.vertex root) v d → P.dist e ≤ d
  parent : ∀ v e, tree.get? v = some e → e = root ∨
    ∃ p w, parent e = some p ∧ tree.get? (P.vertex p) = some p ∧ (v, w) ∈ adj (P.vertex p) ∧
      P.dist e = P.dist p + w
  sorted : (tree.values.map P.dist).Pairwise (· ≤ ·)

section Correctness

variable [DecidableEq V] {P : LazySearch V E} {adj : V → List (V × Int)} {good : E → Prop}
  {parent : E → Option E} {root : E}

/-- Where a candidate came from: it is the root, or an edge leads to it from its settled
parent. -/
def Derived (P : LazySearch V E) (adj : V → List (V × Int)) (parent : E → Option E) (root : E)
    (tree : Dict V E) (e : E) : Prop :=
  e = root ∨ ∃ p w, parent e = some p ∧ tree.get? (P.vertex p) = some p ∧
    (P.vertex e, w) ∈ adj (P.vertex p) ∧ P.dist e = P.dist p + w

/-- A vertex is settled within a distance, or it is queued within it. -/
def Covered (P : LazySearch V E) (st : State V E) (v : V) (d : Int) : Prop :=
  (∃ e, st.tree.get? v = some e ∧ P.dist e ≤ d) ∨
    st.tree.get? v = none ∧ ∃ q ∈ st.queue, P.vertex q.item = v ∧ q.dist ≤ d

/-- The invariant of the loop. -/
structure Inv (P : LazySearch V E) (adj : V → List (V × Int)) (good : E → Prop)
    (parent : E → Option E) (root : E) (st : State V E) : Prop where
  tree : ∀ v e, st.tree.get? v = some e → P.vertex e = v ∧ good e ∧
    Walk adj (P.vertex root) v (P.dist e) ∧ Derived P adj parent root st.tree e
  queue : ∀ q ∈ st.queue, q.dist = P.dist q.item ∧ good q.item ∧
    Walk adj (P.vertex root) (P.vertex q.item) q.dist ∧ Derived P adj parent root st.tree q.item
  /-- What is settled is no farther than what is queued. -/
  ordered : ∀ v e, st.tree.get? v = some e → ∀ q ∈ st.queue, P.dist e ≤ q.dist
  sorted : (st.tree.values.map P.dist).Pairwise (· ≤ ·)
  /-- The root and the targets of the edges of settled vertices are covered. -/
  root : Covered P st (P.vertex root) 0
  edges : ∀ v e, st.tree.get? v = some e → ∀ x w, (x, w) ∈ adj v → Covered P st x (P.dist e + w)

theorem inv_start (h : Explores P adj good parent root) :
    Inv P adj good parent root (P.start root) where
  tree := fun v e he => by cases he
  queue := fun q hq => by
    rw [List.mem_singleton.1 hq]
    refine ⟨rfl, h.good_root, ?_, Or.inl rfl⟩
    change Walk adj (P.vertex root) (P.vertex root) (P.dist root)
    rw [h.dist_root]
    exact .nil
  ordered := fun v e he => by cases he
  sorted := List.Pairwise.nil
  root := Or.inr ⟨rfl, _, List.mem_singleton_self _, rfl, le_of_eq h.dist_root⟩
  edges := fun v e he => by cases he

/-- A derived candidate stays derived when a new vertex is settled. -/
theorem Derived.set {tree : Dict V E} {v : V} {m e : E} (hv : tree.get? v = none)
    (hd : Derived P adj parent root tree e) : Derived P adj parent root (tree.set v m) e := by
  rcases hd with rfl | ⟨p, w, hp, hget, hadj, hdist⟩
  · exact Or.inl rfl
  · refine Or.inr ⟨p, w, hp, ?_, hadj, hdist⟩
    have hne : v ≠ P.vertex p := fun heq => by rw [← heq, hv] at hget; cases hget
    rw [Dict.get?_set_of_ne _ hne, hget]

/-- Dropping an entry of a settled vertex keeps the invariant. -/
theorem Inv.drop {st : State V E} (hi : Inv P adj good parent root st) {m : Entry E}
    {rest : List (Entry E)} (hperm : st.queue.Perm (m :: rest))
    (hin : st.tree.contains (P.vertex m.item) = true) :
    Inv P adj good parent root { st with queue := rest } := by
  have hsub : ∀ q ∈ rest, q ∈ st.queue := fun q hq => hperm.symm.subset (List.mem_cons_of_mem _ hq)
  have hcov : ∀ v d, Covered P st v d → Covered P { st with queue := rest } v d := by
    rintro v d (hset | ⟨hnone, q, hq, hqv, hqd⟩)
    · exact Or.inl hset
    · refine Or.inr ⟨hnone, q, ?_, hqv, hqd⟩
      rcases List.mem_cons.1 (hperm.subset hq) with rfl | hq
      · rw [hqv, Dict.contains, hnone] at hin
        cases hin
      · exact hq
  exact
    { tree := hi.tree
      queue := fun q hq => hi.queue q (hsub q hq)
      ordered := fun v e he q hq => hi.ordered v e he q (hsub q hq)
      sorted := hi.sorted
      root := hcov _ _ hi.root
      edges := fun v e he x w hx => hcov _ _ (hi.edges v e he x w hx) }

/-- **Settling the nearest entry** keeps the invariant. -/
theorem Inv.settle (h : Explores P adj good parent root) {st : State V E}
    (hi : Inv P adj good parent root st) {m : Entry E} {rest : List (Entry E)}
    (hperm : st.queue.Perm (m :: rest)) (hmin : ∀ q ∈ rest, m.dist ≤ q.dist)
    (hout : st.tree.get? (P.vertex m.item) = none) :
    Inv P adj good parent root
      ((P.expand (st.tree.set (P.vertex m.item) m.item) m.item).foldl P.push
        { st with tree := st.tree.set (P.vertex m.item) m.item, queue := rest }) := by
  have hm : m ∈ st.queue := hperm.symm.subset (List.mem_cons_self ..)
  obtain ⟨hmd, hmgood, hmwalk, hmder⟩ := hi.queue m hm
  have hsub : ∀ q ∈ rest, q ∈ st.queue := fun q hq => hperm.symm.subset (List.mem_cons_of_mem _ hq)
  -- what the new tree holds: the old entries, and the new one
  have hget : ∀ v e, (st.tree.set (P.vertex m.item) m.item).get? v = some e →
      P.vertex m.item = v ∧ e = m.item ∨ st.tree.get? v = some e := by
    intro v e he
    rw [Dict.get?_set] at he
    split at he
    · rename_i heq
      exact Or.inl ⟨heq, (Option.some.inj he).symm⟩
    · exact Or.inr he
  have hold : ∀ v e, st.tree.get? v = some e →
      (st.tree.set (P.vertex m.item) m.item).get? v = some e := by
    intro v e he
    have hne : P.vertex m.item ≠ v := fun heq => by rw [← heq, hout] at he; cases he
    rw [Dict.get?_set_of_ne _ hne, he]
  -- what the new queue holds: what is left of the old one, and the expansion
  have hnew : ∀ q, q ∈ ((P.expand (st.tree.set (P.vertex m.item) m.item) m.item).foldl P.push
      { st with tree := st.tree.set (P.vertex m.item) m.item, queue := rest }).queue →
      q ∈ rest ∨ q.dist = P.dist q.item ∧ good q.item ∧ parent q.item = some m.item ∧
        ∃ w, (P.vertex q.item, w) ∈ adj (P.vertex m.item) ∧ P.dist q.item = P.dist m.item + w := by
    intro q hq
    rcases mem_foldl_push P hq with hq | ⟨hq, hqd⟩
    · exact Or.inl hq
    · obtain ⟨hg, hp, w, hw, hd⟩ := h.sound _ _ _ hmgood hq
      exact Or.inr ⟨hqd, hg, hp, w, hw, hd⟩
  -- coverage carries over: an entry of the settled vertex is served by its settling
  have hcov : ∀ v d, Covered P st v d → Covered P
      ((P.expand (st.tree.set (P.vertex m.item) m.item) m.item).foldl P.push
        { st with tree := st.tree.set (P.vertex m.item) m.item, queue := rest }) v d := by
    rintro v d (⟨e, he, hd⟩ | ⟨hnone, q, hq, hqv, hqd⟩)
    · exact Or.inl ⟨e, by rw [tree_foldl_push]; exact hold v e he, hd⟩
    · by_cases hv : P.vertex m.item = v
      · refine Or.inl ⟨m.item, ?_, ?_⟩
        · rw [tree_foldl_push, ← hv]
          exact Dict.get?_set_self ..
        · rw [← hmd]
          rcases List.mem_cons.1 (hperm.subset hq) with rfl | hq
          · exact hqd
          · exact (hmin q hq).trans hqd
      · refine Or.inr ⟨?_, q, ?_, hqv, hqd⟩
        · rw [tree_foldl_push]
          change (st.tree.set (P.vertex m.item) m.item).get? v = none
          rw [Dict.get?_set_of_ne _ hv, hnone]
        · rcases List.mem_cons.1 (hperm.subset hq) with rfl | hq
          · exact absurd hqv hv
          · exact queue_subset_foldl_push P hq
  refine
    { tree := fun v e he => ?_
      queue := fun q hq => ?_
      ordered := fun v e he q hq => ?_
      sorted := ?_
      root := hcov _ _ hi.root
      edges := fun v e he x w hx => ?_ }
  · rw [tree_foldl_push] at he ⊢
    rcases hget v e he with ⟨rfl, rfl⟩ | he
    · exact ⟨rfl, hmgood, hmd ▸ hmwalk, hmder.set hout⟩
    · obtain ⟨hv, hg, hwalk, hder⟩ := hi.tree v e he
      exact ⟨hv, hg, hwalk, hder.set hout⟩
  · rw [tree_foldl_push]
    rcases hnew q hq with hq | ⟨hqd, hg, hp, w, hw, hd⟩
    · obtain ⟨hqd, hg, hwalk, hder⟩ := hi.queue q (hsub q hq)
      exact ⟨hqd, hg, hwalk, hder.set hout⟩
    · refine ⟨hqd, hg, ?_, Or.inr ⟨m.item, w, hp, Dict.get?_set_self .., hw, hd⟩⟩
      rw [hqd, hd, ← hmd]
      exact hmwalk.snoc hw
  · rw [tree_foldl_push] at he
    -- the new entry is the nearest of the queue, and its targets are no nearer
    have hqm : m.dist ≤ q.dist := by
      rcases hnew q hq with hq | ⟨hqd, -, -, w, hw, hd⟩
      · exact hmin q hq
      · have hw0 : 0 ≤ w := h.nonneg _ _ hw
        rw [hqd, hd, ← hmd]
        omega
    rcases hget v e he with ⟨rfl, rfl⟩ | he
    · rw [← hmd]
      exact hqm
    · exact (hi.ordered v e he m hm).trans hqm
  · rw [tree_foldl_push]
    change ((st.tree.set (P.vertex m.item) m.item).values.map P.dist).Pairwise (· ≤ ·)
    rw [Dict.values_set_of_none hout, List.map_append, List.pairwise_append]
    refine ⟨hi.sorted, List.pairwise_singleton .., ?_⟩
    intro a ha b hb
    obtain ⟨e, he, rfl⟩ := List.mem_map.1 ha
    obtain ⟨v, hv⟩ := Dict.mem_values_iff.1 he
    rw [List.mem_singleton.1 hb, ← hmd]
    exact hi.ordered v e hv m hm
  · rw [tree_foldl_push] at he
    rcases hget v e he with ⟨rfl, rfl⟩ | he
    · have hw0 : 0 ≤ w := h.nonneg _ _ hx
      rcases hx' : (st.tree.set (P.vertex m.item) m.item).get? x with _ | e'
      · obtain ⟨c, hc, hcv, hcd⟩ := h.complete (st.tree.set (P.vertex m.item) m.item) m.item x w
          hmgood hx (by rw [Dict.contains, hx']; rfl)
        obtain ⟨q, hq, hqi, hqd⟩ := exists_foldl_push P
          { st with tree := st.tree.set (P.vertex m.item) m.item, queue := rest } hc
        refine Or.inr ⟨by rw [tree_foldl_push]; exact hx', q, hq, by rw [hqi, hcv], ?_⟩
        rw [hqd, hcd]
      · refine Or.inl ⟨e', by rw [tree_foldl_push]; exact hx', ?_⟩
        rcases hget x e' hx' with ⟨-, rfl⟩ | he'
        · omega
        · have := hi.ordered x e' he' m hm
          omega
    · exact hcov _ _ (hi.edges v e he x w hx)

/-- One turn keeps the invariant. -/
theorem Inv.step (h : Explores P adj good parent root) {st st' : State V E}
    (hi : Inv P adj good parent root st) (hst : P.step st = some st') :
    Inv P adj good parent root st' := by
  obtain ⟨m, rest, hperm, hmin, ⟨hin, rfl⟩ | ⟨hout, rfl⟩⟩ := step_cases hst
  · exact hi.drop hperm hin
  · refine hi.settle h hperm hmin ?_
    simpa [Dict.contains] using hout

/-- **What is left when the queue is empty.** -/
theorem Inv.shortest {st : State V E}
    (hi : Inv P adj good parent root st) (hq : st.queue = []) :
    Shortest P adj good parent root st.tree := by
  have hset : ∀ v d, Covered P st v d → ∃ e, st.tree.get? v = some e ∧ P.dist e ≤ d := by
    rintro v d (hset | ⟨-, q, hmem, -⟩)
    · exact hset
    · rw [hq] at hmem
      cases hmem
  -- along a walk, every vertex is settled within the weight so far
  have hwalk : ∀ v d, Walk adj (P.vertex root) v d →
      ∃ e, st.tree.get? v = some e ∧ P.dist e ≤ d := by
    intro v d hw
    induction hw with
    | nil => exact hset _ _ hi.root
    | snoc _ he ih =>
      obtain ⟨e, hget, hle⟩ := ih
      obtain ⟨e', hget', hle'⟩ := hset _ _ (hi.edges _ e hget _ _ he)
      exact ⟨e', hget', by omega⟩
  refine
    { contains_iff := fun v => ⟨?_, ?_⟩
      vertex := fun v e he => ⟨(hi.tree v e he).1, (hi.tree v e he).2.1⟩
      least := fun v e he => ⟨(hi.tree v e he).2.2.1, fun d hd => ?_⟩
      parent := fun v e he => ?_
      sorted := hi.sorted }
  · rintro ⟨e, he⟩
    exact ⟨_, (hi.tree v e he).2.2.1⟩
  · rintro ⟨d, hd⟩
    obtain ⟨e, he, -⟩ := hwalk v d hd
    exact ⟨e, he⟩
  · obtain ⟨e', he', hle⟩ := hwalk v d hd
    rw [he] at he'
    rw [Option.some.inj he']
    exact hle
  · obtain ⟨hv, -, -, hder⟩ := hi.tree v e he
    rw [← hv]
    exact hder

/-! ### The loop ends -/

/-- The turns a state has left at most: one for each queued entry, and for each vertex of `U`
that is not settled as many as its candidates. -/
def turns (width : V → Nat) (U : Finset V) (st : State V E) : Nat :=
  st.queue.length + ∑ v ∈ U.filter (fun v => st.tree.contains v = false), width v

theorem turns_start (P : LazySearch V E) (width : V → Nat) (U : Finset V) (root : E) :
    turns width U (P.start root) = 1 + ∑ v ∈ U, width v := by
  have hall : U.filter (fun v => (P.start root).tree.contains v = false) = U :=
    Finset.filter_true_of_mem fun v _ => rfl
  rw [turns, hall]
  rfl

/-- A turn uses one up. -/
theorem turns_step {width : V → Nat} {U : Finset V} {st st' : State V E}
    (hU : ∀ q ∈ st.queue, P.vertex q.item ∈ U)
    (hwidth : ∀ q ∈ st.queue, ∀ tree, (P.expand tree q.item).length ≤ width (P.vertex q.item))
    (hst : P.step st = some st') : turns width U st' < turns width U st := by
  obtain ⟨m, rest, hperm, -, hcases⟩ := step_cases hst
  have hm : m ∈ st.queue := hperm.symm.subset (List.mem_cons_self ..)
  have hlen : st.queue.length = rest.length + 1 := by
    rw [hperm.length_eq, List.length_cons]
  rcases hcases with ⟨-, rfl⟩ | ⟨hout, rfl⟩
  · rw [turns, turns, hlen]
    exact Nat.add_lt_add_right (Nat.lt_succ_self _) _
  · -- settling the vertex takes its candidates out of the sum
    have hfilter : U.filter (fun v => (st.tree.set (P.vertex m.item) m.item).contains v = false) =
        (U.filter fun v => st.tree.contains v = false).erase (P.vertex m.item) := by
      ext v
      simp only [Finset.mem_filter, Finset.mem_erase, Dict.contains, Dict.get?_set]
      by_cases hv : P.vertex m.item = v
      · simp [hv]
      · simp [hv, Ne.symm hv]
    have hmem : P.vertex m.item ∈ U.filter fun v => st.tree.contains v = false :=
      Finset.mem_filter.2 ⟨hU m hm, hout⟩
    have hsum := Finset.add_sum_erase _ width hmem
    have hexp := hwidth m hm (st.tree.set (P.vertex m.item) m.item)
    rw [turns, turns, length_foldl_push, tree_foldl_push, hfilter]
    dsimp only
    omega

theorem queue_of_step_none {st : State V E} (h : P.step st = none) : st.queue = [] := by
  rw [LazySearch.step] at h
  split at h
  · rename_i hnone
    exact popMin_eq_none_iff.1 hnone
  · split at h <;> cases h

/-- **The loop ends where its turns are counted down**, in a state with an empty queue that has
every invariant of a turn. -/
theorem run_ends {I : State V E → Prop} {left : State V E → Nat}
    (hstep : ∀ st st', I st → P.step st = some st' → I st' ∧ left st' < left st) {st : State V E}
    (h : I st) : ∃ st', I st' ∧ st'.queue = [] ∧ ∀ fuel, left st < fuel → P.run fuel st = some st'.tree := by
  -- induction on the turns that are left
  induction hn : left st using Nat.strong_induction_on generalizing st with
  | h n ih =>
    cases hst : P.step st with
    | none =>
      refine ⟨st, h, queue_of_step_none hst, fun fuel hf => ?_⟩
      obtain ⟨f, rfl⟩ : ∃ f, fuel = f + 1 := ⟨fuel - 1, by omega⟩
      rw [run, hst]
    | some st' =>
      obtain ⟨hi, hlt⟩ := hstep st st' h hst
      obtain ⟨last, hlast, hq, hrun⟩ := ih (left st') (by omega) hi rfl
      refine ⟨last, hlast, hq, fun fuel hf => ?_⟩
      obtain ⟨f, rfl⟩ : ∃ f, fuel = f + 1 := ⟨fuel - 1, by omega⟩
      rw [run, hst]
      exact hrun f (by omega)

/-- **The loop ends, with a tree of shortest walks**, as soon as it is given a turn for the
root, one for each edge, and one to see that the queue is empty. -/
theorem run_shortest (h : Explores P adj good parent root) (U : Finset V)
    (hU : ∀ v, Reach adj (P.vertex root) v → v ∈ U) :
    ∃ tree, Shortest P adj good parent root tree ∧
      ∀ fuel, 1 + ∑ v ∈ U, (adj v).length < fuel → P.run fuel (P.start root) = some tree := by
  have hstep : ∀ st st', Inv P adj good parent root st → P.step st = some st' →
      Inv P adj good parent root st' ∧
        turns (fun v => (adj v).length) U st' < turns (fun v => (adj v).length) U st := by
    intro st st' hi hst
    refine ⟨hi.step h hst, turns_step (fun q hq => ?_) (fun q hq tree => ?_) hst⟩
    · obtain ⟨-, -, hwalk, -⟩ := hi.queue q hq
      exact hU _ ⟨_, hwalk⟩
    · obtain ⟨-, hgood, -⟩ := hi.queue q hq
      exact h.length_expand tree q.item hgood
  obtain ⟨st, hi, hq, hrun⟩ := run_ends hstep (inv_start h)
  rw [turns_start] at hrun
  exact ⟨st.tree, hi.shortest hq, hrun⟩

/-! ### What holds of all candidates -/

/-- What holds of the root, and of the candidates that a settled one with the property gives
rise to once the root is settled. -/
structure Passed (P : LazySearch V E) (root : E) (good : E → Prop) : Prop where
  init : good root
  expand : ∀ tree e, tree.contains (P.vertex root) = true → good e → ∀ c ∈ P.expand tree e, good c

/-- Everything in a state has a property; the root is settled, or alone. -/
structure AllGood (P : LazySearch V E) (root : E) (good : E → Prop) (st : State V E) : Prop where
  tree : ∀ v e, st.tree.get? v = some e → P.vertex e = v ∧ good e
  queue : ∀ q ∈ st.queue, good q.item
  first : st.tree.contains (P.vertex root) = true ∨ ∀ q ∈ st.queue, P.vertex q.item = P.vertex root

theorem Passed.start (h : Passed P root good) : AllGood P root good (P.start root) where
  tree := fun v e he => by cases he
  queue := fun q hq => by
    rw [List.mem_singleton.1 hq]
    exact h.init
  first := Or.inr fun q hq => by rw [List.mem_singleton.1 hq]

theorem Passed.step (h : Passed P root good) {st st' : State V E} (hi : AllGood P root good st)
    (hst : P.step st = some st') : AllGood P root good st' := by
  obtain ⟨m, rest, hperm, -, hcases⟩ := step_cases hst
  have hm : m ∈ st.queue := hperm.symm.subset (List.mem_cons_self ..)
  have hsub : ∀ q ∈ rest, q ∈ st.queue := fun q hq => hperm.symm.subset (List.mem_cons_of_mem _ hq)
  rcases hcases with ⟨-, rfl⟩ | ⟨-, rfl⟩
  · refine ⟨hi.tree, fun q hq => hi.queue q (hsub q hq), ?_⟩
    exact hi.first.imp_right fun hall q hq => hall q (hsub q hq)
  · have hroot : (st.tree.set (P.vertex m.item) m.item).contains (P.vertex root) = true := by
      rw [Dict.contains, Dict.get?_set]
      split
      · rfl
      · rename_i hne
        rcases hi.first with hin | hall
        · exact hin
        · exact absurd (hall m hm) hne
    constructor
    · intro v e he
      rw [tree_foldl_push] at he
      rcases Dict.get?_of_set he with ⟨rfl, rfl⟩ | hold
      · exact ⟨rfl, hi.queue m hm⟩
      · exact hi.tree v e hold
    · intro q hq
      rcases mem_foldl_push P hq with hq | ⟨hq, -⟩
      · exact hi.queue q (hsub q hq)
      · exact h.expand _ _ hroot (hi.queue m hm) _ hq
    · rw [tree_foldl_push]
      exact Or.inl hroot

/-- **The tree holds only such candidates**, each under its vertex. -/
theorem Passed.run (h : Passed P root good) {fuel : Nat} {tree : Dict V E}
    (hrun : P.run fuel (P.start root) = some tree) {v : V} {e : E} (he : tree.get? v = some e) :
    P.vertex e = v ∧ good e := by
  have key : ∀ fuel st, AllGood P root good st → P.run fuel st = some tree →
      P.vertex e = v ∧ good e := by
    intro fuel
    induction fuel with
    | zero =>
      intro st _ hrun
      cases hrun
    | succ fuel ih =>
      intro st hi hrun
      rw [LazySearch.run] at hrun
      split at hrun
      · cases hrun
        exact hi.tree v e he
      · rename_i st' hst
        exact ih st' (h.step hi hst) hrun
  exact key fuel _ h.start hrun

/-- **Any search ends** whose candidates have finitely many vertices and bounded expansions. -/
theorem Passed.run_ends (h : Passed P root good) {U : Finset V} (hU : ∀ e, good e → P.vertex e ∈ U)
    (width : V → Nat) (hwidth : ∀ tree e, good e → (P.expand tree e).length ≤ width (P.vertex e)) :
    ∃ tree, ∀ fuel, 1 + ∑ v ∈ U, width v < fuel → P.run fuel (P.start root) = some tree := by
  have hstep : ∀ st st', AllGood P root good st → P.step st = some st' →
      AllGood P root good st' ∧ turns width U st' < turns width U st := fun st st' hi hst =>
    ⟨h.step hi hst, turns_step (fun q hq => hU _ (hi.queue q hq))
      (fun q hq tree => hwidth tree _ (hi.queue q hq)) hst⟩
  obtain ⟨st, -, -, hrun⟩ := LazySearch.run_ends hstep h.start
  rw [turns_start] at hrun
  exact ⟨st.tree, hrun⟩

end Correctness
end LazySearch
