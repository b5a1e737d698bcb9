import Mathlib.Logic.Relation
import Mathlib.Tactic.Common

/-!
# Stateful computations that may raise

`Eff ε σ α` is a computation over a mutable state `σ` that either returns a
value of type `α` or raises an exception of type `ε`.  What it wrote before it
raised stays written, as in Python: the final state is there in both outcomes.

* `Eff.tryCatch`, `Eff.forEach`, `Eff.forUntil` — the `try` statement and the two
  shapes of loop (`for` to the end, `for` with an early `break`).
* the `apply` lemmas — what each construct does to a state, as a simp set.
* `Eff.Within R m` — **every run of `m` stays within the relation `R`**, whatever
  its outcome.  For a reflexive and transitive `R` the rules below make this
  compositional, so a frame condition or an invariant is proved once for each
  primitive and carried through sequencing, branches, loops and handlers.
* `Eff.Runs m s a s'` — `m` started in `s` returns `a` and ends in `s'`, with the
  sequencing rule.
* `Runs.forEach_iff` — a loop whose iterations do not interfere.
* `Eff.Along body P xs s` — a condition on each iteration of a loop, in the state it finds.
-/

/-- A computation over the state `σ` that may raise an `ε`. -/
def Eff (ε σ α : Type) : Type := σ → Except ε α × σ

namespace Eff

variable {ε σ α β : Type}

/-! ## The constructs -/

/-- Return a value, leaving the state alone. -/
def ret (a : α) : Eff ε σ α := fun s => (.ok a, s)

/-- Sequencing: an exception skips what follows and keeps the state. -/
def seq (m : Eff ε σ α) (f : α → Eff ε σ β) : Eff ε σ β := fun s =>
  match m s with
  | (.ok a, s') => f a s'
  | (.error e, s') => (.error e, s')

instance : Monad (Eff ε σ) where
  pure := ret
  bind := seq

/-- Read the state. -/
def get : Eff ε σ σ := fun s => (.ok s, s)

/-- Update the state. -/
def modify (f : σ → σ) : Eff ε σ Unit := fun s => (.ok (), f s)

/-- Raise an exception. -/
def throw (e : ε) : Eff ε σ α := fun s => (.error e, s)

/-- Re-raise the exception of a pure computation. -/
def lift (r : Except ε α) : Eff ε σ α := fun s => (r, s)

/-- `try m except e: h e`. -/
def tryCatch (m : Eff ε σ α) (h : ε → Eff ε σ α) : Eff ε σ α := fun s =>
  match m s with
  | (.ok a, s') => (.ok a, s')
  | (.error e, s') => h e s'

/-- `if p: m`. -/
def when (p : Prop) [Decidable p] (m : Eff ε σ Unit) : Eff ε σ Unit := if p then m else ret ()

/-- `for x in xs: body x`. -/
def forEach : List α → (α → Eff ε σ Unit) → Eff ε σ Unit
  | [], _ => ret ()
  | x :: xs, body => seq (body x) fun _ => forEach xs body

/-- `for x in xs: body x`, left early as soon as the body answers `true`; the
answer is whether it was left early. -/
def forUntil : List α → (α → Eff ε σ Bool) → Eff ε σ Bool
  | [], _ => ret false
  | x :: xs, body => seq (body x) fun stop => if stop then ret true else forUntil xs body

/-! ## What the constructs do -/

@[simp] theorem pure_apply (a : α) (s : σ) : (pure a : Eff ε σ α) s = (.ok a, s) := rfl

@[simp] theorem ret_apply (a : α) (s : σ) : (ret a : Eff ε σ α) s = (.ok a, s) := rfl

theorem bind_apply (m : Eff ε σ α) (f : α → Eff ε σ β) (s : σ) :
    (m >>= f) s = match m s with
      | (.ok a, s') => f a s'
      | (.error e, s') => (.error e, s') := rfl

theorem bind_apply_ok {m : Eff ε σ α} {f : α → Eff ε σ β} {s s' : σ} {a : α}
    (h : m s = (.ok a, s')) : (m >>= f) s = f a s' := by
  rw [bind_apply, h]

theorem bind_apply_error {m : Eff ε σ α} {f : α → Eff ε σ β} {s s' : σ} {e : ε}
    (h : m s = (.error e, s')) : (m >>= f) s = (.error e, s') := by
  rw [bind_apply, h]

@[simp] theorem pure_bind_apply (a : α) (f : α → Eff ε σ β) (s : σ) :
    ((pure a : Eff ε σ α) >>= f) s = f a s := rfl

@[simp] theorem get_apply (s : σ) : (get : Eff ε σ σ) s = (.ok s, s) := rfl

@[simp] theorem get_bind_apply (f : σ → Eff ε σ β) (s : σ) : (get >>= f) s = f s s := rfl

@[simp] theorem modify_apply (f : σ → σ) (s : σ) :
    (modify f : Eff ε σ Unit) s = (.ok (), f s) := rfl

@[simp] theorem modify_bind_apply (f : σ → σ) (g : Unit → Eff ε σ β) (s : σ) :
    (modify f >>= g) s = g () (f s) := rfl

@[simp] theorem throw_apply (e : ε) (s : σ) : (throw e : Eff ε σ α) s = (.error e, s) := rfl

@[simp] theorem throw_bind_apply (e : ε) (f : α → Eff ε σ β) (s : σ) :
    ((throw e : Eff ε σ α) >>= f) s = (.error e, s) := rfl

@[simp] theorem lift_apply (r : Except ε α) (s : σ) : (lift r : Eff ε σ α) s = (r, s) := rfl

theorem lift_bind_apply (r : Except ε α) (f : α → Eff ε σ β) (s : σ) :
    (lift r >>= f) s = match r with
      | .ok a => f a s
      | .error e => (.error e, s) := by
  cases r <;> rfl

/-- What holds after `m`, and after `f` when `m` returns, holds after both in sequence. -/
theorem bind_final {P : σ → Prop} {m : Eff ε σ α} {f : α → Eff ε σ β} {s : σ} (hm : P (m s).2)
    (hf : ∀ a, (m s).1 = .ok a → P (f a (m s).2).2) : P ((m >>= f) s).2 := by
  rw [bind_apply]
  rcases hr : m s with ⟨r, s'⟩
  rw [hr] at hm hf
  cases r with
  | ok a => exact hf a rfl
  | error e => exact hm

/-- A result that is thrown away leaves the state as it was made. -/
theorem discard_final (m : Eff ε σ α) (s : σ) : ((do
    let _ ← m
    pure () : Eff ε σ Unit) s).2 = (m s).2 := by
  rw [bind_apply]
  rcases m s with ⟨_ | _, _⟩ <;> rfl

/-- What every iteration keeps holds after the loop, wherever it ends. -/
theorem forEach_final {P : σ → Prop} {body : α → Eff ε σ Unit} : ∀ {xs : List α} {s : σ}, P s →
    (∀ x ∈ xs, ∀ u, P u → P (body x u).2) → P (forEach xs body s).2
  | [], _, hs, _ => hs
  | x :: xs, s, hs, h => by
    have hx : P (body x s).2 := h x (List.mem_cons_self ..) s hs
    exact bind_final (f := fun _ => forEach xs body) hx fun _ _ =>
      forEach_final hx fun y hy => h y (List.mem_cons_of_mem _ hy)

/-- Loops whose iterations agree wherever an invariant holds. -/
theorem forEach_congr {P : σ → Prop} {f g : α → Eff ε σ Unit} : ∀ {xs : List α} {s : σ}, P s →
    (∀ x ∈ xs, ∀ u, P u → f x u = g x u ∧ P (g x u).2) → forEach xs f s = forEach xs g s
  | [], _, _, _ => rfl
  | x :: xs, s, hs, h => by
    obtain ⟨hx, hkeep⟩ := h x (List.mem_cons_self ..) s hs
    change seq (f x) (fun _ => forEach xs f) s = seq (g x) (fun _ => forEach xs g) s
    rw [seq, seq, hx]
    rcases hr : g x s with ⟨r, u⟩
    rw [hr] at hkeep
    cases r with
    | ok a => exact forEach_congr hkeep fun y hy => h y (List.mem_cons_of_mem _ hy)
    | error e => rfl

theorem ite_apply (p : Prop) [Decidable p] (m n : Eff ε σ α) (s : σ) :
    (if p then m else n) s = if p then m s else n s := by
  split <;> rfl

theorem when_pos {p : Prop} [Decidable p] (h : p) (m : Eff ε σ Unit) : when p m = m := if_pos h

theorem when_neg {p : Prop} [Decidable p] (h : ¬p) (m : Eff ε σ Unit) : when p m = pure () := if_neg h

@[simp] theorem forEach_nil (body : α → Eff ε σ Unit) : forEach [] body = pure () := rfl

@[simp] theorem forEach_cons (x : α) (xs : List α) (body : α → Eff ε σ Unit) :
    forEach (x :: xs) body = (body x >>= fun _ => forEach xs body) := rfl

@[simp] theorem forUntil_nil (body : α → Eff ε σ Bool) : forUntil [] body = pure false := rfl

@[simp] theorem forUntil_cons (x : α) (xs : List α) (body : α → Eff ε σ Bool) :
    forUntil (x :: xs) body =
      (body x >>= fun stop => if stop then pure true else forUntil xs body) := rfl

/-! ## Staying within a relation -/

/-- Every run of `m`, returning or raising, relates its first and last state. -/
def Within (R : σ → σ → Prop) (m : Eff ε σ α) : Prop := ∀ s, R s (m s).2

namespace Within

variable {R : σ → σ → Prop}

theorem mono {R' : σ → σ → Prop} {m : Eff ε σ α} (h : Within R m)
    (hR : ∀ s s', R s s' → R' s s') : Within R' m := fun s => hR _ _ (h s)

theorem ret [Std.Refl R] (a : α) : Within R (Eff.ret a : Eff ε σ α) := fun s => refl_of R s

theorem pure [Std.Refl R] (a : α) : Within R (Pure.pure a : Eff ε σ α) := fun s => refl_of R s

theorem get [Std.Refl R] : Within R (Eff.get : Eff ε σ σ) := fun s => refl_of R s

theorem throw [Std.Refl R] (e : ε) : Within R (Eff.throw e : Eff ε σ α) := fun s => refl_of R s

theorem lift [Std.Refl R] (r : Except ε α) : Within R (Eff.lift r : Eff ε σ α) :=
  fun s => refl_of R s

theorem modify {f : σ → σ} (h : ∀ s, R s (f s)) : Within R (Eff.modify f : Eff ε σ Unit) := h

theorem bind [IsTrans σ R] {m : Eff ε σ α} {f : α → Eff ε σ β} (hm : Within R m)
    (hf : ∀ a, Within R (f a)) : Within R (m >>= f) := by
  intro s
  have h := hm s
  rw [bind_apply]
  rcases hr : m s with ⟨r, s'⟩
  rw [hr] at h
  cases r with
  | ok a => exact trans_of R h (hf a s')
  | error e => exact h

/-- Reading the state first, when what is done with it does not matter. -/
theorem read {f : σ → Eff ε σ β} (h : ∀ s, Within R (f s)) : Within R (Eff.get >>= f) :=
  fun s => h s s

/-- The rule for a computation that looks at the state before it acts. -/
theorem get_bind {f : σ → Eff ε σ β} (h : ∀ s, R s (f s s).2) : Within R (Eff.get >>= f) := h

theorem ite {p : Prop} [Decidable p] {m n : Eff ε σ α} (hm : Within R m) (hn : Within R n) :
    Within R (if p then m else n) := by
  split
  · exact hm
  · exact hn

/-- Each branch may use its condition. -/
theorem branch {p : Prop} [Decidable p] {m n : Eff ε σ α} (hm : p → Within R m) (hn : ¬p → Within R n) :
    Within R (if p then m else n) := by
  by_cases hp : p
  · rw [if_pos hp]
    exact hm hp
  · rw [if_neg hp]
    exact hn hp

theorem when [Std.Refl R] {p : Prop} [Decidable p] {m : Eff ε σ Unit} (h : p → Within R m) :
    Within R (Eff.when p m) := by
  by_cases hp : p
  · rw [when_pos hp]
    exact h hp
  · rw [when_neg hp]
    exact Within.pure ()

theorem tryCatch [IsTrans σ R] {m : Eff ε σ α} {h : ε → Eff ε σ α} (hm : Within R m)
    (hh : ∀ e, Within R (h e)) : Within R (Eff.tryCatch m h) := by
  intro s
  have hs := hm s
  unfold Eff.tryCatch
  rcases hr : m s with ⟨r, s'⟩
  rw [hr] at hs
  cases r with
  | ok a => exact hs
  | error e => exact trans_of R hs (hh e s')

/-- **The loop rule.**  What every iteration stays within, the loop stays within. -/
theorem forEach [Std.Refl R] [IsTrans σ R] {xs : List α} {body : α → Eff ε σ Unit}
    (h : ∀ x ∈ xs, Within R (body x)) : Within R (Eff.forEach xs body) := by
  induction xs with
  | nil => exact Within.pure ()
  | cons x xs ih =>
    exact Within.bind (h x (List.mem_cons_self ..))
      fun _ => ih fun y hy => h y (List.mem_cons_of_mem _ hy)

theorem forUntil [Std.Refl R] [IsTrans σ R] {xs : List α} {body : α → Eff ε σ Bool}
    (h : ∀ x ∈ xs, Within R (body x)) : Within R (Eff.forUntil xs body) := by
  induction xs with
  | nil => exact Within.pure false
  | cons x xs ih =>
    refine Within.bind (h x (List.mem_cons_self ..)) fun stop => ?_
    exact Within.ite (Within.pure true) (ih fun y hy => h y (List.mem_cons_of_mem _ hy))

end Within

/-! ## Runs that return -/

/-- `m` started in `s` returns `a` and leaves the state `s'`. -/
def Runs (m : Eff ε σ α) (s : σ) (a : α) (s' : σ) : Prop := m s = (.ok a, s')

namespace Runs

theorem bind {m : Eff ε σ α} {f : α → Eff ε σ β} {s s' s'' : σ} {a : α} {b : β}
    (hm : Runs m s a s') (hf : Runs (f a) s' b s'') : Runs (m >>= f) s b s'' := by
  rw [Runs, bind_apply_ok hm]
  exact hf

theorem final_eq {m : Eff ε σ α} {s s' : σ} {a : α} (h : Runs m s a s') : (m s).2 = s' := by
  rw [h]

/-- A loop whose iterations all return, each carrying the invariant of the
elements done so far to the next, returns with the invariant of the whole list. -/
theorem forEach {body : α → Eff ε σ Unit} {I : List α → σ → Prop} :
    ∀ {todo done : List α} {s : σ}, I done s →
      (∀ x ∈ todo, ∀ done s, I done s → ∃ s', Runs (body x) s () s' ∧ I (done ++ [x]) s') →
      ∃ s', Runs (Eff.forEach todo body) s () s' ∧ I (done ++ todo) s' := by
  intro todo
  induction todo with
  | nil =>
    intro done s h _
    exact ⟨s, rfl, by simpa using h⟩
  | cons x xs ih =>
    intro done s h hbody
    obtain ⟨s₁, hrun, hI⟩ := hbody x (List.mem_cons_self ..) done s h
    obtain ⟨s₂, hrest, hI'⟩ := ih hI fun y hy => hbody y (List.mem_cons_of_mem _ hy)
    exact ⟨s₂, hrun.bind hrest, by simpa using hI'⟩

/-- A loop whose iterations all return, and keep what they need, returns. -/
theorem forEach_returns {body : α → Eff ε σ Unit} {I : σ → Prop} {xs : List α} {s : σ} (hs : I s)
    (h : ∀ x ∈ xs, ∀ s, I s → ∃ s', Runs (body x) s () s' ∧ I s') :
    ∃ t, Runs (Eff.forEach xs body) s () t ∧ I t :=
  @forEach _ _ _ body (fun _ => I) xs [] s hs fun x hx _ s hI => h x hx s hI

/-- So does one that may be left early. -/
theorem forUntil_returns {body : α → Eff ε σ Bool} {I : σ → Prop} : ∀ {xs : List α} {s : σ}, I s →
    (∀ x ∈ xs, ∀ s, I s → ∃ b s', Runs (body x) s b s' ∧ I s') →
    ∃ b t, Runs (Eff.forUntil xs body) s b t ∧ I t
  | [], s, hs, _ => ⟨false, s, rfl, hs⟩
  | x :: xs, s, hs, h => by
    obtain ⟨b, s', hx, hs'⟩ := h x (List.mem_cons_self ..) s hs
    cases b with
    | true => exact ⟨true, s', hx.bind rfl, hs'⟩
    | false =>
      obtain ⟨b, t, hrest, ht⟩ := forUntil_returns hs' fun y hy => h y (List.mem_cons_of_mem _ hy)
      exact ⟨b, t, hx.bind hrest, ht⟩

theorem of_bind {m : Eff ε σ α} {f : α → Eff ε σ β} {s t : σ} {b : β} (h : Runs (m >>= f) s b t) :
    ∃ a s', Runs m s a s' ∧ Runs (f a) s' b t := by
  rw [Runs, bind_apply] at h
  rcases hm : m s with ⟨r, s'⟩
  rw [hm] at h
  cases r with
  | ok a => exact ⟨a, s', hm, h⟩
  | error e => cases h

/-- What every iteration keeps, a loop that returns keeps. -/
theorem forEach_keeps {body : α → Eff ε σ Unit} {I : σ → Prop} : ∀ {xs : List α} {s t : σ},
    Runs (Eff.forEach xs body) s () t → (∀ x ∈ xs, ∀ u v, Runs (body x) u () v → I u → I v) → I s → I t
  | [], s, t, h, _, hs => by
    obtain rfl : s = t := congrArg Prod.snd h
    exact hs
  | x :: xs, s, t, h, hkeep, hs => by
    obtain ⟨_, s', hx, hrest⟩ := of_bind (Eff.forEach_cons x xs body ▸ h)
    refine forEach_keeps hrest (fun y hy => hkeep y (List.mem_cons_of_mem _ hy)) ?_
    exact hkeep x (List.mem_cons_self ..) s s' hx hs

/-- What the iteration of one element achieves, and no iteration undoes, a loop that returns achieves. -/
theorem forEach_achieves {body : α → Eff ε σ Unit} {I P : σ → Prop} {x : α} : ∀ {xs : List α} {s t : σ},
    Runs (Eff.forEach xs body) s () t → x ∈ xs → I s →
      (∀ y u v, Runs (body y) u () v → (I u → I v) ∧ (P u → P v)) →
        (∀ u v, Runs (body x) u () v → I u → P v) → P t
  | [], _, _, _, hx, _, _, _ => by cases hx
  | y :: ys, s, t, h, hx, hs, hkeep, hone => by
    obtain ⟨_, s', hy, hrest⟩ := of_bind (Eff.forEach_cons y ys body ▸ h)
    rcases List.mem_cons.1 hx with rfl | hx
    · exact forEach_keeps hrest (fun z _ u v hv => (hkeep z u v hv).2) (hone s s' hy hs)
    · exact forEach_achieves hrest hx ((hkeep y s s' hy).1 hs) hkeep hone

section Independent

variable {R : σ → σ → Prop} [Std.Refl R] [IsTrans σ R] {body : α → Eff ε σ Unit}
  {P : α → σ → σ → Prop} {C : α → σ → Prop}

/-- **Iterations that do not interfere.**  `C x` is the condition under which the iteration
of `x` achieves `P x` between its first and its last state.  When no other iteration
disturbs either, in a loop over distinct elements `C x` at its start is the condition
for `P x` over the whole loop. -/
theorem forEach_iff (hR : ∀ x s t, Runs (body x) s () t → R s t)
    (hone : ∀ x s t, Runs (body x) s () t → (P x s t ↔ C x s))
    (hcond : ∀ x y s t, x ≠ y → Runs (body y) s () t → (C x t ↔ C x s))
    (hbefore : ∀ x y s s' t, x ≠ y → Runs (body y) s () s' → R s' t → (P x s t ↔ P x s' t))
    (hafter : ∀ x y s t t', x ≠ y → R s t → Runs (body y) t () t' → (P x s t' ↔ P x s t)) :
    ∀ {xs : List α} {s t : σ}, xs.Nodup → Runs (Eff.forEach xs body) s () t →
      ∀ x ∈ xs, (P x s t ↔ C x s)
  | [], _, _, _, _, _, hx => by cases hx
  | x :: xs, s, t, hnodup, h, y, hy => by
    obtain ⟨_, s', hx, hrest⟩ := of_bind (Eff.forEach_cons x xs body ▸ h)
    obtain ⟨hnot, hnodup⟩ := List.nodup_cons.1 hnodup
    rcases List.mem_cons.1 hy with rfl | hy
    · have hkept : R s t ∧ (P y s t ↔ P y s s') := by
        refine forEach_keeps (I := fun u => R s u ∧ (P y s u ↔ P y s s')) hrest ?_
          ⟨hR y s s' hx, Iff.rfl⟩
        rintro z hz u v hv ⟨hsu, hu⟩
        have hne : y ≠ z := fun heq => hnot (heq ▸ hz)
        exact ⟨trans_of R hsu (hR z u v hv), (hafter y z s u v hne hsu hv).trans hu⟩
      exact hkept.2.trans (hone y s s' hx)
    · have hne : y ≠ x := fun heq => hnot (heq ▸ hy)
      have hRt : R s' t := forEach_keeps (I := fun u => R s' u) hrest
        (fun z _ u v hv hu => trans_of R hu (hR z u v hv)) (refl_of R s')
      have hloop := forEach_iff hR hone hcond hbefore hafter hnodup hrest y hy
      exact ((hbefore y x s s' t hne hx hRt).trans hloop).trans (hcond y x s s' hne hx)

end Independent

/-- A loop goes on with the rest of its list where the first part of it ended. -/
theorem forEach_append {body : α → Eff ε σ Unit} : ∀ {xs ys : List α} {s u : σ},
    Runs (Eff.forEach xs body) s () u → Eff.forEach (xs ++ ys) body s = Eff.forEach ys body u
  | [], _, s, u, h => by
    obtain rfl : s = u := congrArg Prod.snd h
    rfl
  | x :: xs, ys, s, u, h => by
    obtain ⟨_, s', hx, hrest⟩ := of_bind (Eff.forEach_cons x xs body ▸ h)
    rw [List.cons_append, Eff.forEach_cons, Eff.bind_apply_ok hx]
    exact forEach_append hrest

end Runs

/-! ## Conditions along a loop -/

/-- `P x u` for each element `x` of a loop, in the state `u` that its iteration finds. -/
def Along (body : α → Eff ε σ Unit) (P : α → σ → Prop) : List α → σ → Prop
  | [], _ => True
  | x :: xs, s => P x s ∧ ∀ s', Runs (body x) s () s' → Along body P xs s'

namespace Along

variable {body : α → Eff ε σ Unit} {P : α → σ → Prop}

/-- **The loop rule** for iterations that keep an invariant under a condition. -/
theorem forEach_final {I : σ → Prop} : ∀ {xs : List α} {s : σ}, Along body P xs s → I s →
    (∀ x ∈ xs, ∀ u, P x u → I u → I (body x u).2) → I (Eff.forEach xs body s).2
  | [], _, _, hs, _ => hs
  | x :: xs, s, h, hs, hbody => by
    have hx := hbody x (List.mem_cons_self ..) s h.1 hs
    refine bind_final (P := I) (f := fun _ => Eff.forEach xs body) hx fun _ hrun => ?_
    exact forEach_final (h.2 _ (Prod.ext hrun rfl)) hx fun y hy => hbody y (List.mem_cons_of_mem _ hy)

/-- A condition that follows from an invariant of the loop. -/
theorem of_invariant {I : σ → Prop} : ∀ {xs : List α} {s : σ}, I s → (∀ x ∈ xs, ∀ u, I u → P x u) →
    (∀ x ∈ xs, ∀ u, I u → I (body x u).2) → Along body P xs s
  | [], _, _, _, _ => trivial
  | x :: xs, s, hs, hP, hbody => by
    refine ⟨hP x (List.mem_cons_self ..) s hs, fun s' hrun => ?_⟩
    have hx := hbody x (List.mem_cons_self ..) s hs
    rw [hrun.final_eq] at hx
    exact of_invariant hx (fun y hy => hP y (List.mem_cons_of_mem _ hy)) fun y hy =>
      hbody y (List.mem_cons_of_mem _ hy)

/-- Where the condition fails, it fails in the state some iteration finds. -/
theorem exists_of_not : ∀ {xs : List α} {s : σ}, ¬Along body P xs s →
    ∃ pre x post u, xs = pre ++ x :: post ∧ Runs (Eff.forEach pre body) s () u ∧ ¬P x u
  | [], _, h => absurd trivial h
  | x :: xs, s, h => by
    by_cases hx : P x s
    · obtain ⟨s', hrun, hrest⟩ : ∃ s', Runs (body x) s () s' ∧ ¬Along body P xs s' := by
        by_contra hno
        exact h ⟨hx, fun s' hs' => not_not.1 fun hn => hno ⟨s', hs', hn⟩⟩
      obtain ⟨pre, y, post, u, rfl, hpre, hy⟩ := exists_of_not hrest
      exact ⟨x :: pre, y, post, u, rfl, Runs.bind hrun hpre, hy⟩
    · exact ⟨[], x, xs, s, rfl, rfl, hx⟩

end Along
end Eff
