import Ospfd.Lib.Effect

/-!
# Labelled moves

A labelled transition relation describes what a system can do at the granularity at
which its invariants hold.  `Lts.Moves step A` are the runs of such a relation that
only use labels from `A`; a computation that stays within them refines the relation.

* `Lts.Moves` — reflexive and transitive, and monotone in the labels.
* `Lts.Moves.invariant` — **the invariant rule**: what every allowed move keeps, every
  run keeps.
* `Lts.Moves.relates` — the same for a relation between first and last state.
-/

namespace Lts

variable {L S : Type} {step : L → S → S → Prop}

/-- One move with a label from `A`. -/
def Move (step : L → S → S → Prop) (A : L → Prop) (s t : S) : Prop := ∃ l, A l ∧ step l s t

/-- Any number of moves with labels from `A`. -/
def Moves (step : L → S → S → Prop) (A : L → Prop) : S → S → Prop :=
  Relation.ReflTransGen (Move step A)

namespace Moves

variable {A B : L → Prop} {s t u : S}

theorem refl (s : S) : Moves step A s s := Relation.ReflTransGen.refl

theorem trans (h : Moves step A s t) (h' : Moves step A t u) : Moves step A s u :=
  Relation.ReflTransGen.trans h h'

instance : Std.Refl (Moves step A) := ⟨refl⟩

instance : IsTrans S (Moves step A) := ⟨fun _ _ _ => trans⟩

theorem single {l : L} (hl : A l) (h : step l s t) : Moves step A s t :=
  Relation.ReflTransGen.single ⟨l, hl, h⟩

theorem tail {l : L} (h : Moves step A s t) (hl : A l) (h' : step l t u) : Moves step A s u :=
  h.trans (single hl h')

theorem mono (hAB : ∀ l, A l → B l) (h : Moves step A s t) : Moves step B s t := by
  induction h with
  | refl => exact refl s
  | tail _ hmove ih =>
    obtain ⟨l, hl, hstep⟩ := hmove
    exact ih.tail (hAB l hl) hstep

/-- **The invariant rule.** -/
theorem invariant {I : S → Prop} (hI : ∀ l s t, A l → step l s t → I s → I t)
    (h : Moves step A s t) (hs : I s) : I t := by
  induction h with
  | refl => exact hs
  | tail _ hmove ih =>
    obtain ⟨l, hl, hstep⟩ := hmove
    exact hI l _ _ hl hstep ih

/-- What relates the ends of every allowed move relates the ends of a run. -/
theorem relates {R : S → S → Prop} [Std.Refl R] [IsTrans S R]
    (hR : ∀ l s t, A l → step l s t → R s t) (h : Moves step A s t) : R s t := by
  induction h with
  | refl => exact refl_of R s
  | tail _ hmove ih =>
    obtain ⟨l, hl, hstep⟩ := hmove
    exact trans_of R ih (hR l _ _ hl hstep)

end Moves
end Lts
