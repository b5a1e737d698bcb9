import Mathlib.Data.List.Basic
import Mathlib.Tactic.Common

/-!
# Machines seen from one side

A machine answers calls and changes its state.  Some of the calls belong to one user, who
sees a part of the state, and who would like to be served as by a smaller machine that has
this part only and gets no other calls.

* `Views.run`, `Views.results` — a run of calls, and the answers to those of the user.
* `Views.Serves` — what a single step has to satisfy: other calls leave the part alone, and
  a call of the user is answered as by the small machine just on a condition.
* `Views.along_iff` — **the user is served as by the small machine over a whole run just
  when the condition holds at every call of his**.
-/

namespace Views

variable {σ γ ρ ν : Type}

/-- The state after a list of calls. -/
def run (step : σ → γ → ρ × σ) (s : σ) (cs : List γ) : σ := cs.foldl (fun s c => (step s c).2) s

/-- The answers to the calls that are mine. -/
def results (step : σ → γ → ρ × σ) (mine : γ → Bool) : σ → List γ → List ρ
  | _, [] => []
  | s, c :: cs =>
      if mine c then (step s c).1 :: results step mine (step s c).2 cs
      else results step mine (step s c).2 cs

/-- A condition holds whenever a call of mine is made. -/
def Along (step : σ → γ → ρ × σ) (mine : γ → Bool) (cond : σ → γ → Prop) : σ → List γ → Prop
  | _, [] => True
  | s, c :: cs => (mine c → cond s c) ∧ Along step mine cond (step s c).2 cs

/-- Seen through `view`, the machine serves the calls that are mine as `small` does, just on
a condition, in states with an invariant. -/
structure Serves (step : σ → γ → ρ × σ) (small : ν → γ → ρ × ν) (view : σ → ν) (mine : γ → Bool)
    (inv : σ → Prop) (cond : σ → γ → Prop) : Prop where
  keeps : ∀ s c, inv s → inv (step s c).2
  other : ∀ s c, inv s → ¬mine c → view (step s c).2 = view s
  agrees : ∀ s c, inv s → mine c → cond s c →
    (step s c).1 = (small (view s) c).1 ∧ view (step s c).2 = (small (view s) c).2
  exact : ∀ s c, inv s → mine c → (step s c).1 = (small (view s) c).1 → cond s c

variable {step : σ → γ → ρ × σ} {small : ν → γ → ρ × ν} {view : σ → ν} {mine : γ → Bool}
  {inv : σ → Prop} {cond : σ → γ → Prop}

theorem run_cons (s : σ) (c : γ) (cs : List γ) : run step s (c :: cs) = run step (step s c).2 cs := rfl

theorem results_of_mine {c : γ} (h : mine c) (s : σ) (cs : List γ) :
    results step mine s (c :: cs) = (step s c).1 :: results step mine (step s c).2 cs := by
  rw [results, if_pos h]

theorem results_of_other {c : γ} (h : ¬mine c) (s : σ) (cs : List γ) :
    results step mine s (c :: cs) = results step mine (step s c).2 cs := by
  rw [results, if_neg h]

/-- A condition of states that a step keeps, and that gives `cond`, holds along every run. -/
theorem along_of_invariant {P : σ → Prop} (hkeep : ∀ s c, mine c → P s → P (step s c).2)
    (hcond : ∀ s c, mine c → P s → cond s c) :
    ∀ {s : σ} {cs : List γ}, P s → (∀ c ∈ cs, mine c) → Along step mine cond s cs := by
  intro s cs
  induction cs generalizing s with
  | nil => exact fun _ _ => trivial
  | cons c cs ih =>
    intro hs hall
    have hc := hall c (List.mem_cons_self ..)
    exact ⟨fun _ => hcond s c hc hs, ih (hkeep s c hc hs) fun d hd => hall d (List.mem_cons_of_mem _ hd)⟩

/-- Where the condition holds all along, the user is served as by the small machine. -/
theorem Serves.of_along (h : Serves step small view mine inv cond) {s : σ} {cs : List γ} (hs : inv s)
    (ha : Along step mine cond s cs) :
    results step mine s cs = results small mine (view s) (cs.filter mine) ∧
      view (run step s cs) = run small (view s) (cs.filter mine) := by
  induction cs generalizing s with
  | nil => exact ⟨rfl, rfl⟩
  | cons c cs ih =>
    obtain ⟨hr, hv⟩ := ih (h.keeps s c hs) ha.2
    by_cases hc : mine c = true
    · obtain ⟨h1, h2⟩ := h.agrees s c hs hc (ha.1 hc)
      rw [h2] at hr hv
      rw [List.filter_cons_of_pos hc, results_of_mine hc, results_of_mine hc, run_cons, run_cons, hr, hv, h1]
      exact ⟨rfl, rfl⟩
    · rw [h.other s c hs hc] at hr hv
      rw [List.filter_cons_of_neg hc, results_of_other hc, run_cons, hr, hv]
      exact ⟨rfl, rfl⟩

/-- Where the user is served as by the small machine, the condition held all along. -/
theorem Serves.along (h : Serves step small view mine inv cond) {s : σ} {cs : List γ} (hs : inv s)
    (hr : results step mine s cs = results small mine (view s) (cs.filter mine)) :
    Along step mine cond s cs := by
  induction cs generalizing s with
  | nil => trivial
  | cons c cs ih =>
    by_cases hc : mine c = true
    · rw [List.filter_cons_of_pos hc, results_of_mine hc, results_of_mine hc, List.cons.injEq] at hr
      have hcond := h.exact s c hs hc hr.1
      refine ⟨fun _ => hcond, ih (h.keeps s c hs) ?_⟩
      rw [(h.agrees s c hs hc hcond).2]
      exact hr.2
    · rw [List.filter_cons_of_neg hc, results_of_other hc] at hr
      refine ⟨fun hmine => absurd hmine hc, ih (h.keeps s c hs) ?_⟩
      rw [h.other s c hs hc]
      exact hr

/-- **The user is served as by the small machine over a whole run just when the condition
holds at every call of his.** -/
theorem Serves.along_iff (h : Serves step small view mine inv cond) {s : σ} {cs : List γ} (hs : inv s) :
    results step mine s cs = results small mine (view s) (cs.filter mine) ∧
      view (run step s cs) = run small (view s) (cs.filter mine) ↔ Along step mine cond s cs :=
  ⟨fun hr => h.along hs hr.1, h.of_along hs⟩

end Views
