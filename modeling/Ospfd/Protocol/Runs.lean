import Ospfd.Protocol.Instance

/-!
# From one state to a later one

* `Leads ok s t` — events that satisfy a condition lead from `s` to `t`.
* `Leads.keeps` — **what each of these events keeps**, given what was kept before it.
-/

namespace Ospfd

/-- The states that events which satisfy a condition lead to. -/
inductive Leads (ok : Instance → Event → Prop) (s : Instance) : Instance → Prop where
  | refl : Leads ok s s
  | step {t : Instance} {e : Event} (h : Leads ok s t) (hen : e.Enabled t) (hok : ok t e) :
      Leads ok s (exec t e)

namespace Leads

variable {ok : Instance → Event → Prop} {s t : Instance}

/-- Such events lead from reachable states to reachable ones. -/
theorem reachable (h : Leads ok s t) (hs : Reachable (fun _ _ => True) s) : Reachable (fun _ _ => True) t := by
  induction h with
  | refl => exact hs
  | step _ hen _ ih => exact ih.step hen trivial

theorem keeps {I : Instance → Prop} (h : Leads ok s t) (hs : I s)
    (hstep : ∀ (u : Instance) (e : Event), Leads ok s u → e.Enabled u → ok u e → I u → I (exec u e)) : I t := by
  induction h with
  | refl => exact hs
  | step hu hen hok ih => exact hstep _ _ hu hen hok ih

end Leads
end Ospfd
