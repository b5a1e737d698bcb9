import Ospfd.Protocol.ElectionAgreement

/-!
# Electing again

An election starts from what the router itself declared before, and rewrites it.

* `Candidate.declaring` — a router with another declaration; `pass` — a pass with it.
* `pass_own`, `pass_declared`, `pass_free` — the outcome of a pass, by who declares itself DR.
* `pass_settles` — a third pass is like the second one.
* `electFrom_again` — so **electing again changes nothing**, unless another router has the
  address of this one.
-/

namespace Ospfd

/-- The router with what it declares as DR and BDR. -/
def Candidate.declaring (x : Candidate) (r : IPv4Address × IPv4Address) : Candidate :=
  { x with declaredDr := r.1, declaredBdr := r.2 }

theorem declaresDr_declaring {x : Candidate} {r : IPv4Address × IPv4Address} :
    (x.declaring r).DeclaresDr ↔ r.1 = x.ipAddr := Iff.rfl

/-! ## The router among others -/

/-- The address of the highest of the router and others. -/
def top (x : Candidate) (cs : List Candidate) : IPv4Address :=
  match highest cs with
  | none => x.ipAddr
  | some c => if x.rank < c.rank then c.ipAddr else x.ipAddr

theorem addrOf_highest_cons (x : Candidate) (cs : List Candidate) :
    addrOf (highest (x :: cs)) = top x cs := by
  rw [highest, List.argmax_cons, top, highest]
  cases cs.argmax Candidate.rank with
  | none => rfl
  | some c =>
    dsimp only
    split <;> rfl

/-- The address of an element. -/
theorem addrOf_highest_mem {cs : List Candidate} (h : cs ≠ []) :
    ∃ c ∈ cs, addrOf (highest cs) = c.ipAddr := by
  obtain ⟨c, hc⟩ := exists_highest h
  exact ⟨c, List.argmax_mem hc, by rw [hc]; rfl⟩

/-- Either the router is the highest, or the highest of the others is. -/
theorem top_cases (x : Candidate) (cs : List Candidate) :
    top x cs = x.ipAddr ∨ cs ≠ [] ∧ top x cs = addrOf (highest cs) := by
  rw [top]
  cases hc : highest cs with
  | none => exact .inl rfl
  | some c =>
    dsimp only
    split
    · refine .inr ⟨?_, rfl⟩
      rintro rfl
      cases hc
    · exact .inl rfl

/-- The BDR that the router and others choose, of which the router may declare itself BDR. -/
def bdrOf (x : Candidate) (cs : List Candidate) (declares : Prop) [Decidable declares] : IPv4Address :=
  let bdrs := cs.filter Candidate.DeclaresBdr
  if declares then top x bdrs else if bdrs = [] then top x cs else addrOf (highest bdrs)

theorem addrOf_preferBdr_cons (x : Candidate) (cs : List Candidate) :
    addrOf (preferBdr (x :: cs)) = bdrOf x cs x.DeclaresBdr := by
  rw [preferBdr, bdrOf]
  by_cases hx : x.DeclaresBdr
  · rw [if_pos hx, List.filter_cons_of_pos (by simpa using hx), ← addrOf_highest_cons]
    obtain ⟨c, hc⟩ := exists_highest (List.cons_ne_nil x (cs.filter Candidate.DeclaresBdr))
    rw [hc]
  · rw [if_neg hx, List.filter_cons_of_neg (by simpa using hx)]
    by_cases hnil : cs.filter Candidate.DeclaresBdr = []
    · rw [if_pos hnil, hnil, ← addrOf_highest_cons]
      rfl
    · rw [if_neg hnil]
      obtain ⟨c, hc⟩ := exists_highest hnil
      rw [hc]

section Bdr

variable {x : Candidate} {cs : List Candidate} (hx : ∀ c ∈ cs, c.ipAddr ≠ x.ipAddr)

theorem bdrOf_of_nil {declares : Prop} [Decidable declares] (hd : declares)
    (h : cs.filter Candidate.DeclaresBdr = []) : bdrOf x cs declares = x.ipAddr := by
  rw [bdrOf]
  rw [if_pos hd, h]
  rfl

include hx in
theorem addrOf_highest_filter_ne (h : cs.filter Candidate.DeclaresBdr ≠ []) :
    addrOf (highest (cs.filter Candidate.DeclaresBdr)) ≠ x.ipAddr := by
  obtain ⟨c, hc, heq⟩ := addrOf_highest_mem h
  rw [heq]
  exact hx c (List.mem_filter.1 hc).1

include hx in
/-- Who becomes BDR without a declaration finds nobody else with one. -/
theorem nil_of_bdrOf {declares : Prop} [Decidable declares] (hd : ¬declares)
    (h : bdrOf x cs declares = x.ipAddr) : cs.filter Candidate.DeclaresBdr = [] := by
  rw [bdrOf] at h
  rw [if_neg hd] at h
  by_contra hne
  rw [if_neg hne] at h
  exact addrOf_highest_filter_ne hx hne h

/-- Who does not become BDR with a declaration is outranked by another one with one. -/
theorem bdrOf_ne {declares : Prop} [Decidable declares] (hd : declares)
    (h : bdrOf x cs declares ≠ x.ipAddr) : cs.filter Candidate.DeclaresBdr ≠ [] ∧
      bdrOf x cs declares = addrOf (highest (cs.filter Candidate.DeclaresBdr)) := by
  rw [bdrOf] at h ⊢
  rw [if_pos hd] at h ⊢
  exact (top_cases x _).resolve_left h

theorem bdrOf_of_ne {declares : Prop} [Decidable declares] (hd : ¬declares)
    (h : cs.filter Candidate.DeclaresBdr ≠ []) :
    bdrOf x cs declares = addrOf (highest (cs.filter Candidate.DeclaresBdr)) := by
  rw [bdrOf]
  rw [if_neg hd, if_neg h]

theorem bdrOf_congr {p q : Prop} [Decidable p] [Decidable q] (h : p ↔ q) : bdrOf x cs p = bdrOf x cs q := by
  simp only [bdrOf, h]

include hx in
/-- Choosing again, with the role just taken declared, chooses the same. -/
theorem bdrOf_again (declares : Prop) [Decidable declares] :
    bdrOf x cs (bdrOf x cs declares = x.ipAddr) = bdrOf x cs declares := by
  by_cases hd : declares
  · by_cases heq : bdrOf x cs declares = x.ipAddr
    · exact bdrOf_congr ⟨fun _ => hd, fun _ => heq⟩
    · obtain ⟨hne, htop⟩ := bdrOf_ne hd heq
      rw [bdrOf_of_ne heq hne, htop]
  · by_cases heq : bdrOf x cs declares = x.ipAddr
    · rw [bdrOf_of_nil heq (nil_of_bdrOf hx hd heq), heq]
    · exact bdrOf_congr ⟨fun h => absurd h heq, fun h => absurd h hd⟩

end Bdr

/-! ## Passes -/

section Pass

variable (x : Candidate) (others : List Candidate)

/-- A pass in which the router declares what it is given. -/
def pass (r : IPv4Address × IPv4Address) : IPv4Address × IPv4Address :=
  runElection (x.declaring r :: others)

/-- The others that declare themselves DR. -/
def drDeclarers : List Candidate := others.filter Candidate.DeclaresDr

/-- The others that do not. -/
def nonDrDeclarers : List Candidate := others.filter fun c => ¬c.DeclaresDr

variable {x others} {r r' : IPv4Address × IPv4Address}

/-- The router declares itself DR: the highest of those that do is. -/
theorem pass_own (h : r.1 = x.ipAddr) :
    pass x others r = (top x (drDeclarers others), addrOf (preferBdr (nonDrDeclarers others))) := by
  have hdr : (x.declaring r :: others).filter Candidate.DeclaresDr = x.declaring r :: drDeclarers others :=
    List.filter_cons_of_pos (by simpa [declaresDr_declaring] using h)
  have hnon : (x.declaring r :: others).filter (fun c => ¬c.DeclaresDr) = nonDrDeclarers others :=
    List.filter_cons_of_neg (by simpa [declaresDr_declaring] using h)
  have htop := addrOf_highest_cons (x.declaring r) (drDeclarers others)
  obtain ⟨c, hc⟩ := exists_highest (List.cons_ne_nil (x.declaring r) (drDeclarers others))
  rw [pass, runElection, hdr, hnon]
  rw [hc] at htop ⊢
  exact Prod.ext htop rfl

theorem filter_declaring_of_ne (others : List Candidate) (h : r.1 ≠ x.ipAddr) :
    (x.declaring r :: others).filter Candidate.DeclaresDr = drDeclarers others ∧
      (x.declaring r :: others).filter (fun c => ¬c.DeclaresDr) = x.declaring r :: nonDrDeclarers others :=
  ⟨List.filter_cons_of_neg (by simpa [declaresDr_declaring] using h),
    List.filter_cons_of_pos (by simpa [declaresDr_declaring] using h)⟩

/-- Only others declare themselves DR. -/
theorem pass_declared (h : r.1 ≠ x.ipAddr) (hdr : drDeclarers others ≠ []) :
    pass x others r = (addrOf (highest (drDeclarers others)),
      bdrOf x (nonDrDeclarers others) (r.2 = x.ipAddr)) := by
  obtain ⟨hfilter, hnon⟩ := filter_declaring_of_ne others h
  obtain ⟨c, hc⟩ := exists_highest hdr
  have hbdr := addrOf_preferBdr_cons (x.declaring r) (nonDrDeclarers others)
  rw [pass, runElection, hfilter, hnon, hc]
  exact Prod.ext rfl hbdr

/-- Nobody declares itself DR: the BDR becomes DR, and another one becomes BDR. -/
theorem pass_free (hx : ∀ c ∈ others, c.ipAddr ≠ x.ipAddr) (h : r.1 ≠ x.ipAddr) (hdr : drDeclarers others = [])
    {a : IPv4Address} (ha : bdrOf x (nonDrDeclarers others) (r.2 = x.ipAddr) = a) :
    pass x others r = (a, if a = x.ipAddr then addrOf (preferBdr (nonDrDeclarers others))
      else bdrOf x ((nonDrDeclarers others).filter fun c => c.ipAddr ≠ a) (r.2 = x.ipAddr)) := by
  obtain ⟨hfilter, hnon⟩ := filter_declaring_of_ne others h
  have hbdr : addrOf (preferBdr (x.declaring r :: nonDrDeclarers others)) = a := by
    rw [addrOf_preferBdr_cons, ← ha]
    rfl
  obtain ⟨z, hz⟩ := exists_preferBdr (List.cons_ne_nil (x.declaring r) (nonDrDeclarers others))
  have hrun : pass x others r = (a, addrOf (preferBdr
      ((x.declaring r :: nonDrDeclarers others).filter fun c => c.ipAddr ≠ a))) := by
    rw [pass, runElection, hfilter, hnon, hdr, hbdr, hz]
    rfl
  rw [hrun]
  by_cases hself : a = x.ipAddr
  · have hrest : (x.declaring r :: nonDrDeclarers others).filter (fun c => c.ipAddr ≠ a) =
        nonDrDeclarers others := by
      rw [List.filter_cons_of_neg (by simp [Candidate.declaring, hself])]
      refine List.filter_eq_self.2 fun c hc => ?_
      have hne := hx c (List.mem_filter.1 hc).1
      simpa [hself] using hne
    rw [if_pos hself, hrest]
  · have hrest : (x.declaring r :: nonDrDeclarers others).filter (fun c => c.ipAddr ≠ a) =
        x.declaring r :: (nonDrDeclarers others).filter fun c => c.ipAddr ≠ a :=
      List.filter_cons_of_pos (decide_eq_true (p := (x.declaring r).ipAddr ≠ a) (Ne.symm hself))
    rw [if_neg hself, hrest, addrOf_preferBdr_cons]
    rfl

theorem mem_nonDrDeclarers {c : Candidate} (h : c ∈ nonDrDeclarers others) : c ∈ others :=
  (List.mem_filter.1 h).1

section Settles

variable (hx : ∀ c ∈ others, c.ipAddr ≠ x.ipAddr)
include hx

/-- A pass depends on the roles that the router declares. -/
theorem pass_congr (hdr : r.1 = x.ipAddr ↔ r'.1 = x.ipAddr) (hbdr : r.2 = x.ipAddr ↔ r'.2 = x.ipAddr) :
    pass x others r = pass x others r' := by
  by_cases h : r.1 = x.ipAddr
  · rw [pass_own h, pass_own (hdr.1 h)]
  · have h' : r'.1 ≠ x.ipAddr := fun heq => h (hdr.2 heq)
    by_cases hnil : drDeclarers others = []
    · rw [pass_free hx h hnil rfl, pass_free hx h' hnil rfl]
      simp only [hbdr]
    · rw [pass_declared h hnil, pass_declared h' hnil]
      simp only [hbdr]

/-- After a pass that makes the router DR nothing changes. -/
theorem pass_of_elected (h : (pass x others r).1 = x.ipAddr) :
    pass x others (pass x others (pass x others r)) = pass x others (pass x others r) := by
  have hown : (pass x others (pass x others r)).1 = x.ipAddr := by
    rw [pass_own h]
    by_cases hr : r.1 = x.ipAddr
    · rw [pass_own hr] at h
      exact h
    · by_cases hnil : drDeclarers others = []
      · rw [hnil]
        rfl
      · obtain ⟨c, hc, heq⟩ := addrOf_highest_mem hnil
        rw [pass_declared hr hnil] at h
        exact absurd (heq.symm.trans h) (hx c (List.mem_filter.1 hc).1)
  rw [pass_own hown, pass_own h]

/-- While others declare themselves DR, only the role of BDR is to be settled. -/
theorem pass_settles_declared (hnil : drDeclarers others ≠ []) (h : (pass x others r).1 ≠ x.ipAddr) :
    pass x others (pass x others (pass x others r)) = pass x others (pass x others r) := by
  have hne : addrOf (highest (drDeclarers others)) ≠ x.ipAddr := by
    obtain ⟨c, hc, heq⟩ := addrOf_highest_mem hnil
    rw [heq]
    exact hx c (List.mem_filter.1 hc).1
  have hagain : ∀ p : IPv4Address × IPv4Address, p.1 ≠ x.ipAddr →
      pass x others (pass x others p) = pass x others p := by
    intro p hp
    rw [pass_declared hp hnil, pass_declared hne hnil]
    exact Prod.ext rfl (bdrOf_again (fun c hc => hx c (mem_nonDrDeclarers hc)) (p.2 = x.ipAddr))
  exact hagain _ h

omit hx in
/-- Without another declaration the one that declares itself BDR is the one left out. -/
theorem addrOf_of_filter_nil {cs : List Candidate} {a : IPv4Address}
    (hnil : (cs.filter fun c => c.ipAddr ≠ a).filter Candidate.DeclaresBdr = [])
    (hne : cs.filter Candidate.DeclaresBdr ≠ []) :
    addrOf (highest (cs.filter Candidate.DeclaresBdr)) = a := by
  obtain ⟨z, hz, heq⟩ := addrOf_highest_mem hne
  rw [heq]
  by_contra hza
  obtain ⟨hzmem, hzb⟩ := List.mem_filter.1 hz
  have hmem : z ∈ (cs.filter fun c => c.ipAddr ≠ a).filter Candidate.DeclaresBdr :=
    List.mem_filter.2 ⟨List.mem_filter.2 ⟨hzmem, decide_eq_true hza⟩, hzb⟩
  rw [hnil] at hmem
  cases hmem

/-- Nobody declares itself DR: whether the router declares itself BDR is settled. -/
theorem pass_bdr_iff (hnil : drDeclarers others = []) (hr : r.1 ≠ x.ipAddr)
    (hq : (pass x others r).1 ≠ x.ipAddr) (hp : (pass x others (pass x others r)).1 ≠ x.ipAddr) :
    (pass x others r).2 = x.ipAddr ↔ (pass x others (pass x others r)).2 = x.ipAddr := by
  have hN : ∀ c ∈ nonDrDeclarers others, c.ipAddr ≠ x.ipAddr := fun c hc => hx c (mem_nonDrDeclarers hc)
  have hrest : ∀ a, ∀ c ∈ (nonDrDeclarers others).filter (fun c => c.ipAddr ≠ a), c.ipAddr ≠ x.ipAddr :=
    fun a c hc => hN c (List.mem_filter.1 hc).1
  by_cases hsame : r.2 = x.ipAddr ↔ (pass x others r).2 = x.ipAddr
  · rw [← pass_congr hx ⟨fun h => absurd h hr, fun h => absurd h hq⟩ hsame]
  · have hfirst := pass_free hx hr hnil rfl
    have hsecond := pass_free hx hq hnil rfl
    have hq' := hq
    have hp' := hp
    rw [hfirst] at hq'
    rw [hsecond] at hp'
    dsimp only at hq' hp'
    rw [if_neg hq'] at hfirst
    rw [if_neg hp'] at hsecond
    by_cases hb : (pass x others r).2 = x.ipAddr
    · -- it has just become BDR: the other one that declares itself BDR is DR
      have hr2 : ¬r.2 = x.ipAddr := fun h => hsame ⟨fun _ => hb, fun _ => h⟩
      refine ⟨fun _ => ?_, fun _ => hb⟩
      have hb' := hb
      rw [hfirst] at hb'
      have hempty := nil_of_bdrOf (hrest _) hr2 hb'
      obtain ⟨hne, htop⟩ := bdrOf_ne hb hp'
      rw [hsecond]
      dsimp only
      rw [htop, addrOf_of_filter_nil hempty hne]
      exact bdrOf_of_nil hb hempty
    · -- it has just ceased to be BDR
      have hr2 : r.2 = x.ipAddr := by
        by_contra h
        exact hsame ⟨fun heq => absurd heq h, fun heq => absurd heq hb⟩
      refine ⟨fun h => absurd h hb, fun hback => ?_⟩
      obtain ⟨hne, htop⟩ := bdrOf_ne hr2 hq'
      rw [hsecond] at hback
      dsimp only at hback
      rw [bdrOf_of_ne hb hne, ← htop] at hback
      have hempty := nil_of_bdrOf (hrest _) hb hback
      rw [hfirst]
      exact bdrOf_of_nil hr2 hempty

/-- **A third pass is like the second one.** -/
theorem pass_settles (r : IPv4Address × IPv4Address) :
    pass x others (pass x others (pass x others r)) = pass x others (pass x others r) := by
  by_cases hq : (pass x others r).1 = x.ipAddr
  · exact pass_of_elected hx hq
  · by_cases hnil : drDeclarers others = []
    · have hr : r.1 ≠ x.ipAddr := by
        intro hr
        rw [pass_own hr, hnil] at hq
        exact hq rfl
      by_cases hp : (pass x others (pass x others r)).1 = x.ipAddr
      · have hrun := pass_free hx hq hnil rfl
        rw [hrun] at hp
        dsimp only at hp
        rw [if_pos hp, hp] at hrun
        rw [hrun, pass_own rfl, hnil]
        rfl
      · have hbdr := pass_bdr_iff hx hnil hr hq hp
        exact (pass_congr hx ⟨fun h => absurd h hq, fun h => absurd h hp⟩ hbdr).symm
    · exact pass_settles_declared hx hnil hq

end Settles

end Pass

/-! ## Elections -/

/-- Nothing is rewritten where nobody has the address. -/
theorem redeclare_of_ne {addr dr bdr : IPv4Address} : ∀ {cs : List Candidate},
    (∀ c ∈ cs, c.ipAddr ≠ addr) → redeclare addr dr bdr cs = cs
  | [], _ => rfl
  | c :: cs, h => by
    rw [redeclare, if_neg (h c (List.mem_cons_self ..)),
      redeclare_of_ne fun d hd => h d (List.mem_cons_of_mem _ hd)]

section Elect

variable {x : Candidate} {others : List Candidate} (hx : ∀ c ∈ others, c.ipAddr ≠ x.ipAddr)
include hx

/-- An election of a candidate is two passes. -/
theorem electFrom_declaring (r : IPv4Address × IPv4Address) :
    electFrom (x.declaring r :: others) x.ipAddr r.1 r.2 = pass x others (pass x others r) := by
  have hredeclare : redeclare x.ipAddr (pass x others r).1 (pass x others r).2 (x.declaring r :: others) =
      x.declaring (pass x others r) :: others := if_pos rfl
  rw [electFrom, if_neg (List.cons_ne_nil _ _)]
  change (if decide (r.1 = x.ipAddr) ≠ decide ((pass x others r).1 = x.ipAddr) ∨
      decide (r.2 = x.ipAddr) ≠ decide ((pass x others r).2 = x.ipAddr) then
    runElection (redeclare x.ipAddr (pass x others r).1 (pass x others r).2 (x.declaring r :: others))
    else pass x others r) = _
  split
  · rw [hredeclare]
    rfl
  · rename_i hsame
    rw [not_or, not_not, not_not, decide_eq_decide, decide_eq_decide] at hsame
    exact pass_congr hx hsame.1 hsame.2

omit hx in
/-- An election of a router that is no candidate is one pass. -/
theorem electFrom_of_ne {addr : IPv4Address} (haddr : ∀ c ∈ others, c.ipAddr ≠ addr)
    (r : IPv4Address × IPv4Address) : electFrom others addr r.1 r.2 =
      if others = [] then (zeroAddr, zeroAddr) else runElection others := by
  rw [electFrom]
  split
  · rfl
  · dsimp only
    rw [redeclare_of_ne haddr]
    exact ite_self _

/-- **Electing again changes nothing.** -/
theorem electFrom_again (r : IPv4Address × IPv4Address) :
    let e := electFrom (x.declaring r :: others) x.ipAddr r.1 r.2
    electFrom (x.declaring e :: others) x.ipAddr e.1 e.2 = e := by
  dsimp only
  rw [electFrom_declaring hx, electFrom_declaring hx, pass_settles hx, pass_settles hx]

end Elect

/-! ## The role of the router -/

/-- Nobody has an address that no candidate has. -/
theorem addrOf_preferBdr_ne {cs : List Candidate} {addr : IPv4Address} (h : ∀ c ∈ cs, c.ipAddr ≠ addr)
    (hzero : addr ≠ zeroAddr) : addrOf (preferBdr cs) ≠ addr := by
  cases hb : preferBdr cs with
  | none => exact Ne.symm hzero
  | some b => exact h b (preferBdr_cases hb).1

theorem runElection_ne {cs : List Candidate} {addr : IPv4Address} (h : ∀ c ∈ cs, c.ipAddr ≠ addr)
    (hzero : addr ≠ zeroAddr) : (runElection cs).1 ≠ addr := by
  have hbdr : addrOf (preferBdr (cs.filter fun c => ¬c.DeclaresDr)) ≠ addr :=
    addrOf_preferBdr_ne (fun c hc => h c (List.mem_filter.1 hc).1) hzero
  rw [runElection]
  cases hd : highest (cs.filter Candidate.DeclaresDr) with
  | some d => exact h d (List.mem_filter.1 (List.argmax_mem hd)).1
  | none =>
    cases hb : preferBdr (cs.filter fun c => ¬c.DeclaresDr) with
    | some b =>
      rw [hb] at hbdr
      exact hbdr
    | none => exact Ne.symm hzero

section Role

variable {x : Candidate} {others : List Candidate} (hx : ∀ c ∈ others, c.ipAddr ≠ x.ipAddr)
  (hzero : x.ipAddr ≠ zeroAddr)
include hx hzero

/-- A pass does not make the router DR and BDR at once. -/
theorem pass_not_both (r : IPv4Address × IPv4Address) (h : (pass x others r).1 = x.ipAddr) :
    (pass x others r).2 ≠ x.ipAddr := by
  have hbdr : addrOf (preferBdr (nonDrDeclarers others)) ≠ x.ipAddr :=
    addrOf_preferBdr_ne (fun c hc => hx c (mem_nonDrDeclarers hc)) hzero
  by_cases hr : r.1 = x.ipAddr
  · rw [pass_own hr]
    exact hbdr
  · by_cases hnil : drDeclarers others = []
    · have hrun := pass_free hx hr hnil rfl
      rw [hrun] at h
      dsimp only at h
      rw [hrun]
      dsimp only
      rw [if_pos h]
      exact hbdr
    · obtain ⟨c, hc, heq⟩ := addrOf_highest_mem hnil
      rw [pass_declared hr hnil] at h
      exact absurd (heq.symm.trans h) (hx c (List.mem_filter.1 hc).1)

end Role

end Ospfd
