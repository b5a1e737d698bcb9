import Ospfd.Protocol.Current

/-!
# What an election returns

* `linkRouters` — this router and its neighbors; `Eligible` — which of them can be elected.
* `Chosen` — DR and BDR are different candidates, or there is no BDR.
* `runElection_chosen`, `electFrom_chosen` — a pass chooses, and so does an election.
* `electDrBdr_valid` — **DR and BDR are eligible, and a DR that declares itself stays**.
* `electDrBdr_idempotent` — **electing again changes nothing**.
-/

namespace Ospfd

variable {s : Instance} {i : IntfId}

/-! ## Candidates -/

/-- The routers on the link of an interface: this one and its neighbors. -/
def linkRouters (s : Instance) (i : IntfId) : List Candidate :=
  selfCandidate s i :: (s.neighborsOf i).map fun n => nbrCandidate (s.nbr n)

/-- This router or a bidirectional neighbor, with a priority above zero. -/
def Eligible (s : Instance) (i : IntfId) (c : Candidate) : Prop :=
  0 < c.priority ∧ (c = selfCandidate s i ∨
    ∃ n ∈ s.neighborsOf i, NbrState.twoWay ≤ (s.nbr n).state ∧ c = nbrCandidate (s.nbr n))

theorem mem_electionCandidates {c : Candidate} : c ∈ electionCandidates s i ↔ Eligible s i c := by
  rw [electionCandidates, List.mem_append, List.mem_map, Eligible]
  constructor
  · rintro (hc | ⟨nbr, hnbr, rfl⟩)
    · split at hc
      · rename_i hpos
        rw [List.mem_singleton.1 hc]
        exact ⟨hpos, Or.inl rfl⟩
      · cases hc
    · obtain ⟨hmem, helig⟩ := List.mem_filter.1 hnbr
      obtain ⟨n, hn, rfl⟩ := List.mem_map.1 hmem
      obtain ⟨htw, hpos⟩ := of_decide_eq_true helig
      exact ⟨hpos, Or.inr ⟨n, hn, htw, rfl⟩⟩
  · rintro ⟨hpos, rfl | ⟨n, hn, htw, rfl⟩⟩
    · left
      have hprio : 0 < (s.intf i).priority := hpos
      rw [if_pos hprio]
      exact List.mem_singleton_self _
    · right
      exact ⟨s.nbr n, List.mem_filter.2 ⟨List.mem_map.2 ⟨n, hn, rfl⟩, decide_eq_true ⟨htw, hpos⟩⟩, rfl⟩

/-- The candidates are some of the routers on the link. -/
theorem electionCandidates_sublist (s : Instance) (i : IntfId) :
    (electionCandidates s i).Sublist (linkRouters s i) := by
  have hself : (if 0 < (s.intf i).priority then [selfCandidate s i] else []).Sublist [selfCandidate s i] := by
    split
    · exact List.Sublist.refl _
    · exact List.nil_sublist _
  have hothers := (List.filter_sublist (l := (s.neighborsOf i).map s.nbr)
    (p := fun nbr => NbrState.twoWay ≤ nbr.state ∧ 0 < nbr.priority)).map nbrCandidate
  rw [List.map_map] at hothers
  exact hself.append hothers

theorem Segment.sublist {cs ds : List Candidate} (h : Segment cs) (hsub : ds.Sublist cs) : Segment ds :=
  ⟨h.routerId.sublist (hsub.map _), h.ipAddr.sublist (hsub.map _), fun c hc => h.nonzero c (hsub.subset hc)⟩

/-! ## What is chosen -/

/-- DR and BDR are the addresses of different candidates, or there is no BDR. -/
structure Chosen (addrs : List IPv4Address) (r : IPv4Address × IPv4Address) : Prop where
  dr : r.1 ∈ addrs
  bdr : r.2 = zeroAddr ∨ r.2 ∈ addrs
  ne : r.1 ≠ r.2

theorem addrOf_preferBdr_mem (cs : List Candidate) :
    addrOf (preferBdr cs) = zeroAddr ∨ ∃ c ∈ cs, addrOf (preferBdr cs) = c.ipAddr := by
  rcases hb : preferBdr cs with _ | b
  · exact Or.inl rfl
  · exact Or.inr ⟨b, (preferBdr_cases hb).1, rfl⟩

/-- **A pass chooses.** -/
theorem runElection_chosen {cs : List Candidate} (h : Segment cs) (hne : cs ≠ []) :
    Chosen (cs.map Candidate.ipAddr) (runElection cs) := by
  -- the BDR is sought among other candidates than the DR
  have hothers : ∀ (ds : List Candidate) (d : Candidate), d ∈ cs → (∀ c ∈ ds, c ∈ cs ∧ c.ipAddr ≠ d.ipAddr) →
      Chosen (cs.map Candidate.ipAddr) (d.ipAddr, addrOf (preferBdr ds)) := by
    intro ds d hd hds
    have hdr : d.ipAddr ∈ cs.map Candidate.ipAddr := List.mem_map_of_mem hd
    rcases addrOf_preferBdr_mem ds with hzero | ⟨c, hc, hcaddr⟩
    · refine ⟨hdr, Or.inl hzero, ?_⟩
      rw [hzero]
      exact h.nonzero d hd
    · refine ⟨hdr, Or.inr ?_, ?_⟩
      · rw [hcaddr]
        exact List.mem_map_of_mem (hds c hc).1
      · rw [hcaddr]
        exact (hds c hc).2.symm
  by_cases hno : ∀ c ∈ cs, ¬c.DeclaresDr
  · obtain ⟨b, hb⟩ := exists_preferBdr hne
    rw [runElection_of_undeclared hno hb]
    refine hothers _ b (preferBdr_cases hb).1 fun c hc => ?_
    obtain ⟨hmem, haddr⟩ := List.mem_filter.1 hc
    exact ⟨hmem, of_decide_eq_true haddr⟩
  · obtain ⟨d, hd⟩ : ∃ d, highest (cs.filter Candidate.DeclaresDr) = some d := by
      refine exists_highest fun hnil => hno fun c hc hdecl => ?_
      exact List.filter_eq_nil_iff.1 hnil c hc (decide_eq_true hdecl)
    obtain ⟨hmem, hdecl⟩ := List.mem_filter.1 (List.argmax_mem hd)
    rw [runElection, hd]
    refine hothers _ d hmem fun c hc => ?_
    obtain ⟨hcmem, hcdecl⟩ := List.mem_filter.1 hc
    refine ⟨hcmem, fun haddr => ?_⟩
    rw [h.distinct.addr c hcmem d hmem haddr] at hcdecl
    exact of_decide_eq_true hcdecl (of_decide_eq_true hdecl)

theorem Segment.redeclare {cs : List Candidate} (h : Segment cs) (addr dr bdr : IPv4Address) :
    Segment (Ospfd.redeclare addr dr bdr cs) ∧
      (Ospfd.redeclare addr dr bdr cs).map Candidate.ipAddr = cs.map Candidate.ipAddr := by
  have hip : (cs.map (redeclared addr dr bdr)).map Candidate.ipAddr = cs.map Candidate.ipAddr := by
    rw [List.map_map]
    exact List.map_congr_left fun c _ => ipAddr_redeclared ..
  have hrid : (cs.map (redeclared addr dr bdr)).map Candidate.routerId = cs.map Candidate.routerId := by
    rw [List.map_map]
    refine List.map_congr_left fun c _ => ?_
    rw [Function.comp_apply, redeclared]
    split
    · rfl
    · rfl
  rw [redeclare_eq_map h.ipAddr]
  refine ⟨⟨?_, ?_, fun c hc => ?_⟩, hip⟩
  · rw [hrid]
    exact h.routerId
  · rw [hip]
    exact h.ipAddr
  · obtain ⟨d, hd, rfl⟩ := List.mem_map.1 hc
    rw [ipAddr_redeclared]
    exact h.nonzero d hd

/-- **An election chooses**, in one pass or in two. -/
theorem electFrom_chosen {cs : List Candidate} (h : Segment cs) (hne : cs ≠ [])
    (addr dr bdr : IPv4Address) : Chosen (cs.map Candidate.ipAddr) (electFrom cs addr dr bdr) := by
  rw [electFrom, if_neg hne]
  dsimp only
  split
  · obtain ⟨hseg, hip⟩ := h.redeclare addr (runElection cs).1 (runElection cs).2
    rw [← hip]
    refine runElection_chosen hseg fun hnil => hne ?_
    rw [hnil] at hip
    exact List.map_eq_nil_iff.1 hip.symm
  · exact runElection_chosen h hne

/-! ## Validity -/

/-- **What an election returns is valid**: DR and BDR are eligible routers or none, there
is a DR as soon as somebody is eligible, both are different routers, and the highest of
those that declare themselves DR is DR. -/
theorem electDrBdr_valid (h : Segment (linkRouters s i)) :
    ((electDrBdr s i).1 = zeroAddr ∨ ∃ c, Eligible s i c ∧ (electDrBdr s i).1 = c.ipAddr) ∧
    ((electDrBdr s i).2 = zeroAddr ∨ ∃ c, Eligible s i c ∧ (electDrBdr s i).2 = c.ipAddr) ∧
    ((electDrBdr s i).1 = zeroAddr ↔ ¬∃ c, Eligible s i c) ∧
    ((electDrBdr s i).1 = (electDrBdr s i).2 → electDrBdr s i = (zeroAddr, zeroAddr)) ∧
    ((∃ c, Eligible s i c ∧ c.DeclaresDr) → ∃ d, Eligible s i d ∧ d.DeclaresDr ∧
      (electDrBdr s i).1 = d.ipAddr ∧ ∀ c, Eligible s i c → c.DeclaresDr → c.rank ≤ d.rank) := by
  have hseg := h.sublist (electionCandidates_sublist s i)
  simp only [← mem_electionCandidates]
  by_cases hne : electionCandidates s i = []
  · have hnone : electDrBdr s i = (zeroAddr, zeroAddr) := by
      rw [electDrBdr, electFrom, if_pos hne]
    rw [hnone, hne]
    refine ⟨Or.inl rfl, Or.inl rfl, ⟨fun _ => ?_, fun _ => rfl⟩, fun _ => rfl, ?_⟩
    · rintro ⟨c, hc⟩
      cases hc
    · rintro ⟨c, hc, -⟩
      cases hc
  · have hchosen := electFrom_chosen hseg hne (s.intf i).ipAddr (s.intf i).dr (s.intf i).bdr
    rw [← electDrBdr] at hchosen
    have hmem : ∀ a ∈ (electionCandidates s i).map Candidate.ipAddr,
        ∃ c, c ∈ electionCandidates s i ∧ a = c.ipAddr := by
      intro a ha
      obtain ⟨c, hc, rfl⟩ := List.mem_map.1 ha
      exact ⟨c, hc, rfl⟩
    obtain ⟨d, hd, hdaddr⟩ := hmem _ hchosen.dr
    refine ⟨Or.inr ⟨d, hd, hdaddr⟩, hchosen.bdr.imp_right (hmem _), ⟨fun hzero => ?_, fun hno => ?_⟩,
      fun heq => absurd heq hchosen.ne, ?_⟩
    · rw [hdaddr] at hzero
      exact absurd hzero (hseg.nonzero d hd)
    · exact absurd ⟨d, hd⟩ hno
    · rintro ⟨c, hc, hdecl⟩
      have hdeclarer : c ∈ (electionCandidates s i).filter Candidate.DeclaresDr :=
        List.mem_filter.2 ⟨hc, decide_eq_true hdecl⟩
      obtain ⟨w, hw⟩ := exists_highest (List.ne_nil_of_mem hdeclarer)
      obtain ⟨hwmem, hwdecl⟩ := List.mem_filter.1 (List.argmax_mem hw)
      refine ⟨w, hwmem, of_decide_eq_true hwdecl, ?_, fun e he hedecl => ?_⟩
      · exact outcome_of_declared hseg hw (selfCandidate s i)
      · exact List.le_of_mem_argmax (List.mem_filter.2 ⟨he, decide_eq_true hedecl⟩) hw

/-! ## Electing again -/

/-- **The election is idempotent** when no neighbor has the address of the interface. -/
theorem electDrBdr_idempotent (h : ∀ n ∈ s.neighborsOf i, (s.nbr n).ipAddr ≠ (s.intf i).ipAddr) :
    electDrBdr (s.setIntf i { s.intf i with dr := (electDrBdr s i).1, bdr := (electDrBdr s i).2 }) i =
      electDrBdr s i := by
  have hintf := Instance.intf_setIntf_self s i
    { s.intf i with dr := (electDrBdr s i).1, bdr := (electDrBdr s i).2 }
  refine electDrBdr_of_elected (fun c hc => ?_) rfl (by rw [hintf]) (by rw [hintf]) ?_ (by rw [hintf])
    (by rw [hintf])
  · obtain ⟨n, hn, rfl⟩ := mem_otherCandidates hc
    exact h n hn
  · rw [otherCandidates, otherCandidates, Instance.neighborsOf, hintf]
    rfl

/-! ### A router joins -/

/-- A router of the highest priority. -/
def newcomer : Candidate :=
  { routerId := 9, ipAddr := 167772169, priority := 255, declaredDr := 0, declaredBdr := 0 }

/-- It joins a segment with a DR of priority 1. -/
def joinedSegment : List Candidate :=
  [newcomer, { routerId := 2, ipAddr := 167772162, priority := 1, declaredDr := 167772162, declaredBdr := 0 }]

/-- The DR stays. -/
theorem electDrBdr_valid_newcomer : ∃ d, Eligible (seatOf joinedSegment newcomer) 0 d ∧ d.DeclaresDr ∧
    (electDrBdr (seatOf joinedSegment newcomer) 0).1 = d.ipAddr ∧
      ∀ c, Eligible (seatOf joinedSegment newcomer) 0 c → c.DeclaresDr → c.rank ≤ d.rank := by
  have hseg : Segment (linkRouters (seatOf joinedSegment newcomer) 0) :=
    ⟨by decide, by decide, by decide⟩
  refine (electDrBdr_valid hseg).2.2.2.2 ⟨nbrCandidate ((seatOf joinedSegment newcomer).nbr ⟨0, 2⟩), ?_, ?_⟩
  · exact ⟨by decide, Or.inr ⟨⟨0, 2⟩, by decide, by decide, rfl⟩⟩
  · decide

/-- Electing again leaves DR and BDR as they are. -/
theorem electDrBdr_idempotent_newcomer :
    electDrBdr ((seatOf joinedSegment newcomer).setIntf 0
      { (seatOf joinedSegment newcomer).intf 0 with
        dr := (electDrBdr (seatOf joinedSegment newcomer) 0).1
        bdr := (electDrBdr (seatOf joinedSegment newcomer) 0).2 }) 0 =
      electDrBdr (seatOf joinedSegment newcomer) 0 :=
  electDrBdr_idempotent (by decide)

end Ospfd
