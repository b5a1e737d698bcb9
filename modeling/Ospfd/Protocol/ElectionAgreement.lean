import Mathlib.Data.List.Perm.Subperm
import Ospfd.Protocol.Election

/-!
# When all routers of a segment elect the same DR

Every router of a broadcast segment runs the election from its own seat: the second
pass rewrites only its own declaration.

* `Segment` — routers with distinct identifiers and addresses.
* `Seat` — the state of one of them, when it sees all the others bidirectionally.
* `electDrBdr_seat` — a seat only adds the point of view: the candidates are the same.
* `seat_declared`, `seat_undeclared` — the outcome at each seat.
* `agreement_iff` — **exactly when every seat elects the same DR.**
-/

namespace Ospfd

/-! ## Segments and seats -/

/-- The routers of a segment, each with its priority and what it declares. -/
structure Segment (cs : List Candidate) : Prop where
  routerId : (cs.map Candidate.routerId).Nodup
  ipAddr : (cs.map Candidate.ipAddr).Nodup
  nonzero : ∀ c ∈ cs, c.ipAddr ≠ zeroAddr

/-- `s` is the state of router `x` with interface `i` on the segment: it knows every
other router as a bidirectional neighbor, in any order, with what that one declares. -/
structure Seat (cs : List Candidate) (x : Candidate) (s : Instance) (i : IntfId) : Prop where
  self : selfCandidate s i = x
  neighbors : ((s.neighborsOf i).map fun n => nbrCandidate (s.nbr n)).Perm (cs.erase x)
  twoWay : ∀ n ∈ s.neighborsOf i, NbrState.twoWay ≤ (s.nbr n).state

/-- The routers that can become DR. -/
def eligible (cs : List Candidate) : List Candidate := cs.filter fun c => 0 < c.priority

/-! ## The highest of a list -/

/-- Rank and address both identify a candidate of the list. -/
structure Distinct (cs : List Candidate) : Prop where
  rank : ∀ c ∈ cs, ∀ d ∈ cs, c.rank = d.rank → c = d
  addr : ∀ c ∈ cs, ∀ d ∈ cs, c.ipAddr = d.ipAddr → c = d

theorem Segment.distinct {cs : List Candidate} (h : Segment cs) : Distinct cs where
  rank := fun _ hc _ hd hr =>
    List.inj_on_of_nodup_map h.routerId hc hd (Prod.ext_iff.1 (toLex.injective hr)).2
  addr := fun _ hc _ hd => List.inj_on_of_nodup_map h.ipAddr hc hd

theorem Distinct.mono {cs ds : List Candidate} (h : Distinct cs) (hsub : ∀ c ∈ ds, c ∈ cs) :
    Distinct ds :=
  ⟨fun c hc d hd => h.rank c (hsub c hc) d (hsub d hd),
    fun c hc d hd => h.addr c (hsub c hc) d (hsub d hd)⟩

theorem highest_eq_some_iff {cs : List Candidate} (h : Distinct cs) {c : Candidate} :
    highest cs = some c ↔ c ∈ cs ∧ ∀ d ∈ cs, d.rank ≤ c.rank := by
  constructor
  · intro hc
    exact ⟨List.argmax_mem hc, fun d hd => List.le_of_mem_argmax hd hc⟩
  · rintro ⟨hmem, hmax⟩
    rcases hd : highest cs with _ | d
    · rw [highest, List.argmax_eq_none] at hd
      rw [hd] at hmem
      cases hmem
    · have hdm : d ∈ cs := List.argmax_mem hd
      have hle : c.rank ≤ d.rank := List.le_of_mem_argmax hmem hd
      rw [h.rank d hdm c hmem (le_antisymm (hmax d hdm) hle)]

theorem highest_eq_none_iff {cs : List Candidate} : highest cs = none ↔ cs = [] :=
  List.argmax_eq_none

theorem exists_highest {cs : List Candidate} (h : cs ≠ []) : ∃ c, highest cs = some c := by
  rcases hc : highest cs with _ | c
  · exact absurd (highest_eq_none_iff.1 hc) h
  · exact ⟨c, rfl⟩

theorem highest_congr {cs ds : List Candidate} (h : Distinct cs) (hmem : ∀ c, c ∈ cs ↔ c ∈ ds) :
    highest cs = highest ds := by
  have h' : Distinct ds := h.mono fun c => (hmem c).2
  ext c
  rw [highest_eq_some_iff h, highest_eq_some_iff h', hmem]
  simp only [hmem]

theorem preferBdr_congr {cs ds : List Candidate} (h : Distinct cs)
    (hmem : ∀ c, c ∈ cs ↔ c ∈ ds) : preferBdr cs = preferBdr ds := by
  have hfilter : highest (cs.filter Candidate.DeclaresBdr) =
      highest (ds.filter Candidate.DeclaresBdr) :=
    highest_congr (h.mono fun c hc => (List.mem_filter.1 hc).1) fun c => by
      simp only [List.mem_filter, hmem]
  rw [preferBdr, preferBdr, hfilter, highest_congr h hmem]

/-- A pass depends on which candidates there are, not on their order. -/
theorem runElection_congr {cs ds : List Candidate} (h : Distinct cs)
    (hmem : ∀ c, c ∈ cs ↔ c ∈ ds) : runElection cs = runElection ds := by
  have hsub : ∀ (p : Candidate → Bool), Distinct (cs.filter p) :=
    fun p => h.mono fun c hc => (List.mem_filter.1 hc).1
  have hmem' : ∀ (p : Candidate → Bool) (c), c ∈ cs.filter p ↔ c ∈ ds.filter p :=
    fun p c => by simp only [List.mem_filter, hmem]
  have hdr := highest_congr (hsub _) (hmem' fun c => decide c.DeclaresDr)
  have hnon := preferBdr_congr (hsub _) (hmem' fun c => decide ¬c.DeclaresDr)
  have hrest : ∀ a : IPv4Address,
      preferBdr ((cs.filter fun c => ¬c.DeclaresDr).filter fun c => c.ipAddr ≠ a) =
        preferBdr ((ds.filter fun c => ¬c.DeclaresDr).filter fun c => c.ipAddr ≠ a) := fun a =>
    preferBdr_congr ((hsub _).mono fun c hc => (List.mem_filter.1 hc).1) fun c => by
      simp only [List.mem_filter, hmem]
  simp only [runElection, hdr, hnon, hrest]

/-! ## Rewriting one declaration -/

/-- A candidate with its declaration rewritten where it has the address. -/
def redeclared (addr dr bdr : IPv4Address) (c : Candidate) : Candidate :=
  if c.ipAddr = addr then { c with declaredDr := dr, declaredBdr := bdr } else c

@[simp] theorem ipAddr_redeclared (addr dr bdr : IPv4Address) (c : Candidate) :
    (redeclared addr dr bdr c).ipAddr = c.ipAddr := by
  rw [redeclared]
  split <;> rfl

@[simp] theorem rank_redeclared (addr dr bdr : IPv4Address) (c : Candidate) :
    (redeclared addr dr bdr c).rank = c.rank := by
  rw [redeclared]
  split <;> rfl

theorem redeclare_eq_map {addr dr bdr : IPv4Address} : ∀ {cs : List Candidate},
    (cs.map Candidate.ipAddr).Nodup → redeclare addr dr bdr cs = cs.map (redeclared addr dr bdr)
  | [], _ => rfl
  | c :: cs, h => by
    rw [List.map_cons, List.nodup_cons] at h
    rw [redeclare, List.map_cons]
    split
    · rename_i hc
      have hrest : cs.map (redeclared addr dr bdr) = cs := by
        refine (List.map_congr_left fun d hd => ?_).trans (List.map_id cs)
        refine if_neg fun heq => h.1 ?_
        rw [hc, ← heq]
        exact List.mem_map_of_mem hd
      rw [hrest, redeclared, if_pos hc]
    · rename_i hc
      rw [redeclared, if_neg hc, redeclare_eq_map h.2]

theorem Distinct.redeclared {cs : List Candidate} (h : Distinct cs) (addr dr bdr : IPv4Address) :
    Distinct (cs.map (redeclared addr dr bdr)) := by
  constructor
  · intro c' hc' d' hd' hr
    obtain ⟨c, hc, rfl⟩ := List.mem_map.1 hc'
    obtain ⟨d, hd, rfl⟩ := List.mem_map.1 hd'
    rw [h.rank c hc d hd (by simpa using hr)]
  · intro c' hc' d' hd' hr
    obtain ⟨c, hc, rfl⟩ := List.mem_map.1 hc'
    obtain ⟨d, hd, rfl⟩ := List.mem_map.1 hd'
    rw [h.addr c hc d hd (by simpa using hr)]

/-! ## The seat only adds the point of view -/

theorem eligible_sublist (cs : List Candidate) : (eligible cs).Sublist cs := List.filter_sublist

theorem Segment.eligible {cs : List Candidate} (h : Segment cs) : Segment (eligible cs) :=
  ⟨h.routerId.sublist ((eligible_sublist cs).map _), h.ipAddr.sublist ((eligible_sublist cs).map _),
    fun c hc => h.nonzero c ((eligible_sublist cs).subset hc)⟩

theorem electFrom_perm {cs ds : List Candidate} (h : Segment cs) (hp : cs.Perm ds)
    (a dr bdr : IPv4Address) : electFrom cs a dr bdr = electFrom ds a dr bdr := by
  have hd : (ds.map Candidate.ipAddr).Nodup := (hp.map _).nodup_iff.1 h.ipAddr
  have hnil : cs = [] ↔ ds = [] := by
    constructor
    · rintro rfl
      exact hp.nil_eq.symm
    · rintro rfl
      exact hp.eq_nil
  have hrun : runElection cs = runElection ds := runElection_congr h.distinct fun c => hp.mem_iff
  have hagain : ∀ a dr bdr, runElection (redeclare a dr bdr cs) =
      runElection (redeclare a dr bdr ds) := by
    intro a dr bdr
    rw [redeclare_eq_map h.ipAddr, redeclare_eq_map hd]
    exact runElection_congr (h.distinct.redeclared a dr bdr) fun c => (hp.map _).mem_iff
  simp only [electFrom, hnil, hrun, hagain]

/-- The candidates at a seat are the eligible routers of the segment. -/
theorem electionCandidates_seat {cs : List Candidate} {x : Candidate} {s : Instance} {i : IntfId}
    (hx : x ∈ cs) (h : Seat cs x s i) : (electionCandidates s i).Perm (eligible cs) := by
  have hself : (if 0 < (s.intf i).priority then [selfCandidate s i] else []) =
      eligible [x] := by
    rw [← h.self]
    by_cases hp : 0 < (s.intf i).priority
    · simp [eligible, selfCandidate, hp]
    · simp [eligible, selfCandidate, hp]
  have hnbrs : (((s.neighborsOf i).map s.nbr).filter
      fun nbr => NbrState.twoWay ≤ nbr.state ∧ 0 < nbr.priority).map nbrCandidate =
        eligible ((s.neighborsOf i).map fun n => nbrCandidate (s.nbr n)) := by
    rw [eligible, List.filter_map, List.filter_map, List.map_map]
    congr 1
    refine List.filter_congr fun n hn => ?_
    simp [h.twoWay n hn, nbrCandidate]
  have happend : eligible [x] ++ eligible ((s.neighborsOf i).map fun n => nbrCandidate (s.nbr n)) =
      eligible (x :: (s.neighborsOf i).map fun n => nbrCandidate (s.nbr n)) := by
    rw [eligible, eligible, eligible, ← List.filter_append]
    rfl
  rw [electionCandidates, hself, hnbrs, happend]
  exact ((h.neighbors.cons x).filter _).trans ((List.perm_cons_erase hx).symm.filter _)

/-- **A seat only adds the point of view**: the router's own address and declaration. -/
theorem electDrBdr_seat {cs : List Candidate} {x : Candidate} {s : Instance} {i : IntfId}
    (h : Segment cs) (hx : x ∈ cs) (hs : Seat cs x s i) :
    electDrBdr s i = electFrom (eligible cs) x.ipAddr x.declaredDr x.declaredBdr := by
  have hp := electionCandidates_seat hx hs
  rw [electDrBdr, ← electFrom_perm h.eligible hp.symm, ← hs.self]
  rfl

/-! ## The preferred BDR -/

theorem preferBdr_of_declares {cs : List Candidate} (h : Distinct cs) {b : Candidate} (hb : b ∈ cs)
    (hdecl : b.DeclaresBdr) (hmax : ∀ d ∈ cs, d.DeclaresBdr → d.rank ≤ b.rank) :
    preferBdr cs = some b := by
  have hfilter : highest (cs.filter Candidate.DeclaresBdr) = some b := by
    rw [highest_eq_some_iff (h.mono fun c hc => (List.mem_filter.1 hc).1)]
    simp only [List.mem_filter, decide_eq_true_eq]
    exact ⟨⟨hb, hdecl⟩, fun d hd => hmax d hd.1 hd.2⟩
  rw [preferBdr, hfilter]

theorem filter_declaresBdr_eq_nil {cs : List Candidate} (hno : ∀ d ∈ cs, ¬d.DeclaresBdr) :
    cs.filter Candidate.DeclaresBdr = [] := by
  simpa [List.filter_eq_nil_iff] using hno

theorem preferBdr_of_none {cs : List Candidate} (h : Distinct cs) {b : Candidate}
    (hno : ∀ d ∈ cs, ¬d.DeclaresBdr) (hb : b ∈ cs) (hmax : ∀ d ∈ cs, d.rank ≤ b.rank) :
    preferBdr cs = some b := by
  rw [preferBdr, filter_declaresBdr_eq_nil hno]
  exact (highest_eq_some_iff h).2 ⟨hb, hmax⟩

theorem preferBdr_cases {cs : List Candidate} {b : Candidate} (hb : preferBdr cs = some b) :
    b ∈ cs ∧ ((b.DeclaresBdr ∧ ∀ d ∈ cs, d.DeclaresBdr → d.rank ≤ b.rank) ∨
      ((∀ d ∈ cs, ¬d.DeclaresBdr) ∧ ∀ d ∈ cs, d.rank ≤ b.rank)) := by
  rw [preferBdr] at hb
  rcases hT : highest (cs.filter Candidate.DeclaresBdr) with _ | t
  · rw [hT] at hb
    rw [highest_eq_none_iff, List.filter_eq_nil_iff] at hT
    exact ⟨List.argmax_mem hb, Or.inr ⟨fun d hd => by simpa using hT d hd,
      fun d hd => List.le_of_mem_argmax hd hb⟩⟩
  · rw [hT] at hb
    cases hb
    have hmem := List.mem_filter.1 (List.argmax_mem hT)
    refine ⟨hmem.1, Or.inl ⟨by simpa using hmem.2, fun d hd hdecl => ?_⟩⟩
    exact List.le_of_mem_argmax (List.mem_filter.2 ⟨hd, by simpa using hdecl⟩) hT

theorem exists_preferBdr {cs : List Candidate} (h : cs ≠ []) : ∃ b, preferBdr cs = some b := by
  rw [preferBdr]
  rcases highest (cs.filter Candidate.DeclaresBdr) with _ | t
  · exact exists_highest h
  · exact ⟨t, rfl⟩

/-! ## The outcome at each seat -/

/-- The DR that the router `x` elects among the eligible routers. -/
def outcome (cs : List Candidate) (x : Candidate) : IPv4Address :=
  (electFrom cs x.ipAddr x.declaredDr x.declaredBdr).1

theorem runElection_of_declared {cs : List Candidate} {d : Candidate}
    (hd : highest (cs.filter Candidate.DeclaresDr) = some d) : (runElection cs).1 = d.ipAddr := by
  simp only [runElection, hd]

theorem runElection_of_undeclared {cs : List Candidate} (hno : ∀ c ∈ cs, ¬c.DeclaresDr)
    {b : Candidate} (hb : preferBdr cs = some b) :
    runElection cs = (b.ipAddr, addrOf (preferBdr (cs.filter fun c => c.ipAddr ≠ b.ipAddr))) := by
  have hdr : cs.filter Candidate.DeclaresDr = [] := by
    simpa [List.filter_eq_nil_iff] using hno
  have hnon : (cs.filter fun c => ¬c.DeclaresDr) = cs := by
    simpa [List.filter_eq_self] using hno
  simp only [runElection, hdr, hnon, hb]
  rfl

/-- Where some eligible router declares itself DR, every seat elects the highest of
those. -/
theorem outcome_of_declared {cs : List Candidate} (h : Segment cs) {d : Candidate}
    (hd : highest (cs.filter Candidate.DeclaresDr) = some d) (x : Candidate) :
    outcome cs x = d.ipAddr := by
  have hdist := h.distinct
  have hd' := (highest_eq_some_iff (hdist.mono fun c hc => (List.mem_filter.1 hc).1)).1 hd
  simp only [List.mem_filter, decide_eq_true_eq] at hd'
  obtain ⟨⟨hmem, hdecl⟩, hmax⟩ := hd'
  have hne : cs ≠ [] := List.ne_nil_of_mem hmem
  have hfst := runElection_of_declared hd
  rw [outcome, electFrom, if_neg hne]
  rcases hrun : runElection cs with ⟨newDr, newBdr⟩
  rw [hrun] at hfst
  subst hfst
  dsimp only
  split
  · rw [redeclare_eq_map h.ipAddr]
    -- the winner still declares itself, and whoever does declared itself before
    refine (runElection_of_declared (d := redeclared x.ipAddr d.ipAddr newBdr d) ?_).trans
      (ipAddr_redeclared ..)
    rw [highest_eq_some_iff ((hdist.redeclared _ _ _).mono fun c hc => (List.mem_filter.1 hc).1)]
    simp only [List.mem_filter, List.mem_map, decide_eq_true_eq]
    refine ⟨⟨⟨d, hmem, rfl⟩, ?_⟩, ?_⟩
    · rw [Candidate.DeclaresDr, ipAddr_redeclared, redeclared]
      split
      · rfl
      · exact hdecl
    · rintro _ ⟨⟨c, hc, rfl⟩, hcd⟩
      rw [rank_redeclared, rank_redeclared]
      rw [Candidate.DeclaresDr, ipAddr_redeclared, redeclared] at hcd
      split at hcd
      · rw [hdist.addr d hmem c hc hcd]
      · exact hmax c ⟨hc, hcd⟩
  · rfl

/-- The router that is next in line for BDR once `b` is DR. -/
def nextBdr (cs : List Candidate) (b : Candidate) : Option Candidate :=
  preferBdr (cs.filter fun c => c.ipAddr ≠ b.ipAddr)

/-- Where none does, every seat but that of the next BDR elects the preferred BDR. -/
theorem outcome_of_undeclared {cs : List Candidate} (h : Segment cs)
    (hno : ∀ c ∈ cs, ¬c.DeclaresDr) {b : Candidate} (hb : preferBdr cs = some b) {x : Candidate}
    (hx : x.ipAddr ≠ addrOf (nextBdr cs b)) : outcome cs x = b.ipAddr := by
  have hdist := h.distinct
  obtain ⟨hmem, hpref⟩ := preferBdr_cases hb
  have hne : cs ≠ [] := List.ne_nil_of_mem hmem
  rw [outcome, electFrom, if_neg hne, runElection_of_undeclared hno hb]
  dsimp only
  split
  · rw [redeclare_eq_map h.ipAddr]
    by_cases hxb : x.ipAddr = b.ipAddr
    · -- at the seat of `b`: it alone declares itself DR now
      refine (runElection_of_declared (d := redeclared x.ipAddr b.ipAddr
        (addrOf (nextBdr cs b)) b) ?_).trans (ipAddr_redeclared ..)
      rw [highest_eq_some_iff ((hdist.redeclared _ _ _).mono fun c hc => (List.mem_filter.1 hc).1)]
      simp only [List.mem_filter, List.mem_map, decide_eq_true_eq]
      refine ⟨⟨⟨b, hmem, rfl⟩, ?_⟩, ?_⟩
      · rw [Candidate.DeclaresDr, ipAddr_redeclared, redeclared, if_pos hxb.symm]
      · rintro _ ⟨⟨c, hc, rfl⟩, hcd⟩
        rw [Candidate.DeclaresDr, ipAddr_redeclared, redeclared] at hcd
        split at hcd
        · rw [hdist.addr b hmem c hc hcd]
          exact le_rfl
        · exact absurd hcd (hno c hc)
    · -- elsewhere still nobody does, and `b` stays the preferred BDR
      have hno' : ∀ c' ∈ cs.map (redeclared x.ipAddr b.ipAddr (addrOf (nextBdr cs b))),
          ¬c'.DeclaresDr := by
        intro c' hc' hcd
        obtain ⟨c, hc, rfl⟩ := List.mem_map.1 hc'
        rw [Candidate.DeclaresDr, ipAddr_redeclared, redeclared] at hcd
        split at hcd
        · rename_i hcx
          exact hxb (hcx.symm.trans hcd.symm)
        · exact hno c hc hcd
      have hbdr : ∀ c, (redeclared x.ipAddr b.ipAddr (addrOf (nextBdr cs b)) c).DeclaresBdr ↔
          c.DeclaresBdr ∧ c.ipAddr ≠ x.ipAddr := by
        intro c
        rw [Candidate.DeclaresBdr, Candidate.DeclaresBdr, ipAddr_redeclared, redeclared]
        split
        · rename_i hcx
          exact ⟨fun hc => absurd (hcx.symm.trans hc.symm) hx, fun hc => absurd hcx hc.2⟩
        · rename_i hcx
          exact ⟨fun hc => ⟨hc, hcx⟩, fun hc => hc.1⟩
      have hpref' : preferBdr (cs.map (redeclared x.ipAddr b.ipAddr (addrOf (nextBdr cs b)))) =
          some (redeclared x.ipAddr b.ipAddr (addrOf (nextBdr cs b)) b) := by
        rcases hpref with ⟨hdecl, hmax⟩ | ⟨hnone, hmax⟩
        · refine preferBdr_of_declares (hdist.redeclared _ _ _) (List.mem_map_of_mem hmem)
            ((hbdr b).2 ⟨hdecl, fun heq => hxb heq.symm⟩) ?_
          intro d' hd' hdd
          obtain ⟨d, hd, rfl⟩ := List.mem_map.1 hd'
          rw [rank_redeclared, rank_redeclared]
          exact hmax d hd ((hbdr d).1 hdd).1
        · refine preferBdr_of_none (hdist.redeclared _ _ _) ?_ (List.mem_map_of_mem hmem) ?_
          · intro d' hd' hdd
            obtain ⟨d, hd, rfl⟩ := List.mem_map.1 hd'
            exact hnone d hd ((hbdr d).1 hdd).1
          · intro d' hd'
            obtain ⟨d, hd, rfl⟩ := List.mem_map.1 hd'
            rw [rank_redeclared, rank_redeclared]
            exact hmax d hd
      change (runElection (cs.map (redeclared x.ipAddr b.ipAddr (addrOf (nextBdr cs b))))).1 = _
      rw [runElection_of_undeclared hno' hpref', ipAddr_redeclared]
  · rfl

/-- At the seat of the next BDR, when it declares itself BDR already: nothing changes,
and the preferred BDR is elected. -/
theorem outcome_next_of_declares {cs : List Candidate}
    (hno : ∀ c ∈ cs, ¬c.DeclaresDr) {b a : Candidate} (hb : preferBdr cs = some b)
    (ha : nextBdr cs b = some a) (hdecl : a.DeclaresBdr) : outcome cs a = b.ipAddr := by
  obtain ⟨hmem, -⟩ := preferBdr_cases hb
  obtain ⟨hamem, -⟩ := preferBdr_cases ha
  simp only [List.mem_filter, decide_eq_true_eq] at hamem
  have hne : cs ≠ [] := List.ne_nil_of_mem hmem
  have haddr : addrOf (preferBdr (cs.filter fun c => c.ipAddr ≠ b.ipAddr)) = a.ipAddr := by
    rw [← nextBdr, ha]
    rfl
  rw [outcome, electFrom, if_neg hne, runElection_of_undeclared hno hb, haddr]
  dsimp only
  rw [if_neg]
  have hdr : ¬a.declaredDr = a.ipAddr := hno a hamem.1
  have hbdr : a.declaredBdr = a.ipAddr := hdecl
  simp [hdr, hbdr, hamem.2.symm]

/-- The second pass at the seat of a router that the first made BDR: it now declares itself
BDR, and the highest of those that do is elected. -/
theorem runElection_again {cs : List Candidate} (h : Segment cs) (hno : ∀ c ∈ cs, ¬c.DeclaresDr)
    {a b w : Candidate} (ha : a ∈ cs) (hab : a.ipAddr ≠ b.ipAddr) (hw : w ∈ cs)
    (hwd : w = a ∨ w.DeclaresBdr) (hmax : ∀ c ∈ cs, c = a ∨ c.DeclaresBdr → c.rank ≤ w.rank) :
    (runElection (cs.map (redeclared a.ipAddr b.ipAddr a.ipAddr))).1 = w.ipAddr := by
  have hdist := h.distinct
  have hno' : ∀ c' ∈ cs.map (redeclared a.ipAddr b.ipAddr a.ipAddr), ¬c'.DeclaresDr := by
    intro c' hc' hcd
    obtain ⟨c, hc, rfl⟩ := List.mem_map.1 hc'
    rw [Candidate.DeclaresDr, ipAddr_redeclared, redeclared] at hcd
    split at hcd
    · rename_i hca
      exact hab (hca.symm.trans hcd.symm)
    · exact hno c hc hcd
  have hbdr' : ∀ c ∈ cs, (redeclared a.ipAddr b.ipAddr a.ipAddr c).DeclaresBdr ↔
      c = a ∨ c.DeclaresBdr := by
    intro c hc
    rw [Candidate.DeclaresBdr, Candidate.DeclaresBdr, ipAddr_redeclared, redeclared]
    split
    · rename_i hca
      exact ⟨fun _ => Or.inl (hdist.addr c hc a ha hca), fun _ => hca.symm⟩
    · rename_i hca
      exact ⟨Or.inr, fun hor => hor.resolve_left fun heq => hca (heq ▸ rfl)⟩
  have hpref' : preferBdr (cs.map (redeclared a.ipAddr b.ipAddr a.ipAddr)) =
      some (redeclared a.ipAddr b.ipAddr a.ipAddr w) := by
    refine preferBdr_of_declares (hdist.redeclared _ _ _) (List.mem_map_of_mem hw)
      ((hbdr' w hw).2 hwd) ?_
    intro d' hd' hdd
    obtain ⟨d, hd, rfl⟩ := List.mem_map.1 hd'
    rw [rank_redeclared, rank_redeclared]
    exact hmax d hd ((hbdr' d hd).1 hdd)
  rw [runElection_of_undeclared hno' hpref', ipAddr_redeclared]

/-- When the next BDR does not declare itself BDR, nobody but the preferred BDR can. -/
theorem eq_of_declaresBdr {cs : List Candidate} (h : Segment cs) {b a : Candidate}
    (hb : preferBdr cs = some b) (ha : nextBdr cs b = some a) (hdecl : ¬a.DeclaresBdr) :
    ∀ c ∈ cs, c.DeclaresBdr → c = b := by
  intro c hc hcd
  rcases (preferBdr_cases ha).2 with ⟨hd, -⟩ | ⟨hnone, -⟩
  · exact absurd hd hdecl
  · by_contra hcb
    refine hnone c (List.mem_filter.2 ⟨hc, ?_⟩) hcd
    simpa using fun heq => hcb (h.distinct.addr c hc b (preferBdr_cases hb).1 heq)

/-- At the seat of the next BDR, when it does not declare itself BDR: it elects itself,
unless the preferred BDR declares itself BDR and ranks above it. -/
theorem outcome_next_of_not_declares {cs : List Candidate} (h : Segment cs)
    (hno : ∀ c ∈ cs, ¬c.DeclaresDr) {b a : Candidate} (hb : preferBdr cs = some b)
    (ha : nextBdr cs b = some a) (hdecl : ¬a.DeclaresBdr) :
    outcome cs a = if b.DeclaresBdr ∧ a.rank ≤ b.rank then b.ipAddr else a.ipAddr := by
  have hmem := (preferBdr_cases hb).1
  have hamem := (preferBdr_cases ha).1
  simp only [List.mem_filter, decide_eq_true_eq] at hamem
  obtain ⟨hamem, hab⟩ := hamem
  have hne : cs ≠ [] := List.ne_nil_of_mem hmem
  have haddr : addrOf (preferBdr (cs.filter fun c => c.ipAddr ≠ b.ipAddr)) = a.ipAddr := by
    rw [← nextBdr, ha]
    rfl
  have honly := eq_of_declaresBdr h hb ha hdecl
  rw [outcome, electFrom, if_neg hne, runElection_of_undeclared hno hb, haddr]
  dsimp only
  have hbdr : ¬a.declaredBdr = a.ipAddr := hdecl
  rw [if_pos (Or.inr (by simp [hbdr])), redeclare_eq_map h.ipAddr]
  -- the contest is between `a` and, if it declares itself, `b`
  split
  · rename_i hcond
    refine runElection_again h hno hamem hab hmem (Or.inr hcond.1) fun c hc hcor => ?_
    rcases hcor with rfl | hcd
    · exact hcond.2
    · rw [honly c hc hcd]
  · rename_i hcond
    refine runElection_again h hno hamem hab hamem (Or.inl rfl) fun c hc hcor => ?_
    rcases hcor with rfl | hcd
    · exact le_rfl
    · have hcb := honly c hc hcd
      rw [hcb] at hcd ⊢
      exact le_of_lt (lt_of_not_ge fun hle => hcond ⟨hcd, hle⟩)

/-! ## Agreement -/

/-- The condition under which all seats agree: some eligible router declares itself DR,
or there is at most one, or two of them declare themselves BDR, or the highest does. -/
def Settled (cs : List Candidate) : Prop :=
  (∃ c ∈ cs, c.DeclaresDr) ∨ cs.length ≤ 1 ∨ 2 ≤ (cs.filter Candidate.DeclaresBdr).length ∨
    ∃ m ∈ cs, m.DeclaresBdr ∧ ∀ c ∈ cs, c.rank ≤ m.rank

theorem length_le_one_of_forall_eq {l : List Candidate} {b : Candidate} (hnd : l.Nodup)
    (h : ∀ c ∈ l, c = b) : l.length ≤ 1 := by
  match l, hnd, h with
  | [], _, _ => simp
  | [_], _, _ => simp
  | c :: d :: rest, hnd, h =>
    have hcd : c = d := (h c (by simp)).trans (h d (by simp)).symm
    simp [hcd] at hnd

/-- A segment with two routers has a next BDR. -/
theorem exists_nextBdr {cs : List Candidate} (h : Segment cs) {b : Candidate} (hb : b ∈ cs)
    (hlen : 2 ≤ cs.length) : ∃ a, nextBdr cs b = some a := by
  refine exists_preferBdr fun hnil => ?_
  rw [List.filter_eq_nil_iff] at hnil
  have hall : ∀ c ∈ cs, c = b := fun c hc => h.distinct.addr c hc b hb (by simpa using hnil c hc)
  have hle := length_le_one_of_forall_eq (List.Nodup.of_map _ h.ipAddr) hall
  omega

/-- Among undeclared routers every seat elects the preferred BDR when the condition holds. -/
theorem outcome_of_settled {cs : List Candidate} (h : Segment cs) (hno : ∀ c ∈ cs, ¬c.DeclaresDr)
    {b : Candidate} (hb : preferBdr cs = some b) (hset : Settled cs) {x : Candidate}
    (hx : x.ipAddr ≠ zeroAddr) (hxc : ∀ c ∈ cs, c.ipAddr = x.ipAddr → c = x) :
    outcome cs x = b.ipAddr := by
  have hmem := (preferBdr_cases hb).1
  by_cases hnext : x.ipAddr = addrOf (nextBdr cs b)
  · rcases ha : nextBdr cs b with _ | a
    · rw [ha] at hnext
      exact absurd hnext hx
    · rw [ha] at hnext
      have hamem := (preferBdr_cases ha).1
      simp only [List.mem_filter, decide_eq_true_eq] at hamem
      have hax : a = x := hxc a hamem.1 hnext.symm
      subst hax
      by_cases hdecl : a.DeclaresBdr
      · exact outcome_next_of_declares hno hb ha hdecl
      · rw [outcome_next_of_not_declares h hno hb ha hdecl, if_pos]
        -- nobody else can declare itself BDR, so the condition says that `b` is the highest
        have honly := eq_of_declaresBdr h hb ha hdecl
        rcases hset with ⟨c, hc, hcd⟩ | hlen | hlen | ⟨m, hm, hmd, hmax⟩
        · exact absurd hcd (hno c hc)
        · have hab : a = b := by
            match cs, hlen, hamem.1, hmem with
            | [c], _, h1, h2 => rw [List.mem_singleton.1 h1, List.mem_singleton.1 h2]
          exact absurd (congrArg Candidate.ipAddr hab) hamem.2
        · have hnd : (cs.filter Candidate.DeclaresBdr).Nodup :=
            (List.Nodup.of_map _ h.ipAddr).filter _
          have hall : ∀ c ∈ cs.filter Candidate.DeclaresBdr, c = b := by
            intro c hc
            simp only [List.mem_filter, decide_eq_true_eq] at hc
            exact honly c hc.1 hc.2
          have hle := length_le_one_of_forall_eq hnd hall
          omega
        · have hmb := honly m hm hmd
          subst hmb
          exact ⟨hmd, hmax a hamem.1⟩
  · exact outcome_of_undeclared h hno hb hnext

/-- Where the condition fails, the preferred and the next BDR elect different routers. -/
theorem outcome_of_not_settled {cs : List Candidate} (h : Segment cs) (hset : ¬Settled cs) :
    ∃ a ∈ cs, ∃ b ∈ cs, outcome cs a = a.ipAddr ∧ outcome cs b = b.ipAddr ∧
      a.ipAddr ≠ b.ipAddr := by
  simp only [Settled, not_or, not_exists, not_and, not_le] at hset
  obtain ⟨hno, hlen, hfew, hhigh⟩ := hset
  have hne : cs ≠ [] := by
    rintro rfl
    simp at hlen
  obtain ⟨b, hb⟩ := exists_preferBdr hne
  obtain ⟨hmem, hpref⟩ := preferBdr_cases hb
  obtain ⟨a, ha⟩ := exists_nextBdr h hmem hlen
  obtain ⟨hamem, hapref⟩ := preferBdr_cases ha
  simp only [List.mem_filter, decide_eq_true_eq] at hamem
  obtain ⟨hamem, hab⟩ := hamem
  -- `a` is not among the BDR declarers, of which there is at most one
  have hdecl : ¬a.DeclaresBdr := by
    intro had
    rcases hpref with ⟨hbd, -⟩ | ⟨hnone, -⟩
    · have hsub : [a, b] ⊆ cs.filter Candidate.DeclaresBdr := by
        intro c hc
        rcases List.mem_pair.1 hc with rfl | rfl
        · exact List.mem_filter.2 ⟨hamem, by simpa using had⟩
        · exact List.mem_filter.2 ⟨hmem, by simpa using hbd⟩
      have hnd : [a, b].Nodup := by
        simpa using fun heq : a = b => hab (congrArg Candidate.ipAddr heq)
      have hle := (hnd.subperm hsub).length_le
      simp only [List.length_cons, List.length_nil] at hle
      omega
    · exact hnone a hamem had
  refine ⟨a, hamem, b, hmem, ?_, ?_, hab⟩
  · rw [outcome_next_of_not_declares h hno hb ha hdecl, if_neg]
    rintro ⟨hbd, hle⟩
    obtain ⟨c, hc, hlt⟩ : ∃ c ∈ cs, b.rank < c.rank := by
      by_contra hnone
      exact hhigh b hmem hbd fun c hc => not_lt.1 fun hlt => hnone ⟨c, hc, hlt⟩
    have hcb : c.ipAddr ≠ b.ipAddr := by
      intro heq
      rw [h.distinct.addr c hc b hmem heq] at hlt
      exact lt_irrefl _ hlt
    -- the next BDR is the highest of the others, hence above `b`
    rcases hapref with ⟨hd, -⟩ | ⟨-, hmax⟩
    · exact hdecl hd
    · have hca := hmax c (List.mem_filter.2 ⟨hc, by simpa using hcb⟩)
      exact absurd (hca.trans hle) (not_le_of_gt hlt)
  · refine outcome_of_undeclared h hno hb fun heq => hab ?_
    rw [ha] at heq
    exact heq.symm

/-- Every router of the segment elects the same DR. -/
def SameDr (cs : List Candidate) : Prop :=
  ∃ dr, ∀ x ∈ cs, ∀ s i, Seat cs x s i → (electDrBdr s i).1 = dr

/-- When no router declares itself DR or BDR, every router elects the highest. -/
def UndeclaredElectsHighest (cs : List Candidate) : Prop :=
  (∀ c ∈ cs, ¬c.DeclaresDr ∧ ¬c.DeclaresBdr) → ∀ m ∈ eligible cs,
    (∀ c ∈ eligible cs, c.rank ≤ m.rank) →
      ∀ x ∈ cs, ∀ s i, Seat cs x s i → (electDrBdr s i).1 = m.ipAddr

/-- The state of router `x` of a segment, with the others as bidirectional neighbors. -/
def seatOf (cs : List Candidate) (x : Candidate) : Instance :=
  { Instance.init x.routerId Dict.empty
      (fun _ =>
        { intfType := .broadcast, cost := 10, priority := x.priority, helloInterval := 10,
          deadInterval := 40, passive := false, authType := .none, authKey := [], authKeyId := 0,
          areaId := backboneArea, ipAddr := x.ipAddr, ipMask := 4294967040, mtu := 1500,
          mtu_lt := ethernetMtu_lt, ifIndex := 1, socket := true, state := .drOther,
          dr := x.declaredDr, bdr := x.declaredBdr,
          neighbors := (cs.erase x).map Candidate.routerId })
      zeroMd5 (fun _ => 0) 0 with
    nbr := fun n =>
      match cs.find? fun c => c.routerId = n.routerId with
      | some c => { routerId := c.routerId, ipAddr := c.ipAddr, priority := c.priority,
                    dr := c.declaredDr, bdr := c.declaredBdr, state := .twoWay }
      | none => { routerId := n.routerId, ipAddr := zeroAddr, state := .twoWay } }

theorem seat_seatOf {cs : List Candidate} (h : Segment cs) (x : Candidate) :
    Seat cs x (seatOf cs x) 0 := by
  have hfind : ∀ c ∈ cs, cs.find? (fun d => d.routerId = c.routerId) = some c := by
    intro c hc
    rcases hd : cs.find? (fun d => d.routerId = c.routerId) with _ | d
    · exact absurd hc (by simpa using List.find?_eq_none.1 hd c)
    · have hdc : d.routerId = c.routerId := by simpa using List.find?_some hd
      rw [hd, List.inj_on_of_nodup_map h.routerId (List.mem_of_find?_eq_some hd) hc hdc]
  have hnbr : ∀ c ∈ cs, nbrCandidate ((seatOf cs x).nbr ⟨0, c.routerId⟩) = c := by
    intro c hc
    simp only [seatOf, hfind c hc]
    rfl
  refine ⟨rfl, ?_, ?_⟩
  · have hmap : ((seatOf cs x).neighborsOf 0).map (fun n => nbrCandidate ((seatOf cs x).nbr n)) =
        cs.erase x := by
      change ((((cs.erase x).map Candidate.routerId).map fun r => (⟨0, r⟩ : NbrRef)).map _) = _
      rw [List.map_map, List.map_map]
      refine (List.map_congr_left fun c hc => ?_).trans (List.map_id _)
      exact hnbr c (List.mem_of_mem_erase hc)
    rw [hmap]
  · intro n _
    simp only [seatOf]
    split <;> exact le_refl (NbrState.num .twoWay)

/-- **When the routers of a segment agree on the DR.**  On a segment of routers that
all see each other, every router elects the same DR (and the highest eligible one when
nobody declares itself DR or BDR) exactly when the declarations settle the first pass. -/
theorem agreement_iff {cs : List Candidate} (h : Segment cs) :
    SameDr cs ∧ UndeclaredElectsHighest cs ↔ Settled (eligible cs) := by
  have he := h.eligible
  have hout : ∀ x ∈ cs, ∀ s i, Seat cs x s i → (electDrBdr s i).1 = outcome (eligible cs) x :=
    fun x hx s i hs => by rw [electDrBdr_seat h hx hs, outcome]
  have hxc : ∀ x ∈ cs, ∀ c ∈ eligible cs, c.ipAddr = x.ipAddr → c = x :=
    fun x hx c hc => h.distinct.addr c ((eligible_sublist cs).subset hc) x hx
  constructor
  · rintro ⟨⟨dr, hdr⟩, -⟩
    by_contra hset
    obtain ⟨a, ha, b, hb, hoa, hob, hab⟩ := outcome_of_not_settled he hset
    have ha' := (eligible_sublist cs).subset ha
    have hb' := (eligible_sublist cs).subset hb
    have h1 := hdr a ha' _ _ (seat_seatOf h a)
    have h2 := hdr b hb' _ _ (seat_seatOf h b)
    rw [hout a ha' _ _ (seat_seatOf h a), hoa] at h1
    rw [hout b hb' _ _ (seat_seatOf h b), hob] at h2
    exact hab (h1.trans h2.symm)
  · intro hset
    by_cases hdecl : ∃ c ∈ eligible cs, c.DeclaresDr
    · obtain ⟨c, hc, hcd⟩ := hdecl
      obtain ⟨d, hd⟩ := exists_highest (List.ne_nil_of_mem
        (List.mem_filter.2 ⟨hc, by simpa using hcd⟩ : c ∈ (eligible cs).filter Candidate.DeclaresDr))
      refine ⟨⟨d.ipAddr, fun x hx s i hs => ?_⟩, fun hno => ?_⟩
      · rw [hout x hx s i hs, outcome_of_declared he hd]
      · exact absurd hcd (hno c ((eligible_sublist cs).subset hc)).1
    · have hno : ∀ c ∈ eligible cs, ¬c.DeclaresDr := fun c hc hcd => hdecl ⟨c, hc, hcd⟩
      by_cases hnil : eligible cs = []
      · refine ⟨⟨zeroAddr, fun x hx s i hs => ?_⟩, fun _ m hm => ?_⟩
        · rw [hout x hx s i hs, hnil]
          rfl
        · rw [hnil] at hm
          cases hm
      · obtain ⟨b, hb⟩ := exists_preferBdr hnil
        have hall : ∀ x ∈ cs, ∀ s i, Seat cs x s i → (electDrBdr s i).1 = b.ipAddr := by
          intro x hx s i hs
          rw [hout x hx s i hs]
          exact outcome_of_settled he hno hb hset (h.nonzero x hx) (hxc x hx)
        refine ⟨⟨b.ipAddr, hall⟩, fun hnone m hm hmax x hx s i hs => ?_⟩
        have hpref : preferBdr (eligible cs) = some m := preferBdr_of_none he.distinct
          (fun c hc => (hnone c ((eligible_sublist cs).subset hc)).2) hm hmax
        rw [hall x hx s i hs]
        rw [hb, Option.some.injEq] at hpref
        rw [hpref]

/-! ## Two routers that declare nothing -/

/-- Two routers of priority 1 that declare nothing, as both are when they come up. -/
def twoRouters : List Candidate :=
  [{ routerId := 1, ipAddr := 167772161, priority := 1, declaredDr := 0, declaredBdr := 0 },
    { routerId := 2, ipAddr := 167772162, priority := 1, declaredDr := 0, declaredBdr := 0 }]

theorem segment_twoRouters : Segment twoRouters := ⟨by decide, by decide, by decide⟩

theorem agreement_twoRouters :
    SameDr twoRouters ∧ UndeclaredElectsHighest twoRouters ↔ Settled (eligible twoRouters) :=
  agreement_iff segment_twoRouters

/-- Each of the two elects itself. -/
theorem not_sameDr_twoRouters : ¬SameDr twoRouters := by
  rintro ⟨dr, hdr⟩
  have h1 := hdr _ (by decide) _ _ (seat_seatOf segment_twoRouters
    { routerId := 1, ipAddr := 167772161, priority := 1, declaredDr := 0, declaredBdr := 0 })
  have h2 := hdr _ (by decide) _ _ (seat_seatOf segment_twoRouters
    { routerId := 2, ipAddr := 167772162, priority := 1, declaredDr := 0, declaredBdr := 0 })
  rw [← h1] at h2
  revert h2
  decide

theorem not_all_agree : ¬∀ cs, Segment cs → 2 ≤ cs.length →
    SameDr cs ∧ UndeclaredElectsHighest cs :=
  fun h => not_sameDr_twoRouters (h twoRouters segment_twoRouters (by decide)).1

end Ospfd
