import Ospfd.Protocol.ElectionAgreement

/-!
# The loss of the DR

When the DR is lost the BDR, which declares itself, is to take over.

* `elects_of_no_seat`, `elects_at_next` — the outcome for a router that is not itself next
  in line for BDR, and for the one that is.
* `failover_iff` — **the BDR takes over at every router but one**: the highest of all, when it
  is not the BDR and no other router declares itself BDR.
-/

namespace Ospfd

/-- The router itself outranks all candidates, and only another one declares itself BDR. -/
def Overtakes (s : Instance) (i : IntfId) (b : Candidate) : Prop :=
  ∃ a ∈ electionCandidates s i, a.ipAddr = (s.intf i).ipAddr ∧ a ≠ b ∧
    (∀ c ∈ electionCandidates s i, c.rank ≤ a.rank) ∧
    (∀ c ∈ electionCandidates s i, c.DeclaresBdr → c = b) ∧
    ((s.intf i).dr = (s.intf i).ipAddr ∨ (s.intf i).bdr ≠ (s.intf i).ipAddr)

section Failover

variable {cs : List Candidate} {b : Candidate}

/-- Nothing is rewritten for a router that is no candidate. -/
theorem elects_of_no_seat (h : Segment cs) (hno : ∀ c ∈ cs, ¬c.DeclaresDr) (hb : preferBdr cs = some b)
    {addr : IPv4Address} (haddr : ∀ c ∈ cs, c.ipAddr ≠ addr) (oldDr oldBdr : IPv4Address) :
    (electFrom cs addr oldDr oldBdr).1 = b.ipAddr := by
  have hne : cs ≠ [] := List.ne_nil_of_mem (preferBdr_cases hb).1
  have hrun := runElection_of_undeclared hno hb
  have hsame : ∀ dr bdr, cs.map (redeclared addr dr bdr) = cs := fun dr bdr =>
    (List.map_congr_left fun c hc => if_neg (haddr c hc)).trans (List.map_id cs)
  rw [electFrom, if_neg hne, hrun]
  dsimp only
  split
  · rw [redeclare_eq_map h.ipAddr, hsame, hrun]
  · rfl

/-- The router that is next in line for BDR elects the one that declares itself, unless it
outranks it and sees its own role change. -/
theorem elects_at_next (h : Segment cs) (hno : ∀ c ∈ cs, ¬c.DeclaresDr) (hb : preferBdr cs = some b)
    (hdecl : b.DeclaresBdr) (hmax : ∀ c ∈ cs, c.DeclaresBdr → c.rank ≤ b.rank) {a : Candidate}
    (ha : nextBdr cs b = some a) (oldDr oldBdr : IPv4Address) :
    (electFrom cs a.ipAddr oldDr oldBdr).1 = b.ipAddr ↔
      ¬(b.rank < a.rank ∧ (oldDr = a.ipAddr ∨ oldBdr ≠ a.ipAddr)) := by
  have hmem := (preferBdr_cases hb).1
  obtain ⟨hamem, hab⟩ := List.mem_filter.1 (preferBdr_cases ha).1
  have hab : a.ipAddr ≠ b.ipAddr := by simpa using hab
  have hne : cs ≠ [] := List.ne_nil_of_mem hmem
  have haddr : addrOf (preferBdr (cs.filter fun c => c.ipAddr ≠ b.ipAddr)) = a.ipAddr := by
    rw [← nextBdr, ha]
    rfl
  have hrole : (decide (oldDr = a.ipAddr) ≠ decide (b.ipAddr = a.ipAddr) ∨
      decide (oldBdr = a.ipAddr) ≠ decide (a.ipAddr = a.ipAddr)) ↔
        (oldDr = a.ipAddr ∨ oldBdr ≠ a.ipAddr) := by
    simp [hab.symm]
  rw [electFrom, if_neg hne, runElection_of_undeclared hno hb, haddr]
  dsimp only
  by_cases hchg : oldDr = a.ipAddr ∨ oldBdr ≠ a.ipAddr
  · rw [if_pos (hrole.2 hchg), redeclare_eq_map h.ipAddr]
    by_cases hlt : b.rank < a.rank
    · have hwin := runElection_again h hno hamem hab hamem (Or.inl rfl) fun c hc hcor =>
        hcor.elim (fun hca => hca ▸ le_rfl) fun hcd => (hmax c hc hcd).trans (le_of_lt hlt)
      rw [hwin]
      exact ⟨fun heq => absurd heq hab, fun hnot => absurd ⟨hlt, hchg⟩ hnot⟩
    · have hwin := runElection_again h hno hamem hab hmem (Or.inr hdecl) fun c hc hcor =>
        hcor.elim (fun hca => hca ▸ not_lt.1 hlt) (hmax c hc)
      exact ⟨fun _ hboth => hlt hboth.1, fun _ => hwin⟩
  · rw [if_neg (mt hrole.1 hchg)]
    exact ⟨fun _ hboth => hchg hboth.2, fun _ => rfl⟩

/-- The next BDR outranks the only router that declares itself BDR just when it outranks
all. -/
theorem nextBdr_outranks_iff (h : Segment cs) (hb : b ∈ cs)
    (hmax : ∀ c ∈ cs, c.DeclaresBdr → c.rank ≤ b.rank) {a : Candidate} :
    nextBdr cs b = some a ∧ b.rank < a.rank ↔
      a ∈ cs ∧ a ≠ b ∧ (∀ c ∈ cs, c.rank ≤ a.rank) ∧ ∀ c ∈ cs, c.DeclaresBdr → c = b := by
  have hdist := h.distinct
  constructor
  · rintro ⟨ha, hlt⟩
    obtain ⟨hamem, hpref⟩ := preferBdr_cases ha
    obtain ⟨hamem, hab⟩ := List.mem_filter.1 hamem
    have hin : ∀ c ∈ cs, c ≠ b → c ∈ cs.filter fun c => c.ipAddr ≠ b.ipAddr := by
      intro c hc hcb
      refine List.mem_filter.2 ⟨hc, ?_⟩
      simpa using fun heq => hcb (hdist.addr c hc b hb heq)
    refine ⟨hamem, fun heq => lt_irrefl _ (heq ▸ hlt), fun c hc => ?_, fun c hc hcd => ?_⟩
    · rcases hpref with ⟨had, -⟩ | ⟨-, hle⟩
      · exact absurd (hmax a hamem had) (not_le_of_gt hlt)
      · by_cases hcb : c = b
        · rw [hcb]
          exact le_of_lt hlt
        · exact hle c (hin c hc hcb)
    · by_contra hcb
      rcases hpref with ⟨had, -⟩ | ⟨hnone, -⟩
      · exact absurd (hmax a hamem had) (not_le_of_gt hlt)
      · exact hnone c (hin c hc hcb) hcd
  · rintro ⟨hamem, hab, hle, honly⟩
    have hne : a.ipAddr ≠ b.ipAddr := fun heq => hab (hdist.addr a hamem b hb heq)
    refine ⟨?_, lt_of_le_of_ne (hle b hb) fun heq => hab (hdist.rank a hamem b hb heq.symm)⟩
    refine preferBdr_of_none (hdist.mono fun c hc => (List.mem_filter.1 hc).1) ?_ ?_ ?_
    · intro c hc hcd
      obtain ⟨hc, hcb⟩ := List.mem_filter.1 hc
      rw [honly c hc hcd] at hcb
      simp at hcb
    · exact List.mem_filter.2 ⟨hamem, by simpa using hne⟩
    · exact fun c hc => hle c (List.mem_filter.1 hc).1

/-- **The BDR takes over at every router but the one that outranks all candidates**, and
there too when that router or a third one declares itself BDR. -/
theorem failover_iff {s : Instance} {i : IntfId} (h : Segment (electionCandidates s i))
    (hno : ∀ c ∈ electionCandidates s i, ¬c.DeclaresDr) (hb : b ∈ electionCandidates s i)
    (hdecl : b.DeclaresBdr) (hmax : ∀ c ∈ electionCandidates s i, c.DeclaresBdr → c.rank ≤ b.rank) :
    (electDrBdr s i).1 = b.ipAddr ↔ ¬Overtakes s i b := by
  have hpref := preferBdr_of_declares h.distinct hb hdecl hmax
  rw [electDrBdr]
  by_cases hseat : ∃ a ∈ electionCandidates s i, a.ipAddr = (s.intf i).ipAddr
  · obtain ⟨a, hamem, haddr⟩ := hseat
    -- it is next in line, or its own declaration does not matter
    by_cases hnext : nextBdr (electionCandidates s i) b = some a
    · rw [← haddr, elects_at_next h hno hpref hdecl hmax hnext]
      refine not_congr ⟨fun hlt => ?_, ?_⟩
      · obtain ⟨-, hab, hle, honly⟩ := (nextBdr_outranks_iff h hb hmax).1 ⟨hnext, hlt.1⟩
        exact ⟨a, hamem, haddr, hab, hle, honly, haddr ▸ hlt.2⟩
      · rintro ⟨c, hc, hca, hcb, hle, honly, hrole⟩
        obtain rfl : c = a := h.distinct.addr c hc a hamem (hca.trans haddr.symm)
        exact ⟨((nextBdr_outranks_iff h hb hmax).2 ⟨hc, hcb, hle, honly⟩).2, hca ▸ hrole⟩
    · have hout : outcome (electionCandidates s i) (selfCandidate s i) = b.ipAddr := by
        refine outcome_of_undeclared h hno hpref fun heq => hnext ?_
        rcases hn : nextBdr (electionCandidates s i) b with _ | c
        · rw [hn] at heq
          exact absurd (haddr.trans heq) (h.nonzero a hamem)
        · rw [hn] at heq
          have hc := (List.mem_filter.1 (preferBdr_cases hn).1).1
          rw [h.distinct.addr c hc a hamem (heq.symm.trans haddr.symm)]
      refine ⟨fun _ => ?_, fun _ => hout⟩
      rintro ⟨c, hc, hca, hcb, hle, honly, -⟩
      obtain rfl : c = a := h.distinct.addr c hc a hamem (hca.trans haddr.symm)
      exact hnext ((nextBdr_outranks_iff h hb hmax).2 ⟨hc, hcb, hle, honly⟩).1
  · have hfree : ∀ c ∈ electionCandidates s i, c.ipAddr ≠ (s.intf i).ipAddr := fun c hc heq =>
      hseat ⟨c, hc, heq⟩
    refine ⟨fun _ => ?_, fun _ => elects_of_no_seat h hno hpref hfree _ _⟩
    rintro ⟨c, hc, hca, -⟩
    exact hfree c hc hca

end Failover

/-! ### Two routers that lost their DR -/

/-- The BDR. -/
def bereftBdr : Candidate :=
  { routerId := 2, ipAddr := 167772162, priority := 2, declaredDr := 167772161, declaredBdr := 167772162 }

/-- A router that still names both. -/
def bereftOther (priority : Int) : Candidate :=
  { routerId := 3, ipAddr := 167772163, priority, declaredDr := 167772161, declaredBdr := 167772162 }

/-- The state of the other router. -/
def bereftSeat (priority : Int) : Instance :=
  seatOf [bereftBdr, bereftOther priority] (bereftOther priority)

/-- The BDR takes over from a router of lower priority. -/
theorem failover_low : (electDrBdr (bereftSeat 1) 0).1 = bereftBdr.ipAddr ↔
    ¬Overtakes (bereftSeat 1) 0 bereftBdr :=
  failover_iff ⟨by decide +kernel, by decide +kernel, by decide +kernel⟩ (by decide +kernel)
    (by decide +kernel) (by decide +kernel) (by decide +kernel)

/-- A router of higher priority elects itself. -/
theorem not_failover : ¬∀ (s : Instance) (i : IntfId) (b : Candidate), Segment (electionCandidates s i) →
    (∀ c ∈ electionCandidates s i, ¬c.DeclaresDr) → b ∈ electionCandidates s i → b.DeclaresBdr →
    (∀ c ∈ electionCandidates s i, c.DeclaresBdr → c.rank ≤ b.rank) →
    (electDrBdr s i).1 = b.ipAddr := by
  intro hall
  have hdr := hall (bereftSeat 3) 0 bereftBdr ⟨by decide +kernel, by decide +kernel, by decide +kernel⟩
    (by decide +kernel) (by decide +kernel) (by decide +kernel) (by decide +kernel)
  have hself : (electDrBdr (bereftSeat 3) 0).1 = (bereftOther 3).ipAddr := by decide +kernel
  rw [hself] at hdr
  exact absurd hdr (by decide)

end Ospfd
