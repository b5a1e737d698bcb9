import Ospfd.Protocol.Dispatch

/-!
# What the loss of a neighbor depends on

When a neighbor goes Down its interface may run an election, and the other neighbors
reconsider their adjacencies.  All of this looks at the interface and at the state and
the Hello fields of its neighbors, and at nothing else.

* `SameSeats i s t` — two states that are the same from the seat of an interface.
* `Together` — two runs that return and end the same from that seat.
* `killNbr_together` — **the loss of a neighbor depends on its interface only**.
-/

namespace Ospfd

/-! ## Seats -/

/-- What an interface knows of a neighbor. -/
def OspfNeighbor.seat (x : OspfNeighbor) : NbrState × Candidate := (x.state, nbrCandidate x)

/-- Two states that are the same from the seat of an interface. -/
structure SameSeats (i : IntfId) (s t : Instance) : Prop where
  intf : t.intf i = s.intf i
  routerId : t.routerId = s.routerId
  seat : ∀ m, m.intf = i → (t.nbr m).seat = (s.nbr m).seat

namespace SameSeats

variable {i : IntfId} {s t u : Instance}

theorem refl (s : Instance) : SameSeats i s s := ⟨rfl, rfl, fun _ _ => rfl⟩

theorem symm (h : SameSeats i s t) : SameSeats i t s :=
  ⟨h.intf.symm, h.routerId.symm, fun m hm => (h.seat m hm).symm⟩

theorem trans (h : SameSeats i s t) (h' : SameSeats i t u) : SameSeats i s u :=
  ⟨h'.intf.trans h.intf, h'.routerId.trans h.routerId, fun m hm => (h'.seat m hm).trans (h.seat m hm)⟩

theorem of_quiet (h : Quiet s t) : SameSeats i s t :=
  ⟨by rw [h.intf], h.routerId, fun m _ => by rw [h.nbr]⟩

theorem neighborsOf (h : SameSeats i s t) : t.neighborsOf i = s.neighborsOf i := by
  rw [Instance.neighborsOf, Instance.neighborsOf, h.intf]

theorem state (h : SameSeats i s t) {m : NbrRef} (hm : m.intf = i) :
    (t.nbr m).state = (s.nbr m).state :=
  congrArg Prod.fst (h.seat m hm)

theorem candidate (h : SameSeats i s t) {m : NbrRef} (hm : m.intf = i) :
    nbrCandidate (t.nbr m) = nbrCandidate (s.nbr m) :=
  congrArg Prod.snd (h.seat m hm)

theorem adjacentNeighbors (h : SameSeats i s t) : t.adjacentNeighbors i = s.adjacentNeighbors i := by
  rw [Instance.adjacentNeighbors, Instance.adjacentNeighbors, h.neighborsOf]
  refine List.filter_congr fun m hm => ?_
  rw [h.state (Instance.mem_neighborsOf.1 hm).1]

theorem shouldFormAdjacency (h : SameSeats i s t) {m : NbrRef} (hm : m.intf = i) :
    shouldFormAdjacency t m = shouldFormAdjacency s m := by
  refine shouldFormAdjacency_congr (by rw [hm, h.intf]) ?_
  exact congrArg Candidate.ipAddr (h.candidate hm)

/-- Both states have the same candidates. -/
theorem electionCandidates (h : SameSeats i s t) :
    electionCandidates t i = electionCandidates s i := by
  have hself : selfCandidate t i = selfCandidate s i := by
    rw [selfCandidate, selfCandidate, h.intf, h.routerId]
  rw [Ospfd.electionCandidates, Ospfd.electionCandidates, hself, h.intf, h.neighborsOf]
  refine congrArg _ (eligible_congr fun m hm => ?_)
  have hi := (Instance.mem_neighborsOf.1 hm).1
  have hprio : (t.nbr m).priority = (s.nbr m).priority := congrArg Candidate.priority (h.candidate hi)
  exact ⟨by rw [h.state hi, hprio], fun _ => h.candidate hi⟩

theorem electedIntf (h : SameSeats i s t) : electedIntf t i = electedIntf s i := by
  rw [Ospfd.electedIntf, Ospfd.electedIntf, electDrBdr, electDrBdr, h.electionCandidates, h.intf]

end SameSeats

/-- Reconsidering looks at the seat of the neighbor. -/
theorem Redecided.seat {should : Bool} {x x' y y' : OspfNeighbor} (hx : Redecided should x x')
    (hy : Redecided should y y') (h : y.seat = x.seat) : y'.seat = x'.seat := by
  have hst : y.state = x.state := congrArg Prod.fst h
  have hcand : nbrCandidate y = nbrCandidate x := congrArg Prod.snd h
  rcases hx with ⟨hxs, hsh, seq, dd, rfl⟩ | ⟨hxs, hsh, rfl⟩ | ⟨hxs, rfl⟩
  · rcases hy with ⟨-, -, seq', dd', rfl⟩ | ⟨-, hno, -⟩ | ⟨hys, -⟩
    · exact Prod.ext rfl hcand
    · rw [hsh] at hno
      cases hno
    · rw [hst, hxs, hsh] at hys
      exact absurd hys (by decide)
  · rcases hy with ⟨-, hno, -⟩ | ⟨-, -, rfl⟩ | ⟨hys, -⟩
    · rw [hsh] at hno
      cases hno
    · exact Prod.ext rfl hcand
    · rw [hst, hsh] at hys
      rcases hys with ⟨htw, -⟩ | ⟨-, hno⟩
      · rw [htw] at hxs
        exact absurd hxs (by decide)
      · cases hno
  · rcases hy with ⟨hys, hsh, -⟩ | ⟨hys, hsh, -⟩ | ⟨-, rfl⟩
    · rw [← hst, hys, hsh] at hxs
      exact absurd hxs (by decide)
    · rw [← hst, hsh] at hxs
      rcases hxs with ⟨htw, -⟩ | ⟨-, hno⟩
      · rw [htw] at hys
        exact absurd hys (by decide)
      · cases hno
    · exact h

/-! ## Two runs -/

/-- Two runs that return, and end the same from the seat of an interface. -/
structure Together (i : IntfId) (a b : Except PyError Unit × Instance) : Prop where
  left : a.1 = .ok ()
  right : b.1 = .ok ()
  same : SameSeats i a.2 b.2

namespace Together

variable {i : IntfId} {s t : Instance}

theorem bind {m m' : Py Unit} {f g : Unit → Py Unit} (h : Together i (m s) (m' t))
    (hf : ∀ s' t', SameSeats i s' t' → Together i (f () s') (g () t')) :
    Together i ((m >>= f) s) ((m' >>= g) t) := by
  obtain ⟨hl, hr, hs⟩ := h
  rcases hm : m s with ⟨r, s'⟩
  rcases hm' : m' t with ⟨r', t'⟩
  rw [hm] at hl hs
  rw [hm'] at hr hs
  obtain rfl : r = .ok () := hl
  obtain rfl : r' = .ok () := hr
  rw [Eff.bind_apply_ok hm, Eff.bind_apply_ok hm']
  exact hf s' t' hs

theorem when {p q : Prop} [Decidable p] [Decidable q] {m m' : Py Unit} (hpq : p ↔ q)
    (hs : SameSeats i s t) (h : p → Together i (m s) (m' t)) :
    Together i (Eff.when p m s) (Eff.when q m' t) := by
  by_cases hp : p
  · rw [Eff.when_pos hp, Eff.when_pos (hpq.1 hp)]
    exact h hp
  · rw [Eff.when_neg hp, Eff.when_neg fun hq => hp (hpq.2 hq)]
    exact ⟨rfl, rfl, hs⟩

/-- What returns and is quiet leaves two states together. -/
theorem of_quiet {m m' : Py Unit} (hs : SameSeats i s t) (hok : (m s).1 = .ok ()) (hok' : (m' t).1 = .ok ())
    (hq : Quiet s (m s).2) (hq' : Quiet t (m' t).2) : Together i (m s) (m' t) :=
  ⟨hok, hok', (SameSeats.of_quiet hq).symm.trans (hs.trans (.of_quiet hq'))⟩

end Together

section Loss

variable {i : IntfId} {s t : Instance}

/-- **An election depends on its interface only.** -/
theorem runDrElection_together (depth : Nat) (h : SameSeats i s t) :
    Together i (runDrElection (nbrEventDepth (depth + 1)) i s)
      (runDrElection (nbrEventDepth (depth + 1)) i t) := by
  obtain ⟨s', hs, hes, his⟩ := runDrElection_elects depth i s
  obtain ⟨t', ht, het, hit⟩ := runDrElection_elects depth i t
  have hintf : t'.intf i = s'.intf i := by rw [hit, his, h.electedIntf]
  rw [hs, ht]
  refine ⟨rfl, rfl, hintf, by rw [het.routerId, hes.routerId, h.routerId], fun m hm => ?_⟩
  by_cases hre : m.routerId ∈ (s.intf i).neighbors ∧ .twoWay ≤ (s.nbr m).state ∧
      ((s.intf i).dr ≠ (s'.intf i).dr ∨ (s.intf i).bdr ≠ (s'.intf i).bdr)
  · obtain ⟨hmem, htw, hchg⟩ := hre
    have hds := hes.decided m hm hmem htw hchg
    have hdt := het.decided m hm (by rwa [h.intf]) (by rwa [h.state hm]) (by rwa [hintf, h.intf])
    -- the address of a neighbor does not change, so both should or should not be adjacent
    have hsh : shouldFormAdjacency t' m = shouldFormAdjacency s' m := by
      refine shouldFormAdjacency_congr (by rw [hm, hintf]) ?_
      rw [hdt.twoWay_le.2.2, hds.twoWay_le.2.2]
      exact congrArg Candidate.ipAddr (h.candidate hm)
    rw [hsh] at hdt
    exact hds.seat hdt (h.seat m hm)
  · rw [hes.kept m fun hc => hre hc.2, het.kept m fun hc => hre (by
      obtain ⟨-, hmem, htw, hchg⟩ := hc
      rw [h.intf] at hmem hchg
      rw [hintf] at hchg
      rw [h.state hm] at htw
      exact ⟨hmem, htw, hchg⟩)]
    exact h.seat m hm

theorem schedule_together {areaId areaId' : IPv4Address} {p q : Prop} [Decidable p] [Decidable q]
    (hpq : p ↔ q) (h : SameSeats i s t) :
    Together i ((scheduleRouterLsa areaId >>= fun _ => Eff.when p (scheduleNetworkLsa i)) s)
      ((scheduleRouterLsa areaId' >>= fun _ => Eff.when q (scheduleNetworkLsa i)) t) := by
  refine Together.bind ?_ fun s' t' h' => Together.when hpq h' fun _ => ?_
  · exact .of_quiet h rfl rfl (scheduleRouterLsa_within _ s) (scheduleRouterLsa_within _ t)
  · exact .of_quiet h' rfl rfl (scheduleNetworkLsa_within _ s') (scheduleNetworkLsa_within _ t')

theorem nbrChange_together (depth : Nat) (h : SameSeats i s t) :
    Together i (dispatchIntf (nbrEventDepth (depth + 1)) i .nbrChange s)
      (dispatchIntf (nbrEventDepth (depth + 1)) i .nbrChange t) := by
  rw [dispatchIntf, Eff.get_bind_apply, Eff.get_bind_apply, h.intf]
  refine Together.bind ?_ fun s' t' h' => ?_
  · have hrun := runDrElection_together depth h
    rw [handleIntf]
    generalize (s.intf i).state = st
    cases st <;> first | exact hrun | exact ⟨rfl, rfl, h⟩
  · rw [Eff.get_bind_apply, Eff.get_bind_apply, h'.intf]
    refine Together.when Iff.rfl h' fun _ => ?_
    rw [intfStateChanged, Eff.get_bind_apply, Eff.get_bind_apply]
    exact schedule_together (by rw [h'.intf]) h'

theorem neighborStateChanged_together (depth : Nat) {n : NbrRef} (hn : n.intf = i) (old : NbrState)
    (h : SameSeats i s t) : Together i (neighborStateChanged (nbrEventDepth (depth + 1)) n old s)
      (neighborStateChanged (nbrEventDepth (depth + 1)) n old t) := by
  subst hn
  rw [neighborStateChanged, Eff.get_bind_apply, Eff.get_bind_apply]
  refine Together.bind (Together.when ?_ h fun _ => nbrChange_together depth h) fun s' t' h' => ?_
  · rw [h.intf, h.state rfl]
  · rw [Eff.get_bind_apply, Eff.get_bind_apply]
    exact schedule_together (by rw [h'.intf]) h'

theorem goDown_together (depth : Nat) {n : NbrRef} (hn : n.intf = i) (h : SameSeats i s t) :
    Together i (goDown (nbrEventDepth (depth + 1)) n s) (goDown (nbrEventDepth (depth + 1)) n t) := by
  have hdown : SameSeats i (s.setNbr n (s.nbr n).goneDown) (t.setNbr n (t.nbr n).goneDown) := by
    refine ⟨h.intf, h.routerId, fun m hm => ?_⟩
    rw [Instance.nbr_setNbr, Instance.nbr_setNbr]
    split
    · exact Prod.ext rfl (h.candidate hn)
    · exact h.seat m hm
  rw [goDown, Eff.get_bind_apply, Eff.get_bind_apply, modifyNbr_bind_apply, modifyNbr_bind_apply,
    h.state hn]
  exact Together.when Iff.rfl hdown fun _ => neighborStateChanged_together depth hn _ hdown

/-- **The loss of a neighbor depends on its interface only**, and always returns. -/
theorem killNbr_together {n : NbrRef} (hn : n.intf = i) (h : SameSeats i s t) :
    Together i (nbrEvent n .killNbr s) (nbrEvent n .killNbr t) := by
  have htraced : SameSeats i (s.traced n .killNbr) (t.traced n .killNbr) :=
    ⟨h.intf, h.routerId, h.seat⟩
  have hh : ∀ st, handleNbr (nbrEventDepth (98 + 1)) n st .killNbr = goDown (nbrEventDepth (98 + 1)) n := by
    intro st
    rw [handleNbr, nbrFsm_of_isReset rfl]
    exact Eff.when_pos rfl _
  rw [nbrEvent_eq, dispatchNbr, Eff.modify_bind_apply, Eff.modify_bind_apply, Eff.get_bind_apply,
    Eff.get_bind_apply]
  refine Together.bind ?_ fun s' t' h' => ?_
  · rw [hh, hh]
    exact goDown_together 98 hn htraced
  · rw [Eff.get_bind_apply, Eff.get_bind_apply]
    change Together i (Eff.when ((s'.nbr n).state ≠ (s.nbr n).state)
        (neighborStateChanged (nbrEventDepth (98 + 1)) n (s.nbr n).state) s')
      (Eff.when ((t'.nbr n).state ≠ (t.nbr n).state)
        (neighborStateChanged (nbrEventDepth (98 + 1)) n (t.nbr n).state) t')
    rw [h.state hn, h'.state hn]
    exact Together.when Iff.rfl h' fun _ => neighborStateChanged_together 98 hn _ h'

end Loss
end Ospfd
