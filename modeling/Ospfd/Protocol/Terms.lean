import Ospfd.Protocol.Procedures

/-!
# The terms of an exchange

What a description leaves behind: who is master, the sequence number, and what is left
to describe.

* `SameTerms` — none of this changed.
* `Poised` — a neighbor in Exchange to which the next description is about to be sent.
* `becomeSlave_poised`, `becomeMaster_poised`, `slaveExchange_poised`,
  `masterExchange_poised` — every reaction to an expected description comes to this.
-/

namespace Ospfd

/-- Role, sequence number and descriptions of a neighbor stay. -/
structure OspfNeighbor.SameTerms (x y : OspfNeighbor) : Prop where
  routerId : y.routerId = x.routerId
  isMaster : y.isMaster = x.isMaster
  ddSeqNumber : y.ddSeqNumber = x.ddSeqNumber
  dbSummaryList : y.dbSummaryList = x.dbSummaryList
  lastSentDd : y.lastSentDd = x.lastSentDd

namespace OspfNeighbor.SameTerms

variable {x y z : OspfNeighbor}

theorem refl (x : OspfNeighbor) : x.SameTerms x := ⟨rfl, rfl, rfl, rfl, rfl⟩

theorem trans (h : x.SameTerms y) (h' : y.SameTerms z) : x.SameTerms z :=
  ⟨h'.routerId.trans h.routerId, h'.isMaster.trans h.isMaster, h'.ddSeqNumber.trans h.ddSeqNumber,
    h'.dbSummaryList.trans h.dbSummaryList, h'.lastSentDd.trans h.lastSentDd⟩

end OspfNeighbor.SameTerms

/-- The last description received from a neighbor is the one before, or this one. -/
def Recalls (n : NbrRef) (dd : DDPacket) (s t : Instance) : Prop :=
  (t.nbr n).lastReceivedDd = (s.nbr n).lastReceivedDd ∨ (t.nbr n).lastReceivedDd = some dd

/-- The terms of a neighbor stay while a description is processed, and so do the LSAs. -/
structure SameTerms (n : NbrRef) (dd : DDPacket) (s t : Instance) : Prop where
  nbr : (s.nbr n).SameTerms (t.nbr n)
  recalls : Recalls n dd s t
  heap : t.heap = s.heap
  lsdb : t.lsdb = s.lsdb
  ownId : t.routerId = s.routerId

namespace SameTerms

variable {n : NbrRef} {dd : DDPacket} {s t u : Instance}

theorem refl (n : NbrRef) (dd : DDPacket) (s : Instance) : SameTerms n dd s s :=
  ⟨.refl _, Or.inl rfl, rfl, rfl, rfl⟩

theorem trans (h : SameTerms n dd s t) (h' : SameTerms n dd t u) : SameTerms n dd s u where
  nbr := h.nbr.trans h'.nbr
  recalls := by
    rcases h'.recalls with heq | heq
    · exact h.recalls.imp heq.trans heq.trans
    · exact Or.inr heq
  heap := h'.heap.trans h.heap
  lsdb := h'.lsdb.trans h.lsdb
  ownId := h'.ownId.trans h.ownId

end SameTerms

section Terms

variable {n : NbrRef} {dd : DDPacket} {s : Instance}

/-- The last description received is no term of the exchange. -/
theorem received_sameTerms : SameTerms n dd s
    (modifyNbr n (fun x => { x with lastReceivedDd := some dd }) s).2 := by
  rw [modifyNbr_apply]
  refine ⟨?_, Or.inr ?_, rfl, rfl, rfl⟩
  · rw [Instance.nbr_setNbr_self]
    exact ⟨rfl, rfl, rfl, rfl, rfl⟩
  · rw [Instance.nbr_setNbr_self]

theorem exchangeDone_sameTerms (hst : (s.nbr n).state = .exchange) :
    SameTerms n dd s (nbrEvent n .exchangeDone s).2 ∧
      ((nbrEvent n .exchangeDone s).2.nbr n).state ≠ .exchange := by
  obtain ⟨x, ⟨-, hx⟩, hq, -⟩ := nbrEvent_exchangeDone hst
  have hnbr : (nbrEvent n .exchangeDone s).2.nbr n = x := by rw [hq.nbr, Instance.nbr_setNbr_self]
  rcases hx with ⟨-, rfl⟩ | ⟨-, rxmt, -, rfl⟩
  all_goals
    rw [hnbr]
    exact ⟨⟨hnbr ▸ ⟨rfl, rfl, rfl, rfl, rfl⟩, Or.inl (by rw [hnbr]), hq.heap, hq.lsdb, hq.routerId⟩,
      nofun⟩

/-! ## Sending -/

/-- Whatever its outcome, sending a description changes only the last one sent. -/
theorem sendDd_quiet (n : NbrRef) (flags : Nat) (lsaHeaders : List LsaRef) (s : Instance) :
    ∃ last, Quiet (s.setNbr n { s.nbr n with lastSentDd := last })
      (sendDd n flags lsaHeaders s).2 := by
  have hnone : Quiet (s.setNbr n { s.nbr n with lastSentDd := (s.nbr n).lastSentDd }) s := by
    rw [Instance.setNbr_eq_self]
    exact .refl s
  rw [sendDd, Eff.get_bind_apply, Eff.lift_bind_apply]
  split
  · rename_i body _
    have hsend := sendPacket_within n.intf packetTypeDd body (s.nbr n).ipAddr s
    refine Eff.bind_final (P := fun t => ∃ last, Quiet (s.setNbr n { s.nbr n with lastSentDd := last }) t)
      ⟨(s.nbr n).lastSentDd, hnone.trans hsend⟩ fun _ _ => ⟨some (ddOf s n flags lsaHeaders), ?_⟩
    rw [modifyNbr_apply, hsend.nbr]
    exact hsend.setNbr n _
  · exact ⟨(s.nbr n).lastSentDd, hnone⟩

/-- Sending a batch takes it off the summary. -/
theorem sendDdBatch_quiet (n : NbrRef) (flags : Nat) (s : Instance) :
    ∃ last, Quiet (s.setNbr n { s.nbr n with
        dbSummaryList := (s.nbr n).dbSummaryList.drop (maxDdHeaders s n), lastSentDd := last })
      (sendDdBatch n flags s).2 := by
  rw [sendDdBatch, Eff.get_bind_apply, modifyNbr_bind_apply]
  obtain ⟨last, hq⟩ := sendDd_quiet n
    (if (s.nbr n).dbSummaryList.drop (maxDdHeaders s n) = [] then flags else ddFlagM ||| flags)
    ((s.nbr n).dbSummaryList.take (maxDdHeaders s n))
    (s.setNbr n { s.nbr n with dbSummaryList := (s.nbr n).dbSummaryList.drop (maxDdHeaders s n) })
  rw [Instance.nbr_setNbr_self, Instance.setNbr_setNbr] at hq
  exact ⟨last, hq⟩

/-! ## Reactions -/

/-- `u` is `s` when a description is about to be sent to a neighbor in Exchange, with the
given role and number; what is processed is the given description. -/
structure Poised (n : NbrRef) (dd : DDPacket) (isMaster : Bool) (seq : Int) (s u : Instance) :
    Prop where
  state : (u.nbr n).state = .exchange
  routerId : (u.nbr n).routerId = (s.nbr n).routerId
  isMaster : (u.nbr n).isMaster = isMaster
  ddSeqNumber : (u.nbr n).ddSeqNumber = seq
  recalls : Recalls n dd s u
  heap : u.heap = s.heap
  lsdb : u.lsdb = s.lsdb
  ownId : u.routerId = s.routerId

variable (dd) in
theorem becomeSlave_poised (hst : (s.nbr n).state = .exStart) :
    ∃ u, Poised n dd false dd.ddSeqNumber s u ∧
      (u.nbr n).dbSummaryList = s.lsdb.getAllHeaders (s.intf n.intf).areaId ∧
        (becomeSlave n dd s).2 = (sendDdSlave n u).2 := by
  let x : OspfNeighbor := { s.nbr n with
    isMaster := false, ddSeqNumber := dd.ddSeqNumber, ddOptions := dd.options, ddRxmtTimer := false }
  obtain ⟨u, hu, hq⟩ := nbrEvent_negotiationDone (n := n) (s := s.setNbr n x)
    (by rw [Instance.nbr_setNbr_self]; exact hst)
  rw [Instance.nbr_setNbr_self, Instance.setNbr_setNbr] at hq
  have hnbr : u.nbr n = { x with
      state := .exchange, dbSummaryList := s.lsdb.getAllHeaders (s.intf n.intf).areaId } := by
    rw [hq.nbr, Instance.nbr_setNbr_self]
    rfl
  refine ⟨u, ⟨?_, ?_, ?_, ?_, Or.inl ?_, hq.heap, hq.lsdb, hq.routerId⟩, by rw [hnbr], ?_⟩
  · rw [hnbr]
  · rw [hnbr]
  · rw [hnbr]
  · rw [hnbr]
  · rw [hnbr]
  · rw [becomeSlave, modifyNbr_bind_apply, Eff.bind_apply_ok hu]

variable (dd) in
theorem becomeMaster_poised (hst : (s.nbr n).state = .exStart) :
    ∃ u, Poised n dd true ((s.nbr n).ddSeqNumber + 1) s u ∧
      (u.nbr n).dbSummaryList = s.lsdb.getAllHeaders (s.intf n.intf).areaId ∧
        (becomeMaster n dd s).2 = (sendDdMaster n u).2 := by
  let x : OspfNeighbor :=
    { s.nbr n with isMaster := true, ddOptions := dd.options, ddRxmtTimer := false }
  obtain ⟨t, ht, hq⟩ := nbrEvent_negotiationDone (n := n) (s := s.setNbr n x)
    (by rw [Instance.nbr_setNbr_self]; exact hst)
  rw [Instance.nbr_setNbr_self, Instance.setNbr_setNbr] at hq
  have hnbr : t.nbr n = { x with
      state := .exchange, dbSummaryList := s.lsdb.getAllHeaders (s.intf n.intf).areaId } := by
    rw [hq.nbr, Instance.nbr_setNbr_self]
    rfl
  obtain ⟨lsRequestList, requested, hheaders⟩ := processDdHeaders_requests n dd t
  refine ⟨t.setNbr n { t.nbr n with
    lsRequestList, requested, lastReceivedDd := some dd, ddSeqNumber := (t.nbr n).ddSeqNumber + 1 },
      ⟨?_, ?_, ?_, ?_, Or.inr ?_, hq.heap, hq.lsdb, hq.routerId⟩, ?_, ?_⟩
  · rw [Instance.nbr_setNbr_self, hnbr]
  · rw [Instance.nbr_setNbr_self, hnbr]
  · rw [Instance.nbr_setNbr_self, hnbr]
  · rw [Instance.nbr_setNbr_self, hnbr]
  · rw [Instance.nbr_setNbr_self]
  · rw [Instance.nbr_setNbr_self, hnbr]
  · rw [becomeMaster, modifyNbr_bind_apply, Eff.bind_apply_ok ht, Eff.bind_apply_ok hheaders,
      modifyNbr_bind_apply, modifyNbr_bind_apply]
    simp only [Instance.nbr_setNbr_self, Instance.setNbr_setNbr]

variable (dd) in
/-- After an expected description a slave sends the next batch, and at most the exchange
is done. -/
theorem slaveExchange_poised (hst : (s.nbr n).state = .exchange) :
    ∃ u, Poised n dd (s.nbr n).isMaster dd.ddSeqNumber s u ∧
      (u.nbr n).dbSummaryList = (s.nbr n).dbSummaryList ∧
        SameTerms n dd (sendDdSlave n u).2 (slaveExchange n dd s).2 := by
  rw [slaveExchange, modifyNbr_bind_apply]
  generalize hv : s.setNbr n { s.nbr n with ddSeqNumber := dd.ddSeqNumber } = v
  have hvnbr : v.nbr n = { s.nbr n with ddSeqNumber := dd.ddSeqNumber } := by
    rw [← hv, Instance.nbr_setNbr_self]
  have hvsame : v.heap = s.heap ∧ v.lsdb = s.lsdb ∧ v.routerId = s.routerId := by
    rw [← hv]
    exact ⟨rfl, rfl, rfl⟩
  obtain ⟨lsRequestList, requested, hheaders⟩ := processDdHeaders_requests n dd v
  rw [Eff.bind_apply_ok hheaders]
  generalize hu : v.setNbr n { v.nbr n with lsRequestList, requested } = u
  have hunbr : u.nbr n = { v.nbr n with lsRequestList, requested } := by
    rw [← hu, Instance.nbr_setNbr_self]
  have husame : u.heap = v.heap ∧ u.lsdb = v.lsdb ∧ u.routerId = v.routerId := by
    rw [← hu]
    exact ⟨rfl, rfl, rfl⟩
  have hust : (u.nbr n).state = .exchange := by rw [hunbr, hvnbr, hst]
  refine ⟨u, ⟨hust, ?_, ?_, ?_, Or.inl ?_, husame.1.trans hvsame.1, husame.2.1.trans hvsame.2.1,
    husame.2.2.trans hvsame.2.2⟩, ?_, ?_⟩
  · rw [hunbr, hvnbr]
  · rw [hunbr, hvnbr]
  · rw [hunbr, hvnbr]
  · rw [hunbr, hvnbr]
  · rw [hunbr, hvnbr]
  · have hwst : ((sendDdSlave n u).2.nbr n).state = .exchange := (sendDdBatch_moves 0).2.trans hust
    refine Eff.bind_final (P := fun t => SameTerms n dd (sendDdSlave n u).2 t) (.refl n dd _) fun _ _ => ?_
    generalize (sendDdSlave n u).2 = w at hwst
    rw [Eff.get_bind_apply]
    have hdone : SameTerms n dd w (Eff.when (exchangeOver w n dd) (nbrEvent n .exchangeDone) w).2 := by
      by_cases hover : exchangeOver w n dd = true
      · rw [Eff.when_pos hover]
        exact (exchangeDone_sameTerms hwst).1
      · rw [Eff.when_neg hover]
        exact .refl n dd w
    exact Eff.bind_final (P := fun t => SameTerms n dd w t) hdone fun _ _ => hdone.trans received_sameTerms

variable (dd) in
/-- After an expected description a master goes on to the next number: it sends the next
batch, or the exchange is done. -/
theorem masterExchange_poised (hst : (s.nbr n).state = .exchange) :
    ∃ u, Poised n dd (s.nbr n).isMaster ((s.nbr n).ddSeqNumber + 1) s u ∧
      (u.nbr n).dbSummaryList = (s.nbr n).dbSummaryList ∧
        (SameTerms n dd (sendDdMaster n u).2 (masterExchange n dd s).2 ∨
          SameTerms n dd u (masterExchange n dd s).2 ∧
            ((masterExchange n dd s).2.nbr n).state ≠ .exchange) := by
  obtain ⟨lsRequestList, requested, hheaders⟩ := processDdHeaders_requests n dd s
  rw [masterExchange, Eff.bind_apply_ok hheaders, modifyNbr_bind_apply, Eff.get_bind_apply,
    Instance.nbr_setNbr_self, Instance.setNbr_setNbr]
  generalize hu : s.setNbr n { s.nbr n with
    lsRequestList, requested, ddSeqNumber := (s.nbr n).ddSeqNumber + 1 } = u
  have hunbr : u.nbr n = { s.nbr n with
      lsRequestList, requested, ddSeqNumber := (s.nbr n).ddSeqNumber + 1 } := by
    rw [← hu, Instance.nbr_setNbr_self]
  have husame : u.heap = s.heap ∧ u.lsdb = s.lsdb ∧ u.routerId = s.routerId := by
    rw [← hu]
    exact ⟨rfl, rfl, rfl⟩
  have hust : (u.nbr n).state = .exchange := by rw [hunbr, hst]
  refine ⟨u, ⟨hust, ?_, ?_, ?_, Or.inl ?_, husame.1, husame.2.1, husame.2.2⟩, ?_, ?_⟩
  · rw [hunbr]
  · rw [hunbr]
  · rw [hunbr]
  · rw [hunbr]
  · rw [hunbr]
  · by_cases hover : exchangeOver u n dd = true
    · rw [if_pos hover]
      obtain ⟨hsame, hne⟩ := exchangeDone_sameTerms hust
      refine Or.inr (Eff.bind_final (P := fun t => SameTerms n dd u t ∧ (t.nbr n).state ≠ .exchange)
        ⟨hsame, hne⟩ fun _ _ => ⟨hsame.trans received_sameTerms, ?_⟩)
      rw [modifyNbr_apply, Instance.nbr_setNbr_self]
      exact hne
    · rw [if_neg hover]
      exact Or.inl (Eff.bind_final (P := fun t => SameTerms n dd (sendDdMaster n u).2 t) (.refl n dd _)
        fun _ _ => received_sameTerms)

end Terms
end Ospfd
