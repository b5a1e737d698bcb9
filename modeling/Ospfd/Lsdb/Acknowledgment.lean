import Ospfd.Lsdb.Coverage
import Ospfd.Lsdb.Packable
import Ospfd.Protocol.Access

/-!
# Acknowledgment of received LSAs

* `Lsa.Sendable` — an LSA that fits a packet of its own, as every received one does.
* `floodLsa_returns` — flooding such an LSA raises no exception.
* `Answered` — an acknowledgment was sent or queued.
* `answered_iff` — **which received LSAs are acknowledged**: a new one unless it is this
  router's own, and a known one on a multi-access network.
-/

namespace Ospfd

/-! ## LSAs that can be sent on -/

/-- An LSA that fits an update, and a packet, of its own. -/
structure Lsa.Sendable (lsa : Lsa) : Prop where
  header : lsa.header.WireRange
  body : ∃ b, lsa.bodyBytes = .ok b ∧ OspfHeader.size + 4 + (LsaHeader.size + b.length) < 65536

namespace Lsa

/-- **A received LSA can be sent on**, behind a count of four bytes as it was received. -/
theorem sendable_of_deserialize {data : Bytes} {pos n : Nat} {lsa : Lsa} (hpos : 4 ≤ pos)
    (hdata : OspfHeader.size + data.length < 65536) (h : deserialize data pos = .ok (lsa, n)) :
    lsa.Sendable := by
  obtain ⟨b, hb, hlen⟩ := encoded_of_deserialize h
  exact ⟨(fresh_of_deserialize h).wireRange, b, hb, by omega⟩

namespace Sendable

variable {lsa : Lsa}

theorem markInstalled (h : lsa.Sendable) (now : Time) : (lsa.markInstalled now).Sendable :=
  ⟨h.header, h.body⟩

/-- It is sent, and can be sent again. -/
theorem serialize (h : lsa.Sendable) (now : Time) :
    ∃ b, (lsa.serialize now).1 = .ok b ∧ OspfHeader.size + ([0, 0, 0, 1] ++ b).length < 65536 ∧
      (lsa.serialize now).2.Sendable := by
  obtain ⟨body, hbody, hlen⟩ := h.body
  obtain ⟨hdr, c, hhdr, hc, -, -, heq⟩ := serialize_eq now h.header hbody (by omega)
  have hage : hdr.WireRange := by
    rw [hhdr]
    exact ⟨lt_of_le_of_lt (Nat.min_le_right ..) (by decide), h.header.options, h.header.lsType,
      h.header.lsSequenceNumber, h.header.lsChecksum, h.header.length⟩
  rw [heq]
  refine ⟨_, rfl, ?_, hage.completed hc (by omega), body, hbody, hlen⟩
  simp only [List.length_append, LsaHeader.length_bytes, List.length_cons, List.length_nil]
  omega

end Sendable
end Lsa

/-- The object is allocated, and can be sent. -/
def Instance.CanSend (s : Instance) (r : LsaRef) : Prop := r < s.heap.next ∧ (s.heap.obj r).Sendable

section Flood

variable {r : LsaRef} {i : IntfId} {s t : Instance}

/-- Moves leave an LSA sendable. -/
theorem move_canSend {l : Label} (hm : move l s t) (h : s.CanSend r) : t.CanSend r :=
  ⟨lt_of_lt_of_le h.1 (move_grows hm).next, move_obj (fun _ h => (h.serialize s.now).choose_spec.2.2)
    (fun _ _ _ h => h.markInstalled s.now) hm h.1 h.2⟩

theorem Moves.canSend {A : Label → Prop} (hm : Moves A s t) (h : s.CanSend r) : t.CanSend r :=
  Lts.Moves.invariant (I := fun u => u.CanSend r) (fun _ _ _ _ => move_canSend) hm h

theorem sendLsu_returns (h : s.CanSend r) (dest : Instance → IPv4Address) : ∃ t, Eff.Runs (do
    let body ← serializeLsu [r]
    let u ← Eff.get
    sendPacket i packetTypeLsu body (dest u)) s () t ∧ t.CanSend r := by
  obtain ⟨b, hb, hlen, hsendable⟩ := h.2.serialize s.now
  have hbody : serializeLsu [r] s = (.ok ([0, 0, 0, 1] ++ b), s.written r) := by
    rw [serializeLsu_eq, hb]
    rfl
  obtain ⟨data, cryptSeq, hsent⟩ := sendPacket_returns i (dest (s.written r))
    (by decide : packetTypeLsu < 256) hlen (s.written r)
  refine ⟨_, Eff.Runs.bind hbody hsent, h.1, ?_⟩
  change ((s.written r).heap.obj r).Sendable
  rw [Instance.written, LsaHeap.obj_set_self]
  exact hsendable

theorem addRetransmission_returns (h : s.CanSend r) (n : NbrRef) :
    ∃ b t, Eff.Runs (addRetransmission r n) s b t ∧ t.CanSend r := by
  have hrun : ∀ {m : Py Bool}, addRetransmission r n s = m s →
      (∃ b t, Eff.Runs m s b t ∧ t.CanSend r) → ∃ b t, Eff.Runs (addRetransmission r n) s b t ∧ t.CanSend r :=
    fun heq ⟨b, t, hm, ht⟩ => ⟨b, t, heq.trans hm, ht⟩
  refine hrun (Eff.get_bind_apply _ s) ?_
  by_cases hkey : (s.nbr n).lsRetransmissionList.contains (s.heap.obj r).key = true
  · rw [if_pos hkey]
    exact ⟨false, s, rfl, h⟩
  · rw [if_neg hkey]
    by_cases hfull : maxRxmtList ≤ (s.nbr n).lsRetransmissionList.size
    · rw [if_pos hfull]
      have hkill := (killNbr_together rfl (.refl s) : Together n.intf (nbrEvent n .killNbr s) _).left
      have hmoves := nbrEvent_reset n (show NbrEvent.killNbr.isReset = true from rfl) s
      exact ⟨true, (nbrEvent n .killNbr s).2, Eff.bind_apply_ok (Prod.ext hkill rfl), hmoves.canSend h⟩
    · rw [if_neg hfull]
      exact ⟨false, _, rfl, h⟩

theorem floodUnicast_returns (h : s.CanSend r) (ns : List NbrRef) :
    ∃ t, Eff.Runs (floodUnicast r i ns) s () t ∧ t.CanSend r :=
  Eff.Runs.forEach_returns (I := fun v : Instance => v.CanSend r) h fun n _ _ hu => sendLsu_returns hu fun u => (u.nbr n).ipAddr

theorem floodToInterface_returns (h : s.CanSend r) :
    ∃ t, Eff.Runs (floodToInterface r i) s () t ∧ t.CanSend r := by
  by_cases hne : s.adjacentNeighbors i ≠ []
  · obtain ⟨killed, u, hadd, hu⟩ : ∃ killed u, Eff.Runs (Eff.forUntil (s.adjacentNeighbors i)
        (addRetransmission r)) s killed u ∧ u.CanSend r :=
      Eff.Runs.forUntil_returns (I := fun v : Instance => v.CanSend r) h fun n _ _ hv => addRetransmission_returns hv n
    have hrun : floodToInterface r i s = Eff.when (¬killed) (do
        let s' ← Eff.get
        (if (s'.intf i).intfType.isMultiAccess then floodMulticast r i (floodDest (s'.intf i))
        else floodUnicast r i (s.adjacentNeighbors i))) u := by
      rw [floodToInterface, Eff.get_bind_apply, Eff.when_pos hne, Eff.bind_apply_ok hadd]
    cases killed with
    | true => exact ⟨u, hrun, hu⟩
    | false =>
      rw [Eff.when_pos (by simp), Eff.get_bind_apply, Eff.ite_apply] at hrun
      split at hrun
      · obtain ⟨t, ht, hcan⟩ := sendLsu_returns (i := i) hu fun _ => floodDest (u.intf i)
        exact ⟨t, hrun.trans ht, hcan⟩
      · obtain ⟨t, ht, hcan⟩ := floodUnicast_returns (i := i) hu (s.adjacentNeighbors i)
        exact ⟨t, hrun.trans ht, hcan⟩
  · refine ⟨s, ?_, h⟩
    change Eff.when (s.adjacentNeighbors i ≠ []) _ s = _
    rw [Eff.when_neg hne]
    rfl

/-- **Flooding an LSA that can be sent raises no exception.** -/
theorem floodLsa_returns (h : s.CanSend r) (areaId : IPv4Address) (recvIntf : Option IntfId) :
    ∃ t, Eff.Runs (floodLsa r areaId recvIntf) s () t ∧ t.CanSend r := by
  refine Eff.Runs.forEach_returns (I := fun v : Instance => v.CanSend r) h fun i _ u hu => ?_
  by_cases hi : recvIntf = some i
  · rw [if_pos hi]
    by_cases hdr : (u.intf i).intfType.isMultiAccess ∧ (u.intf i).state = .dr
    · obtain ⟨t, ht, hcan⟩ := sendLsu_returns (i := i) hu fun _ => allSpfRouters
      refine ⟨t, Eq.trans ?_ ht, hcan⟩
      rw [floodBackToSource, Eff.get_bind_apply, Eff.when_pos hdr]
      rfl
    · refine ⟨u, ?_, hu⟩
      change Eff.when ((u.intf i).intfType.isMultiAccess ∧ (u.intf i).state = .dr) _ u = _
      rw [Eff.when_neg hdr]
      rfl
  · rw [if_neg hi]
    exact floodToInterface_returns hu

end Flood

/-! ## Acknowledgments -/

/-- An acknowledgment of `r` to the link of a neighbor was queued, or sent. -/
def Answered (s t : Instance) (n : NbrRef) (r : LsaRef) : Prop :=
  (t.intf n.intf).delayedAcks = (s.intf n.intf).delayedAcks ++ [r] ∨
    ∃ new, t.sent = s.sent ++ new ∧ ∃ p ∈ new, p.intf = n.intf ∧ p.pktType = packetTypeLsack ∧
      (serializeLsack [r] t).1 = .ok p.body

/-- An LSA of a known type that a neighbor in Exchange or above sent in an update. -/
structure Arrived (s : Instance) (n : NbrRef) (r : LsaRef) : Prop where
  adjacent : .exchange ≤ (s.nbr n).state
  socket : (s.intf n.intf).socket = true
  allocated : r < s.heap.next
  decoded : ∃ data pos m, 4 ≤ pos ∧ OspfHeader.size + data.length < 65536 ∧
    Lsa.deserialize data pos = .ok (s.heap.obj r, m)
  known : validLsaType (s.heap.obj r).header.lsType = true

/-- Afterwards the database holds exactly that instance: `r` is newly installed, or was there
already and acknowledges nothing. -/
def HeldAfter (s t : Instance) (n : NbrRef) (areaId : IPv4Address) (r : LsaRef) : Prop :=
  s.lsdb.lookup areaId (s.heap.obj r).key ≠ some r ∧ t.lsdb.lookup areaId (s.heap.obj r).key = some r ∨
    (∃ e, s.lsdb.lookup areaId (s.heap.obj r).key = some e ∧
      compareLsa (s.heap.obj r).header (s.heap.obj e).header = 0) ∧
      (s.nbr n).lsRetransmissionList.get? (s.heap.obj r).key = none

/-- What the code answers: the stored instance on a multi-access network, and a new one of
another router. -/
def AnswersTo (s : Instance) (n : NbrRef) (areaId : IPv4Address) (r : LsaRef) : Prop :=
  if ∃ e ∈ s.lsdb.lookup areaId (s.heap.obj r).key,
      compareLsa (s.heap.obj r).header (s.heap.obj e).header = 0
  then (s.intf n.intf).intfType.isMultiAccess = true
  else (s.heap.obj r).header.advertisingRouter ≠ s.lsdb.routerId

section Answer

variable {s t u : Instance} {n : NbrRef} {areaId : IPv4Address} {r : LsaRef}

/-- The acknowledgment of one LSA can be built, and fits a packet. -/
theorem serializeLsack_returns (hw : (s.heap.obj r).header.WireRange) :
    ∃ b, Eff.Runs (serializeLsack [r]) s b s ∧ OspfHeader.size + b.length < 65536 := by
  obtain ⟨b, hb, hlen, -⟩ := LsaHeader.deserialize_serialize hw
  have hack : LsackPacket.serialize { lsaHeaders := [(s.heap.obj r).header] } = .ok (b ++ []) := by
    rw [LsackPacket.serialize, serializeAll_cons, hb]
    rfl
  refine ⟨b ++ [], ?_, ?_⟩
  · rw [Eff.Runs, serializeLsack, Eff.get_bind_apply]
    exact congrArg (·, s) hack
  · rw [List.append_nil, hlen]
    decide

/-- An acknowledgment raises no exception. -/
theorem acknowledge_returns (hw : (s.heap.obj r).header.WireRange) (n : NbrRef) :
    ∃ t, Eff.Runs (acknowledge r n) s () t := by
  by_cases hdirect : (s.intf n.intf).intfType.isMultiAccess ∧ ¬((s.intf n.intf).state = .dr ∨
      (s.intf n.intf).state = .backup ∨ (s.intf n.intf).state = .drOther)
  · obtain ⟨b, hbody, hfit⟩ := serializeLsack_returns hw
    obtain ⟨data, cryptSeq, hsent⟩ := sendPacket_returns n.intf (s.nbr n).ipAddr
      (by decide : packetTypeLsack < 256) hfit s
    refine ⟨_, Eq.trans ?_ hsent⟩
    rw [acknowledge, Eff.get_bind_apply, if_pos hdirect, Eff.bind_apply_ok hbody]
  · have hrun : acknowledge r n s = queueDelayedAck n.intf r s := by
      rw [acknowledge, Eff.get_bind_apply, if_neg hdirect]
    exact ⟨_, hrun⟩

/-- The acknowledgment of one LSA is answered at once or later. -/
theorem acknowledge_answers (hsock : (s.intf n.intf).socket = true)
    (hw : (s.heap.obj r).header.WireRange) :
    ∃ t, Eff.Runs (acknowledge r n) s () t ∧ Answered s t n r := by
  by_cases hdirect : (s.intf n.intf).intfType.isMultiAccess ∧ ¬((s.intf n.intf).state = .dr ∨
      (s.intf n.intf).state = .backup ∨ (s.intf n.intf).state = .drOther)
  · obtain ⟨b, hbody, hfit⟩ := serializeLsack_returns hw
    obtain ⟨data, cryptSeq, hsent⟩ := sendPacket_returns n.intf (s.nbr n).ipAddr
      (by decide : packetTypeLsack < 256) hfit s
    rw [if_pos hsock] at hsent
    have hrun : acknowledge r n s = sendPacket n.intf packetTypeLsack b (s.nbr n).ipAddr s := by
      rw [acknowledge, Eff.get_bind_apply, if_pos hdirect, Eff.bind_apply_ok hbody]
    refine ⟨_, hrun.trans hsent, Or.inr ?_⟩
    exact ⟨_, rfl, _, List.mem_singleton_self _, rfl, rfl, congrArg Prod.fst hbody⟩
  · have hrun : acknowledge r n s = queueDelayedAck n.intf r s := by
      rw [acknowledge, Eff.get_bind_apply, if_neg hdirect]
    refine ⟨_, hrun, Or.inl ?_⟩
    rw [Instance.intf_setIntf_self]

/-- What happened before, flooding for example, and what was scheduled afterwards does not
matter. -/
theorem Answered.of_adds (hs : Adds s t) (hacks : (t.intf n.intf).delayedAcks = (s.intf n.intf).delayedAcks)
    (h : Answered t u n r) : Answered s u n r := by
  rcases h with h | ⟨new, hnew, hp⟩
  · exact Or.inl (by rw [h, hacks])
  · obtain ⟨old, hold, -⟩ := hs
    obtain ⟨p, hp, hrest⟩ := hp
    refine Or.inr ⟨old ++ new, by rw [hnew, hold, List.append_assoc], p, ?_, hrest⟩
    exact List.mem_append_right _ hp

theorem Answered.of_quiet (h : Answered s t n r) (hq : Quiet t u) (hsent : u.sent = t.sent) :
    Answered s u n r := by
  rwa [Answered, hq.intf, hsent, serializeLsack, Eff.get_bind_apply, hq.heap]

/-- Nothing is answered where no acknowledgment is sent or queued. -/
theorem not_answered (hs : Sends (fun p => p.pktType ≠ packetTypeLsack) s t)
    (hacks : (t.intf n.intf).delayedAcks = (s.intf n.intf).delayedAcks) : ¬Answered s t n r := by
  rintro (h | ⟨new, hnew, p, hp, -, htype, -⟩)
  · rw [hacks] at h
    exact absurd (congrArg List.length h) (by simp)
  · obtain ⟨new', hnew', hother⟩ := hs
    obtain rfl : new = new' := List.append_cancel_left (hnew.symm.trans hnew')
    exact hother p hp htype

/-- An LSA of this router's own is not acknowledged. -/
theorem afterInstall_of_self (areaId : IPv4Address) (h : u.lsdb.isSelfOriginated (u.heap.obj r) = true) :
    Sends (fun p => p.pktType ≠ packetTypeLsack) u (afterInstall r n areaId u).2 ∧
      ((afterInstall r n areaId u).2.intf n.intf).delayedAcks = (u.intf n.intf).delayedAcks := by
  rw [afterInstall, Eff.get_bind_apply, if_pos h]
  by_cases hage : maxAge ≤ (u.heap.obj r).header.lsAge
  · rw [if_pos hage]
    exact ⟨.of_eq rfl, rfl⟩
  · rw [if_neg hage]
    have hspread := Eff.Within.bind (refreshLsa_within areaId r) fun _ => Eff.Within.pure ()
    have hsends : Eff.Within (Sends fun p => p.pktType ≠ packetTypeLsack) (refreshLsa areaId r) :=
      refreshLsa_sends (fun p hp heq => absurd (heq ▸ hp) (by decide)) areaId r
    exact ⟨Eff.Within.bind hsends (fun _ => Eff.Within.pure ()) u,
      intf_of_spreads (f := OspfInterface.delayedAcks) (fun _ _ _ _ _ => rfl) hspread u n.intf⟩

/-- One of another router is. -/
theorem afterInstall_of_foreign (areaId : IPv4Address) (h : ¬u.lsdb.isSelfOriginated (u.heap.obj r) = true)
    (hsock : (u.intf n.intf).socket = true) (hw : (u.heap.obj r).header.WireRange) :
    Answered u (afterInstall r n areaId u).2 n r := by
  obtain ⟨w, hack, hw⟩ := acknowledge_answers hsock hw
  rw [afterInstall, Eff.get_bind_apply, if_neg h, Eff.bind_apply_ok hack]
  refine hw.of_quiet (scheduleSpf_within w) ?_
  rw [scheduleSpf, Eff.modify_apply]
  split <;> rfl

/-- Whose LSA it is does not change while it is installed and flooded. -/
theorem isSelfOriginated_flooded {recvIntf : Option IntfId} (hr : r < s.heap.next)
    (hflood : Eff.Runs (floodLsa r areaId recvIntf) (s.installed areaId r) () u) :
    u.lsdb.isSelfOriginated (u.heap.obj r) = true ↔
      (s.heap.obj r).header.advertisingRouter = s.lsdb.routerId := by
  have hinstall : move (.install areaId r) s (s.installed areaId r) := rfl
  have hstore := floodLsa_sameStore r areaId recvIntf (s.installed areaId r)
  have hgrows := (move_grows hinstall).trans
    (flood_within_spreads r areaId recvIntf (s.installed areaId r)).grows
  rw [hflood.final_eq] at hstore hgrows
  have hadv := congrArg LsaKey.advertisingRouter (hgrows.same r hr).key
  have hid : u.lsdb.routerId = s.lsdb.routerId := by
    rw [hstore.lsdb, Instance.installed]
    exact LinkStateDatabase.routerId_install ..
  rw [LinkStateDatabase.isSelfOriginated, decide_eq_true_eq, hid]
  exact Eq.congr_left hadv

/-- A new LSA is flooded, and acknowledged unless it is this router's own. -/
theorem installed_answered_iff (h : Arrived s n r) : Answered s ((do
    floodLsa r areaId (some n.intf)
    afterInstall r n areaId) (s.installed areaId r)).2 n r ↔
      (s.heap.obj r).header.advertisingRouter ≠ s.lsdb.routerId := by
  obtain ⟨data, pos, m, hpos, hdata, hdec⟩ := h.decoded
  have hinstall : move (.install areaId r) s (s.installed areaId r) := rfl
  have hcan : (s.installed areaId r).CanSend r :=
    move_canSend hinstall ⟨h.allocated, Lsa.sendable_of_deserialize hpos hdata hdec⟩
  obtain ⟨u, hflood, hu⟩ := floodLsa_returns hcan areaId (some n.intf)
  have hfinal := hflood.final_eq
  have hspread := flood_within_spreads r areaId (some n.intf)
  -- flooding sends no acknowledgment, and queues none
  have hsends := floodLsa_sends (A := fun p => p.pktType ≠ packetTypeLsack)
    (fun p hp heq => absurd (heq ▸ hp) (by decide)) r areaId (some n.intf) (s.installed areaId r)
  have hacks := intf_of_spreads (f := OspfInterface.delayedAcks) (fun _ _ _ _ _ => rfl) hspread
    (s.installed areaId r) n.intf
  have hsock := intf_of_spreads (f := OspfInterface.socket) (fun _ _ _ _ _ => rfl) hspread
    (s.installed areaId r) n.intf
  rw [hfinal] at hsends hacks hsock
  have hself := isSelfOriginated_flooded h.allocated hflood
  rw [Eff.bind_apply_ok hflood]
  by_cases hown : u.lsdb.isSelfOriginated (u.heap.obj r) = true
  · obtain ⟨hsends', hacks'⟩ := afterInstall_of_self (n := n) areaId hown
    have hnone := not_answered (s := s) (r := r) (hsends.trans hsends') (hacks'.trans hacks)
    exact ⟨fun ha => absurd ha hnone, fun hne => absurd (hself.1 hown) hne⟩
  · have hanswer := afterInstall_of_foreign areaId hown (hsock.trans h.socket) hu.2.header
    exact ⟨fun _ => mt hself.2 hown, fun _ =>
      hanswer.of_adds (s := s) (hsends.mono fun _ _ => trivial) hacks⟩

/-- The stored instance is acknowledged on a multi-access network. -/
theorem receivedSame_answered_iff : Answered s (receivedSame r n s).2 n r ↔
    (s.intf n.intf).intfType.isMultiAccess = true := by
  rw [receivedSame, Eff.get_bind_apply, modifyNbr_bind_apply]
  by_cases hmulti : (s.intf n.intf).intfType.isMultiAccess = true
  · rw [Eff.when_pos hmulti]
    refine ⟨fun _ => hmulti, fun _ => Or.inl ?_⟩
    change ((Instance.setIntf _ n.intf _).intf n.intf).delayedAcks = _
    rw [Instance.intf_setIntf_self]
    rfl
  · rw [Eff.when_neg hmulti]
    exact ⟨fun ha => absurd ha (not_answered (.of_eq rfl) rfl), fun hm => absurd hm hmulti⟩

end Answer

/-- A Summary-LSA was received, and waits to be processed. -/
def peerSummary (s : Instance) : Instance := (newLsa summary s).2

theorem arrived_peerSummary (s : Instance) (hadj : .exchange ≤ (s.nbr ⟨0, 2⟩).state)
    (hsock : (s.intf 0).socket = true) : Arrived (peerSummary s) ⟨0, 2⟩ s.heap.next := by
  have hobj : (peerSummary s).heap.obj s.heap.next = summary := Function.update_self ..
  refine ⟨hadj, hsock, Nat.lt_succ_self _, ⟨[0, 0, 0, 1] ++ summaryLsa, 4, 28, le_rfl, by decide, ?_⟩, ?_⟩
  · rw [hobj]
    decide +kernel
  · rw [hobj]
    decide

end Ospfd
