import Ospfd.Protocol.Moves

/-!
# Events, as moves

What sending, the state machines and the dispatch of events do, in terms of moves.

* `sendPacket_within`, `startDdExchange_returns`, … — sending changes nothing that the
  state machines look at, and what has to be sent can be sent.
* `nbrEvent_adjOk` — AdjOK? always returns, and never crosses 2-Way; so an election and
  its AdjOK? events are one move (`runDrElection_elects`).
* `nbrEvent_…` — the effect of each event of a neighbor.
* `intfEvent_within` — an interface event is a run of moves.
-/

namespace Ospfd

/-! ## Sending -/

/-- The instance with other packets sent. -/
def Instance.withSent (s : Instance) (cryptSeq : IntfId → Nat) (sent : List Sent) : Instance :=
  { s with cryptSeq, sent }

theorem quiet_withSent (s : Instance) (cryptSeq : IntfId → Nat) (sent : List Sent) :
    Quiet s (s.withSent cryptSeq sent) := ⟨rfl, rfl, rfl, rfl, rfl, rfl, rfl⟩

theorem sendPacket_within (i : IntfId) (pktType : Nat) (body : Bytes) (dest : IPv4Address) :
    Eff.Within Quiet (sendPacket i pktType body dest) := by
  refine Eff.Within.read fun s => Eff.Within.when fun _ => ?_
  refine Eff.Within.bind (Eff.Within.lift _) fun data => Eff.Within.modify fun s => ?_
  exact ⟨rfl, rfl, rfl, rfl, rfl, rfl, rfl⟩

/-- A packet that fits its header is sent, where there is a socket. -/
theorem sendPacket_returns (i : IntfId) {pktType : Nat} {body : Bytes} (dest : IPv4Address)
    (htype : pktType < 256) (hlen : OspfHeader.size + body.length < 65536) (s : Instance) :
    ∃ data cryptSeq, sendPacket i pktType body dest s = (.ok (), s.withSent cryptSeq
      (if (s.intf i).socket then s.sent ++ [{ intf := i, dest, pktType, body, data }] else s.sent)) := by
  have ht := transmitted_eq s.md5 s.routerId (s.intf i).areaId (s.intf i).authType
    (s.intf i).authKey (s.intf i).authKeyId ((s.cryptSeq i + 1) % 4294967296) htype hlen
  by_cases hsock : (s.intf i).socket = true
  · simp only [if_pos hsock]
    rw [sendPacket, Eff.get_bind_apply, Eff.when_pos hsock, Eff.lift_bind_apply]
    dsimp only at ht ⊢
    rw [ht]
    exact ⟨_, _, rfl⟩
  · simp only [if_neg hsock]
    rw [sendPacket, Eff.get_bind_apply, Eff.when_neg hsock]
    exact ⟨[], s.cryptSeq, rfl⟩

/-- Without a socket, or when it does not fit its header, nothing is sent. -/
theorem sendPacket_unsent {i : IntfId} {body : Bytes} {s : Instance}
    (h : ¬((s.intf i).socket = true ∧ OspfHeader.size + body.length < 65536)) (pktType : Nat)
    (dest : IPv4Address) : (sendPacket i pktType body dest s).2 = s := by
  rw [sendPacket, Eff.get_bind_apply]
  by_cases hsock : (s.intf i).socket = true
  · rw [Eff.when_pos hsock, Eff.lift_bind_apply, transmitted_error _ _ _ _ _ _ _ _ fun hl => h ⟨hsock, hl⟩]
  · rw [Eff.when_neg hsock]
    rfl

theorem scheduleRouterLsa_within (areaId : IPv4Address) :
    Eff.Within Quiet (scheduleRouterLsa areaId) := by
  refine Eff.Within.modify fun s => ?_
  split
  · exact .refl s
  · exact ⟨rfl, rfl, rfl, rfl, rfl, rfl, rfl⟩

theorem scheduleNetworkLsa_within (i : IntfId) : Eff.Within Quiet (scheduleNetworkLsa i) := by
  refine Eff.Within.modify fun s => ?_
  split
  · exact .refl s
  · exact ⟨rfl, rfl, rfl, rfl, rfl, rfl, rfl⟩

theorem scheduleSpf_within : Eff.Within Quiet scheduleSpf := by
  refine Eff.Within.modify fun s => ?_
  split
  · exact .refl s
  · exact ⟨rfl, rfl, rfl, rfl, rfl, rfl, rfl⟩

theorem serializeLsack_within (rs : List LsaRef) : Eff.Within Quiet (serializeLsack rs) :=
  Eff.Within.get_bind fun s => .refl s

theorem sendHello_within (i : IntfId) : Eff.Within Quiet (sendHello i) := by
  refine Eff.Within.read fun s => Eff.Within.when fun _ => ?_
  have hsend : ∀ dest, Eff.Within Quiet (do
      let body ← Eff.lift (helloOf s i).serialize
      sendPacket i packetTypeHello body dest) := fun dest =>
    Eff.Within.bind (Eff.Within.lift _) fun body => sendPacket_within _ _ _ _
  split
  · exact hsend _
  · exact hsend _
  · exact hsend _
  · exact Eff.Within.forEach fun n _ => hsend _
  · exact Eff.Within.forEach fun n _ => hsend _

/-! ## Descriptions and requests -/

/-- A description as it would be sent now. -/
def ddOf (s : Instance) (n : NbrRef) (flags : Nat) (lsaHeaders : List LsaRef) : SentDD :=
  { interfaceMtu := (s.intf n.intf).mtu, options := s.options, flags,
    ddSeqNumber := (s.nbr n).ddSeqNumber, lsaHeaders }

theorem wireRange_ddOf {s : Instance} {n : NbrRef} {flags : Nat} {lsaHeaders : List LsaRef}
    (hflags : flags < 256)
    (hseq : -2147483648 ≤ (s.nbr n).ddSeqNumber ∧ (s.nbr n).ddSeqNumber < 2147483648)
    (hheaders : ∀ r ∈ lsaHeaders, (s.heap.obj r).header.WireRange) :
    ((ddOf s n flags lsaHeaders).packet s.heap).WireRange where
  interfaceMtu := (s.intf n.intf).mtu_lt
  options := Nat.lt_of_sub_eq_succ rfl
  flags := hflags
  ddSeqNumber := hseq
  lsaHeaders := by
    intro h hh
    obtain ⟨r, hr, rfl⟩ := List.mem_map.1 hh
    exact hheaders r hr

/-- A description that fits the wire is sent, and remembered. -/
theorem sendDd_returns (n : NbrRef) {flags : Nat} {lsaHeaders : List LsaRef} {s : Instance}
    (hw : ((ddOf s n flags lsaHeaders).packet s.heap).WireRange)
    (hlen : 32 + 20 * lsaHeaders.length < 65536) :
    ∃ body data cryptSeq, ((ddOf s n flags lsaHeaders).packet s.heap).serialize = .ok body ∧
      sendDd n flags lsaHeaders s = (.ok (), (s.withSent cryptSeq
        (if (s.intf n.intf).socket then
          s.sent ++ [⟨n.intf, (s.nbr n).ipAddr, packetTypeDd, body, data⟩]
        else s.sent)).setNbr n { s.nbr n with lastSentDd := some (ddOf s n flags lsaHeaders) }) := by
  obtain ⟨body, hbody, hblen, -⟩ := DDPacket.deserialize_serialize hw
  have hsize : ((ddOf s n flags lsaHeaders).packet s.heap).lsaHeaders.length = lsaHeaders.length := by
    simp [SentDD.packet, ddOf]
  have hfit : OspfHeader.size + body.length < 65536 := by
    rw [hblen, hsize, OspfHeader.size]
    omega
  obtain ⟨data, cryptSeq, hsend⟩ :=
    sendPacket_returns n.intf (s.nbr n).ipAddr (by decide : packetTypeDd < 256) hfit s
  refine ⟨body, data, cryptSeq, hbody, ?_⟩
  rw [sendDd, Eff.get_bind_apply]
  change (Eff.lift ((ddOf s n flags lsaHeaders).packet s.heap).serialize >>= _) s = _
  rw [hbody, Eff.bind_apply_ok (Eff.lift_apply _ s), Eff.bind_apply_ok hsend]
  rfl

/-- The moves of sending descriptions. -/
def Describes (n : NbrRef) (l : Label) : Prop := l = .quiet ∨ l = .nbr n .describe

theorem sendDd_within (n : NbrRef) (flags : Nat) (lsaHeaders : List LsaRef) :
    Eff.Within (Moves (Describes n)) (sendDd n flags lsaHeaders) := by
  refine Eff.Within.read fun s => Eff.Within.bind (Eff.Within.lift _) fun body => ?_
  refine Eff.Within.bind (Quiet.within (Or.inl rfl) (sendPacket_within _ _ _ _)) fun _ => ?_
  exact Eff.Within.modify fun t => Moves.nbr (Or.inr rfl) (by decide) ⟨_, _, _, id, rfl⟩

theorem sendDdBatch_within (n : NbrRef) (flags : Nat) :
    Eff.Within (Moves (Describes n)) (sendDdBatch n flags) := by
  refine Eff.Within.get_bind fun s => ?_
  refine (Lts.Moves.trans ?_ (sendDd_within n _ _ _) : Moves _ s _)
  exact Moves.nbr (Or.inr rfl) (by decide) ⟨_, _, _, fun h => by simp [h], rfl⟩

theorem retransmitLastDd_within (n : NbrRef) : Eff.Within Quiet (retransmitLastDd n) := by
  refine Eff.Within.read fun s => ?_
  split
  · exact Eff.Within.pure ()
  · exact Eff.Within.bind (Eff.Within.lift _) fun body => sendPacket_within _ _ _ _

/-- A request that fits the wire is sent, and its timer runs. -/
theorem sendLsRequest_returns (n : NbrRef) {s : Instance} (hne : (s.nbr n).lsRequestList.entries ≠ [])
    (hfit : (s.nbr n).TypesFit) :
    ∃ t, sendLsRequest n s = (.ok (), t) ∧ Quiet (s.setNbr n { s.nbr n with rxmtTimer := true }) t := by
  obtain ⟨body, hbody, hblen⟩ := LsrPacket.serialize_ok
    (p := { items := ((s.nbr n).lsRequestList.values.take 10).map LsrItem.ofHeader }) (by
      intro item hitem
      obtain ⟨h, hh, rfl⟩ := List.mem_map.1 hitem
      exact hfit h (List.mem_of_mem_take hh))
  have hshort : OspfHeader.size + body.length < 65536 := by
    rw [hblen, List.length_map, List.length_take, LsrItem.size, OspfHeader.size]
    omega
  obtain ⟨t, hsend, hq⟩ : ∃ t, sendPacket n.intf packetTypeLsr body (s.nbr n).ipAddr s = (.ok (), t) ∧
      Quiet s t := by
    obtain ⟨data, cryptSeq, hsend⟩ :=
      sendPacket_returns n.intf (s.nbr n).ipAddr (by decide : packetTypeLsr < 256) hshort s
    exact ⟨_, hsend, quiet_withSent ..⟩
  refine ⟨t.setNbr n { s.nbr n with rxmtTimer := true }, ?_, hq.setNbr n _⟩
  rw [sendLsRequest, Eff.get_bind_apply, Eff.when_pos hne]
  dsimp only
  rw [hbody, Eff.bind_apply_ok (Eff.lift_apply _ s), Eff.bind_apply_ok hsend, modifyNbr_apply, hq.nbr]

/-- The description that begins an exchange. -/
def firstDd (s : Instance) (n : NbrRef) : SentDD :=
  { interfaceMtu := (s.intf n.intf).mtu, options := s.options,
    flags := ddFlagI ||| ddFlagM ||| ddFlagMS,
    ddSeqNumber := (s.entropy s.drawn).val % 2147483648, lsaHeaders := [] }

theorem seq_firstDd (s : Instance) (n : NbrRef) :
    0 ≤ (firstDd s n).ddSeqNumber ∧ (firstDd s n).ddSeqNumber < 2147483648 := by
  have heq : (firstDd s n).ddSeqNumber = ((s.entropy s.drawn).val : Int) % 2147483648 := rfl
  omega

/-- `_start_dd_exchange` always returns. -/
theorem startDdExchange_eq (n : NbrRef) (s : Instance) :
    ∃ t, startDdExchange n s = (.ok (), t) ∧
      Quiet (s.setNbr n ((s.nbr n).started (firstDd s n).ddSeqNumber (firstDd s n))) t := by
  -- the sequence number and the lists are set before the description is sent
  let x : OspfNeighbor := { s.nbr n with
    ddSeqNumber := (firstDd s n).ddSeqNumber, isMaster := true, dbSummaryList := [],
    lsRequestList := Dict.empty, lsRetransmissionList := Dict.empty, requested := [] }
  let s₁ : Instance := ({ s with drawn := s.drawn + 1 } : Instance).setNbr n x
  have hx : s₁.nbr n = x := Instance.nbr_setNbr_self ..
  have hrun : startDdExchange n s = (sendDd n (ddFlagI ||| ddFlagM ||| ddFlagMS) [] >>= fun _ =>
      modifyNbr n fun x => { x with ddRxmtTimer := true }) s₁ := rfl
  have hdd : ddOf s₁ n (ddFlagI ||| ddFlagM ||| ddFlagMS) [] = firstDd s n := by
    rw [ddOf, hx]
    rfl
  have hw : ((ddOf s₁ n (ddFlagI ||| ddFlagM ||| ddFlagMS) []).packet s₁.heap).WireRange := by
    have hseq := seq_firstDd s n
    refine wireRange_ddOf (by decide) ?_ (by simp)
    rw [hx]
    exact ⟨le_trans (by decide) hseq.1, hseq.2⟩
  obtain ⟨body, data, cryptSeq, -, hsend⟩ := sendDd_returns n hw (by simp)
  rw [hx, hdd] at hsend
  refine ⟨_, by rw [hrun, Eff.bind_apply_ok hsend, modifyNbr_apply], ?_⟩
  rw [Instance.nbr_setNbr_self, Instance.setNbr_setNbr]
  refine ⟨?_, rfl, rfl, rfl, rfl, rfl, rfl⟩
  simp only [Instance.setNbr, Instance.withSent, s₁, Function.update_idem]
  rfl

theorem startDdExchange_returns (n : NbrRef) (s : Instance) :
    ∃ seq dd t, startDdExchange n s = (.ok (), t) ∧
      Quiet (s.setNbr n ((s.nbr n).started seq dd)) t :=
  ⟨_, _, startDdExchange_eq n s⟩

/-! ## Telling the interface -/

section Events

variable {event : NbrRef → NbrEvent → Py Unit} {n : NbrRef} {s : Instance}

theorem crossesTwoWay_eq_false {a b : NbrState} (h : .twoWay ≤ a ↔ .twoWay ≤ b) :
    crossesTwoWay a b = false := by
  simp only [crossesTwoWay, NbrState.lt_def, NbrState.le_def, decide_eq_false_iff_not] at h ⊢
  omega

/-- While it does not become bidirectional, nor stop being so, a change of a neighbor's
state is only scheduled for the LSAs. -/
theorem neighborStateChanged_returns {old : NbrState}
    (h : crossesTwoWay old (s.nbr n).state = false) :
    ∃ t, neighborStateChanged event n old s = (.ok (), t) ∧ Quiet s t := by
  obtain ⟨t, ht, hq⟩ : ∃ t, scheduleRouterLsa (s.intf n.intf).areaId s = (.ok (), t) ∧ Quiet s t :=
    ⟨_, rfl, scheduleRouterLsa_within _ s⟩
  refine ⟨(Eff.when ((s.intf n.intf).state = .dr) (scheduleNetworkLsa n.intf) t).2, ?_,
    hq.trans (Eff.Within.when (fun _ => scheduleNetworkLsa_within _) t)⟩
  rw [neighborStateChanged, Eff.get_bind_apply, Eff.when_neg (by simp [h]), Eff.pure_bind_apply,
    Eff.get_bind_apply, Eff.bind_apply_ok ht]
  by_cases hdr : (s.intf n.intf).state = .dr
  · rw [Eff.when_pos hdr]
    rfl
  · rw [Eff.when_neg hdr]
    rfl

/-- The instance with an event recorded. -/
def Instance.traced (s : Instance) (n : NbrRef) (evt : NbrEvent) : Instance :=
  { s with trace := s.trace ++ [(n, evt)] }

theorem quiet_traced (s : Instance) (n : NbrRef) (evt : NbrEvent) : Quiet s (s.traced n evt) :=
  ⟨rfl, rfl, rfl, rfl, rfl, rfl, rfl⟩

/-- An event that is handled without crossing 2-Way. -/
theorem dispatchNbr_returns {evt : NbrEvent} {x : OspfNeighbor} {t : Instance}
    (hh : handleNbr event n (s.nbr n).state evt (s.traced n evt) = (.ok (), t))
    (hq : Quiet (s.setNbr n x) t) (hx : crossesTwoWay (s.nbr n).state x.state = false) :
    ∃ t', dispatchNbr event n evt s = (.ok (), t') ∧ Quiet (s.setNbr n x) t' := by
  have hxt : t.nbr n = x := by rw [hq.nbr, Instance.nbr_setNbr_self]
  have hrun : dispatchNbr event n evt s =
      Eff.when ((t.nbr n).state ≠ (s.nbr n).state) (neighborStateChanged event n (s.nbr n).state) t := by
    rw [dispatchNbr, Eff.modify_bind_apply, Eff.get_bind_apply]
    change (handleNbr event n (s.nbr n).state evt >>= _) (s.traced n evt) = _
    rw [Eff.bind_apply_ok hh, Eff.get_bind_apply]
  rw [hrun]
  by_cases hne : (t.nbr n).state ≠ (s.nbr n).state
  · rw [Eff.when_pos hne]
    obtain ⟨t', ht', hq'⟩ : ∃ t', neighborStateChanged event n (s.nbr n).state t = (.ok (), t') ∧
        Quiet t t' := neighborStateChanged_returns (by rw [hxt]; exact hx)
    exact ⟨t', ht', hq.trans hq'⟩
  · rw [Eff.when_neg hne]
    exact ⟨t, rfl, hq⟩

/-- An event that is handled by moves. -/
theorem dispatchNbr_moves {A : Label → Prop} (hA : A .quiet) {evt : NbrEvent}
    (hh : Moves A (s.traced n evt) (handleNbr event n (s.nbr n).state evt (s.traced n evt)).2)
    (hchg : ∀ old, Eff.Within (Moves A) (neighborStateChanged event n old)) :
    Moves A s (dispatchNbr event n evt s).2 := by
  refine ((quiet_traced s n evt).moves hA).trans ?_
  have hrest : Eff.Within (Moves A) (Eff.get >>= fun t : Instance =>
      Eff.when ((t.nbr n).state ≠ (s.nbr n).state) (neighborStateChanged event n (s.nbr n).state)) :=
    Eff.Within.read fun t => Eff.Within.when fun _ => hchg _
  rw [dispatchNbr, Eff.modify_bind_apply, Eff.get_bind_apply]
  change Moves A (s.traced n evt) ((handleNbr event n (s.nbr n).state evt >>= _) (s.traced n evt)).2
  rw [Eff.bind_apply]
  rcases hr : handleNbr event n (s.nbr n).state evt (s.traced n evt) with ⟨r, t⟩
  rw [hr] at hh
  cases r with
  | ok a => exact hh.trans (hrest t)
  | error e => exact hh

/-! ## AdjOK? and elections -/

theorem seqNumMismatch_returns (n : NbrRef) (s : Instance) : ∃ x t,
    seqNumMismatch n s = (.ok (), t) ∧ (s.nbr n).clearLists.InExStart x ∧ Quiet (s.setNbr n x) t := by
  obtain ⟨seq, dd, t, ht, hq⟩ :=
    startDdExchange_returns n (s.setNbr n { s.nbr n with state := .exStart }.clearLists)
  rw [Instance.nbr_setNbr_self, Instance.setNbr_setNbr] at hq
  exact ⟨_, t, ht, ⟨seq, dd, rfl⟩, hq⟩

/-- Entering ExStart. -/
theorem enterExStart_returns (n : NbrRef) (s : Instance) : ∃ x t,
    (modifyNbr n (fun x => { x with state := .exStart }) >>= fun _ => startDdExchange n) s =
      (.ok (), t) ∧ (s.nbr n).InExStart x ∧ Quiet (s.setNbr n x) t := by
  obtain ⟨seq, dd, t, ht, hq⟩ :=
    startDdExchange_returns n (s.setNbr n { s.nbr n with state := .exStart })
  rw [Instance.nbr_setNbr_self, Instance.setNbr_setNbr] at hq
  exact ⟨_, t, ht, ⟨seq, dd, rfl⟩, hq⟩

/-- The handler of AdjOK? always returns, and leaves the neighbor bidirectional. -/
theorem handleNbr_adjOk (event : NbrRef → NbrEvent → Py Unit) (n : NbrRef) {s : Instance}
    (h : .twoWay ≤ (s.nbr n).state) : ∃ x t,
      handleNbr event n (s.nbr n).state .adjOk (s.traced n .adjOk) = (.ok (), t) ∧
        Redecided (shouldFormAdjacency s n) (s.nbr n) x ∧ Quiet (s.setNbr n x) t ∧
          .twoWay ≤ x.state := by
  have hqt := quiet_traced s n .adjOk
  have hshould : shouldFormAdjacency (s.traced n .adjOk) n = shouldFormAdjacency s n :=
    hqt.shouldFormAdjacency n
  -- one case for 2-Way, one for all states above
  by_cases htw : (s.nbr n).state = .twoWay
  · have hfsm : handleNbr event n (s.nbr n).state .adjOk = NbrAction.adjOk2Way.run n := by rw [htw]; rfl
    rw [hfsm, NbrAction.run, Eff.get_bind_apply, hshould]
    by_cases hsh : shouldFormAdjacency s n = true
    · rw [Eff.when_pos hsh]
      obtain ⟨x, t, ht, hx, hq⟩ := enterExStart_returns n (s.traced n .adjOk)
      refine ⟨x, t, ht, Or.inl ⟨htw, hsh, hx⟩, (hqt.setNbr n x).trans hq, ?_⟩
      obtain ⟨seq, dd, rfl⟩ := hx
      exact Nat.le_succ 3
    · rw [Eff.when_neg hsh]
      refine ⟨s.nbr n, _, rfl, Or.inr (Or.inr ⟨Or.inl ⟨htw, by simpa using hsh⟩, rfl⟩), ?_, h⟩
      rw [Instance.setNbr_eq_self]
      exact hqt
  · have hup : .exStart ≤ (s.nbr n).state := by
      rcases hst : (s.nbr n).state with _ | _ | _ | _ | _ | _ | _ | _ <;> rw [hst] at h htw <;>
        first | decide | exact absurd h (by decide) | exact absurd rfl htw
    have hfsm : handleNbr event n (s.nbr n).state .adjOk = NbrAction.adjOkAdjformed.run n := by
      rcases hst : (s.nbr n).state with _ | _ | _ | _ | _ | _ | _ | _ <;> rw [hst] at hup <;>
        first | rfl | exact absurd hup (by decide)
    rw [hfsm, NbrAction.run, Eff.get_bind_apply, hshould]
    by_cases hsh : shouldFormAdjacency s n = true
    · rw [Eff.when_neg (not_not.2 hsh)]
      refine ⟨s.nbr n, _, rfl, Or.inr (Or.inr ⟨Or.inr ⟨hup, hsh⟩, rfl⟩), ?_, h⟩
      rw [Instance.setNbr_eq_self]
      exact hqt
    · rw [Eff.when_pos hsh]
      exact ⟨(s.nbr n).cleared .twoWay, _, rfl, Or.inr (Or.inl ⟨hup, by simpa using hsh, rfl⟩),
        hqt.setNbr n _, Nat.le_refl 3⟩

/-- AdjOK? always returns, and leaves the neighbor bidirectional. -/
theorem nbrEvent_adjOk (depth : Nat) (n : NbrRef) {s : Instance} (h : .twoWay ≤ (s.nbr n).state) :
    ∃ x t, nbrEventDepth (depth + 1) n .adjOk s = (.ok (), t) ∧
      Redecided (shouldFormAdjacency s n) (s.nbr n) x ∧ Quiet (s.setNbr n x) t := by
  obtain ⟨x, t, hrun, hdec, hq, hx⟩ := handleNbr_adjOk (nbrEventDepth depth) n h
  obtain ⟨t', ht', hq'⟩ := dispatchNbr_returns hrun hq
    (crossesTwoWay_eq_false ⟨fun _ => hx, fun _ => h⟩)
  exact ⟨x, t', ht', hdec, hq'⟩

theorem Redecided.twoWay_le {should : Bool} {x x' : OspfNeighbor} (h : Redecided should x x') :
    .twoWay ≤ x'.state ∧ .twoWay ≤ x.state ∧ x'.ipAddr = x.ipAddr := by
  rcases h with ⟨hx, -, seq, dd, rfl⟩ | ⟨hx, -, rfl⟩ | ⟨hx, rfl⟩
  · exact ⟨Nat.le_succ 3, by rw [hx]; exact Nat.le_refl 3, rfl⟩
  · exact ⟨Nat.le_refl 3, Nat.le_trans (Nat.le_succ 3) hx, rfl⟩
  · rcases hx with ⟨hx, -⟩ | ⟨hx, -⟩
    · exact ⟨by rw [hx]; exact Nat.le_refl 3, by rw [hx]; exact Nat.le_refl 3, rfl⟩
    · exact ⟨Nat.le_trans (Nat.le_succ 3) hx, Nat.le_trans (Nat.le_succ 3) hx, rfl⟩

/-- Reconsidering twice is reconsidering once. -/
theorem Redecided.trans {should : Bool} {x y z : OspfNeighbor} (h : Redecided should x y)
    (h' : Redecided should y z) : Redecided should x z := by
  rcases h with ⟨hx, hsh, seq, dd, rfl⟩ | ⟨hx, hsh, rfl⟩ | ⟨-, rfl⟩
  · rcases h' with ⟨hy, -, -⟩ | ⟨-, hno, -⟩ | ⟨-, rfl⟩
    · cases hy
    · rw [hsh] at hno
      cases hno
    · exact Or.inl ⟨hx, hsh, seq, dd, rfl⟩
  · rcases h' with ⟨-, hno, -⟩ | ⟨hy, -, -⟩ | ⟨-, rfl⟩
    · rw [hsh] at hno
      cases hno
    · exact absurd hy (by decide : ¬NbrState.exStart ≤ .twoWay)
    · exact Or.inr (Or.inl ⟨hx, hsh, rfl⟩)
  · exact h'

/-- What has happened once some of the neighbors of an interface reconsidered: `s` is the
state before the election, `u` the state with its result. -/
structure Reconsidered (s u t : Instance) (done : List NbrRef) : Prop where
  decided : ∀ m ∈ done, .twoWay ≤ (s.nbr m).state →
    Redecided (shouldFormAdjacency u m) (s.nbr m) (t.nbr m)
  kept : ∀ m, ¬(m ∈ done ∧ .twoWay ≤ (s.nbr m).state) → t.nbr m = s.nbr m
  intf : t.intf = u.intf
  heap : t.heap = s.heap
  lsdb : t.lsdb = s.lsdb
  areas : t.areas = s.areas
  routerId : t.routerId = s.routerId
  now : t.now = s.now

theorem Reconsidered.twoWay_iff {s u t : Instance} {done : List NbrRef}
    (h : Reconsidered s u t done) (m : NbrRef) :
    (.twoWay ≤ (t.nbr m).state ↔ .twoWay ≤ (s.nbr m).state) ∧ (t.nbr m).ipAddr = (s.nbr m).ipAddr := by
  by_cases hm : m ∈ done ∧ .twoWay ≤ (s.nbr m).state
  · obtain ⟨h1, h2, hip⟩ := (h.decided m hm.1 hm.2).twoWay_le
    exact ⟨⟨fun _ => h2, fun _ => h1⟩, hip⟩
  · rw [h.kept m hm]
    exact ⟨Iff.rfl, rfl⟩

theorem shouldFormAdjacency_congr {s t : Instance} {m : NbrRef} (hi : t.intf m.intf = s.intf m.intf)
    (hip : (t.nbr m).ipAddr = (s.nbr m).ipAddr) :
    shouldFormAdjacency t m = shouldFormAdjacency s m := by
  simp only [shouldFormAdjacency, hi, hip]

/-- One more neighbor reconsiders. -/
theorem Reconsidered.step {s u t : Instance} {done : List NbrRef} (h : Reconsidered s u t done)
    (hu : u.nbr = s.nbr) (depth : Nat) (m : NbrRef) :
    ∃ t', Eff.Runs (do
        let s ← Eff.get
        Eff.when (NbrState.twoWay ≤ (s.nbr m).state) (nbrEventDepth (depth + 1) m .adjOk)) t () t' ∧
      Reconsidered s u t' (done ++ [m]) := by
  obtain ⟨htw, hip⟩ := h.twoWay_iff m
  simp only [Eff.Runs, Eff.get_bind_apply]
  by_cases hm : .twoWay ≤ (t.nbr m).state
  · obtain ⟨x, t', ht', hdec, hq⟩ := nbrEvent_adjOk depth m hm
    have hsh : shouldFormAdjacency t m = shouldFormAdjacency u m :=
      shouldFormAdjacency_congr (by rw [h.intf]) (by rw [hip, hu])
    rw [hsh] at hdec
    rw [Eff.when_pos hm]
    refine ⟨t', ht', ?_, ?_, hq.intf.trans h.intf, hq.heap.trans h.heap, hq.lsdb.trans h.lsdb,
      hq.areas.trans h.areas, hq.routerId.trans h.routerId, hq.now.trans h.now⟩
    · intro k hk hks
      rw [hq.nbr, Instance.nbr_setNbr]
      split
      · rename_i heq
        subst heq
        by_cases hdone : k ∈ done
        · exact (h.decided k hdone hks).trans hdec
        · rwa [← h.kept k fun hc => hdone hc.1]
      · rename_i hne
        rcases List.mem_append.1 hk with hk | hk
        · exact h.decided k hk hks
        · exact absurd (List.mem_singleton.1 hk) hne
    · intro k hk
      have hne : k ≠ m := by
        rintro rfl
        exact hk ⟨List.mem_append_right _ (List.mem_singleton_self _), htw.1 hm⟩
      rw [hq.nbr, Instance.nbr_setNbr_of_ne _ hne]
      exact h.kept k fun hc => hk ⟨List.mem_append_left _ hc.1, hc.2⟩
  · rw [Eff.when_neg hm]
    refine ⟨t, rfl, ?_, ?_, h.intf, h.heap, h.lsdb, h.areas, h.routerId, h.now⟩
    · intro k hk hks
      rcases List.mem_append.1 hk with hk | hk
      · exact h.decided k hk hks
      · rw [List.mem_singleton.1 hk] at hks
        exact absurd (htw.2 hks) hm
    · exact fun k hk => h.kept k fun hc => hk ⟨List.mem_append_left _ hc.1, hc.2⟩

/-- An interface with the outcome of its election. -/
def electedIntf (s : Instance) (i : IntfId) : OspfInterface :=
  { s.intf i with
    dr := (electDrBdr s i).1, bdr := (electDrBdr s i).2,
    state := electedState (s.intf i).ipAddr (electDrBdr s i).1 (electDrBdr s i).2 }

/-- **An election is one move**: it always returns, and every bidirectional neighbor has
reconsidered its adjacency when DR or BDR changed. -/
theorem runDrElection_elects (depth : Nat) (i : IntfId) (s : Instance) :
    ∃ t, runDrElection (nbrEventDepth (depth + 1)) i s = (.ok (), t) ∧ Elected i s t ∧
      t.intf i = electedIntf s i := by
  let elected := electDrBdr s i
  let x : OspfInterface := electedIntf s i
  let u : Instance := s.setIntf i x
  have hui : u.intf i = x := Instance.intf_setIntf_self ..
  have hother : ∀ j, j ≠ i → u.intf j = s.intf j := fun j hj => Instance.intf_setIntf_of_ne _ hj _
  have hrun : runDrElection (nbrEventDepth (depth + 1)) i s =
      Eff.when ((s.intf i).dr ≠ elected.1 ∨ (s.intf i).bdr ≠ elected.2)
        (Eff.forEach (s.neighborsOf i) fun n => do
          let s ← Eff.get
          Eff.when (NbrState.twoWay ≤ (s.nbr n).state) (nbrEventDepth (depth + 1) n .adjOk)) u := rfl
  rw [hrun]
  by_cases hchg : (s.intf i).dr ≠ elected.1 ∨ (s.intf i).bdr ≠ elected.2
  · rw [Eff.when_pos hchg]
    have hstart : Reconsidered s u u [] := ⟨by simp, fun m _ => rfl, rfl, rfl, rfl, rfl, rfl, rfl⟩
    obtain ⟨t, ht, hrec⟩ := Eff.Runs.forEach (I := fun done t => Reconsidered s u t done) hstart
      fun m (_ : m ∈ s.neighborsOf i) done t hrec => hrec.step rfl depth m
    rw [List.nil_append] at hrec
    have hti : t.intf i = x := by rw [hrec.intf, hui]
    refine ⟨t, ht, ⟨fun j hj => by rw [hrec.intf, hother j hj], ⟨_, _, _, hti⟩, ?_, ?_, hrec.heap,
      hrec.lsdb, hrec.areas, hrec.routerId, hrec.now⟩, hti⟩
    · intro m hmi hmn hms _
      have hsh : shouldFormAdjacency t m = shouldFormAdjacency u m :=
        shouldFormAdjacency_congr (by rw [hrec.intf]) (hrec.twoWay_iff m).2
      rw [hsh]
      exact hrec.decided m (Instance.mem_neighborsOf.2 ⟨hmi, hmn⟩) hms
    · intro m hm
      refine hrec.kept m fun hc => hm ?_
      obtain ⟨hmi, hmn⟩ := Instance.mem_neighborsOf.1 hc.1
      refine ⟨hmi, hmn, hc.2, ?_⟩
      rw [hti]
      exact hchg
  · rw [Eff.when_neg hchg]
    refine ⟨u, rfl, ⟨hother, ⟨_, _, _, hui⟩, ?_, fun m _ => rfl, rfl, rfl, rfl, rfl, rfl⟩, hui⟩
    intro m _ _ _ hne
    rw [hui] at hne
    exact absurd hne hchg

end Events

/-! ## The interface -/

theorem runDrElection_within {A : Label → Prop} {i : IntfId} (hA : A (.elect i)) (depth : Nat) :
    Eff.Within (Moves A) (runDrElection (nbrEventDepth (depth + 1)) i) := by
  intro s
  obtain ⟨t, ht, he, -⟩ := runDrElection_elects depth i s
  rw [ht]
  exact Lts.Moves.single hA he

theorem intfStateChanged_within (i : IntfId) : Eff.Within Quiet (intfStateChanged i) := by
  refine Eff.Within.read fun s => Eff.Within.bind (scheduleRouterLsa_within _) fun _ => ?_
  exact Eff.Within.when fun _ => scheduleNetworkLsa_within _

theorem modifyIntf_within {A : Label → Prop} {i : IntfId} (hA : A (.intf i))
    {f : OspfInterface → OspfInterface} (hf : ∀ x, SameRole x (f x)) :
    Eff.Within (Moves A) (modifyIntf i f) :=
  Eff.Within.modify fun s => Lts.Moves.single hA ⟨f (s.intf i), hf _, rfl⟩

theorem dispatchIntf_within {A : Label → Prop} (hA : A .quiet) {event : NbrRef → NbrEvent → Py Unit}
    {i : IntfId} {evt : IntfEvent} (h : ∀ old, Eff.Within (Moves A) (handleIntf event i old evt)) :
    Eff.Within (Moves A) (dispatchIntf event i evt) := by
  refine Eff.Within.read fun s => Eff.Within.bind (h _) fun _ => ?_
  exact Eff.Within.read fun t => Eff.Within.when fun _ => Quiet.within hA (intfStateChanged_within i)

/-- The moves of an election on an interface. -/
def Elects (i : IntfId) (l : Label) : Prop := l = .quiet ∨ l = .elect i

/-- NeighborChange is an election, or nothing. -/
theorem dispatchIntf_nbrChange (depth : Nat) (i : IntfId) :
    Eff.Within (Moves (Elects i)) (dispatchIntf (nbrEventDepth (depth + 1)) i .nbrChange) := by
  refine dispatchIntf_within (Or.inl rfl) fun old => ?_
  have hrun := runDrElection_within (A := Elects i) (Or.inr rfl) depth
  cases old <;> first | exact hrun | exact Eff.Within.pure ()

theorem neighborStateChanged_within (depth : Nat) (n : NbrRef) (old : NbrState) :
    Eff.Within (Moves (Elects n.intf)) (neighborStateChanged (nbrEventDepth (depth + 1)) n old) := by
  refine Eff.Within.read fun s => ?_
  refine Eff.Within.bind (Eff.Within.when fun _ => dispatchIntf_nbrChange depth n.intf) fun _ => ?_
  refine Eff.Within.read fun t => ?_
  refine Eff.Within.bind (Quiet.within (Or.inl rfl) (scheduleRouterLsa_within _)) fun _ => ?_
  exact Eff.Within.when fun _ => Quiet.within (Or.inl rfl) (scheduleNetworkLsa_within _)

/-- An election leaves alone who is not bidirectional. -/
theorem Moves.kept_of_elects {i : IntfId} {s t : Instance} (h : Moves (Elects i) s t) {n : NbrRef}
    (hn : ¬.twoWay ≤ (s.nbr n).state) : t.nbr n = s.nbr n := by
  refine Lts.Moves.invariant (I := fun t => t.nbr n = s.nbr n) ?_ h rfl
  rintro l u v (rfl | rfl) hm hu
  · rw [hm.nbr, hu]
  · rw [hm.kept n fun hc => hn (by rw [← hu]; exact hc.2.2.1), hu]

/-! ## Events of a neighbor -/

/-- The moves of an event that is handled by one move of the neighbor. -/
def EventMoves (n : NbrRef) (m : NbrMove) (l : Label) : Prop :=
  l = .quiet ∨ l = .elect n.intf ∨ l = .nbr n m

theorem EventMoves.of_elects {n : NbrRef} {m : NbrMove} {l : Label} (h : Elects n.intf l) :
    EventMoves n m l := h.imp id Or.inl

/-- An event of a neighbor whose handler is within the moves. -/
theorem nbrEventDepth_moves (depth : Nat) {n : NbrRef} {m : NbrMove} {evt : NbrEvent} {s : Instance}
    (hh : Moves (EventMoves n m) (s.traced n evt)
      (handleNbr (nbrEventDepth (depth + 1)) n (s.nbr n).state evt (s.traced n evt)).2) :
    Moves (EventMoves n m) s (nbrEventDepth (depth + 2) n evt s).2 :=
  dispatchNbr_moves (Or.inl rfl) hh fun old =>
    (neighborStateChanged_within depth n old).mono fun _ _ => Lts.Moves.mono fun _ => .of_elects

theorem nbrFsm_of_isReset {evt : NbrEvent} (h : evt.isReset = true) (st : NbrState) :
    nbrFsm st evt = none := by
  cases evt with
  | killNbr => cases st <;> rfl
  | llDown => cases st <;> rfl
  | inactivityTimer => cases st <;> rfl
  | _ => cases h

/-- KillNbr, LLDown and InactivityTimer: whatever else happens, the neighbor is Down. -/
theorem goDown_moves (depth : Nat) (n : NbrRef) (s : Instance) :
    Moves (EventMoves n .down) s (goDown (nbrEventDepth (depth + 1)) n s).2 ∧
      (goDown (nbrEventDepth (depth + 1)) n s).2.nbr n = (s.nbr n).goneDown := by
  have hdown : Moves (EventMoves n .down) s (s.setNbr n (s.nbr n).goneDown) :=
    Moves.nbr (Or.inr (Or.inr rfl)) (by decide) rfl
  have hrest := Eff.Within.when (p := (s.nbr n).state ≠ .down)
    fun _ => neighborStateChanged_within depth n (s.nbr n).state
  have hfinal := hrest (s.setNbr n (s.nbr n).goneDown)
  have hrun : goDown (nbrEventDepth (depth + 1)) n s = Eff.when ((s.nbr n).state ≠ .down)
      (neighborStateChanged (nbrEventDepth (depth + 1)) n (s.nbr n).state)
      (s.setNbr n (s.nbr n).goneDown) := rfl
  rw [hrun]
  refine ⟨hdown.trans (hfinal.mono fun _ => .of_elects), ?_⟩
  rw [hfinal.kept_of_elects (by
    rw [Instance.nbr_setNbr_self]
    exact (by decide : ¬NbrState.twoWay ≤ .down)), Instance.nbr_setNbr_self]

theorem nbrEventDepth_reset (depth : Nat) (n : NbrRef) {evt : NbrEvent} (h : evt.isReset = true)
    (s : Instance) : Moves (EventMoves n .down) s (nbrEventDepth (depth + 2) n evt s).2 ∧
      (nbrEventDepth (depth + 2) n evt s).2.nbr n = (s.nbr n).goneDown := by
  have hh : handleNbr (nbrEventDepth (depth + 1)) n (s.nbr n).state evt =
      goDown (nbrEventDepth (depth + 1)) n := by
    rw [handleNbr, nbrFsm_of_isReset h, Eff.when_pos h]
  obtain ⟨hmoves, hdown⟩ := goDown_moves depth n (s.traced n evt)
  refine ⟨nbrEventDepth_moves depth (by rw [hh]; exact hmoves), ?_⟩
  -- the interface is told once more; the neighbor stays Down
  have hrest : Eff.Within (Moves (Elects n.intf)) (Eff.get >>= fun t : Instance =>
      Eff.when ((t.nbr n).state ≠ (s.nbr n).state)
        (neighborStateChanged (nbrEventDepth (depth + 1)) n (s.nbr n).state)) :=
    Eff.Within.read fun t => Eff.Within.when fun _ => neighborStateChanged_within depth n _
  change ((handleNbr (nbrEventDepth (depth + 1)) n (s.nbr n).state evt >>= _) (s.traced n evt)).2.nbr n
    = _
  rw [hh, Eff.bind_apply]
  rcases hr : goDown (nbrEventDepth (depth + 1)) n (s.traced n evt) with ⟨r, t⟩
  rw [hr] at hdown
  dsimp only at hdown
  cases r with
  | error e => exact hdown
  | ok a =>
    have hkept := (hrest t).kept_of_elects (n := n) (by
      rw [hdown]
      exact (by decide : ¬NbrState.twoWay ≤ .down))
    exact hkept.trans hdown

/-! ## Events of an interface -/

/-- The moves of bringing the neighbors of an interface down. -/
def Kills (i : IntfId) (l : Label) : Prop :=
  l = .quiet ∨ l = .elect i ∨ ∃ n : NbrRef, n.intf = i ∧ l = .nbr n .down

/-- Bringing neighbors down keeps the list of neighbors, and who is Down stays Down. -/
theorem Moves.kept_of_kills {i : IntfId} {s t : Instance} (h : Moves (Kills i) s t) :
    (t.intf i).neighbors = (s.intf i).neighbors ∧
      ∀ n, (s.nbr n).state = .down → (t.nbr n).state = .down := by
  refine Lts.Moves.invariant (I := fun t => (t.intf i).neighbors = (s.intf i).neighbors ∧
    ∀ n, (s.nbr n).state = .down → (t.nbr n).state = .down) ?_ h ⟨rfl, fun _ h => h⟩
  rintro l u v hl hm ⟨hlist, hdown⟩
  rcases hl with rfl | rfl | ⟨n, rfl, rfl⟩
  · exact ⟨by rw [hm.intf, hlist], fun n hn => by rw [hm.nbr, hdown n hn]⟩
  · refine ⟨?_, fun n hn => ?_⟩
    · obtain ⟨dr, bdr, state, hi⟩ := hm.intf
      rw [hi]
      exact hlist
    · rw [hm.kept n fun hc => absurd hc.2.2.1 (by rw [hdown n hn]; decide), hdown n hn]
  · obtain ⟨x, hx, rfl⟩ := hm
    refine ⟨hlist, fun k hk => ?_⟩
    rw [Instance.nbr_setNbr]
    split
    · rw [hx]
      rfl
    · exact hdown k hk

theorem killAll_moves (depth : Nat) (i : IntfId) : ∀ (ns : List NbrRef) (s : Instance),
    (∀ n ∈ ns, n.intf = i) →
    Moves (Kills i) s
        (Eff.forEach ns (fun n => nbrEventDepth (depth + 2) n .killNbr) s).2 ∧
      ((Eff.forEach ns (fun n => nbrEventDepth (depth + 2) n .killNbr) s).1 = .ok () →
        ∀ n ∈ ns, ((Eff.forEach ns (fun n => nbrEventDepth (depth + 2) n .killNbr) s).2.nbr n).state =
          .down)
  | [], s, _ => ⟨.refl s, fun _ => by simp⟩
  | n :: ns, s, hi => by
    obtain ⟨hmoves, hdown⟩ := nbrEventDepth_reset depth n (show NbrEvent.killNbr.isReset = true from rfl) s
    have hkill : Moves (Kills i) s (nbrEventDepth (depth + 2) n .killNbr s).2 := by
      refine hmoves.mono fun l hl => ?_
      rw [← hi n (List.mem_cons_self ..)]
      exact hl.imp id (Or.imp id fun h => ⟨n, rfl, h⟩)
    rw [Eff.forEach_cons, Eff.bind_apply]
    rcases hr : nbrEventDepth (depth + 2) n .killNbr s with ⟨r, t⟩
    rw [hr] at hdown hkill
    cases r with
    | error e => exact ⟨hkill, fun h => by cases h⟩
    | ok a =>
      obtain ⟨hrest, hok⟩ := killAll_moves depth i ns t fun m hm => hi m (List.mem_cons_of_mem _ hm)
      refine ⟨hkill.trans hrest, fun h m hm => ?_⟩
      rcases List.mem_cons.1 hm with rfl | hm
      · refine hrest.kept_of_kills.2 m ?_
        dsimp only at hdown
        rw [hdown]
        rfl
      · exact hok h m hm

/-- The moves of an interface event. -/
def IntfMoves (i : IntfId) (l : Label) : Prop :=
  Kills i l ∨ l = .intf i ∨ l = .clear i

theorem startHello_within {A : Label → Prop} {i : IntfId} (hq : A .quiet) (hi : A (.intf i)) :
    Eff.Within (Moves A) (startHello i) := by
  refine Eff.Within.bind (modifyIntf_within hi fun x => ⟨rfl, rfl, rfl, rfl, rfl, rfl⟩) fun _ => ?_
  exact Quiet.within hq (sendHello_within i)

theorem ifUp_within (depth : Nat) (i : IntfId) :
    Eff.Within (Moves (IntfMoves i)) (IntfAction.run (nbrEventDepth (depth + 1)) i .ifUp) := by
  have hq : IntfMoves i .quiet := Or.inl (Or.inl rfl)
  have hi : IntfMoves i (.intf i) := Or.inr (Or.inl rfl)
  have hset : ∀ st, Eff.Within (Moves (IntfMoves i)) (modifyIntf i fun x => { x with state := st }) :=
    fun st => modifyIntf_within hi fun x => ⟨rfl, rfl, rfl, rfl, rfl, rfl⟩
  refine Eff.Within.read fun s => ?_
  dsimp only
  refine Eff.Within.ite (hset _) (Eff.Within.ite (Eff.Within.ite ?_ ?_) ?_)
  · refine Eff.Within.bind (hset _) fun _ => Eff.Within.bind (startHello_within hq hi) fun _ => ?_
    exact runDrElection_within (Or.inl (Or.inr (Or.inl rfl))) depth
  · refine Eff.Within.bind (hset _) fun _ => Eff.Within.bind (startHello_within hq hi) fun _ => ?_
    refine Eff.Within.modify fun s => Lts.Moves.single hi ⟨_, ?_, rfl⟩
    exact ⟨rfl, rfl, rfl, rfl, rfl, rfl⟩
  · exact Eff.Within.bind (hset _) fun _ => startHello_within hq hi

theorem ifDown_within (depth : Nat) (i : IntfId) :
    Eff.Within (Moves (IntfMoves i)) (IntfAction.run (nbrEventDepth (depth + 2)) i .ifDown) := by
  intro s
  let u : Instance := s.setIntf i { s.intf i with state := .down }.stopAll
  have hu : Moves (IntfMoves i) s u := by
    refine Lts.Moves.single (l := .intf i) (Or.inr (Or.inl rfl)) ⟨_, ?_, rfl⟩
    exact ⟨rfl, rfl, rfl, rfl, rfl, rfl⟩
  have hof : ∀ n ∈ u.neighborsOf i, n.intf = i := by
    intro n hn
    exact (Instance.mem_neighborsOf.1 hn).1
  obtain ⟨hkill, hdown⟩ := killAll_moves depth i (u.neighborsOf i) u hof
  refine hu.trans ?_
  change Moves (IntfMoves i) u ((Eff.forEach (u.neighborsOf i)
    (fun n => nbrEventDepth (depth + 2) n .killNbr) >>= fun _ => _) u).2
  rw [Eff.bind_apply]
  rcases hr : Eff.forEach (u.neighborsOf i) (fun n => nbrEventDepth (depth + 2) n .killNbr) u with ⟨r, t⟩
  rw [hr] at hkill hdown
  have hkill' : Moves (IntfMoves i) u t := hkill.mono fun l => Or.inl
  cases r with
  | error e => exact hkill'
  | ok a =>
    refine hkill'.tail (l := .clear i) (Or.inr (Or.inr rfl)) ⟨fun n hn => ?_, rfl⟩
    refine hdown rfl n ?_
    rw [Instance.neighborsOf, ← hkill.kept_of_kills.1]
    exact hn

/-- **An interface event is a run of moves.** -/
theorem intfEvent_within (i : IntfId) (evt : IntfEvent) :
    Eff.Within (Moves (IntfMoves i)) (intfEvent i evt) := by
  refine dispatchIntf_within (Or.inl (Or.inl rfl)) fun old => ?_
  have hi : IntfMoves i (.intf i) := Or.inr (Or.inl rfl)
  rw [handleIntf]
  rcases intfFsm old evt with _ | action
  · exact Eff.Within.pure ()
  · have helect := runDrElection_within (A := IntfMoves i) (i := i) (Or.inl (Or.inr (Or.inl rfl))) 99
    cases action with
    | ifUp => exact ifUp_within 99 i
    | waitTimer => exact helect
    | backupSeen =>
      exact Eff.Within.bind (modifyIntf_within hi fun x => ⟨rfl, rfl, rfl, rfl, rfl, rfl⟩) fun _ => helect
    | nbrChange => exact helect
    | loopInd => exact modifyIntf_within hi fun x => ⟨rfl, rfl, rfl, rfl, rfl, rfl⟩
    | unloopInd => exact modifyIntf_within hi fun x => ⟨rfl, rfl, rfl, rfl, rfl, rfl⟩
    | ifDown => exact ifDown_within 98 i

/-! ## The events of a neighbor, one by one -/

section NbrEvents

variable {n : NbrRef} {s : Instance}

theorem nbrEvent_eq (n : NbrRef) (evt : NbrEvent) :
    nbrEvent n evt = dispatchNbr (nbrEventDepth (98 + 1)) n evt := rfl

/-- A move of the neighbor, and nothing else that matters. -/
theorem Moves.nbr_quiet {A : Label → Prop} (hq : A .quiet) {m : NbrMove} (hm : A (.nbr n m))
    (hw : m ≠ .wake) {x : OspfNeighbor} {t : Instance}
    (hx : m.Rel (shouldFormAdjacency s n) (s.nbr n) x) (h : Quiet (s.setNbr n x) t) : Moves A s t :=
  (Moves.nbr hm hw hx).trans (h.moves hq)

theorem Moves.wake {A : Label → Prop} (hA : A (.nbr n .wake))
    (hn : n.routerId ∈ (s.intf n.intf).neighbors) {x : OspfNeighbor}
    (h : NbrMove.wake.Rel (shouldFormAdjacency s n) (s.nbr n) x) : Moves A s (s.setNbr n x) :=
  Lts.Moves.single hA ⟨hn, x, h, rfl⟩

/-- HelloReceived, of a neighbor on the list of its interface. -/
theorem nbrEvent_helloReceived (hn : n.routerId ∈ (s.intf n.intf).neighbors) :
    Moves (fun l => EventMoves n .refresh l ∨ EventMoves n .wake l) s
      (nbrEvent n .helloReceived s).2 := by
  rcases hst : (s.nbr n).state with _ | _ | _ | _ | _ | _ | _ | _
  case down =>
    refine Lts.Moves.mono (fun l => Or.inr) (nbrEventDepth_moves 98 ?_)
    rw [hst]
    exact Moves.wake (A := EventMoves n .wake) (s := s.traced n .helloReceived) (Or.inr (Or.inr rfl)) hn
      ⟨hst, .init, _, Or.inl rfl, rfl⟩
  case attempt =>
    refine Lts.Moves.mono (fun l => Or.inl) (nbrEventDepth_moves 98 ?_)
    rw [hst]
    exact .refl _
  all_goals
    refine Lts.Moves.mono (fun l => Or.inl) (nbrEventDepth_moves 98 ?_)
    rw [hst]
    exact Moves.nbr (Or.inr (Or.inr rfl)) (by decide)
      ⟨by rw [show ((s.traced n .helloReceived).nbr n).state = _ from hst]; decide, _, rfl⟩

/-- Start, of a neighbor on the list of its interface. -/
theorem nbrEvent_start (hn : n.routerId ∈ (s.intf n.intf).neighbors) :
    Moves (EventMoves n .wake) s (nbrEvent n .start s).2 := by
  refine nbrEventDepth_moves 98 ?_
  by_cases hst : (s.nbr n).state = .down
  · rw [hst]
    exact Moves.wake (A := EventMoves n .wake) (s := s.traced n .start) (Or.inr (Or.inr rfl)) hn
      ⟨hst, .attempt, _, Or.inr rfl, rfl⟩
  · have hnone : nbrFsm (s.nbr n).state .start = none := by
      cases h : (s.nbr n).state <;> first | rfl | exact absurd h hst
    rw [handleNbr, hnone]
    exact .refl _

/-- 2-WayReceived. -/
theorem nbrEvent_twoWayReceived (n : NbrRef) :
    Eff.Within (Moves (EventMoves n .decide)) (nbrEvent n .twoWayReceived) := by
  intro s
  refine nbrEventDepth_moves 98 ?_
  have hq : EventMoves n .decide .quiet := Or.inl rfl
  by_cases hst : (s.nbr n).state = .init
  · have hh : handleNbr (nbrEventDepth (98 + 1)) n (s.nbr n).state .twoWayReceived =
        NbrAction.twoWayReceived.run n := by rw [hst]; rfl
    rw [hh, NbrAction.run, Eff.get_bind_apply]
    by_cases hsh : shouldFormAdjacency (s.traced n .twoWayReceived) n = true
    · rw [if_pos hsh]
      obtain ⟨x, t, ht, hx, hqt⟩ := enterExStart_returns n (s.traced n .twoWayReceived)
      rw [ht]
      exact Moves.nbr_quiet hq (Or.inr (Or.inr rfl)) (by decide) ⟨hst, Or.inl ⟨hsh, hx⟩⟩ hqt
    · rw [if_neg hsh]
      exact Moves.nbr (Or.inr (Or.inr rfl)) (by decide)
        ⟨hst, Or.inr ⟨by simpa using hsh, rfl⟩⟩
  · have hnone : nbrFsm (s.nbr n).state .twoWayReceived = none := by
      cases h : (s.nbr n).state <;> first | rfl | exact absurd h hst
    rw [handleNbr, hnone]
    exact .refl _

/-- 1-Way. -/
theorem nbrEvent_oneWay (n : NbrRef) :
    Eff.Within (Moves (EventMoves n .oneWay)) (nbrEvent n .oneWay) := by
  intro s
  refine nbrEventDepth_moves 98 ?_
  by_cases hst : .twoWay ≤ (s.nbr n).state
  · have hh : handleNbr (nbrEventDepth (98 + 1)) n (s.nbr n).state .oneWay =
        NbrAction.oneWay.run n := by
      cases h : (s.nbr n).state <;> rw [h] at hst <;> first | rfl | exact absurd hst (by decide)
    rw [hh]
    exact Moves.nbr (Or.inr (Or.inr rfl)) (by decide) ⟨hst, rfl⟩
  · have hnone : nbrFsm (s.nbr n).state .oneWay = none := by
      cases h : (s.nbr n).state <;> rw [h] at hst <;> first | rfl | exact absurd (by decide) hst
    rw [handleNbr, hnone]
    exact .refl _

/-- SeqNumberMismatch and BadLSReq: an adjacency starts over, or nothing happens. -/
theorem nbrEvent_restart (n : NbrRef) {evt : NbrEvent}
    (h : evt = .seqNumMismatch ∨ evt = .badLsReq) :
    Eff.Within (Moves (EventMoves n .restart)) (nbrEvent n evt) := by
  intro s
  refine nbrEventDepth_moves 98 ?_
  have hcase : handleNbr (nbrEventDepth (98 + 1)) n (s.nbr n).state evt = pure () ∨
      .exStart ≤ (s.nbr n).state ∧
        handleNbr (nbrEventDepth (98 + 1)) n (s.nbr n).state evt = seqNumMismatch n := by
    rcases h with rfl | rfl <;> cases (s.nbr n).state <;>
      first | exact Or.inl rfl | exact Or.inr ⟨by decide, rfl⟩
  rcases hcase with hh | ⟨hst, hh⟩
  · rw [hh]
    exact .refl _
  · rw [hh]
    obtain ⟨x, t, ht, hx, hqt⟩ := seqNumMismatch_returns n (s.traced n evt)
    rw [ht]
    exact Moves.nbr_quiet (m := .restart) (Or.inl rfl) (Or.inr (Or.inr rfl)) (by decide) ⟨hst, hx⟩ hqt

/-- KillNbr, LLDown and InactivityTimer. -/
theorem nbrEvent_reset (n : NbrRef) {evt : NbrEvent} (h : evt.isReset = true) :
    Eff.Within (Moves (EventMoves n .down)) (nbrEvent n evt) :=
  fun s => (nbrEventDepth_reset 98 n h s).1

/-- A handler that does not cross 2-Way, whatever its outcome. -/
theorem dispatchNbr_quiet {event : NbrRef → NbrEvent → Py Unit} {evt : NbrEvent} {x : OspfNeighbor}
    (hq : Quiet (s.setNbr n x) (handleNbr event n (s.nbr n).state evt (s.traced n evt)).2)
    (hx : crossesTwoWay (s.nbr n).state x.state = false) :
    Quiet (s.setNbr n x) (dispatchNbr event n evt s).2 := by
  rcases hr : handleNbr event n (s.nbr n).state evt (s.traced n evt) with ⟨r, t⟩
  rw [hr] at hq
  cases r with
  | ok a =>
    obtain ⟨t', ht', hq'⟩ := dispatchNbr_returns hr hq hx
    rw [ht']
    exact hq'
  | error e =>
    have hrun : dispatchNbr event n evt s = (.error e, t) := by
      rw [dispatchNbr, Eff.modify_bind_apply, Eff.get_bind_apply]
      exact Eff.bind_apply_error hr
    rw [hrun]
    exact hq

/-- NegotiationDone in ExStart. -/
theorem nbrEvent_negotiationDone (h : (s.nbr n).state = .exStart) :
    ∃ t, nbrEvent n .negotiationDone s = (.ok (), t) ∧ Quiet (s.setNbr n { s.nbr n with
      state := .exchange, dbSummaryList := s.lsdb.getAllHeaders (s.intf n.intf).areaId }) t := by
  have hh : handleNbr (nbrEventDepth (98 + 1)) n (s.nbr n).state .negotiationDone =
      NbrAction.negotiationDone.run n := by rw [h]; rfl
  rw [nbrEvent_eq]
  refine dispatchNbr_returns (t := (s.traced n .negotiationDone).setNbr n _) (by rw [hh]; rfl)
    ((quiet_traced s n .negotiationDone).setNbr n _) ?_
  rw [h]
  rfl

/-- LoadingDone in Loading. -/
theorem nbrEvent_loadingDone (h : (s.nbr n).state = .loading) :
    ∃ t, nbrEvent n .loadingDone s = (.ok (), t) ∧
      Quiet (s.setNbr n { s.nbr n with state := .full }) t := by
  have hh : handleNbr (nbrEventDepth (98 + 1)) n (s.nbr n).state .loadingDone =
      NbrAction.loadingDone.run n := by rw [h]; rfl
  rw [nbrEvent_eq]
  refine dispatchNbr_returns (t := (s.traced n .loadingDone).setNbr n _) (by rw [hh]; rfl)
    ((quiet_traced s n .loadingDone).setNbr n _) ?_
  rw [h]
  rfl

/-- Whatever its outcome, sending a request at most starts the timer. -/
theorem sendLsRequest_quiet (n : NbrRef) (s : Instance) : Quiet s (sendLsRequest n s).2 ∨
    Quiet (s.setNbr n { s.nbr n with rxmtTimer := true }) (sendLsRequest n s).2 := by
  rw [sendLsRequest, Eff.get_bind_apply]
  by_cases hne : (s.nbr n).lsRequestList.entries ≠ []
  · rw [Eff.when_pos hne, Eff.lift_bind_apply]
    split
    · rename_i body _
      have hsend := sendPacket_within n.intf packetTypeLsr body (s.nbr n).ipAddr s
      refine Eff.bind_final (P := fun t => Quiet s t ∨
        Quiet (s.setNbr n { s.nbr n with rxmtTimer := true }) t) (Or.inl hsend) fun _ _ => Or.inr ?_
      have hset := hsend.setNbr n { s.nbr n with rxmtTimer := true }
      rw [modifyNbr_apply, hsend.nbr]
      exact hset
    · exact Or.inl (.refl s)
  · rw [Eff.when_neg hne]
    exact Or.inl (.refl s)

/-- ExchangeDone in Exchange. -/
theorem nbrEvent_exchangeDone (h : (s.nbr n).state = .exchange) :
    ∃ x, NbrMove.exchangeDone.Rel (shouldFormAdjacency s n) (s.nbr n) x ∧
      Quiet (s.setNbr n x) (nbrEvent n .exchangeDone s).2 ∧
        ((s.nbr n).TypesFit → (nbrEvent n .exchangeDone s).1 = .ok ()) := by
  have hh : handleNbr (nbrEventDepth (98 + 1)) n (s.nbr n).state .exchangeDone =
      NbrAction.exchangeDone.run n := by rw [h]; rfl
  have hqt := quiet_traced s n .exchangeDone
  have hcross : ∀ st, .exchange ≤ st → crossesTwoWay (s.nbr n).state st = false := by
    intro st hst
    refine crossesTwoWay_eq_false ⟨fun _ => Nat.le_trans ?_ hst, fun _ => ?_⟩
    · decide
    · rw [h]
      decide
  by_cases hempty : (s.nbr n).lsRequestList.entries = []
  · have hrun : handleNbr (nbrEventDepth (98 + 1)) n (s.nbr n).state .exchangeDone
        (s.traced n .exchangeDone) = (.ok (), (s.traced n .exchangeDone).setNbr n
          { s.nbr n with state := .full, rxmtTimer := false }) := by
      have hno : ¬((s.traced n .exchangeDone).nbr n).lsRequestList.entries ≠ [] := not_not.2 hempty
      rw [hh, NbrAction.run, Eff.get_bind_apply, if_neg hno]
      rfl
    obtain ⟨t, ht, hq⟩ := dispatchNbr_returns hrun (hqt.setNbr n _) (hcross .full (by decide))
    rw [nbrEvent_eq, ht]
    exact ⟨_, ⟨h, Or.inl ⟨hempty, rfl⟩⟩, hq, fun _ => rfl⟩
  · have hrun : handleNbr (nbrEventDepth (98 + 1)) n (s.nbr n).state .exchangeDone
        (s.traced n .exchangeDone) = sendLsRequest n ((s.traced n .exchangeDone).setNbr n
          { s.nbr n with state := .loading }) := by
      have hyes : ((s.traced n .exchangeDone).nbr n).lsRequestList.entries ≠ [] := hempty
      rw [hh, NbrAction.run, Eff.get_bind_apply, if_pos hyes]
      rfl
    have hload := hqt.setNbr n { s.nbr n with state := .loading }
    by_cases hfit : (s.nbr n).TypesFit
    · obtain ⟨t, ht, hq⟩ := sendLsRequest_returns n (s := (s.traced n .exchangeDone).setNbr n
        { s.nbr n with state := .loading }) (by rw [Instance.nbr_setNbr_self]; exact hempty)
        (by rw [Instance.nbr_setNbr_self]; exact hfit)
      rw [Instance.nbr_setNbr_self, Instance.setNbr_setNbr] at hq
      obtain ⟨t', ht', hq'⟩ := dispatchNbr_returns (hrun.trans ht) ((hqt.setNbr n _).trans hq)
        (hcross .loading (by decide))
      rw [nbrEvent_eq, ht']
      exact ⟨_, ⟨h, Or.inr ⟨hempty, true, fun _ => rfl, rfl⟩⟩, hq', fun _ => rfl⟩
    · obtain ⟨b, hq⟩ : ∃ b, Quiet (s.setNbr n { s.nbr n with state := .loading, rxmtTimer := b })
          (handleNbr (nbrEventDepth (98 + 1)) n (s.nbr n).state .exchangeDone
            (s.traced n .exchangeDone)).2 := by
        rw [hrun]
        rcases sendLsRequest_quiet n ((s.traced n .exchangeDone).setNbr n
          { s.nbr n with state := .loading }) with hq | hq
        · exact ⟨(s.nbr n).rxmtTimer, (hqt.setNbr n _).trans hq⟩
        · rw [Instance.nbr_setNbr_self, Instance.setNbr_setNbr] at hq
          exact ⟨true, (hqt.setNbr n _).trans hq⟩
      refine ⟨_, ⟨h, Or.inr ⟨hempty, b, fun hc => absurd hc hfit, rfl⟩⟩, ?_, fun hc => absurd hc hfit⟩
      exact dispatchNbr_quiet hq (hcross .loading (by decide))

end NbrEvents
end Ospfd
