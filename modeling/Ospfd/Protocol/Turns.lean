import Ospfd.Protocol.Counter
import Ospfd.Protocol.Sending

/-!
# Taking turns

What one router does with each description it should receive next, to the byte: what it
sends, whether it raises SeqNumberMismatch, what it described and what it requested.

* `Reacts n bodies s t` — the descriptions with the given bodies were sent to a neighbor,
  and no mismatch was raised.
* `becomeSlave_turn`, `becomeMaster_turn`, `masterExchange_turn`, `slaveExchange_turn` —
  the reactions, in the order of an exchange.
-/

namespace Ospfd

/-! ## What a reaction shows -/

/-- The bodies of the descriptions among what was sent to an address on an interface. -/
def descriptionsTo (n : NbrRef) (ipAddr : IPv4Address) (sent : List Sent) : List Bytes :=
  (sent.filter fun p => p.intf = n.intf ∧ p.dest = ipAddr ∧ p.pktType = packetTypeDd).map Sent.body

/-- Between two states no neighbor was given SeqNumberMismatch. -/
def NoMismatch (s t : Instance) : Prop :=
  ∃ evs, t.trace = s.trace ++ evs ∧ ∀ e ∈ evs, e.2 ≠ NbrEvent.seqNumMismatch

namespace NoMismatch

variable {s t u : Instance}

theorem of_eq (h : t.trace = s.trace) : NoMismatch s t := ⟨[], by rw [h, List.append_nil], by simp⟩

theorem trans (h : NoMismatch s t) (h' : NoMismatch t u) : NoMismatch s u := by
  obtain ⟨evs, hevs, hne⟩ := h
  obtain ⟨evs', hevs', hne'⟩ := h'
  refine ⟨evs ++ evs', by rw [hevs', hevs, List.append_assoc], fun e he => ?_⟩
  rcases List.mem_append.1 he with he | he
  · exact hne e he
  · exact hne' e he

end NoMismatch

/-- No description was sent, and no mismatch raised. -/
structure Silent (s t : Instance) : Prop where
  sends : Sends (fun p => p.pktType ≠ packetTypeDd) s t
  noMismatch : NoMismatch s t

namespace Silent

variable {s t u : Instance}

theorem of_eq (hsent : t.sent = s.sent) (htrace : t.trace = s.trace) : Silent s t :=
  ⟨.of_eq hsent, .of_eq htrace⟩

theorem refl (s : Instance) : Silent s s := of_eq rfl rfl

theorem trans (h : Silent s t) (h' : Silent t u) : Silent s u :=
  ⟨h.sends.trans h'.sends, h.noMismatch.trans h'.noMismatch⟩

instance : Std.Refl Silent := ⟨refl⟩

instance : IsTrans Instance Silent := ⟨fun _ _ _ => trans⟩

end Silent

section Silence

variable {n : NbrRef} {s : Instance}

theorem modifyNbr_silent (n : NbrRef) (f : OspfNeighbor → OspfNeighbor) :
    Eff.Within Silent (modifyNbr n f) := Eff.Within.modify fun _ => .of_eq rfl rfl

theorem scheduleRouterLsa_silent (areaId : IPv4Address) : Eff.Within Silent (scheduleRouterLsa areaId) := by
  refine Eff.Within.modify fun s => ?_
  split <;> exact .of_eq rfl rfl

theorem scheduleNetworkLsa_silent (i : IntfId) : Eff.Within Silent (scheduleNetworkLsa i) := by
  refine Eff.Within.modify fun s => ?_
  split <;> exact .of_eq rfl rfl

/-- Sending a packet of another type is silent. -/
theorem sendPacket_silent (i : IntfId) {pktType : Nat} (h : pktType ≠ packetTypeDd) (body : Bytes)
    (dest : IPv4Address) : Eff.Within Silent (sendPacket i pktType body dest) := by
  refine Eff.Within.read fun s => Eff.Within.when fun _ => ?_
  refine Eff.Within.bind (Eff.Within.lift _) fun data => Eff.Within.modify fun s => ?_
  exact ⟨⟨[⟨i, dest, pktType, body, data⟩], rfl, by simpa using h⟩, .of_eq rfl⟩

theorem sendLsRequest_silent (n : NbrRef) : Eff.Within Silent (sendLsRequest n) := by
  refine Eff.Within.read fun s => Eff.Within.when fun _ => Eff.Within.bind (Eff.Within.lift _) fun body => ?_
  exact Eff.Within.bind (sendPacket_silent _ (by decide) _ _) fun _ => modifyNbr_silent n _

/-- An event other than SeqNumberMismatch, whose handler is silent and does not cross
2-Way. -/
theorem dispatchNbr_silent {event : NbrRef → NbrEvent → Py Unit} {evt : NbrEvent}
    (hevt : evt ≠ .seqNumMismatch)
    (hh : Silent (s.traced n evt) (handleNbr event n (s.nbr n).state evt (s.traced n evt)).2)
    (hx : crossesTwoWay (s.nbr n).state
      ((handleNbr event n (s.nbr n).state evt (s.traced n evt)).2.nbr n).state = false) :
    Silent s (dispatchNbr event n evt s).2 := by
  have htraced : Silent s (s.traced n evt) :=
    ⟨.of_eq rfl, [(n, evt)], rfl, by simpa using hevt⟩
  rw [dispatchNbr, Eff.modify_bind_apply, Eff.get_bind_apply]
  refine htraced.trans (Eff.bind_final hh fun _ _ => hh.trans ?_)
  change crossesTwoWay (s.nbr n).state ((handleNbr event n (s.nbr n).state evt (s.traced n evt)).2.nbr n).state = false at hx
  change Silent _ ((Eff.get >>= fun t : Instance => Eff.when ((t.nbr n).state ≠ (s.nbr n).state)
    (neighborStateChanged event n (s.nbr n).state))
      (handleNbr event n (s.nbr n).state evt (s.traced n evt)).2).2
  generalize (handleNbr event n (s.nbr n).state evt (s.traced n evt)).2 = t at hx ⊢
  rw [Eff.get_bind_apply]
  by_cases hne : (t.nbr n).state ≠ (s.nbr n).state
  · rw [Eff.when_pos hne, neighborStateChanged, Eff.get_bind_apply, Eff.when_neg (by simp [hx]),
      Eff.pure_bind_apply]
    refine Eff.Within.read (fun u => Eff.Within.bind (scheduleRouterLsa_silent _) fun _ => ?_) t
    exact Eff.Within.when fun _ => scheduleNetworkLsa_silent _
  · rw [Eff.when_neg hne]
    exact .refl t

/-- NegotiationDone in ExStart is silent. -/
theorem nbrEvent_negotiationDone_silent (h : (s.nbr n).state = .exStart) :
    Silent s (nbrEvent n .negotiationDone s).2 := by
  have hh : handleNbr (nbrEventDepth (98 + 1)) n (s.nbr n).state .negotiationDone =
      NbrAction.negotiationDone.run n := by rw [h]; rfl
  rw [nbrEvent_eq]
  refine dispatchNbr_silent (by rintro ⟨⟩) ?_ ?_
  · rw [hh]
    exact .of_eq rfl rfl
  · rw [hh, h]
    simp [NbrAction.run, crossesTwoWay]
    decide

/-- ExchangeDone in Exchange is silent. -/
theorem nbrEvent_exchangeDone_silent (h : (s.nbr n).state = .exchange) :
    Silent s (nbrEvent n .exchangeDone s).2 := by
  have hh : handleNbr (nbrEventDepth (98 + 1)) n (s.nbr n).state .exchangeDone =
      NbrAction.exchangeDone.run n := by rw [h]; rfl
  have hsilent : Eff.Within Silent (NbrAction.exchangeDone.run n) := Eff.Within.read fun t =>
    Eff.Within.ite (Eff.Within.bind (modifyNbr_silent n _) fun _ => sendLsRequest_silent n)
      (modifyNbr_silent n _)
  rw [nbrEvent_eq]
  refine dispatchNbr_silent (by rintro ⟨⟩) (by rw [hh]; exact hsilent _) ?_
  rw [hh, h, NbrAction.run, Eff.get_bind_apply, Eff.ite_apply]
  split
  · rw [modifyNbr_bind_apply]
    rcases sendLsRequest_quiet n ((s.traced n .exchangeDone).setNbr n
      { s.nbr n with state := .loading }) with hq | hq
    all_goals
      change crossesTwoWay .exchange ((sendLsRequest n ((s.traced n .exchangeDone).setNbr n
        { s.nbr n with state := .loading })).2.nbr n).state = false
      rw [hq.nbr]
      simp only [Instance.nbr_setNbr_self]
      decide
  · rw [modifyNbr_apply, Instance.nbr_setNbr_self]
    exact (by decide : crossesTwoWay .exchange .full = false)

end Silence

/-! ## Reactions -/

/-- A reaction to a neighbor: the descriptions with the given bodies were sent to it, no
mismatch was raised, and nothing but the neighbor changed. -/
structure Reacts (n : NbrRef) (bodies : List Bytes) (s t : Instance) : Prop where
  quiet : Quiet (s.setNbr n (t.nbr n)) t
  routerId : (t.nbr n).routerId = (s.nbr n).routerId
  ipAddr : (t.nbr n).ipAddr = (s.nbr n).ipAddr
  sent : ∃ new, t.sent = s.sent ++ new ∧ descriptionsTo n (s.nbr n).ipAddr new = bodies
  noMismatch : NoMismatch s t

namespace Reacts

variable {n : NbrRef} {bodies bodies' : List Bytes} {s t u : Instance}

theorem intf (h : Reacts n bodies s t) : t.intf = s.intf := h.quiet.intf

theorem heap (h : Reacts n bodies s t) : t.heap = s.heap := h.quiet.heap

theorem lsdb (h : Reacts n bodies s t) : t.lsdb = s.lsdb := h.quiet.lsdb

theorem refl (n : NbrRef) (s : Instance) : Reacts n [] s s where
  quiet := by
    rw [Instance.setNbr_eq_self]
    exact .refl s
  routerId := rfl
  ipAddr := rfl
  sent := ⟨[], (List.append_nil _).symm, rfl⟩
  noMismatch := .of_eq rfl

theorem trans (h : Reacts n bodies s t) (h' : Reacts n bodies' t u) :
    Reacts n (bodies ++ bodies') s u where
  quiet := by
    have hq := h.quiet.setNbr n (u.nbr n)
    rw [Instance.setNbr_setNbr] at hq
    exact hq.trans h'.quiet
  routerId := h'.routerId.trans h.routerId
  ipAddr := h'.ipAddr.trans h.ipAddr
  sent := by
    obtain ⟨new, hnew, hbodies⟩ := h.sent
    obtain ⟨new', hnew', hbodies'⟩ := h'.sent
    rw [h.ipAddr] at hbodies'
    refine ⟨new ++ new', by rw [hnew', hnew, List.append_assoc], ?_⟩
    rw [descriptionsTo, List.filter_append, List.map_append, ← hbodies, ← hbodies']
    rfl
  noMismatch := h.noMismatch.trans h'.noMismatch

/-- What is silent sends no description. -/
theorem of_silent (h : Silent s t) (hq : Quiet (s.setNbr n (t.nbr n)) t)
    (hid : (t.nbr n).routerId = (s.nbr n).routerId) (hip : (t.nbr n).ipAddr = (s.nbr n).ipAddr) :
    Reacts n [] s t := by
  obtain ⟨new, hnew, hne⟩ := h.sends
  refine ⟨hq, hid, hip, ⟨new, hnew, ?_⟩, h.noMismatch⟩
  rw [descriptionsTo, List.map_eq_nil_iff, List.filter_eq_nil_iff]
  intro p hp
  simp [hne p hp]

/-- A change of the neighbor object. -/
theorem setNbr {x : OspfNeighbor} (hid : x.routerId = (s.nbr n).routerId)
    (hip : x.ipAddr = (s.nbr n).ipAddr) : Reacts n [] s (s.setNbr n x) := by
  refine of_silent (.of_eq rfl rfl) ?_ ?_ ?_
  all_goals rw [Instance.nbr_setNbr_self]
  · exact .refl _
  · exact hid
  · exact hip

end Reacts

/-! ## Descriptions -/

/-- The description that is sent next: as many headers of the summary as fit, and M when
there are more. -/
def description (s : Instance) (n : NbrRef) (isMaster : Bool) (seq : Int) (summary : List LsaRef) :
    DDPacket :=
  { interfaceMtu := (s.intf n.intf).mtu
    options := s.options
    flags :=
      let flags := if isMaster then ddFlagMS else 0
      if summary.drop (maxDdHeaders s n) = [] then flags else ddFlagM ||| flags
    ddSeqNumber := seq
    lsaHeaders := (summary.take (maxDdHeaders s n)).map fun r => (s.heap.obj r).header }

section Description

variable {s : Instance} {n : NbrRef} {isMaster : Bool} {seq : Int} {summary : List LsaRef}

@[simp] theorem isInit_description : (description s n isMaster seq summary).isInit = false := by
  cases isMaster <;> simp only [DDPacket.isInit, description] <;> split <;> decide

@[simp] theorem isMaster_description : (description s n isMaster seq summary).isMaster = isMaster := by
  cases isMaster <;> simp only [DDPacket.isMaster, description] <;> split <;> decide

@[simp] theorem isMore_description : (description s n isMaster seq summary).isMore =
    decide (summary.drop (maxDdHeaders s n) ≠ []) := by
  by_cases h : summary.drop (maxDdHeaders s n) = [] <;> cases isMaster <;>
    simp [DDPacket.isMore, description, h, ddFlagM, ddFlagMS]

@[simp] theorem ddSeqNumber_description : (description s n isMaster seq summary).ddSeqNumber = seq := rfl

/-- What is described depends on the interface and on the LSAs only. -/
theorem description_congr {t : Instance} (hintf : t.intf = s.intf) (hheap : t.heap = s.heap) :
    description t n isMaster seq summary = description s n isMaster seq summary := by
  simp only [description, maxDdHeaders, hintf, hheap]
  rfl

end Description

/-! ## Requests -/

/-- A request list after the headers of a description: what this router needs is added. -/
def requestsAfter (s : Instance) (areaId : IPv4Address) (hs : List LsaHeader)
    (requests : Dict LsaKey LsaHeader) : Dict LsaKey LsaHeader :=
  (hs.filter (needsLsa s areaId)).foldl (fun d h => d.set h.key h) requests

theorem requestsAfter_append (s : Instance) (areaId : IPv4Address) (hs hs' : List LsaHeader)
    (requests : Dict LsaKey LsaHeader) : requestsAfter s areaId (hs ++ hs') requests =
      requestsAfter s areaId hs' (requestsAfter s areaId hs requests) := by
  rw [requestsAfter, List.filter_append, List.foldl_append]
  rfl

/-- What is needed depends on the stored LSAs only. -/
theorem requestsAfter_congr {s t : Instance} (hlsdb : t.lsdb = s.lsdb) (hheap : t.heap = s.heap) :
    requestsAfter t = requestsAfter s := by
  have hneeds : needsLsa t = needsLsa s := by
    funext areaId h
    simp only [needsLsa, hlsdb, hheap]
  funext areaId hs requests
  rw [requestsAfter, requestsAfter, hneeds]

/-- The keys that are requested. -/
theorem contains_requestsAfter {s : Instance} {areaId : IPv4Address} {hs : List LsaHeader}
    {requests : Dict LsaKey LsaHeader} {key : LsaKey} :
    (requestsAfter s areaId hs requests).contains key = true ↔
      (∃ h ∈ hs, h.key = key ∧ needsLsa s areaId h = true) ∨ requests.contains key = true := by
  have hfold : ∀ (hs : List LsaHeader) (d : Dict LsaKey LsaHeader),
      (hs.foldl (fun d h => d.set h.key h) d).contains key = true ↔
        (∃ h ∈ hs, h.key = key) ∨ d.contains key = true := by
    intro hs
    induction hs with
    | nil => simp
    | cons h hs ih =>
      intro d
      rw [List.foldl_cons, ih, Dict.contains, Dict.get?_set]
      by_cases hk : h.key = key
      · simp [hk]
      · rw [if_neg hk, ← Dict.contains]
        simp [hk]
  rw [requestsAfter, hfold]
  simp only [List.mem_filter]
  constructor
  · rintro (⟨h, ⟨hmem, hneed⟩, hkey⟩ | hold)
    · exact Or.inl ⟨h, hmem, hkey, hneed⟩
    · exact Or.inr hold
  · rintro (⟨h, hmem, hkey, hneed⟩ | hold)
    · exact Or.inl ⟨h, ⟨hmem, hneed⟩, hkey⟩
    · exact Or.inr hold

/-! ## Turns -/

/-- Where a neighbor stands in an exchange: its role, the number, what is left to describe
to it, and what is requested of it. -/
structure OspfNeighbor.Stands (x : OspfNeighbor) (isMaster : Bool) (seq : Int) (rest : List LsaRef)
    (requests : Dict LsaKey LsaHeader) : Prop where
  ahead : ∀ last, x.lastReceivedDd = some last → last.Behind isMaster seq
  isMaster : x.isMaster = isMaster
  ddSeqNumber : x.ddSeqNumber = seq
  dbSummaryList : x.dbSummaryList = rest
  lsRequestList : x.lsRequestList = requests

/-- A reaction after which a neighbor stands so. -/
structure Turn (n : NbrRef) (bodies : List Bytes) (isMaster : Bool) (seq : Int) (rest : List LsaRef)
    (requests : Dict LsaKey LsaHeader) (s t : Instance) : Prop where
  reacts : Reacts n bodies s t
  stands : (t.nbr n).Stands isMaster seq rest requests

theorem DDPacket.Behind.mono {dd : DDPacket} {isMaster : Bool} {seq seq' : Int} (h : dd.Behind isMaster seq)
    (hle : seq ≤ seq') : dd.Behind isMaster seq' :=
  ⟨h.1.trans hle, fun hm => (h.2 hm).trans_le hle⟩

section Turns

variable {n : NbrRef} {s t u : Instance} {dd : DDPacket} {bodies bodies' : List Bytes} {isMaster : Bool}
  {seq seq' : Int} {rest : List LsaRef} {requests : Dict LsaKey LsaHeader} {x : OspfNeighbor}

namespace OspfNeighbor.Stands

/-- The number goes up. -/
theorem advance (h : x.Stands isMaster seq rest requests) {k : Int} (hk : k = seq') (hle : seq ≤ seq') :
    OspfNeighbor.Stands { x with ddSeqNumber := k } isMaster seq' rest requests :=
  ⟨fun last hlast => (h.ahead last hlast).mono hle, h.isMaster, hk, h.dbSummaryList, h.lsRequestList⟩

/-- The description processed last is remembered. -/
theorem received (h : x.Stands isMaster seq rest requests) (hdd : dd.Behind isMaster seq) :
    OspfNeighbor.Stands { x with lastReceivedDd := some dd } isMaster seq rest requests := by
  refine ⟨fun last hlast => ?_, h.isMaster, h.ddSeqNumber, h.dbSummaryList, h.lsRequestList⟩
  obtain rfl : dd = last := Option.some.inj hlast
  exact hdd

end OspfNeighbor.Stands

namespace Turn

theorem start (h : (s.nbr n).Stands isMaster seq rest requests) :
    Turn n [] isMaster seq rest requests s s := ⟨.refl n s, h⟩

/-- The neighbor object changes. -/
theorem setNbr {isMaster' : Bool} {rest' : List LsaRef} {requests' : Dict LsaKey LsaHeader}
    (h : Turn n bodies isMaster seq rest requests s t) (hid : x.routerId = (t.nbr n).routerId)
    (hip : x.ipAddr = (t.nbr n).ipAddr) (hx : x.Stands isMaster' seq' rest' requests') :
    Turn n bodies isMaster' seq' rest' requests' s (t.setNbr n x) := by
  have hset : Reacts n [] t (t.setNbr n x) := .setNbr hid hip
  refine ⟨by simpa using h.reacts.trans hset, ?_⟩
  rw [Instance.nbr_setNbr_self]
  exact hx

/-- The headers of a description are processed. -/
theorem headers (h : Turn n bodies isMaster seq rest requests s t) (dd : DDPacket) :
    ∃ u, processDdHeaders n dd t = (.ok (), u) ∧ (u.nbr n).state = (t.nbr n).state ∧
      Turn n bodies isMaster seq rest (requestsAfter s (s.intf n.intf).areaId dd.lsaHeaders requests) s u := by
  have hs := h.stands
  refine ⟨_, processDdHeaders_eq n dd t, ?_, ?_⟩
  · rw [Instance.nbr_setNbr_self, OspfNeighbor.foldl_request_eq]
  · rw [OspfNeighbor.foldl_request_eq, ← requestsAfter_congr h.reacts.lsdb h.reacts.heap, ← h.reacts.intf,
      ← hs.lsRequestList]
    exact h.setNbr rfl rfl ⟨hs.ahead, hs.isMaster, hs.ddSeqNumber, hs.dbSummaryList, rfl⟩

/-- **The next batch is sent, as the description it is.** -/
theorem batch (h : Turn n bodies isMaster seq rest requests s u) (hsock : (s.intf n.intf).socket = true)
    (hpack : ∀ r ∈ rest, s.CanPack r) (hseq : -2147483648 ≤ seq ∧ seq < 2147483648) :
    ∃ body t, sendDdBatch n (if isMaster then ddFlagMS else 0) u = (.ok (), t) ∧
      DDPacket.deserialize body = .ok (description s n isMaster seq rest) ∧
      (t.nbr n).state = (u.nbr n).state ∧
      Turn n (bodies ++ [body]) isMaster seq (rest.drop (maxDdHeaders s n)) requests s t := by
  have hs := h.stands
  have hmax : maxDdHeaders u n = maxDdHeaders s n := by rw [maxDdHeaders, h.reacts.intf]; rfl
  rw [sendDdBatch, Eff.get_bind_apply, modifyNbr_bind_apply, hs.dbSummaryList, hmax]
  generalize hv : u.setNbr n { u.nbr n with dbSummaryList := rest.drop (maxDdHeaders s n) } = v
  have hvnbr : v.nbr n = { u.nbr n with dbSummaryList := rest.drop (maxDdHeaders s n) } := by
    rw [← hv, Instance.nbr_setNbr_self]
  have hvturn : Turn n bodies isMaster seq (rest.drop (maxDdHeaders s n)) requests s v := by
    rw [← hv]
    exact h.setNbr rfl rfl ⟨hs.ahead, hs.isMaster, hs.ddSeqNumber, rfl, hs.lsRequestList⟩
  have hheap : v.heap = s.heap := hvturn.reacts.heap
  have hintf : v.intf = s.intf := hvturn.reacts.intf
  generalize hall : (if rest.drop (maxDdHeaders s n) = [] then (if isMaster then ddFlagMS else 0)
    else ddFlagM ||| (if isMaster then ddFlagMS else 0)) = all
  have hbits : all < 256 := by
    rw [← hall]
    cases isMaster <;> split <;> decide
  have hw : ((ddOf v n all (rest.take (maxDdHeaders s n))).packet v.heap).WireRange := by
    refine wireRange_ddOf hbits (by rw [hvturn.stands.ddSeqNumber]; exact hseq) fun r hr => ?_
    rw [hheap]
    exact (hpack r (List.mem_of_mem_take hr)).2.header
  have hsize : 32 + 20 * (rest.take (maxDdHeaders s n)).length < 65536 := by
    have hmtu := (s.intf n.intf).mtu_lt
    have hlen := List.length_take_le (maxDdHeaders s n) rest
    rw [maxDdHeaders] at hlen ⊢
    omega
  obtain ⟨body, data, cryptSeq, hbody, hsend⟩ := sendDd_returns n hw hsize
  rw [hintf, if_pos hsock] at hsend
  obtain ⟨b, hb, -, hde⟩ := DDPacket.deserialize_serialize hw
  obtain rfl : body = b := Except.ok.inj (hbody.symm.trans hb)
  have hvs := hvturn.stands
  refine ⟨body, _, hsend, ?_, ?_, hvturn.reacts.trans ⟨?_, ?_, ?_, ?_, ?_⟩, ?_⟩
  · rw [hde, ← hall]
    simp only [SentDD.packet, ddOf, description, hheap, hintf, hvs.ddSeqNumber]
    rfl
  · rw [Instance.nbr_setNbr_self, hvnbr]
  · rw [Instance.nbr_setNbr_self]
    exact (quiet_withSent ..).setNbr n _
  · rw [Instance.nbr_setNbr_self]
  · rw [Instance.nbr_setNbr_self]
  · exact ⟨_, rfl, by simp [descriptionsTo]⟩
  · exact .of_eq rfl
  · rw [Instance.nbr_setNbr_self]
    exact ⟨hvs.ahead, hvs.isMaster, hvs.ddSeqNumber, hvs.dbSummaryList, hvs.lsRequestList⟩

/-- The negotiation is done: the database is to be described. -/
theorem negotiationDone (hst : x.state = .exStart) (hid : x.routerId = (s.nbr n).routerId)
    (hip : x.ipAddr = (s.nbr n).ipAddr) (hx : x.Stands isMaster seq rest requests) :
    ∃ u, nbrEvent n .negotiationDone (s.setNbr n x) = (.ok (), u) ∧ (u.nbr n).state = .exchange ∧
      Turn n [] isMaster seq (s.lsdb.getAllHeaders (s.intf n.intf).areaId) requests s u := by
  have hxst : ((s.setNbr n x).nbr n).state = .exStart := by
    rw [Instance.nbr_setNbr_self]
    exact hst
  obtain ⟨u, hu, hq⟩ := nbrEvent_negotiationDone hxst
  have hsilent := nbrEvent_negotiationDone_silent hxst
  rw [hu] at hsilent
  rw [Instance.nbr_setNbr_self, Instance.setNbr_setNbr] at hq
  have hnbr : u.nbr n = { x with
      state := .exchange, dbSummaryList := s.lsdb.getAllHeaders (s.intf n.intf).areaId } := by
    rw [hq.nbr, Instance.nbr_setNbr_self]
    rfl
  have hset : Reacts n [] s (s.setNbr n x) := .setNbr hid hip
  refine ⟨u, hu, by rw [hnbr], hset.trans (.of_silent hsilent ?_ ?_ ?_), ?_⟩
  · rw [Instance.setNbr_setNbr, hnbr]
    exact hq
  · rw [hnbr, Instance.nbr_setNbr_self]
  · rw [hnbr, Instance.nbr_setNbr_self]
  · rw [hnbr]
    exact ⟨hx.ahead, hx.isMaster, hx.ddSeqNumber, rfl, hx.lsRequestList⟩

/-- ExchangeDone leaves the exchange as it stands. -/
theorem exchangeDone (h : Turn n bodies isMaster seq rest requests s t) (hst : (t.nbr n).state = .exchange) :
    .exchange < ((nbrEvent n .exchangeDone t).2.nbr n).state ∧
      Turn n bodies isMaster seq rest requests s (nbrEvent n .exchangeDone t).2 := by
  obtain ⟨x, ⟨-, hx⟩, hq, -⟩ := nbrEvent_exchangeDone hst
  have hnbr : (nbrEvent n .exchangeDone t).2.nbr n = x := by rw [hq.nbr, Instance.nbr_setNbr_self]
  have hsilent := nbrEvent_exchangeDone_silent hst
  have hs := h.stands
  obtain ⟨hup, hid, hip, hxs⟩ : .exchange < x.state ∧ x.routerId = (t.nbr n).routerId ∧
      x.ipAddr = (t.nbr n).ipAddr ∧ x.Stands isMaster seq rest requests := by
    rcases hx with ⟨-, rfl⟩ | ⟨-, rxmt, -, rfl⟩
    · exact ⟨(by decide : NbrState.exchange < .full), rfl, rfl,
        hs.ahead, hs.isMaster, hs.ddSeqNumber, hs.dbSummaryList, hs.lsRequestList⟩
    · exact ⟨(by decide : NbrState.exchange < .loading), rfl, rfl,
        hs.ahead, hs.isMaster, hs.ddSeqNumber, hs.dbSummaryList, hs.lsRequestList⟩
  rw [← hnbr] at hq hup hid hip hxs
  exact ⟨hup, by simpa using h.reacts.trans (.of_silent hsilent hq hid hip), hxs⟩

/-- The description processed last is remembered. -/
theorem received (h : Turn n bodies isMaster seq rest requests s t) (hdd : dd.Behind isMaster seq) :
    Turn n bodies isMaster seq rest requests s
      (t.setNbr n { t.nbr n with lastReceivedDd := some dd }) :=
  h.setNbr rfl rfl (h.stands.received hdd)

end Turn

/-! ### Whole turns -/

/-- **The neighbor becomes master**: the first batch is sent, with its number. -/
theorem becomeSlave_turn (hst : (s.nbr n).state = .exStart) (hfresh : (s.nbr n).lastReceivedDd = none)
    (hsock : (s.intf n.intf).socket = true) (hdesc : s.Describable)
    (hseq : -2147483648 ≤ dd.ddSeqNumber ∧ dd.ddSeqNumber < 2147483648) :
    ∃ body, DDPacket.deserialize body = .ok (description s n false dd.ddSeqNumber
        (s.lsdb.getAllHeaders (s.intf n.intf).areaId)) ∧
      ((becomeSlave n dd s).2.nbr n).state = .exchange ∧
      Turn n [body] false dd.ddSeqNumber
        ((s.lsdb.getAllHeaders (s.intf n.intf).areaId).drop (maxDdHeaders s n)) (s.nbr n).lsRequestList
          s (becomeSlave n dd s).2 := by
  obtain ⟨u, hu, hust, hturn⟩ := Turn.negotiationDone (s := s) (n := n) (x := { s.nbr n with
    isMaster := false, ddSeqNumber := dd.ddSeqNumber, ddOptions := dd.options, ddRxmtTimer := false })
    hst rfl rfl ⟨fun last hlast => absurd (hfresh.symm.trans hlast) (by rintro ⟨⟩), rfl, rfl, rfl, rfl⟩
  obtain ⟨body, t, ht, hbody, htst, hsent⟩ := hturn.batch hsock (fun r hr => hdesc _ r hr) hseq
  have hrun : becomeSlave n dd s = (.ok (), t) := by
    rw [becomeSlave, modifyNbr_bind_apply, Eff.bind_apply_ok hu]
    exact ht
  rw [hrun]
  exact ⟨body, hbody, htst.trans hust, hsent⟩

/-- **The neighbor acknowledged this router as master**: its headers are processed, and the
first batch is sent, with the next number. -/
theorem becomeMaster_turn (hst : (s.nbr n).state = .exStart) (hfresh : (s.nbr n).lastReceivedDd = none)
    (hdd : dd.ddSeqNumber = (s.nbr n).ddSeqNumber) (hsock : (s.intf n.intf).socket = true)
    (hdesc : s.Describable)
    (hseq : -2147483648 ≤ dd.ddSeqNumber ∧ dd.ddSeqNumber + 1 < 2147483648) :
    ∃ body, DDPacket.deserialize body = .ok (description s n true (dd.ddSeqNumber + 1)
        (s.lsdb.getAllHeaders (s.intf n.intf).areaId)) ∧
      ((becomeMaster n dd s).2.nbr n).state = .exchange ∧
      Turn n [body] true (dd.ddSeqNumber + 1)
        ((s.lsdb.getAllHeaders (s.intf n.intf).areaId).drop (maxDdHeaders s n))
        (requestsAfter s (s.intf n.intf).areaId dd.lsaHeaders (s.nbr n).lsRequestList)
          s (becomeMaster n dd s).2 := by
  obtain ⟨u, hu, hust, hneg⟩ := Turn.negotiationDone (s := s) (n := n) (x := { s.nbr n with
    isMaster := true, ddOptions := dd.options, ddRxmtTimer := false })
    hst rfl rfl ⟨fun last hlast => absurd (hfresh.symm.trans hlast) (by rintro ⟨⟩), rfl, hdd.symm, rfl, rfl⟩
  obtain ⟨v, hv, hvst, hturn⟩ := hneg.headers dd
  have hnext := hturn.setNbr
    (x := { v.nbr n with lastReceivedDd := some dd, ddSeqNumber := (v.nbr n).ddSeqNumber + 1 }) rfl rfl
    ((hturn.stands.advance (congrArg (· + 1) hturn.stands.ddSeqNumber) (lt_add_one _).le).received
      ⟨(lt_add_one _).le, fun _ => lt_add_one _⟩)
  obtain ⟨body, t, ht, hbody, htst, hsent⟩ := hnext.batch hsock (fun r hr => hdesc _ r hr)
    ⟨by omega, hseq.2⟩
  have hrun : becomeMaster n dd s = (.ok (), t) := by
    rw [becomeMaster, modifyNbr_bind_apply, Eff.bind_apply_ok hu, Eff.bind_apply_ok hv,
      modifyNbr_bind_apply, modifyNbr_bind_apply]
    simp only [Instance.nbr_setNbr_self, Instance.setNbr_setNbr]
    exact ht
  rw [Instance.nbr_setNbr_self] at htst
  rw [hrun]
  exact ⟨body, hbody, htst.trans (hvst.trans hust), hsent⟩

/-- What a master does with an expected description, up to the answer. -/
theorem masterExchange_next (dd : DDPacket) (hstands : (s.nbr n).Stands true seq rest requests) :
    ∃ v, (v.nbr n).state = (s.nbr n).state ∧ Turn n [] true (seq + 1) rest
        (requestsAfter s (s.intf n.intf).areaId dd.lsaHeaders requests) s v ∧
      masterExchange n dd s = ((if ¬dd.isMore ∧ rest = [] then nbrEvent n .exchangeDone else sendDdMaster n) >>=
        fun _ => modifyNbr n fun x => { x with lastReceivedDd := some dd }) v := by
  obtain ⟨v, hv, hvst, hturn⟩ := (Turn.start hstands).headers dd
  have hnext := hturn.setNbr (x := { v.nbr n with ddSeqNumber := (v.nbr n).ddSeqNumber + 1 }) rfl rfl
    (hturn.stands.advance (congrArg (· + 1) hturn.stands.ddSeqNumber) (lt_add_one _).le)
  refine ⟨_, ?_, hnext, ?_⟩
  · rw [Instance.nbr_setNbr_self]
    exact hvst
  · have hrest := hnext.stands.dbSummaryList
    rw [masterExchange, Eff.bind_apply_ok hv, modifyNbr_bind_apply, Eff.get_bind_apply, exchangeOver, hrest]
    simp only [decide_eq_true_eq]

/-- **A master goes on to the next number**, and sends the next batch. -/
theorem masterExchange_turn (hst : (s.nbr n).state = .exchange)
    (hstands : (s.nbr n).Stands true seq rest requests) (hdd : dd.ddSeqNumber = seq)
    (hsock : (s.intf n.intf).socket = true) (hpack : ∀ r ∈ rest, s.CanPack r)
    (hseq : -2147483648 ≤ seq ∧ seq + 1 < 2147483648) (hmore : ¬(dd.isMore = false ∧ rest = [])) :
    ∃ body, DDPacket.deserialize body = .ok (description s n true (seq + 1) rest) ∧
      ((masterExchange n dd s).2.nbr n).state = .exchange ∧
      Turn n [body] true (seq + 1) (rest.drop (maxDdHeaders s n))
        (requestsAfter s (s.intf n.intf).areaId dd.lsaHeaders requests) s (masterExchange n dd s).2 := by
  obtain ⟨v, hvst, hturn, hrun⟩ := masterExchange_next dd hstands
  obtain ⟨body, t, ht, hbody, htst, hsent⟩ := hturn.batch hsock hpack ⟨by omega, hseq.2⟩
  have ht' : sendDdMaster n v = (.ok (), t) := ht
  rw [if_neg (by simpa using hmore), Eff.bind_apply_ok ht', modifyNbr_apply] at hrun
  rw [hrun]
  refine ⟨body, hbody, ?_, hsent.received ⟨by omega, fun _ => by omega⟩⟩
  dsimp only
  rw [Instance.nbr_setNbr_self]
  exact htst.trans (hvst.trans hst)

/-- **A master to which everything was described, and that has described everything, is
done.** -/
theorem masterExchange_done (hst : (s.nbr n).state = .exchange)
    (hstands : (s.nbr n).Stands true seq rest requests) (hdd : dd.ddSeqNumber = seq)
    (hmore : dd.isMore = false ∧ rest = []) :
    .exchange < ((masterExchange n dd s).2.nbr n).state ∧
      Turn n [] true (seq + 1) rest (requestsAfter s (s.intf n.intf).areaId dd.lsaHeaders requests)
        s (masterExchange n dd s).2 := by
  obtain ⟨v, hvst, hturn, hrun⟩ := masterExchange_next dd hstands
  obtain ⟨hup, hdone⟩ := hturn.exchangeDone (hvst.trans hst)
  rw [if_pos (by simpa using hmore)] at hrun
  rw [hrun]
  refine Eff.bind_final (P := fun t => .exchange < (t.nbr n).state ∧ Turn n [] true (seq + 1) rest
    (requestsAfter s (s.intf n.intf).areaId dd.lsaHeaders requests) s t) ⟨hup, hdone⟩ fun _ _ => ?_
  rw [modifyNbr_apply]
  refine ⟨?_, hdone.received ⟨by omega, fun _ => by omega⟩⟩
  dsimp only
  rw [Instance.nbr_setNbr_self]
  exact hup

/-- **A slave answers with its next batch**, and is done when there is no more on either
side. -/
theorem slaveExchange_turn (hst : (s.nbr n).state = .exchange)
    (hstands : (s.nbr n).Stands false seq rest requests) (hdd : seq ≤ dd.ddSeqNumber)
    (hsock : (s.intf n.intf).socket = true) (hpack : ∀ r ∈ rest, s.CanPack r)
    (hseq : -2147483648 ≤ dd.ddSeqNumber ∧ dd.ddSeqNumber < 2147483648) :
    ∃ body, DDPacket.deserialize body = .ok (description s n false dd.ddSeqNumber rest) ∧
      (if dd.isMore = false ∧ rest.drop (maxDdHeaders s n) = [] then
        .exchange < ((slaveExchange n dd s).2.nbr n).state
      else ((slaveExchange n dd s).2.nbr n).state = .exchange) ∧
      Turn n [body] false dd.ddSeqNumber (rest.drop (maxDdHeaders s n))
        (requestsAfter s (s.intf n.intf).areaId dd.lsaHeaders requests) s (slaveExchange n dd s).2 := by
  have hcount := (Turn.start hstands).setNbr (x := { s.nbr n with ddSeqNumber := dd.ddSeqNumber }) rfl rfl
    (hstands.advance rfl hdd)
  obtain ⟨v, hv, hvst, hturn⟩ := hcount.headers dd
  obtain ⟨body, t, ht, hbody, htst, hsent⟩ := hturn.batch hsock hpack hseq
  have ht' : sendDdSlave n v = (.ok (), t) := ht
  have htex : (t.nbr n).state = .exchange := by
    rw [htst, hvst, Instance.nbr_setNbr_self]
    exact hst
  refine ⟨body, hbody, ?_⟩
  rw [slaveExchange, modifyNbr_bind_apply, Eff.bind_apply_ok hv, Eff.bind_apply_ok ht', Eff.get_bind_apply]
  have hover : exchangeOver t n dd = decide (dd.isMore = false ∧ rest.drop (maxDdHeaders s n) = []) := by
    rw [exchangeOver, hsent.stands.dbSummaryList]
    simp
  rw [hover]
  by_cases hmore : dd.isMore = false ∧ rest.drop (maxDdHeaders s n) = []
  · obtain ⟨hup, hdone⟩ := hsent.exchangeDone htex
    rw [Eff.when_pos (by simpa using hmore), if_pos hmore]
    refine Eff.bind_final (P := fun u => .exchange < (u.nbr n).state ∧ Turn n [body] false dd.ddSeqNumber
      (rest.drop (maxDdHeaders s n)) (requestsAfter s (s.intf n.intf).areaId dd.lsaHeaders requests) s u)
      ⟨hup, hdone⟩ fun _ _ => ?_
    rw [modifyNbr_apply]
    refine ⟨?_, hdone.received ⟨le_refl _, by rintro ⟨⟩⟩⟩
    dsimp only
    rw [Instance.nbr_setNbr_self]
    exact hup
  · rw [Eff.when_neg (by simpa using hmore), if_neg hmore, Eff.pure_bind_apply, modifyNbr_apply]
    refine ⟨?_, hsent.received ⟨le_refl _, by rintro ⟨⟩⟩⟩
    dsimp only
    rw [Instance.nbr_setNbr_self]
    exact htex

end Turns
end Ospfd
