import Ospfd.Lsdb.Objects
import Ospfd.Lsdb.Spread

/-!
# The procedures of a neighbor, as moves

What the packets of a neighbor and its timers do, by the moves they may consist of.

* `processHello_within` — a Hello may create the neighbor, and carries its address.
* `processDd_moves` — a description; in Exchange and above it never starts an exchange
  anew without going back to ExStart (`Exchanges`).
* `processLsRequest_within`, `receiveLsu_moves`, `processLsAck_within` — the other packets.
* `inactivityTimeout_within`, `rxmtTimeout_within` — the timers.
-/

namespace Ospfd

/-! ## Hellos -/

/-- The moves of a Hello from a neighbor with an address. -/
inductive Greets (n : NbrRef) (src : IPv4Address) : Label → Prop
  | intf {l : Label} (h : IntfMoves n.intf l) : Greets n src l
  | create : Greets n src (.create n src)
  | hello : Greets n src (.nbr n (.hello src))
  | refresh : Greets n src (.nbr n .refresh)
  | wake : Greets n src (.nbr n .wake)
  | decide : Greets n src (.nbr n .decide)
  | oneWay : Greets n src (.nbr n .oneWay)

/-- The moves of a Hello from a neighbor that is there. -/
def Hears (n : NbrRef) (src : IPv4Address) (l : Label) : Prop := Greets n src l ∧ l ≠ .create n src

theorem EventMoves.hears {n : NbrRef} {src : IPv4Address} {m : NbrMove} {l : Label}
    (hm : Greets n src (.nbr n m)) (h : EventMoves n m l) : Hears n src l := by
  rcases h with rfl | rfl | rfl
  · exact ⟨.intf (Or.inl (Or.inl rfl)), by rintro ⟨⟩⟩
  · exact ⟨.intf (Or.inl (Or.inr (Or.inl rfl))), by rintro ⟨⟩⟩
  · exact ⟨hm, by rintro ⟨⟩⟩

theorem IntfMoves.hears {n : NbrRef} {src : IPv4Address} {l : Label} (h : IntfMoves n.intf l) :
    Hears n src l := by
  refine ⟨.intf h, ?_⟩
  rintro rfl
  rcases h with (h | h | ⟨j, -, h⟩) | h | h <;> cases h

theorem helloTwoWay_within (n : NbrRef) (hello : HelloPacket) (src : IPv4Address) :
    Eff.Within (Moves (Hears n src)) (helloTwoWay n hello) := by
  refine Eff.Within.read fun s => Eff.Within.ite (Eff.Within.when fun _ => ?_)
    (Eff.Within.when fun _ => ?_)
  · exact (nbrEvent_twoWayReceived n).mono fun _ _ => Lts.Moves.mono fun _ => EventMoves.hears .decide
  · exact (nbrEvent_oneWay n).mono fun _ _ => Lts.Moves.mono fun _ => EventMoves.hears .oneWay

theorem helloFrom_moves {n : NbrRef} (hello : HelloPacket) (src : IPv4Address) {s : Instance}
    (hn : n.routerId ∈ (s.intf n.intf).neighbors) :
    Moves (Hears n src) s (helloFrom n hello src s).2 := by
  have hintf : ∀ evt, Eff.Within (Moves (Hears n src)) (intfEvent n.intf evt) := fun evt =>
    (intfEvent_within n.intf evt).mono fun _ _ => Lts.Moves.mono fun _ => IntfMoves.hears
  let t : Instance := s.setNbr n { s.nbr n with
    ipAddr := src, priority := hello.priority, dr := hello.designatedRouter,
    bdr := hello.backupDesignatedRouter }
  have ht : Moves (Hears n src) s t := Moves.nbr ⟨.hello, by rintro ⟨⟩⟩ (by rintro ⟨⟩) ⟨_, _, _, rfl⟩
  have hrecv : Moves (Hears n src) t (nbrEvent n .helloReceived t).2 :=
    (nbrEvent_helloReceived (s := t) hn).mono fun l hl => by
      rcases hl with hl | hl
      · exact hl.hears .refresh
      · exact hl.hears .wake
  rw [helloFrom, Eff.get_bind_apply, modifyNbr_bind_apply]
  refine Eff.bind_final (ht.trans hrecv) fun _ _ => (ht.trans hrecv).trans ?_
  refine Eff.Within.bind (helloTwoWay_within n hello src) (fun _ => ?_) _
  refine Eff.Within.read fun u => Eff.Within.bind (Eff.Within.when fun _ => hintf _) fun _ => ?_
  exact Eff.Within.read fun v => Eff.Within.when fun _ => hintf _

/-- A neighbor that is found is on the list of its interface. -/
theorem findOrCreate_moves (n : NbrRef) (src : IPv4Address) (s : Instance) :
    Moves (Greets n src) s (findOrCreate n.intf src n.routerId s).2 ∧
      ((findOrCreate n.intf src n.routerId s).1 = .ok true →
        n.routerId ∈ ((findOrCreate n.intf src n.routerId s).2.intf n.intf).neighbors) := by
  rw [findOrCreate, Eff.get_bind_apply]
  by_cases hmem : n.routerId ∈ (s.intf n.intf).neighbors
  · rw [if_pos hmem]
    exact ⟨.refl s, fun _ => hmem⟩
  · rw [if_neg hmem]
    by_cases hfull : maxNeighbors ≤ (s.intf n.intf).neighbors.length
    · rw [if_pos hfull]
      exact ⟨.refl s, fun hfalse => by cases hfalse⟩
    · rw [if_neg hfull]
      refine ⟨Lts.Moves.single (l := .create n src) .create ⟨hmem, rfl⟩, fun _ => ?_⟩
      change n.routerId ∈ ((Instance.setIntf _ n.intf _).intf n.intf).neighbors
      rw [Instance.intf_setIntf_self]
      exact List.mem_append_right _ (List.mem_singleton_self _)

/-- **A Hello.** -/
theorem processHello_within (n : NbrRef) (hello : HelloPacket) (src : IPv4Address) :
    Eff.Within (Moves (Greets n src)) (processHello n.intf hello src n.routerId) := by
  refine Eff.Within.read fun s => Eff.Within.when fun _ => fun t => ?_
  obtain ⟨hfind, hmem⟩ := findOrCreate_moves n src t
  refine Eff.bind_final hfind fun found hfound => hfind.trans ?_
  cases found with
  | true => exact (helloFrom_moves hello src (hmem hfound)).mono fun _ hl => hl.1
  | false => exact .refl _

/-! ## Database descriptions -/

/-- The moves of a description received in Exchange or above. -/
inductive Exchanges (n : NbrRef) : Label → Prop
  | quiet : Exchanges n .quiet
  | elect : Exchanges n (.elect n.intf)
  | restart : Exchanges n (.nbr n .restart)
  | request (h : LsaHeader) : Exchanges n (.nbr n (.request h))
  | describe : Exchanges n (.nbr n .describe)
  | received : Exchanges n (.nbr n .received)
  | exchangeDone : Exchanges n (.nbr n .exchangeDone)

/-- The moves of any description. -/
inductive Negotiates (n : NbrRef) : Label → Prop
  | exchange {l : Label} (h : Exchanges n l) : Negotiates n l
  | decide : Negotiates n (.nbr n .decide)
  | negotiate : Negotiates n (.nbr n .negotiate)

theorem Describes.exchanges {n : NbrRef} {l : Label} (h : Describes n l) : Exchanges n l := by
  rcases h with rfl | rfl
  · exact .quiet
  · exact .describe

/-- A neighbor with one more header requested. -/
def OspfNeighbor.request (x : OspfNeighbor) (h : LsaHeader) : OspfNeighbor :=
  { x with lsRequestList := x.lsRequestList.set h.key h, requested := x.requested ++ [h] }

/-- `_process_dd_headers` requests the headers that are needed, and nothing else. -/
theorem processDdHeaders_eq (n : NbrRef) (dd : DDPacket) (s : Instance) :
    processDdHeaders n dd s = (.ok (), s.setNbr n
      ((dd.lsaHeaders.filter (needsLsa s (s.intf n.intf).areaId)).foldl OspfNeighbor.request
        (s.nbr n))) := by
  rw [processDdHeaders]
  generalize dd.lsaHeaders = hs
  induction hs generalizing s with
  | nil =>
    rw [List.filter_nil, List.foldl_nil, Instance.setNbr_eq_self]
    rfl
  | cons h hs ih =>
    rw [Eff.forEach_cons, Eff.bind_apply, Eff.get_bind_apply]
    by_cases hneed : needsLsa s (s.intf n.intf).areaId h = true
    · rw [Eff.when_pos hneed, modifyNbr_apply, List.filter_cons_of_pos hneed, List.foldl_cons]
      dsimp only
      rw [ih, Instance.setNbr_setNbr, Instance.nbr_setNbr_self]
      rfl
    · rw [Eff.when_neg hneed, Eff.pure_apply, List.filter_cons_of_neg hneed]
      dsimp only
      rw [ih]

/-- Requesting headers changes only the lists of requests. -/
theorem OspfNeighbor.foldl_request_eq (hs : List LsaHeader) (x : OspfNeighbor) :
    hs.foldl OspfNeighbor.request x = { x with
      lsRequestList := hs.foldl (fun d h => d.set h.key h) x.lsRequestList
      requested := x.requested ++ hs } := by
  induction hs generalizing x with
  | nil => simp
  | cons h hs ih =>
    rw [List.foldl_cons, ih]
    simp [OspfNeighbor.request]

theorem processDdHeaders_requests (n : NbrRef) (dd : DDPacket) (s : Instance) :
    ∃ lsRequestList requested,
      processDdHeaders n dd s = (.ok (), s.setNbr n { s.nbr n with lsRequestList, requested }) :=
  ⟨_, _, by rw [processDdHeaders_eq, OspfNeighbor.foldl_request_eq]⟩

theorem Moves.requests {A : Label → Prop} {n : NbrRef} (hA : ∀ h, A (.nbr n (.request h))) :
    ∀ (hs : List LsaHeader) (s : Instance), (s.nbr n).state = .exchange →
      (∀ h ∈ hs, h.lsType < 4294967296) →
      Moves A s (s.setNbr n (hs.foldl OspfNeighbor.request (s.nbr n)))
  | [], s, _, _ => by
    rw [List.foldl_nil, Instance.setNbr_eq_self]
    exact .refl s
  | h :: hs, s, hst, htypes => by
    have hone : Moves A s (s.setNbr n ((s.nbr n).request h)) :=
      Moves.nbr (hA h) nofun ⟨hst, htypes h (List.mem_cons_self ..), rfl⟩
    have hrest := Moves.requests hA hs (s.setNbr n ((s.nbr n).request h))
      (by rw [Instance.nbr_setNbr_self]; exact hst) fun k hk => htypes k (List.mem_cons_of_mem _ hk)
    rw [Instance.nbr_setNbr_self, Instance.setNbr_setNbr] at hrest
    exact hone.trans hrest

section Descriptions

variable {n : NbrRef} {dd : DDPacket} {s : Instance}

theorem processDdHeaders_moves {A : Label → Prop} (hA : ∀ h, A (.nbr n (.request h)))
    (hst : (s.nbr n).state = .exchange) (htypes : ∀ h ∈ dd.lsaHeaders, h.lsType < 4294967296) :
    Moves A s (processDdHeaders n dd s).2 ∧
      ((processDdHeaders n dd s).2.nbr n).state = .exchange := by
  rw [processDdHeaders_eq]
  refine ⟨Moves.requests hA _ s hst fun h hh => htypes h (List.mem_of_mem_filter hh), ?_⟩
  rw [Instance.nbr_setNbr_self, OspfNeighbor.foldl_request_eq]
  exact hst

/-- Describing does not change the state. -/
theorem Moves.state_of_describes {t : Instance} (h : Moves (Describes n) s t) :
    (t.nbr n).state = (s.nbr n).state := by
  refine Lts.Moves.invariant (I := fun t => (t.nbr n).state = (s.nbr n).state) ?_ h rfl
  rintro l u v (rfl | rfl) hm hu
  · rw [hm.nbr, hu]
  · obtain ⟨x, ⟨_, _, _, -, rfl⟩, rfl⟩ := hm
    rw [Instance.nbr_setNbr_self]
    exact hu

theorem Moves.received {A : Label → Prop} (hA : A (.nbr n .received)) (dd : DDPacket)
    (hst : .exchange ≤ (s.nbr n).state) :
    Moves A s (modifyNbr n (fun x => { x with lastReceivedDd := some dd }) s).2 :=
  Moves.nbr hA nofun ⟨hst, dd, rfl⟩

/-- Changing the sequence number is describing. -/
theorem sequence_within {A : Label → Prop} (hA : A (.nbr n .describe)) (f : Int → Int) :
    Eff.Within (Moves A) (modifyNbr n fun x => { x with ddSeqNumber := f x.ddSeqNumber }) :=
  fun _ => Moves.nbr hA nofun ⟨_, _, _, id, rfl⟩

/-- A neighbor that becomes master: it is described to, and nothing is requested of it. -/
theorem becomeSlave_moves (hst : (s.nbr n).state = .exStart) :
    Moves (fun l => l = .nbr n .negotiate ∨ Describes n l) s (becomeSlave n dd s).2 := by
  let x : OspfNeighbor := { s.nbr n with
    isMaster := false, ddSeqNumber := dd.ddSeqNumber, ddOptions := dd.options, ddRxmtTimer := false }
  obtain ⟨t, ht, hq⟩ := nbrEvent_negotiationDone (n := n) (s := s.setNbr n x)
    (by rw [Instance.nbr_setNbr_self]; exact hst)
  rw [Instance.nbr_setNbr_self, Instance.setNbr_setNbr] at hq
  have hneg : Moves (fun l => l = .nbr n .negotiate ∨ Describes n l) s t :=
    Moves.nbr_quiet (m := .negotiate) (Or.inr (Or.inl rfl)) (Or.inl rfl) nofun ⟨hst, _, _, _, _, rfl⟩ hq
  rw [becomeSlave, modifyNbr_bind_apply, Eff.bind_apply_ok ht]
  exact hneg.trans ((sendDdBatch_within n 0 t).mono fun _ => Or.inr)

theorem becomeMaster_moves (hst : (s.nbr n).state = .exStart)
    (htypes : ∀ h ∈ dd.lsaHeaders, h.lsType < 4294967296) :
    Moves (Negotiates n) s (becomeMaster n dd s).2 := by
  let x : OspfNeighbor :=
    { s.nbr n with isMaster := true, ddOptions := dd.options, ddRxmtTimer := false }
  obtain ⟨t, ht, hq⟩ := nbrEvent_negotiationDone (n := n) (s := s.setNbr n x)
    (by rw [Instance.nbr_setNbr_self]; exact hst)
  rw [Instance.nbr_setNbr_self, Instance.setNbr_setNbr] at hq
  have hneg : Moves (Negotiates n) s t :=
    Moves.nbr_quiet (m := .negotiate) (.exchange .quiet) .negotiate nofun ⟨hst, _, _, _, _, rfl⟩ hq
  have htst : (t.nbr n).state = .exchange := by rw [hq.nbr, Instance.nbr_setNbr_self]
  obtain ⟨hheaders, hst'⟩ := processDdHeaders_moves (A := Negotiates n)
    (fun h => .exchange (.request h)) htst htypes
  rw [becomeMaster, modifyNbr_bind_apply, Eff.bind_apply_ok ht]
  refine Eff.bind_final (hneg.trans hheaders) fun _ _ => (hneg.trans hheaders).trans ?_
  rw [modifyNbr_bind_apply]
  refine (Moves.received (.exchange .received) dd (by rw [hst']; decide)).trans ?_
  refine Eff.Within.bind (sequence_within (.exchange .describe) (· + 1)) (fun _ => ?_) _
  exact (sendDdBatch_within n ddFlagMS).mono fun _ _ =>
    Lts.Moves.mono fun _ hl => .exchange hl.exchanges

theorem processDdExstart_moves (hst : (s.nbr n).state = .exStart)
    (htypes : ∀ h ∈ dd.lsaHeaders, h.lsType < 4294967296) :
    Moves (Negotiates n) s (processDdExstart n dd s).2 := by
  rw [processDdExstart, Eff.get_bind_apply, Eff.ite_apply]
  split
  · by_cases hrid : s.routerId < (s.nbr n).routerId
    · rw [Eff.when_pos hrid]
      refine (becomeSlave_moves hst).mono fun l hl => ?_
      rcases hl with rfl | hl
      · exact .negotiate
      · exact .exchange hl.exchanges
    · rw [Eff.when_neg hrid]
      exact .refl s
  · by_cases hack : ¬dd.isInit ∧ ¬dd.isMaster ∧ (s.nbr n).routerId < s.routerId ∧
        dd.ddSeqNumber = (s.nbr n).ddSeqNumber
    · rw [Eff.when_pos hack]
      exact becomeMaster_moves hst htypes
    · rw [Eff.when_neg hack]
      exact .refl s

/-- ExchangeDone, as a move that stays in Exchange or above. -/
theorem exchangeDone_moves (hst : (s.nbr n).state = .exchange) :
    Moves (Exchanges n) s (nbrEvent n .exchangeDone s).2 ∧
      .exchange ≤ ((nbrEvent n .exchangeDone s).2.nbr n).state := by
  obtain ⟨x, hx, hq, -⟩ := nbrEvent_exchangeDone hst
  refine ⟨Moves.nbr_quiet (m := .exchangeDone) .quiet .exchangeDone nofun hx hq, ?_⟩
  rw [hq.nbr, Instance.nbr_setNbr_self]
  rcases hx.2 with ⟨-, rfl⟩ | ⟨-, b, -, rfl⟩
  · exact Nat.le_add_right 5 2
  · exact Nat.le_add_right 5 1

theorem sendDdBatch_moves (flags : Nat) :
    Moves (Exchanges n) s (sendDdBatch n flags s).2 ∧
      ((sendDdBatch n flags s).2.nbr n).state = (s.nbr n).state := by
  have h := sendDdBatch_within n flags s
  exact ⟨h.mono fun _ => Describes.exchanges, h.state_of_describes⟩

theorem masterExchange_moves (hst : (s.nbr n).state = .exchange)
    (htypes : ∀ h ∈ dd.lsaHeaders, h.lsType < 4294967296) :
    Moves (Exchanges n) s (masterExchange n dd s).2 := by
  obtain ⟨hheaders, hst'⟩ := processDdHeaders_moves (A := Exchanges n) .request hst htypes
  rw [masterExchange]
  refine Eff.bind_final hheaders fun _ _ => hheaders.trans ?_
  generalize (processDdHeaders n dd s).2 = t at hst'
  refine (sequence_within .describe (· + 1) t).trans ?_
  rw [modifyNbr_bind_apply, modifyNbr_apply]
  generalize hu : t.setNbr n { t.nbr n with ddSeqNumber := (t.nbr n).ddSeqNumber + 1 } = u
  have hust : (u.nbr n).state = .exchange := by
    rw [← hu, Instance.nbr_setNbr_self]
    exact hst'
  rw [Eff.get_bind_apply]
  -- both branches stay in Exchange or above
  obtain ⟨hmoves, hup⟩ : Moves (Exchanges n) u
        ((if exchangeOver u n dd then nbrEvent n .exchangeDone else sendDdMaster n) u).2 ∧
      .exchange ≤ (((if exchangeOver u n dd then nbrEvent n .exchangeDone
        else sendDdMaster n) u).2.nbr n).state := by
    split
    · exact exchangeDone_moves hust
    · obtain ⟨hm, hs⟩ := sendDdBatch_moves (n := n) (s := u) ddFlagMS
      exact ⟨hm, by rw [sendDdMaster, hs, hust]; decide⟩
  exact Eff.bind_final hmoves fun _ _ => hmoves.trans (Moves.received .received dd hup)

theorem slaveExchange_moves (hst : (s.nbr n).state = .exchange)
    (htypes : ∀ h ∈ dd.lsaHeaders, h.lsType < 4294967296) :
    Moves (Exchanges n) s (slaveExchange n dd s).2 := by
  rw [slaveExchange, modifyNbr_bind_apply]
  refine (sequence_within .describe (fun _ => dd.ddSeqNumber) s).trans ?_
  rw [modifyNbr_apply]
  generalize hu : s.setNbr n { s.nbr n with ddSeqNumber := dd.ddSeqNumber } = u
  have hust : (u.nbr n).state = .exchange := by
    rw [← hu, Instance.nbr_setNbr_self]
    exact hst
  obtain ⟨hheaders, hst'⟩ := processDdHeaders_moves (A := Exchanges n) .request hust htypes
  refine Eff.bind_final hheaders fun _ _ => hheaders.trans ?_
  generalize (processDdHeaders n dd u).2 = v at hst'
  obtain ⟨hsend, hsame⟩ : Moves (Exchanges n) v (sendDdSlave n v).2 ∧
      ((sendDdSlave n v).2.nbr n).state = (v.nbr n).state := sendDdBatch_moves 0
  refine Eff.bind_final hsend fun _ _ => hsend.trans ?_
  rw [hst'] at hsame
  generalize (sendDdSlave n v).2 = w at hsame
  rw [Eff.get_bind_apply]
  by_cases hover : exchangeOver w n dd = true
  · rw [Eff.when_pos hover]
    obtain ⟨hmoves, hup⟩ := exchangeDone_moves hsame
    exact Eff.bind_final hmoves fun _ _ => hmoves.trans (Moves.received .received dd hup)
  · rw [Eff.when_neg hover]
    exact Moves.received .received dd (by rw [hsame]; decide)

theorem seqNumMismatch_within (n : NbrRef) :
    Eff.Within (Moves (Exchanges n)) (nbrEvent n .seqNumMismatch) := by
  refine (nbrEvent_restart n (Or.inl rfl)).mono fun _ _ => Lts.Moves.mono fun l hl => ?_
  rcases hl with rfl | rfl | rfl
  · exact .quiet
  · exact .elect
  · exact .restart

theorem processDdExchange_moves (hst : (s.nbr n).state = .exchange)
    (htypes : ∀ h ∈ dd.lsaHeaders, h.lsType < 4294967296) :
    Moves (Exchanges n) s (processDdExchange n dd s).2 := by
  have hdup : Eff.Within (Moves (Exchanges n))
      (Eff.when (¬(s.nbr n).isMaster) (retransmitLastDd n)) :=
    Eff.Within.when fun _ => Quiet.within .quiet (retransmitLastDd_within n)
  rw [processDdExchange, Eff.get_bind_apply, Eff.ite_apply, Eff.ite_apply, Eff.ite_apply]
  split
  · exact hdup s
  · split
    · exact seqNumMismatch_within n s
    · split
      · exact masterExchange_moves hst htypes
      · exact slaveExchange_moves hst htypes

theorem processDdLoaded_within (n : NbrRef) (dd : DDPacket) :
    Eff.Within (Moves (Exchanges n)) (processDdLoaded n dd) :=
  Eff.Within.read fun _ => Eff.Within.ite
    (Eff.Within.when fun _ => Quiet.within .quiet (retransmitLastDd_within n))
    (seqNumMismatch_within n)

/-- **A description in Exchange or above.** -/
theorem processDd_exchanges (hst : .exchange ≤ (s.nbr n).state)
    (htypes : ∀ h ∈ dd.lsaHeaders, h.lsType < 4294967296) :
    Moves (Exchanges n) s (processDd n dd s).2 := by
  rw [processDd, Eff.get_bind_apply]
  rcases h : (s.nbr n).state with _ | _ | _ | _ | _ | _ | _ | _ <;> rw [h] at hst
  case exchange => exact processDdExchange_moves h htypes
  case loading => exact processDdLoaded_within n dd s
  case full => exact processDdLoaded_within n dd s
  all_goals exact absurd hst (by decide)

/-- **A description.** -/
theorem processDd_moves (htypes : ∀ h ∈ dd.lsaHeaders, h.lsType < 4294967296) :
    Moves (Negotiates n) s (processDd n dd s).2 := by
  by_cases hst : .exchange ≤ (s.nbr n).state
  · exact (processDd_exchanges hst htypes).mono fun _ => .exchange
  rw [processDd, Eff.get_bind_apply]
  rcases h : (s.nbr n).state with _ | _ | _ | _ | _ | _ | _ | _ <;> rw [h] at hst
  case init =>
    have htwo : Moves (Negotiates n) s (nbrEvent n .twoWayReceived s).2 := by
      refine (nbrEvent_twoWayReceived n s).mono fun l hl => ?_
      rcases hl with rfl | rfl | rfl
      · exact .exchange .quiet
      · exact .exchange .elect
      · exact .decide
    refine Eff.bind_final htwo fun _ _ => htwo.trans ?_
    generalize (nbrEvent n .twoWayReceived s).2 = t
    rw [Eff.get_bind_apply]
    by_cases hex : (t.nbr n).state = .exStart
    · rw [Eff.when_pos hex]
      exact processDdExstart_moves hex htypes
    · rw [Eff.when_neg hex]
      exact .refl t
  case exStart => exact processDdExstart_moves h htypes
  case down => exact .refl s
  case attempt => exact .refl s
  case twoWay => exact .refl s
  all_goals exact absurd (by decide) hst

end Descriptions

/-! ## Requests, updates, acknowledgments -/

/-- The moves of a request. -/
inductive Answers (n : NbrRef) : Label → Prop
  | quiet : Answers n .quiet
  | write (r : LsaRef) : Answers n (.write r)
  | elect : Answers n (.elect n.intf)
  | restart : Answers n (.nbr n .restart)

/-- **A request.** -/
theorem processLsRequest_within (n : NbrRef) (lsr : LsrPacket) :
    Eff.Within (Moves (Answers n)) (processLsRequest n lsr) := by
  refine Eff.Within.read fun s => Eff.Within.when fun _ => ?_
  split
  · refine (nbrEvent_restart n (Or.inr rfl)).mono fun _ _ => Lts.Moves.mono fun l hl => ?_
    rcases hl with rfl | rfl | rfl
    · exact .quiet
    · exact .elect
    · exact .restart
  · exact sendLsUpdate_within .quiet n fun r _ => .write r

/-- `process_ls_update` strikes the keys, and then the neighbor may be Full. -/
theorem processLsUpdate_returns (n : NbrRef) (keys : List LsaKey) (s : Instance) :
    ∃ t, processLsUpdate n keys s = (.ok (), t) ∧ Quiet (s.setNbr n ((s.nbr n).struck keys)) t := by
  let y := keys.foldl OspfNeighbor.strike (s.nbr n)
  have hy : (s.setNbr n y).nbr n = y := Instance.nbr_setNbr_self ..
  rw [processLsUpdate, modifyNbr_bind_apply, Eff.get_bind_apply]
  change ∃ t, Eff.when (((s.setNbr n y).nbr n).state = .loading ∧
    ((s.setNbr n y).nbr n).lsRequestList.entries = []) (nbrEvent n .loadingDone) (s.setNbr n y) =
      (.ok (), t) ∧ _
  by_cases hdone : y.state = .loading ∧ y.lsRequestList.entries = []
  · obtain ⟨t, ht, hq⟩ := nbrEvent_loadingDone (n := n) (s := s.setNbr n y) (by rw [hy]; exact hdone.1)
    rw [hy, Instance.setNbr_setNbr] at hq
    rw [Eff.when_pos (by rw [hy]; exact hdone)]
    refine ⟨t, ht, ?_⟩
    rw [OspfNeighbor.struck, if_pos hdone]
    exact hq
  · rw [Eff.when_neg (by rw [hy]; exact hdone)]
    refine ⟨_, rfl, ?_⟩
    rw [OspfNeighbor.struck, if_neg hdone]
    exact .refl _

/-- The moves of an update with some keys. -/
inductive Updates (n : NbrRef) (keys : List LsaKey) : Label → Prop
  | receive {l : Label} (h : Receives n keys l) : Updates n keys l
  | strike : Updates n keys (.nbr n (.strike keys))

theorem processLsUpdate_within (n : NbrRef) (keys : List LsaKey) :
    Eff.Within (Moves (Updates n keys)) (processLsUpdate n keys) := by
  intro s
  obtain ⟨t, ht, hq⟩ := processLsUpdate_returns n keys s
  rw [ht]
  exact Moves.nbr_quiet (m := .strike keys) (.receive (.spread (.flood .quiet))) .strike nofun rfl hq

/-- An acknowledgment takes its keys off the retransmission list. -/
theorem processLsAck_within {A : Label → Prop} (n : NbrRef) (headers : List LsaHeader)
    (hA : ∀ key ∈ headers.map LsaHeader.key, A (.nbr n (.acked key))) :
    Eff.Within (Moves A) (processLsAck n headers) := by
  have h : ∀ (todo : List LsaKey) (s : Instance), (∀ k ∈ todo, k ∈ headers.map LsaHeader.key) →
      Moves A s (s.setNbr n (todo.foldl OspfNeighbor.acked (s.nbr n))) := by
    intro todo
    induction todo with
    | nil =>
      intro s _
      rw [List.foldl_nil, Instance.setNbr_eq_self]
      exact .refl s
    | cons k todo ih =>
      intro s hin
      have hone : Moves A s (s.setNbr n ((s.nbr n).acked k)) :=
        Moves.nbr (hA k (hin k (List.mem_cons_self ..))) nofun rfl
      have hrest := ih (s.setNbr n ((s.nbr n).acked k)) fun j hj => hin j (List.mem_cons_of_mem _ hj)
      rw [Instance.nbr_setNbr_self, Instance.setNbr_setNbr] at hrest
      exact hone.trans hrest
  exact fun s => h _ s fun _ hk => hk

/-- The LSAs of an update, one after the other. -/
theorem processReceivedLsas_moves (n : NbrRef) (areaId : IPv4Address) (keys : List LsaKey) :
    ∀ (rs : List LsaRef) (s : Instance),
      (∀ r ∈ rs, r < s.heap.next ∧ (s.heap.obj r).key ∈ keys) →
      Moves (Receives n keys) s (Eff.forEach rs (fun r => processReceivedLsa r n areaId) s).2
  | [], s, _ => .refl s
  | r :: rs, s, h => by
    have hone := processReceivedLsa_moves r n areaId (h r (List.mem_cons_self ..)).2
    rw [Eff.forEach_cons]
    refine Eff.bind_final hone fun _ _ => hone.trans (processReceivedLsas_moves n areaId keys rs _ ?_)
    intro k hk
    obtain ⟨hlt, hkey⟩ := h k (List.mem_cons_of_mem _ hk)
    refine ⟨lt_of_lt_of_le hlt hone.grows.next, ?_⟩
    rw [(hone.grows.same k hlt).key]
    exact hkey

/-- **An update.** -/
theorem receiveLsu_within (n : NbrRef) (lsu : LsuPacket) :
    Eff.Within (Moves (Updates n (lsu.lsas.map Lsa.key))) (receiveLsu n lsu) := by
  intro s
  obtain ⟨rs, heap, hrun, -, hobjs, hrs, -⟩ := newLsas_returns lsu.lsas s
  have hnew : Moves (Receives n (lsu.lsas.map Lsa.key)) s { s with heap } := by
    have h := newLsas_within (.spread .alloc : Receives n (lsu.lsas.map Lsa.key) .alloc) lsu.lsas s
    rw [hrun] at h
    exact h
  have hkeys : ∀ r ∈ rs, r < heap.next ∧ (heap.obj r).key ∈ lsu.lsas.map Lsa.key := by
    intro r hr
    rw [← hobjs]
    exact ⟨(hrs r hr).2, List.mem_map.2 ⟨_, List.mem_map.2 ⟨r, hr, rfl⟩, rfl⟩⟩
  have hloop := (hnew.trans (processReceivedLsas_moves n (s.intf n.intf).areaId _ rs
    ({ s with heap } : Instance) hkeys)).mono fun _ => Updates.receive
  rw [receiveLsu, Eff.get_bind_apply]
  change Moves _ s ((newLsas lsu.lsas >>= _) s).2
  rw [Eff.bind_apply_ok hrun]
  exact Eff.bind_final hloop fun _ _ => hloop.trans (processLsUpdate_within n _ _)

/-! ## Timers -/

/-- The inactivity timer: that it is no longer armed makes no difference. -/
theorem inactivityTimeout_eq (n : NbrRef) (s : Instance) :
    inactivityTimeout n s = nbrEvent n .inactivityTimer s := by
  have hh : ∀ st, handleNbr (nbrEventDepth (98 + 1)) n st .inactivityTimer =
      goDown (nbrEventDepth (98 + 1)) n := by
    intro st
    rw [handleNbr, nbrFsm_of_isReset rfl]
    exact Eff.when_pos rfl _
  have hrun : ∀ t : Instance, nbrEvent n .inactivityTimer t =
      (goDown (nbrEventDepth (98 + 1)) n >>= fun _ => do
        let u ← Eff.get
        Eff.when ((u.nbr n).state ≠ (t.nbr n).state)
          (neighborStateChanged (nbrEventDepth (98 + 1)) n (t.nbr n).state))
        (t.traced n .inactivityTimer) := by
    intro t
    rw [nbrEvent_eq, dispatchNbr, Eff.modify_bind_apply, Eff.get_bind_apply, hh]
    rfl
  have hgo : ∀ (t : Instance) (y : OspfNeighbor), t.nbr n = y →
      goDown (nbrEventDepth (98 + 1)) n t = Eff.when (y.state ≠ .down)
        (neighborStateChanged (nbrEventDepth (98 + 1)) n y.state) (t.setNbr n y.goneDown) := by
    rintro t y rfl
    rfl
  let x : OspfNeighbor := { s.nbr n with inactivityTimer := none }
  have hx : (s.setNbr n x).nbr n = x := Instance.nbr_setNbr_self ..
  have hset : ((s.setNbr n x).traced n .inactivityTimer).setNbr n x.goneDown =
      (s.traced n .inactivityTimer).setNbr n (s.nbr n).goneDown := by
    change ((s.traced n .inactivityTimer).setNbr n x).setNbr n x.goneDown = _
    rw [Instance.setNbr_setNbr]
    rfl
  have hsame : goDown (nbrEventDepth (98 + 1)) n ((s.setNbr n x).traced n .inactivityTimer) =
      goDown (nbrEventDepth (98 + 1)) n (s.traced n .inactivityTimer) := by
    rw [hgo ((s.setNbr n x).traced n .inactivityTimer) x hx, hgo (s.traced n .inactivityTimer) _ rfl,
      hset]
    rfl
  rw [inactivityTimeout, modifyNbr_bind_apply, hrun, hrun, Eff.bind_apply, Eff.bind_apply, hsame]
  rw [hx]

theorem rxmtTimeout_within (n : NbrRef) :
    Eff.Within (Moves fun l => l = .quiet ∨ l = .nbr n .retry) (rxmtTimeout n) := by
  intro s
  rw [rxmtTimeout, Eff.get_bind_apply]
  by_cases h : (s.nbr n).state = .loading ∧ (s.nbr n).lsRequestList.entries ≠ []
  · rw [Eff.when_pos h]
    rcases sendLsRequest_quiet n s with hq | hq
    · exact hq.moves (Or.inl rfl)
    · exact Moves.nbr_quiet (m := .retry) (Or.inl rfl) (Or.inr rfl) nofun ⟨h.1, rfl⟩ hq
  · rw [Eff.when_neg h]
    exact .refl s

end Ospfd
