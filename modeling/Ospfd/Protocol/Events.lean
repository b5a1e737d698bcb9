import Ospfd.Protocol.Procedures

/-!
# The events of the daemon, as moves

* `heard` — the packet an event brings, and who sent it.
* `exec_heard` — a reception is the procedure of its packet.
* `exec_works` — **what every other event consists of**.
* `exec_moves` — every event is a run of moves.
-/

namespace Ospfd

/-! ## Packets -/

/-- A decoded packet. -/
inductive Packet where
  | hello (hello : HelloPacket)
  | dd (dd : DDPacket)
  | lsr (lsr : LsrPacket)
  | lsu (lsu : LsuPacket)
  | lsack (ack : LsackPacket)

/-- The packet in a body, unless it has another type or cannot be decoded. -/
def decodePacket (pktType : Nat) (body : Bytes) : Option Packet :=
  if pktType = packetTypeHello then (HelloPacket.deserialize body).toOption.map .hello
  else if pktType = packetTypeDd then (DDPacket.deserialize body).toOption.map .dd
  else if pktType = packetTypeLsr then (LsrPacket.deserialize body).toOption.map .lsr
  else if pktType = packetTypeLsu then (LsuPacket.deserialize body).toOption.map .lsu
  else if pktType = packetTypeLsack then (LsackPacket.deserialize body).toOption.map .lsack
  else none

/-- What is done with a packet from a neighbor. -/
def processPacket (n : NbrRef) (src : IPv4Address) : Packet → Py Unit
  | .hello hello => processHello n.intf hello src n.routerId
  | .dd dd => forNeighbor n (processDd n dd)
  | .lsr lsr => forNeighbor n (processLsRequest n lsr)
  | .lsu lsu => forNeighbor n (receiveLsu n lsu)
  | .lsack ack => forNeighbor n (processLsAck n ack.lsaHeaders)

/-- The packet an event brings, with its sender and source address. -/
def heard (s : Instance) : Event → Option (NbrRef × IPv4Address × Packet)
  | .receive i data src =>
      match acceptPacket s.md5 s.routerId (s.intf i) data src with
      | none => none
      | some (header, body) =>
          (decodePacket header.type body).map fun packet => (⟨i, header.routerId⟩, src, packet)
  | _ => none

/-- A body that is decoded is processed, and nothing else happens. -/
theorem decodeThen_eq {α : Type} (r : Except PyError α) (process : α → Py Unit) (s : Instance) :
    (decodeThen r process s).2 = match r.toOption with
      | some packet => (process packet s).2
      | none => s := by
  rw [decodeThen, Eff.lift_bind_apply]
  cases r <;> rfl

theorem dispatchPacket_eq (i : IntfId) (header : OspfHeader) (body : Bytes) (src : IPv4Address)
    (s : Instance) : (dispatchPacket i header body src s).2 =
      match decodePacket header.type body with
      | some packet => (processPacket ⟨i, header.routerId⟩ src packet s).2
      | none => s := by
  have hmap : ∀ {α : Type} (r : Except PyError α) (f : α → Packet),
      (match r.toOption.map f with
        | some packet => (processPacket ⟨i, header.routerId⟩ src packet s).2
        | none => s) = match r.toOption with
        | some a => (processPacket ⟨i, header.routerId⟩ src (f a) s).2
        | none => s := by
    intro α r f
    cases r <;> rfl
  rw [dispatchPacket, decodePacket]
  simp only [Eff.ite_apply]
  split
  · rw [decodeThen_eq, hmap]
    rfl
  · split
    · rw [decodeThen_eq, hmap]
      rfl
    · split
      · rw [decodeThen_eq, hmap]
        rfl
      · split
        · rw [decodeThen_eq, hmap]
          rfl
        · split
          · rw [decodeThen_eq, hmap]
            rfl
          · rfl

theorem exec_receive (s : Instance) (i : IntfId) (data : Bytes) (src : IPv4Address) :
    exec s (.receive i data src) = match heard s (.receive i data src) with
      | some (n, src, packet) => (processPacket n src packet s).2
      | none => s := by
  change (receivePacket i data src s).2 = _
  rw [receivePacket, Eff.get_bind_apply, heard]
  rcases acceptPacket s.md5 s.routerId (s.intf i) data src with _ | ⟨header, body⟩
  · rfl
  · dsimp only
    rw [dispatchPacket_eq]
    cases decodePacket header.type body <;> rfl

section Heard

variable {s : Instance} {e : Event} {n : NbrRef} {src : IPv4Address}

/-- **A reception is the procedure of its packet.** -/
theorem exec_heard {packet : Packet} (h : heard s e = some (n, src, packet)) :
    exec s e = (processPacket n src packet s).2 := by
  cases e with
  | receive i data src' =>
    rw [exec_receive, h]
  | _ => cases h

/-- The body of an accepted packet is what its length leaves behind the header. -/
theorem length_of_acceptPacket {md5 : Md5} {routerId : IPv4Address} {intf : OspfInterface}
    {data body : Bytes} {header : OspfHeader}
    (h : acceptPacket md5 routerId intf data src = some (header, body)) :
    OspfHeader.size + body.length < 65536 := by
  rw [acceptPacket] at h
  split at h
  · cases h
  · rename_i header' hd
    have hlen := (OspfHeader.bytes_of_deserialize hd).1.length
    simp only at h
    split_ifs at h
    cases h
    rename_i hmin _ _ _ _
    rw [Bytes.slice, List.length_take, List.length_drop]
    omega

/-- What is heard was decoded from the body of a packet. -/
theorem decoded_of_heard {packet : Packet} (h : heard s e = some (n, src, packet)) :
    ∃ pktType body, OspfHeader.size + body.length < 65536 ∧ decodePacket pktType body = some packet := by
  cases e with
  | receive i data src' =>
    rw [heard] at h
    split at h
    · cases h
    · rename_i header body hacc
      rcases hd : decodePacket header.type body with _ | packet'
      · rw [hd] at h
        cases h
      · rw [hd] at h
        cases h
        exact ⟨_, _, length_of_acceptPacket hacc, hd⟩
  | _ => cases h

theorem decodePacket_dd {pktType : Nat} {body : Bytes} {dd : DDPacket}
    (h : decodePacket pktType body = some (.dd dd)) : DDPacket.deserialize body = .ok dd := by
  rw [decodePacket] at h
  split at h
  · cases hr : (HelloPacket.deserialize body).toOption <;> rw [hr] at h <;> cases h
  · split at h
    · rcases hr : DDPacket.deserialize body with _ | dd' <;> rw [hr] at h <;> cases h
      rfl
    · split at h
      · cases hr : (LsrPacket.deserialize body).toOption <;> rw [hr] at h <;> cases h
      · split at h
        · cases hr : (LsuPacket.deserialize body).toOption <;> rw [hr] at h <;> cases h
        · split at h
          · cases hr : (LsackPacket.deserialize body).toOption <;> rw [hr] at h <;> cases h
          · cases h

theorem decodePacket_lsu {pktType : Nat} {body : Bytes} {lsu : LsuPacket}
    (h : decodePacket pktType body = some (.lsu lsu)) : LsuPacket.deserialize body = .ok lsu := by
  rw [decodePacket] at h
  split at h
  · cases hr : (HelloPacket.deserialize body).toOption <;> rw [hr] at h <;> cases h
  · split at h
    · cases hr : (DDPacket.deserialize body).toOption <;> rw [hr] at h <;> cases h
    · split at h
      · cases hr : (LsrPacket.deserialize body).toOption <;> rw [hr] at h <;> cases h
      · split at h
        · rcases hr : LsuPacket.deserialize body with _ | lsu' <;> rw [hr] at h <;> cases h
          rfl
        · split at h
          · cases hr : (LsackPacket.deserialize body).toOption <;> rw [hr] at h <;> cases h
          · cases h

/-- The headers of a description that is heard are in wire range. -/
theorem wireRange_of_heard {dd : DDPacket} (h : heard s e = some (n, src, .dd dd)) :
    ∀ k ∈ dd.lsaHeaders, k.WireRange := by
  obtain ⟨pktType, body, -, hd⟩ := decoded_of_heard h
  exact DDPacket.wireRange_of_deserialize (decodePacket_dd hd)

/-- The LSAs of an update that is heard are fresh. -/
theorem fresh_of_heard {lsu : LsuPacket} (h : heard s e = some (n, src, .lsu lsu)) :
    ∀ lsa ∈ lsu.lsas, lsa.Fresh := by
  obtain ⟨pktType, body, -, hd⟩ := decoded_of_heard h
  exact LsuPacket.fresh_of_deserialize (decodePacket_lsu hd)

theorem forNeighbor_within {A : Label → Prop} {m : Py Unit} (h : Eff.Within (Moves A) m) :
    Eff.Within (Moves A) (forNeighbor n m) :=
  Eff.Within.read fun _ => Eff.Within.when fun _ => h

theorem exec_hello {hello : HelloPacket} (h : heard s e = some (n, src, .hello hello)) :
    Moves (Greets n src) s (exec s e) := by
  rw [exec_heard h]
  exact processHello_within n hello src s

theorem exec_dd {dd : DDPacket} (h : heard s e = some (n, src, .dd dd)) :
    Moves (Negotiates n) s (exec s e) := by
  have htypes : ∀ k ∈ dd.lsaHeaders, k.lsType < 4294967296 := fun k hk =>
    lt_trans (wireRange_of_heard h k hk).lsType (by decide)
  rw [exec_heard h]
  exact forNeighbor_within (fun _ => processDd_moves htypes) s

theorem exec_lsr {lsr : LsrPacket} (h : heard s e = some (n, src, .lsr lsr)) :
    Moves (Answers n) s (exec s e) := by
  rw [exec_heard h]
  exact forNeighbor_within (processLsRequest_within n lsr) s

theorem exec_lsu {lsu : LsuPacket} (h : heard s e = some (n, src, .lsu lsu)) :
    Moves (Updates n (lsu.lsas.map Lsa.key)) s (exec s e) := by
  rw [exec_heard h]
  exact forNeighbor_within (receiveLsu_within n lsu) s

theorem exec_lsack {ack : LsackPacket} (h : heard s e = some (n, src, .lsack ack)) :
    Moves (Receives n (ack.lsaHeaders.map LsaHeader.key)) s (exec s e) := by
  rw [exec_heard h]
  exact forNeighbor_within (processLsAck_within n ack.lsaHeaders fun _ => .acked) s

end Heard

/-! ## The other events -/

/-- The moves of the events that bring no packet. -/
inductive Works : Label → Prop
  | tick : Works .tick
  | intf {i : IntfId} {l : Label} (h : IntfMoves i l) : Works l
  | spread {l : Label} (h : Spreads l) : Works l
  | wake (n : NbrRef) : Works (.nbr n .wake)
  | retry (n : NbrRef) : Works (.nbr n .retry)

theorem EventMoves.works {n : NbrRef} {m : NbrMove} {l : Label} (hm : Works (.nbr n m))
    (h : EventMoves n m l) : Works l := by
  rcases h with rfl | rfl | rfl
  · exact .spread (.flood .quiet)
  · exact .spread (.flood (.elect _))
  · exact hm

theorem flushDelayedAcks_within {A : Label → Prop} {i : IntfId} (hq : A .quiet) (hA : A (.intf i)) :
    Eff.Within (Moves A) (flushDelayedAcks i) := by
  refine Eff.Within.read fun s => Eff.Within.when fun _ => ?_
  refine Eff.Within.bind (modifyIntf_within hA fun _ => ⟨rfl, rfl, rfl, rfl, rfl, rfl⟩) fun _ => ?_
  exact Quiet.within hq (Eff.Within.bind (serializeLsack_within _) fun _ => sendPacket_within _ _ _ _)

theorem waitTimerFire_within (i : IntfId) : Eff.Within (Moves (IntfMoves i)) (waitTimerFire i) := by
  refine Eff.Within.bind ?_ fun _ => intfEvent_within i .waitTimer
  exact modifyIntf_within (Or.inr (Or.inl rfl)) fun _ => ⟨rfl, rfl, rfl, rfl, rfl, rfl⟩

theorem routerLsaTimer_within (areaId : IPv4Address) :
    Eff.Within (Moves Spreads) (routerLsaTimer areaId) := by
  refine Eff.Within.bind (Eff.Within.modify fun t => ?_) fun _ => ?_
  · exact Quiet.moves (.flood .quiet) ⟨rfl, rfl, rfl, rfl, rfl, rfl, rfl⟩
  · refine Eff.Within.bind (Eff.Within.read fun t => ?_) fun _ => Eff.Within.pure ()
    exact originate_within _ _ _ _ _

theorem networkLsaTimer_within (i : IntfId) :
    Eff.Within (Moves Spreads) (networkLsaTimer i) := by
  refine Eff.Within.bind (Eff.Within.modify fun t => ?_) fun _ => ?_
  · exact Quiet.moves (.flood .quiet) ⟨rfl, rfl, rfl, rfl, rfl, rfl, rfl⟩
  · refine Eff.Within.bind (Eff.Within.read fun t => ?_) fun _ => Eff.Within.pure ()
    exact Eff.Within.ite (Eff.Within.pure none) (originate_within _ _ _ _ _)

/-- **What an event that brings no packet consists of.** -/
theorem exec_works {s : Instance} {e : Event} (hen : e.Enabled s) (h : heard s e = none) :
    Moves Works s (exec s e) := by
  have hq : Works .quiet := .spread (.flood .quiet)
  have hspread : ∀ {α : Type} {m : Py α}, Eff.Within (Moves Spreads) m → Eff.Within (Moves Works) m :=
    fun h => h.mono fun _ _ => Lts.Moves.mono fun _ => .spread
  have hreset : ∀ {n : NbrRef} {evt : NbrEvent}, evt.isReset = true →
      Moves Works s (nbrEvent n evt s).2 := fun hr =>
    (nbrEvent_reset _ hr s).mono fun _ hl => hl.works (.spread (.flood (.down _)))
  cases e with
  | receive i data src =>
    rw [exec_receive, h]
    exact .refl s
  | inactivity n =>
    change Moves Works s (inactivityTimeout n s).2
    rw [inactivityTimeout_eq]
    exact hreset rfl
  | rxmt n =>
    refine (rxmtTimeout_within n s).mono fun l hl => ?_
    rcases hl with rfl | rfl
    · exact hq
    · exact .retry n
  | ddRxmt n =>
    refine Quiet.within hq ?_ s
    exact Eff.Within.read fun _ => Eff.Within.when fun _ => retransmitLastDd_within n
  | helloTimer i => exact Quiet.within hq (sendHello_within i) s
  | waitTimer i => exact (waitTimerFire_within i s).mono fun _ => .intf
  | ackTimer i => exact flushDelayedAcks_within hq (.intf (i := i) (Or.inr (Or.inl rfl))) s
  | intfEvent i evt => exact (intfEvent_within i evt s).mono fun _ => .intf
  | killNbr n => exact hreset rfl
  | llDown n => exact hreset rfl
  | startNbr n => exact (nbrEvent_start hen).mono fun _ hl => hl.works (.wake n)
  | routerLsa areaId => exact hspread (routerLsaTimer_within areaId) s
  | networkLsa i => exact hspread (networkLsaTimer_within i) s
  | spf => exact Quiet.moves hq ⟨rfl, rfl, rfl, rfl, rfl, rfl, rfl⟩
  | aging => exact hspread checkAges_within s
  | originate areaId lsType linkStateId body =>
    exact hspread (Eff.Within.bind (originate_within _ _ _ _ _) fun _ => Eff.Within.pure ()) s
  | tick d => exact Lts.Moves.single .tick ⟨d, rfl⟩

/-- **Every event is a run of moves.** -/
theorem exec_moves {s : Instance} {e : Event} (hen : e.Enabled s) :
    Moves (fun _ => True) s (exec s e) := by
  rcases hh : heard s e with _ | ⟨n, src, packet⟩
  · exact (exec_works hen hh).mono fun _ _ => trivial
  · cases packet with
    | hello hello => exact (exec_hello hh).mono fun _ _ => trivial
    | dd dd => exact (exec_dd hh).mono fun _ _ => trivial
    | lsr lsr => exact (exec_lsr hh).mono fun _ _ => trivial
    | lsu lsu => exact (exec_lsu hh).mono fun _ _ => trivial
    | lsack ack => exact (exec_lsack hh).mono fun _ _ => trivial

end Ospfd
