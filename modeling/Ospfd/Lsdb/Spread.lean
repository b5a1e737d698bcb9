import Ospfd.Lsdb.Aging
import Ospfd.Lsdb.Reception
import Ospfd.Protocol.Dispatch

/-!
# Flooding, origination, reception and aging, as moves

* `Floods` — flooding serializes LSAs, puts them on retransmission lists, and may bring
  a neighbor down whose list is full.
* `SameStore` — it leaves the database and the clock alone.
* `Spreads` — origination and aging also change the database.
* `Receives n keys` — so does the reception of LSAs from `n`, which may also acknowledge
  one of the keys.
-/

namespace Ospfd

/-! ## Flooding -/

/-- The moves of flooding. -/
inductive Floods : Label → Prop
  | quiet : Floods .quiet
  | elect (i : IntfId) : Floods (.elect i)
  | write (r : LsaRef) : Floods (.write r)
  | down (n : NbrRef) : Floods (.nbr n .down)
  | pend (n : NbrRef) (key : LsaKey) (r : LsaRef) : Floods (.nbr n (.pend key r))

theorem EventMoves.floods {n : NbrRef} {l : Label} (h : EventMoves n .down l) : Floods l := by
  rcases h with rfl | rfl | rfl
  · exact .quiet
  · exact .elect _
  · exact .down _

theorem serializeLsa_within {A : Label → Prop} {r : LsaRef} (hA : A (.write r)) :
    Eff.Within (Moves A) (serializeLsa r) :=
  fun _ => Lts.Moves.single (l := .write r) hA rfl

theorem serializeLsas_within {A : Label → Prop} :
    ∀ {rs : List LsaRef}, (∀ r ∈ rs, A (.write r)) → Eff.Within (Moves A) (serializeLsas rs)
  | [], _ => Eff.Within.pure _
  | r :: _, hA => Eff.Within.bind (serializeLsa_within (hA r (List.mem_cons_self ..))) fun _ =>
      Eff.Within.bind (serializeLsas_within fun k hk => hA k (List.mem_cons_of_mem _ hk)) fun _ =>
        Eff.Within.pure _

theorem serializeLsu_within {A : Label → Prop} {rs : List LsaRef} (hA : ∀ r ∈ rs, A (.write r)) :
    Eff.Within (Moves A) (serializeLsu rs) :=
  Eff.Within.bind (Eff.Within.lift _) fun _ =>
    Eff.Within.bind (serializeLsas_within hA) fun _ => Eff.Within.pure _

theorem sendLsUpdate_within {A : Label → Prop} (hq : A .quiet) (n : NbrRef) {rs : List LsaRef}
    (hA : ∀ r ∈ rs, A (.write r)) : Eff.Within (Moves A) (sendLsUpdate n rs) :=
  Eff.Within.read fun _ => Eff.Within.when fun _ =>
    Eff.Within.bind (serializeLsu_within hA) fun _ => Quiet.within hq (sendPacket_within _ _ _ _)

theorem floodMulticast_within (r : LsaRef) (i : IntfId) (dest : IPv4Address) :
    Eff.Within (Moves Floods) (floodMulticast r i dest) :=
  Eff.Within.bind (serializeLsu_within fun k _ => .write k) fun _ =>
    Quiet.within .quiet (sendPacket_within _ _ _ _)

theorem floodUnicast_within (r : LsaRef) (i : IntfId) (ns : List NbrRef) :
    Eff.Within (Moves Floods) (floodUnicast r i ns) :=
  Eff.Within.forEach fun _ _ => Eff.Within.bind (serializeLsu_within fun k _ => .write k) fun _ =>
    Eff.Within.read fun _ => Quiet.within .quiet (sendPacket_within _ _ _ _)

/-- One adjacent neighbor: unless it is killed, no state changes. -/
theorem addRetransmission_moves (r : LsaRef) {n : NbrRef} {s : Instance}
    (h : .exchange ≤ (s.nbr n).state) :
    Moves Floods s (addRetransmission r n s).2 ∧ ((addRetransmission r n s).1 = .ok false →
      ∀ m, ((addRetransmission r n s).2.nbr m).state = (s.nbr m).state) := by
  rw [addRetransmission, Eff.get_bind_apply]
  by_cases hmem : (s.nbr n).lsRetransmissionList.contains (s.heap.obj r).key = true
  · rw [if_pos hmem]
    exact ⟨.refl s, fun _ _ => rfl⟩
  · rw [if_neg hmem]
    by_cases hfull : maxRxmtList ≤ (s.nbr n).lsRetransmissionList.size
    · rw [if_pos hfull, Eff.bind_apply]
      have hkill := (nbrEvent_reset n (show NbrEvent.killNbr.isReset = true from rfl) s).mono
        fun _ => EventMoves.floods
      rcases hr : nbrEvent n .killNbr s with ⟨res, t⟩
      rw [hr] at hkill
      cases res with
      | ok a => exact ⟨hkill, fun hfalse => by cases hfalse⟩
      | error e => exact ⟨hkill, fun hfalse => by cases hfalse⟩
    · rw [if_neg hfull]
      refine ⟨Moves.nbr (Floods.pend n (s.heap.obj r).key r) nofun ⟨h, ?_, rfl⟩, fun _ m => ?_⟩
      · simpa [Dict.contains] using hmem
      · change ((s.setNbr n _).nbr m).state = _
        rw [Instance.nbr_setNbr]
        split
        · rename_i heq
          rw [heq]
        · rfl

/-- All adjacent neighbors, up to the first that is killed. -/
theorem addRetransmissions_moves (r : LsaRef) : ∀ (ns : List NbrRef) (s : Instance),
    (∀ n ∈ ns, .exchange ≤ (s.nbr n).state) →
    Moves Floods s (Eff.forUntil ns (addRetransmission r) s).2
  | [], s, _ => .refl s
  | n :: ns, s, h => by
    obtain ⟨hmoves, hkept⟩ := addRetransmission_moves r (h n (List.mem_cons_self ..))
    rw [Eff.forUntil_cons, Eff.bind_apply]
    rcases hr : addRetransmission r n s with ⟨res, t⟩
    rw [hr] at hmoves hkept
    cases res with
    | error e => exact hmoves
    | ok stop =>
      cases stop with
      | true => exact hmoves
      | false =>
        refine hmoves.trans (addRetransmissions_moves r ns t fun m hm => ?_)
        rw [hkept rfl m]
        exact h m (List.mem_cons_of_mem _ hm)

theorem floodToInterface_within (r : LsaRef) (i : IntfId) :
    Eff.Within (Moves Floods) (floodToInterface r i) := by
  intro s
  rw [floodToInterface, Eff.get_bind_apply]
  by_cases hne : s.adjacentNeighbors i ≠ []
  · rw [Eff.when_pos hne, Eff.bind_apply]
    have hadd := addRetransmissions_moves r (s.adjacentNeighbors i) s fun n hn => by
      simpa using (List.mem_filter.1 hn).2
    have hrest : ∀ killed : Bool, Eff.Within (Moves Floods) (Eff.when (¬killed) do
        let s' ← Eff.get
        (if (s'.intf i).intfType.isMultiAccess then floodMulticast r i (floodDest (s'.intf i))
        else floodUnicast r i (s.adjacentNeighbors i))) := fun killed =>
      Eff.Within.when fun _ => Eff.Within.read fun _ =>
        Eff.Within.ite (floodMulticast_within r i _) (floodUnicast_within r i _)
    rcases hr : Eff.forUntil (s.adjacentNeighbors i) (addRetransmission r) s with ⟨res, t⟩
    rw [hr] at hadd
    cases res with
    | ok killed => exact hadd.trans (hrest killed t)
    | error e => exact hadd
  · rw [Eff.when_neg hne]
    exact .refl s

/-- **Flooding.** -/
theorem floodLsa_within (r : LsaRef) (areaId : IPv4Address) (recvIntf : Option IntfId) :
    Eff.Within (Moves Floods) (floodLsa r areaId recvIntf) := by
  refine Eff.Within.read fun s => Eff.Within.forEach fun i _ => Eff.Within.ite ?_ ?_
  · exact Eff.Within.read fun t => Eff.Within.when fun _ => floodMulticast_within _ _ _
  · exact floodToInterface_within r i

/-! ### The database during a flood -/

/-- The database and the clock are as they were, and the router has its ID. -/
structure SameStore (s t : Instance) : Prop where
  lsdb : t.lsdb = s.lsdb
  now : t.now = s.now
  routerId : t.routerId = s.routerId

instance : Std.Refl SameStore := ⟨fun _ => ⟨rfl, rfl, rfl⟩⟩

instance : IsTrans Instance SameStore := ⟨fun _ _ _ h h' =>
  ⟨h'.lsdb.trans h.lsdb, h'.now.trans h.now, h'.routerId.trans h.routerId⟩⟩

theorem Quiet.sameStore {s t : Instance} (h : Quiet s t) : SameStore s t := ⟨h.lsdb, h.now, h.routerId⟩

theorem move_sameStore {l : Label} {s t : Instance} (hl : Floods l) (hm : move l s t) :
    SameStore s t := by
  cases hl with
  | quiet => exact hm.sameStore
  | elect i => exact ⟨hm.lsdb, hm.now, hm.routerId⟩
  | write k =>
    obtain rfl : t = _ := hm
    exact ⟨rfl, rfl, rfl⟩
  | down n =>
    obtain ⟨x, -, rfl⟩ := hm
    exact ⟨rfl, rfl, rfl⟩
  | pend n key k =>
    obtain ⟨x, -, rfl⟩ := hm
    exact ⟨rfl, rfl, rfl⟩

/-- **Flooding leaves the database and the clock alone.** -/
theorem floodLsa_sameStore (r : LsaRef) (areaId : IPv4Address) (recvIntf : Option IntfId) :
    Eff.Within SameStore (floodLsa r areaId recvIntf) :=
  (floodLsa_within r areaId recvIntf).mono fun _ _ =>
    Lts.Moves.relates fun _ _ _ => move_sameStore

theorem sendLsUpdate_sameStore (n : NbrRef) (rs : List LsaRef) : Eff.Within SameStore (sendLsUpdate n rs) :=
  (sendLsUpdate_within .quiet n fun r _ => .write r).mono fun _ _ =>
    Lts.Moves.relates fun _ _ _ => move_sameStore

/-! ## Origination and aging -/

/-- The moves of origination and aging. -/
inductive Spreads : Label → Prop
  | flood {l : Label} (h : Floods l) : Spreads l
  | alloc : Spreads .alloc
  | install (areaId : IPv4Address) (r : LsaRef) : Spreads (.install areaId r)
  | remove (areaId : IPv4Address) (key : LsaKey) : Spreads (.remove areaId key)

theorem newLsa_within {A : Label → Prop} (hA : A .alloc) (lsa : Lsa) :
    Eff.Within (Moves A) (newLsa lsa) :=
  fun _ => Lts.Moves.single (l := .alloc) hA ⟨lsa, rfl⟩

theorem newLsas_within {A : Label → Prop} (hA : A .alloc) :
    ∀ lsas : List Lsa, Eff.Within (Moves A) (newLsas lsas)
  | [] => Eff.Within.pure _
  | lsa :: lsas => Eff.Within.bind (newLsa_within hA lsa) fun _ =>
      Eff.Within.bind (newLsas_within hA lsas) fun _ => Eff.Within.pure _

theorem installLsa_within {A : Label → Prop} {areaId : IPv4Address} {r : LsaRef}
    (hA : A (.install areaId r)) : Eff.Within (Moves A) (installLsa areaId r) :=
  fun _ => Lts.Moves.single (l := .install areaId r) hA rfl

theorem removeLsa_within {A : Label → Prop} {areaId : IPv4Address} {key : LsaKey}
    (hA : A (.remove areaId key)) : Eff.Within (Moves A) (removeLsa areaId key) :=
  fun _ => Lts.Moves.single (l := .remove areaId key) hA rfl

theorem flood_within_spreads (r : LsaRef) (areaId : IPv4Address) (recvIntf : Option IntfId) :
    Eff.Within (Moves Spreads) (floodLsa r areaId recvIntf) :=
  (floodLsa_within r areaId recvIntf).mono fun _ _ => Lts.Moves.mono fun _ => .flood

theorem originateWith_within (areaId : IPv4Address) (lsType : Nat) (linkStateId : IPv4Address)
    (body : Option LsaBody) (seqNum : Nat) :
    Eff.Within (Moves Spreads) (originateWith areaId lsType linkStateId body seqNum) := by
  refine Eff.Within.read fun s => Eff.Within.bind (newLsa_within .alloc _) fun r => ?_
  refine Eff.Within.bind (serializeLsa_within (.flood (.write r))) fun _ => ?_
  refine Eff.Within.bind (installLsa_within (.install _ _)) fun installed => ?_
  refine Eff.Within.bind (Eff.Within.when fun _ => ?_) fun _ => Eff.Within.pure _
  refine Eff.Within.bind (Eff.Within.modify fun t => ?_) fun _ => flood_within_spreads r areaId none
  exact Quiet.moves (.flood .quiet) ⟨rfl, rfl, rfl, rfl, rfl, rfl, rfl⟩

theorem originate_within (areaId : IPv4Address) (lsType : Nat) (linkStateId : IPv4Address)
    (body : Option LsaBody) (seqNum : Option Nat) :
    Eff.Within (Moves Spreads) (originate areaId lsType linkStateId body seqNum) := by
  refine Eff.Within.read fun s => Eff.Within.ite (Eff.Within.pure none) ?_
  split
  · exact Eff.Within.pure none
  · exact originateWith_within _ _ _ _ _

theorem refreshLsa_within (areaId : IPv4Address) (r : LsaRef) :
    Eff.Within (Moves Spreads) (refreshLsa areaId r) := by
  refine Eff.Within.read fun s => ?_
  dsimp only
  split
  · exact Eff.Within.pure none
  · refine Eff.Within.ite (Eff.Within.pure none) ?_
    split
    · exact Eff.Within.pure none
    · exact originate_within _ _ _ _ _

theorem flushMaxageLsa_within (r : LsaRef) (areaId : IPv4Address) :
    Eff.Within (Moves Spreads) (flushMaxageLsa r areaId) := by
  refine Eff.Within.bind (flood_within_spreads r areaId none) fun _ => Eff.Within.read fun s => ?_
  split
  · exact removeLsa_within (.remove _ _)
  · exact Eff.Within.bind (Eff.Within.lift _) fun _ =>
      Eff.Within.when fun _ => removeLsa_within (.remove _ _)

/-- **Aging.** -/
theorem checkAges_within : Eff.Within (Moves Spreads) checkAges := by
  have hrefresh : ∀ areaId r, Eff.Within (Moves Spreads) (do
      let _ ← refreshLsa areaId r
      pure ()) := fun areaId r =>
    Eff.Within.bind (refreshLsa_within areaId r) fun _ => Eff.Within.pure ()
  refine Eff.Within.read fun s => Eff.Within.forEach fun areaId _ => Eff.Within.read fun t => ?_
  refine Eff.Within.bind (Eff.Within.forEach fun r _ => ?_) fun _ => Eff.Within.read fun u =>
    Eff.Within.forEach fun r _ => ?_
  · exact Eff.Within.read fun u =>
      Eff.Within.ite (hrefresh areaId r) (flushMaxageLsa_within r areaId)
  · exact Eff.Within.read fun u => Eff.Within.when fun _ => hrefresh areaId r

/-! ## Reception -/

/-- The moves of receiving LSAs with some keys from a neighbor. -/
inductive Receives (n : NbrRef) (keys : List LsaKey) : Label → Prop
  | spread {l : Label} (h : Spreads l) : Receives n keys l
  | intf : Receives n keys (.intf n.intf)
  | acked {key : LsaKey} (h : key ∈ keys) : Receives n keys (.nbr n (.acked key))

theorem queueDelayedAck_within {A : Label → Prop} {i : IntfId} (hA : A (.intf i)) (r : LsaRef) :
    Eff.Within (Moves A) (queueDelayedAck i r) :=
  modifyIntf_within hA fun _ => ⟨rfl, rfl, rfl, rfl, rfl, rfl⟩

theorem acknowledge_sameStore (r : LsaRef) (n : NbrRef) : Eff.Within SameStore (acknowledge r n) := by
  refine Eff.Within.read fun s => Eff.Within.ite ?_ (Eff.Within.modify fun _ => ⟨rfl, rfl, rfl⟩)
  exact Eff.Within.bind ((serializeLsack_within _).mono fun _ _ => Quiet.sameStore) fun _ =>
    (sendPacket_within _ _ _ _).mono fun _ _ => Quiet.sameStore

theorem receivedNewer_within (r : LsaRef) (n : NbrRef) (areaId : IPv4Address) (keys : List LsaKey) :
    Eff.Within (Moves (Receives n keys)) (receivedNewer r n areaId) := by
  have hq : Receives n keys .quiet := .spread (.flood .quiet)
  have hspread : ∀ {α : Type} {m : Py α}, Eff.Within (Moves Spreads) m →
      Eff.Within (Moves (Receives n keys)) m :=
    fun h => h.mono fun _ _ => Lts.Moves.mono fun _ => .spread
  refine Eff.Within.bind (hspread (installLsa_within (.install _ _))) fun _ => ?_
  refine Eff.Within.when fun _ => Eff.Within.bind (hspread (flood_within_spreads _ _ _)) fun _ => ?_
  refine Eff.Within.read fun s => ?_
  dsimp only
  refine Eff.Within.ite (Eff.Within.ite ?_ ?_) (Eff.Within.bind ?_ fun _ => ?_)
  · exact hspread (removeLsa_within (.remove _ _))
  · exact hspread (Eff.Within.bind (refreshLsa_within areaId r) fun _ => Eff.Within.pure ())
  · refine Eff.Within.read fun t => Eff.Within.ite ?_ (queueDelayedAck_within .intf r)
    exact Quiet.within hq (Eff.Within.bind (serializeLsack_within _) fun _ => sendPacket_within _ _ _ _)
  · exact Quiet.within hq scheduleSpf_within

/-- **One received LSA.** -/
theorem processReceivedLsa_moves (r : LsaRef) (n : NbrRef) (areaId : IPv4Address) {keys : List LsaKey}
    {s : Instance} (h : (s.heap.obj r).key ∈ keys) :
    Moves (Receives n keys) s (processReceivedLsa r n areaId s).2 := by
  have hnewer := receivedNewer_within r n areaId keys
  have hsend : ∀ e, Eff.Within (Moves (Receives n keys)) (sendLsUpdate n [e]) := fun e =>
    sendLsUpdate_within (.spread (.flood .quiet)) n fun r _ => .spread (.flood (.write r))
  have hsame : Moves (Receives n keys) s (receivedSame r n s).2 := by
    refine Lts.Moves.trans (Moves.nbr (Receives.acked h) nofun rfl) ?_
    exact Eff.Within.when (fun _ => queueDelayedAck_within .intf r) _
  rw [processReceivedLsa, Eff.get_bind_apply]
  by_cases hvalid : validLsaType (s.heap.obj r).header.lsType = true
  · rw [Eff.when_pos hvalid]
    rcases s.lsdb.lookup areaId (s.heap.obj r).key with _ | e
    · exact hnewer s
    · dsimp only
      split
      · exact hnewer s
      · split
        · exact hsame
        · exact hsend e s
  · rw [Eff.when_neg hvalid]
    exact .refl s

end Ospfd
