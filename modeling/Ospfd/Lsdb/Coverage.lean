import Mathlib.Data.List.Find
import Ospfd.Protocol.Lifecycle
import Ospfd.Protocol.Seats
import Ospfd.Protocol.Sending

/-!
# Whom flooding reaches

When `flood_lsa` returns, every neighbor in Exchange or above on an interface in scope
should have the LSA on its retransmission list, and the LSA should have been sent on
that interface.

* `CoversOn` — flooding did so on an interface; `FloodsTo` — when it will.
* `Outside` — flooding on one interface leaves the others alone.
* `floodToInterface_covers`, `floodBackToSource_covers` — one interface.
* `floodLsa_covers_iff` — **when flooding reaches every neighbor**.
-/

namespace Ospfd

/-! ## Coverage -/

/-- The update that carries an LSA, as it would be sent now. -/
def lsuBytes (s : Instance) (r : LsaRef) : Except PyError Bytes := (serializeLsu [r] s).1

/-- Between two states an LSA was sent on an interface. -/
def Transmitted (s t : Instance) (r : LsaRef) (i : IntfId) : Prop :=
  ∃ new, t.sent = s.sent ++ new ∧
    ∃ p ∈ new, p.intf = i ∧ p.pktType = packetTypeLsu ∧ lsuBytes s r = .ok p.body

/-- The neighbors of the receiving interface are spared when it is a multi-access
network and this router is not its DR. -/
def Spared (s : Instance) (recv : Option NbrRef) (i : IntfId) : Prop :=
  recv.map NbrRef.intf = some i ∧ (s.intf i).intfType.isMultiAccess = true ∧ (s.intf i).state ≠ .dr

/-- Flooding from `s` to `t` reached everyone on an interface who is still in Exchange or
above, but for the neighbor the LSA came from. -/
def CoversOn (s t : Instance) (r : LsaRef) (recv : Option NbrRef) (i : IntfId) : Prop :=
  ¬Spared s recv i → ∀ m ∈ t.adjacentNeighbors i, some m ≠ recv →
    (t.nbr m).lsRetransmissionList.get? (s.heap.obj r).key = some r ∧ Transmitted s t r i

/-- Flooding reached everyone in scope. -/
def Covers (s t : Instance) (r : LsaRef) (areaId : IPv4Address) (recv : Option NbrRef) : Prop :=
  ∀ i ∈ floodScope s (s.heap.obj r).header.lsType areaId, CoversOn s t r recv i

/-- The retransmission list of a neighbor has no room for an LSA. -/
def overflows (s : Instance) (r : LsaRef) (m : NbrRef) : Bool :=
  ¬(s.nbr m).lsRetransmissionList.contains (s.heap.obj r).key ∧
    maxRxmtList ≤ (s.nbr m).lsRetransmissionList.size

/-- When flooding reaches everyone on an interface.

* On the receiving interface nothing is put on a list, so the LSA has to be there, and
  only the DR of a multi-access network sends it.
* Elsewhere the lists must not hold another LSA of its key, and there has to be a socket.
* The first neighbor without room for the LSA is killed, and nothing is sent any more;
  then no other neighbor may stay in Exchange or above. -/
def FloodsTo (s : Instance) (r : LsaRef) (recv : Option NbrRef) (i : IntfId) : Prop :=
  if recv.map NbrRef.intf = some i then
    Spared s recv i ∨ ∀ m ∈ s.adjacentNeighbors i, some m ≠ recv →
      (s.intf i).intfType.isMultiAccess = true ∧ (s.intf i).socket = true ∧
        (s.nbr m).lsRetransmissionList.get? (s.heap.obj r).key = some r
  else
    match (s.adjacentNeighbors i).find? (overflows s r) with
    | none => ∀ m ∈ s.adjacentNeighbors i, (s.intf i).socket = true ∧
        ∀ k ∈ (s.nbr m).lsRetransmissionList.get? (s.heap.obj r).key, k = r
    | some m => (nbrEvent m .killNbr s).2.adjacentNeighbors i = []

instance (s : Instance) (recv : Option NbrRef) (i : IntfId) : Decidable (Spared s recv i) :=
  inferInstanceAs (Decidable (_ ∧ _))

instance (s : Instance) (r : LsaRef) (recv : Option NbrRef) (i : IntfId) :
    Decidable (FloodsTo s r recv i) :=
  if hrecv : recv.map NbrRef.intf = some i then
    decidable_of_iff (Spared s recv i ∨ ∀ m ∈ s.adjacentNeighbors i, some m ≠ recv →
      (s.intf i).intfType.isMultiAccess = true ∧ (s.intf i).socket = true ∧
        (s.nbr m).lsRetransmissionList.get? (s.heap.obj r).key = some r) (by rw [FloodsTo, if_pos hrecv])
  else
    match hfind : (s.adjacentNeighbors i).find? (overflows s r) with
    | none => decidable_of_iff (∀ m ∈ s.adjacentNeighbors i, (s.intf i).socket = true ∧
        ∀ k ∈ (s.nbr m).lsRetransmissionList.get? (s.heap.obj r).key, k = r)
          (by rw [FloodsTo, if_neg hrecv, hfind])
    | some m => decidable_of_iff ((nbrEvent m .killNbr s).2.adjacentNeighbors i = [])
        (by rw [FloodsTo, if_neg hrecv, hfind])

/-! ## Serialization -/

namespace Lsa

variable {now : Time}

/-- The bytes depend on the body, and on the header without its checksum. -/
theorem serialize_congr {x y : Lsa} (hbody : x.bodyBytes = y.bodyBytes)
    (h : ∀ n, ((x.stamped now n).withChecksum 0).header = ((y.stamped now n).withChecksum 0).header) :
    (x.serialize now).1 = (y.serialize now).1 := by
  have hset : ∀ n c, (((x.stamped now n).withChecksum 0).withChecksum c).header =
      (((y.stamped now n).withChecksum 0).withChecksum c).header := fun n c =>
    congrArg (fun header : LsaHeader => { header with lsChecksum := c }) (h n)
  rw [serialize, serialize, hbody]
  cases y.bodyBytes with
  | error e => rfl
  | ok body =>
    dsimp only
    rw [h]
    split
    · rfl
    · rw [hset]
      split <;> rfl

/-- What serialization leaves behind. -/
theorem serialize_written (lsa : Lsa) (now : Time) : (lsa.serialize now).2 = lsa ∨
    ∃ n c, (lsa.serialize now).2 = (lsa.stamped now n).withChecksum c := by
  rw [serialize]
  cases lsa.bodyBytes with
  | error e => exact Or.inl rfl
  | ok body =>
    refine Or.inr ⟨body.length, ?_⟩
    dsimp only
    split
    · exact ⟨_, rfl⟩
    · split
      · exact ⟨_, rfl⟩
      · exact ⟨_, rfl⟩

/-- A stamped LSA has the age it is stamped with. -/
theorem currentAge_stamped (lsa : Lsa) (n c : Nat) :
    min (((lsa.stamped now n).withChecksum c).currentAge now) maxAge = min (lsa.currentAge now) maxAge := by
  have hkept : ((lsa.stamped now n).withChecksum c).installTime = lsa.installTime := rfl
  cases ht : lsa.installTime with
  | none =>
    have hage : ((lsa.stamped now n).withChecksum c).currentAge now = min (lsa.currentAge now) maxAge := by
      rw [currentAge, hkept, ht]
      rfl
    rw [hage]
    exact Nat.min_eq_left (Nat.min_le_right ..)
  | some t =>
    have hage : ((lsa.stamped now n).withChecksum c).currentAge now = lsa.currentAge now := by
      rw [currentAge, currentAge, hkept, ht]
      rfl
    rw [hage]

/-- **Serializing again at the same time gives the same bytes.** -/
theorem serialize_serialize (lsa : Lsa) (now : Time) :
    ((lsa.serialize now).2.serialize now).1 = (lsa.serialize now).1 := by
  rcases serialize_written lsa now with h | ⟨n, c, h⟩
  · rw [h]
  · rw [h]
    refine serialize_congr rfl fun k => ?_
    rw [stamped, currentAge_stamped]
    rfl

end Lsa

/-- The instance once an LSA object was serialized. -/
def Instance.written (s : Instance) (r : LsaRef) : Instance :=
  { s with heap := s.heap.set r ((s.heap.obj r).serialize s.now).2 }

/-- An update with one LSA. -/
theorem serializeLsu_eq (r : LsaRef) (s : Instance) : serializeLsu [r] s =
    (((s.heap.obj r).serialize s.now).1.map fun b => [0, 0, 0, 1] ++ b, s.written r) := by
  have hcount : (pack [.I] [.nat 1] : Except PyError Bytes) = .ok [0, 0, 0, 1] := by decide
  have hone : serializeLsa r s = (((s.heap.obj r).serialize s.now).1, s.written r) := rfl
  rw [serializeLsu, Eff.lift_bind_apply, show [r].length = 1 from rfl, hcount]
  dsimp only
  rw [serializeLsas, Eff.bind_apply, Eff.bind_apply, hone]
  rcases ((s.heap.obj r).serialize s.now).1 with e | b
  · rfl
  · change (Except.ok ([0, 0, 0, 1] ++ (b ++ [])), s.written r) = _
    rw [List.append_nil]
    rfl

theorem lsuBytes_eq (s : Instance) (r : LsaRef) :
    lsuBytes s r = ((s.heap.obj r).serialize s.now).1.map fun b => [0, 0, 0, 1] ++ b := by
  rw [lsuBytes, serializeLsu_eq]

theorem lsuBytes_written (s : Instance) (r : LsaRef) : lsuBytes (s.written r) r = lsuBytes s r := by
  rw [lsuBytes_eq, lsuBytes_eq]
  change (((s.heap.set r _).obj r).serialize s.now).1.map _ = _
  rw [LsaHeap.obj_set, if_pos rfl, Lsa.serialize_serialize]

/-! ## One interface at a time -/

/-- Outside an interface nothing changed, and updates were sent on it only.  The LSA is
as it was, but for its header fields that serialization writes. -/
structure Outside (i : IntfId) (r : LsaRef) (s t : Instance) : Prop where
  nbr : ∀ m, m.intf ≠ i → t.nbr m = s.nbr m
  intf : ∀ j, j ≠ i → t.intf j = s.intf j
  routerId : t.routerId = s.routerId
  key : (t.heap.obj r).key = (s.heap.obj r).key
  bytes : lsuBytes t r = lsuBytes s r
  sent : Sends (fun p => p.pktType = packetTypeLsu → p.intf = i) s t

namespace Outside

variable {i : IntfId} {r : LsaRef} {s t u : Instance}

theorem refl (s : Instance) : Outside i r s s := ⟨fun _ _ => rfl, fun _ _ => rfl, rfl, rfl, rfl, .refl s⟩

theorem trans (h : Outside i r s t) (h' : Outside i r t u) : Outside i r s u :=
  ⟨fun m hm => (h'.nbr m hm).trans (h.nbr m hm), fun j hj => (h'.intf j hj).trans (h.intf j hj),
    h'.routerId.trans h.routerId, h'.key.trans h.key, h'.bytes.trans h.bytes, h.sent.trans h'.sent⟩

instance : Std.Refl (Outside i r) := ⟨refl⟩

instance : IsTrans Instance (Outside i r) := ⟨fun _ _ _ => trans⟩

/-- What leaves the LSA objects and the time alone. -/
theorem of_heap (hnbr : ∀ m, m.intf ≠ i → t.nbr m = s.nbr m) (hintf : ∀ j, j ≠ i → t.intf j = s.intf j)
    (hid : t.routerId = s.routerId) (hheap : t.heap = s.heap) (hnow : t.now = s.now)
    (hsent : Sends (fun p => p.pktType = packetTypeLsu → p.intf = i) s t) : Outside i r s t :=
  ⟨hnbr, hintf, hid, by rw [hheap], by rw [lsuBytes_eq, lsuBytes_eq, hheap, hnow], hsent⟩

end Outside

section Outside

variable {i : IntfId} {r : LsaRef}

theorem serializeLsu_outside : Eff.Within (Outside i r) (serializeLsu [r]) := by
  intro s
  rw [serializeLsu_eq]
  refine ⟨fun _ _ => rfl, fun _ _ => rfl, rfl, ?_, lsuBytes_written s r, .of_eq rfl⟩
  change ((s.heap.set r _).obj r).key = _
  rw [LsaHeap.obj_set, if_pos rfl, (Lsa.serialize_sameInstance _ _).key]

theorem sendPacket_outside (pktType : Nat) (body : Bytes) (dest : IPv4Address) :
    Eff.Within (Outside i r) (sendPacket i pktType body dest) := by
  intro s
  have hq := sendPacket_within i pktType body dest s
  exact .of_heap (fun m _ => by rw [hq.nbr]) (fun j _ => by rw [hq.intf]) hq.routerId hq.heap hq.now
    (sendPacket_sends (fun _ _ => rfl) s)

theorem modifyNbr_outside {n : NbrRef} (hn : n.intf = i) (f : OspfNeighbor → OspfNeighbor) :
    Eff.Within (Outside i r) (modifyNbr n f) := by
  intro s
  refine .of_heap (fun m hm => ?_) (fun _ _ => rfl) rfl rfl rfl (.of_eq rfl)
  have hne : m ≠ n := fun heq => hm (by rw [heq, hn])
  exact Instance.nbr_setNbr_of_ne _ hne _

theorem killNbr_outside {n : NbrRef} (hn : n.intf = i) :
    Eff.Within (Outside i r) (nbrEvent n .killNbr) := by
  subst hn
  intro s
  have hsent := nbrEvent_sends (A := fun p => p.pktType = packetTypeLsu → p.intf = n.intf)
    (fun p hp h => absurd h (Nat.ne_of_lt hp)) n .killNbr s
  have hmoves := nbrEvent_reset n (show NbrEvent.killNbr.isReset = true from rfl) s
  -- each move is on the interface, and touches neither LSA objects nor the time
  have hlocal : (∀ m, m.intf ≠ n.intf → (nbrEvent n .killNbr s).2.nbr m = s.nbr m) ∧
      (∀ j, j ≠ n.intf → (nbrEvent n .killNbr s).2.intf j = s.intf j) ∧
      (nbrEvent n .killNbr s).2.routerId = s.routerId ∧ (nbrEvent n .killNbr s).2.heap = s.heap ∧
      (nbrEvent n .killNbr s).2.now = s.now := by
    refine Lts.Moves.invariant (I := fun t : Instance => (∀ m, m.intf ≠ n.intf → t.nbr m = s.nbr m) ∧
      (∀ j, j ≠ n.intf → t.intf j = s.intf j) ∧ t.routerId = s.routerId ∧ t.heap = s.heap ∧
      t.now = s.now) ?_ hmoves ⟨fun _ _ => rfl, fun _ _ => rfl, rfl, rfl, rfl⟩
    rintro l u v (rfl | rfl | rfl) hm ⟨hnbr, hintf, hid, hheap, hnow⟩
    · exact ⟨by rwa [hm.nbr], by rwa [hm.intf], by rwa [hm.routerId], by rwa [hm.heap], by rwa [hm.now]⟩
    · refine ⟨fun m hmi => ?_, fun j hj => ?_, by rwa [hm.routerId], by rwa [hm.heap], by rwa [hm.now]⟩
      · rw [hm.kept m fun hc => hmi hc.1, hnbr m hmi]
      · rw [hm.other j hj, hintf j hj]
    · obtain ⟨x, -, rfl⟩ := hm
      refine ⟨fun m hmi => ?_, hintf, hid, hheap, hnow⟩
      have hne : m ≠ n := fun heq => hmi (by rw [heq])
      rw [Instance.nbr_setNbr_of_ne _ hne, hnbr m hmi]
  exact .of_heap hlocal.1 hlocal.2.1 hlocal.2.2.1 hlocal.2.2.2.1 hlocal.2.2.2.2 hsent

theorem addRetransmission_outside {n : NbrRef} (hn : n.intf = i) :
    Eff.Within (Outside i r) (addRetransmission r n) := by
  refine Eff.Within.read fun s => Eff.Within.ite (Eff.Within.pure false) (Eff.Within.ite ?_ ?_)
  · exact Eff.Within.bind (killNbr_outside hn) fun _ => Eff.Within.pure true
  · exact Eff.Within.bind (modifyNbr_outside hn _) fun _ => Eff.Within.pure false

theorem floodMulticast_outside (dest : IPv4Address) :
    Eff.Within (Outside i r) (floodMulticast r i dest) :=
  Eff.Within.bind serializeLsu_outside fun _ => sendPacket_outside _ _ _

theorem floodUnicast_outside (ns : List NbrRef) : Eff.Within (Outside i r) (floodUnicast r i ns) :=
  Eff.Within.forEach fun _ _ => Eff.Within.bind serializeLsu_outside fun _ =>
    Eff.Within.read fun _ => sendPacket_outside _ _ _

theorem floodToInterface_outside : Eff.Within (Outside i r) (floodToInterface r i) := by
  refine Eff.Within.read fun s => Eff.Within.when fun _ => ?_
  refine Eff.Within.bind (Eff.Within.forUntil fun n hn => ?_) fun killed => ?_
  · exact addRetransmission_outside (Instance.mem_neighborsOf.1 (List.mem_of_mem_filter hn)).1
  · exact Eff.Within.when fun _ => Eff.Within.read fun t =>
      Eff.Within.ite (floodMulticast_outside _) (floodUnicast_outside _)

theorem floodBackToSource_outside : Eff.Within (Outside i r) (floodBackToSource r i) :=
  Eff.Within.read fun _ => Eff.Within.when fun _ => floodMulticast_outside _

end Outside

/-! ## Sending -/

/-- What was sent stays sent. -/
theorem Transmitted.adds {s t u : Instance} {r : LsaRef} {i : IntfId} (h : Transmitted s t r i)
    (ha : Adds t u) : Transmitted s u r i := by
  obtain ⟨new, hnew, p, hp, hcarries⟩ := h
  obtain ⟨more, hmore, -⟩ := ha
  refine ⟨new ++ more, by rw [hmore, hnew, List.append_assoc], p, ?_, hcarries⟩
  exact List.mem_append_left _ hp

theorem not_transmitted {s t : Instance} {r : LsaRef} {i : IntfId}
    (h : Sends (fun p => p.pktType = packetTypeLsu → p.intf ≠ i) s t) : ¬Transmitted s t r i := by
  rintro ⟨new, hnew, p, hp, hi, htype, -⟩
  obtain ⟨new', hnew', hall⟩ := h
  obtain rfl : new = new' := List.append_cancel_left (hnew.symm.trans hnew')
  exact hall p hp htype hi

section Sending

variable {i : IntfId} {r : LsaRef} {s t : Instance}

/-- The LSA is sent when there is a socket, and nothing else happens. -/
structure SendsLsa (i : IntfId) (r : LsaRef) (s t : Instance) : Prop where
  nbr : t.nbr = s.nbr
  intf : t.intf = s.intf
  adds : Adds s t
  bytes : lsuBytes t r = lsuBytes s r
  transmitted : (s.intf i).socket = true → Transmitted s t r i
  unsent : (s.intf i).socket = false → t.sent = s.sent

theorem sendLsu_sends (dest : Instance → IPv4Address) (h : Eff.Runs (do
      let body ← serializeLsu [r]
      let u ← Eff.get
      sendPacket i packetTypeLsu body (dest u)) s () t) : SendsLsa i r s t := by
  obtain ⟨body, u, hbody, hsend⟩ := Eff.Runs.of_bind h
  have hser := serializeLsu_eq r s
  rw [hbody] at hser
  obtain rfl : u = s.written r := congrArg Prod.snd hser
  have hbytes : lsuBytes s r = .ok body := congrArg Prod.fst hbody
  have hout : Outside i r (s.written r) (sendPacket i packetTypeLsu body (dest (s.written r))
    (s.written r)).2 := sendPacket_outside _ _ _ _
  have hq := sendPacket_within i packetTypeLsu body (dest (s.written r)) (s.written r)
  have hadds := sendPacket_adds i packetTypeLsu body (dest (s.written r)) (s.written r)
  have hrun : sendPacket i packetTypeLsu body (dest (s.written r)) (s.written r) = (.ok (), t) := hsend
  rw [hrun] at hout hq hadds
  refine ⟨hq.nbr, hq.intf, hadds, hout.bytes.trans (lsuBytes_written s r), fun hsock => ?_, fun hsock => ?_⟩
  · by_cases hfit : OspfHeader.size + body.length < 65536
    · obtain ⟨data, cryptSeq, hsent⟩ := sendPacket_returns i (dest (s.written r))
        (by decide : packetTypeLsu < 256) hfit (s.written r)
      have hsock' : ((s.written r).intf i).socket = true := hsock
      rw [hrun, if_pos hsock'] at hsent
      obtain rfl : t = _ := congrArg Prod.snd hsent
      exact ⟨_, rfl, _, List.mem_singleton_self _, rfl, rfl, hbytes⟩
    · have hsock' : ((s.written r).intf i).socket = true := hsock
      rw [sendPacket, Eff.get_bind_apply, Eff.when_pos hsock', Eff.lift_bind_apply,
        transmitted_error _ _ _ _ _ _ _ _ hfit] at hrun
      cases hrun
  · have hno : ¬((s.written r).intf i).socket = true := by
      change ¬(s.intf i).socket = true
      rw [hsock]
      exact Bool.false_ne_true
    rw [sendPacket, Eff.get_bind_apply, Eff.when_neg hno] at hrun
    obtain rfl : s.written r = t := congrArg Prod.snd hrun
    rfl

theorem floodMulticast_sendsLsa {dest : IPv4Address} (h : Eff.Runs (floodMulticast r i dest) s () t) :
    SendsLsa i r s t := sendLsu_sends (fun _ => dest) h

/-- To each of at least one neighbor. -/
theorem floodUnicast_sendsLsa {ns : List NbrRef} (hns : ns ≠ [])
    (h : Eff.Runs (floodUnicast r i ns) s () t) : SendsLsa i r s t := by
  obtain ⟨n, ns, rfl⟩ := List.exists_cons_of_ne_nil hns
  obtain ⟨_, u, hfirst, hrest⟩ := Eff.Runs.of_bind h
  have hone := sendLsu_sends (fun u => (u.nbr n).ipAddr) hfirst
  refine Eff.Runs.forEach_keeps (I := SendsLsa i r s) hrest (fun m _ v w hw hv => ?_) hone
  have hnext := sendLsu_sends (fun u => (u.nbr m).ipAddr) hw
  refine ⟨hnext.nbr.trans hv.nbr, hnext.intf.trans hv.intf, hv.adds.trans hnext.adds,
    hnext.bytes.trans hv.bytes, fun hsock => (hv.transmitted hsock).adds hnext.adds, fun hsock => ?_⟩
  exact (hnext.unsent (by rwa [hv.intf])).trans (hv.unsent hsock)

end Sending

/-! ## Lists -/

/-- A neighbor with an LSA on its retransmission list, unless there is one of its key. -/
def OspfNeighbor.pended (x : OspfNeighbor) (key : LsaKey) (r : LsaRef) : OspfNeighbor :=
  if x.lsRetransmissionList.contains key then x
  else { x with lsRetransmissionList := x.lsRetransmissionList.set key r }

/-- An LSA on the lists of some neighbors. -/
def Instance.pendAll (s : Instance) (r : LsaRef) (ns : List NbrRef) : Instance :=
  { s with nbr := fun m => if m ∈ ns then (s.nbr m).pended (s.heap.obj r).key r else s.nbr m }

section Lists

variable {s : Instance} {r : LsaRef}

@[simp] theorem OspfNeighbor.seat_pended (x : OspfNeighbor) (key : LsaKey) (r : LsaRef) :
    (x.pended key r).seat = x.seat := by
  rw [pended]
  split <;> rfl

theorem OspfNeighbor.get?_pended (x : OspfNeighbor) (key : LsaKey) (r : LsaRef) :
    (x.pended key r).lsRetransmissionList.get? key = some ((x.lsRetransmissionList.get? key).getD r) := by
  rw [pended, Dict.contains]
  rcases hget : x.lsRetransmissionList.get? key with _ | k
  · rw [if_neg (by simp)]
    exact Dict.get?_set_self ..
  · rw [if_pos (by simp), hget]
    rfl

theorem Instance.sameSeats_pendAll (s : Instance) (r : LsaRef) (ns : List NbrRef) (i : IntfId) :
    SameSeats i s (s.pendAll r ns) := by
  refine ⟨rfl, rfl, fun m _ => ?_⟩
  rw [pendAll]
  dsimp only
  split
  · exact OspfNeighbor.seat_pended ..
  · rfl

theorem transmitted_pendAll (s t : Instance) (r : LsaRef) (ns : List NbrRef) (i : IntfId) :
    Transmitted (s.pendAll r ns) t r i ↔ Transmitted s t r i := by
  have hbytes : lsuBytes (s.pendAll r ns) r = lsuBytes s r := by
    rw [lsuBytes_eq, lsuBytes_eq]
    rfl
  rw [Transmitted, Transmitted, hbytes]
  rfl

theorem Instance.pendAll_nil (s : Instance) (r : LsaRef) : s.pendAll r [] = s := by
  simp [pendAll]

theorem OspfNeighbor.contains_pended (x : OspfNeighbor) (key : LsaKey) (r : LsaRef) :
    (x.pended key r).lsRetransmissionList.contains key = true := by
  rw [Dict.contains, get?_pended]
  rfl

theorem OspfNeighbor.pended_of_contains {x : OspfNeighbor} {key : LsaKey}
    (h : x.lsRetransmissionList.contains key = true) (r : LsaRef) : x.pended key r = x := if_pos h

theorem Instance.nbr_pendAll (s : Instance) (r : LsaRef) (ns : List NbrRef) (m : NbrRef) :
    (s.pendAll r ns).nbr m =
      if m ∈ ns then (s.nbr m).pended (s.heap.obj r).key r else s.nbr m := rfl

/-- One more neighbor. -/
theorem Instance.pendAll_append (s : Instance) (r : LsaRef) (ns : List NbrRef) (m : NbrRef) :
    s.pendAll r (ns ++ [m]) = (s.pendAll r ns).setNbr m
      (((s.pendAll r ns).nbr m).pended (s.heap.obj r).key r) := by
  have hnbr : (s.pendAll r (ns ++ [m])).nbr = ((s.pendAll r ns).setNbr m
      (((s.pendAll r ns).nbr m).pended (s.heap.obj r).key r)).nbr := by
    funext k
    rw [nbr_pendAll, nbr_setNbr]
    by_cases hk : k = m
    · subst hk
      rw [if_pos (List.mem_append_right _ (List.mem_singleton_self _)), if_pos rfl, nbr_pendAll]
      split
      · rw [OspfNeighbor.pended_of_contains (OspfNeighbor.contains_pended ..)]
      · rfl
    · rw [if_neg hk, nbr_pendAll]
      simp [hk]
  simp only [pendAll, setNbr] at hnbr ⊢
  rw [hnbr]

/-- A neighbor with room for the LSA has it afterwards. -/
theorem addRetransmission_pends {m : NbrRef} (done : List NbrRef) (h : overflows s r m = false) :
    addRetransmission r m (s.pendAll r done) = (.ok false, s.pendAll r (done ++ [m])) := by
  have hnbr := s.nbr_pendAll r done m
  have hheap : (s.pendAll r done).heap = s.heap := rfl
  rw [addRetransmission, Eff.get_bind_apply, s.pendAll_append, hheap]
  by_cases hmem : ((s.pendAll r done).nbr m).lsRetransmissionList.contains (s.heap.obj r).key = true
  · rw [if_pos hmem, OspfNeighbor.pended_of_contains hmem, Instance.setNbr_eq_self]
    rfl
  · rw [if_neg hmem, OspfNeighbor.pended, if_neg hmem]
    have hroom : ¬maxRxmtList ≤ ((s.pendAll r done).nbr m).lsRetransmissionList.size := by
      by_cases hd : m ∈ done
      · rw [hnbr, if_pos hd] at hmem
        exact absurd (OspfNeighbor.contains_pended ..) hmem
      · rw [hnbr, if_neg hd] at hmem ⊢
        intro hfull
        rw [overflows, decide_eq_false_iff_not] at h
        exact h ⟨hmem, hfull⟩
    rw [if_neg hroom, modifyNbr_bind_apply]
    rfl

/-- A neighbor without room for the LSA is killed. -/
theorem addRetransmission_kills {m : NbrRef} {done : List NbrRef} (hm : m ∉ done)
    (h : overflows s r m = true) : addRetransmission r m (s.pendAll r done) =
      (nbrEvent m .killNbr >>= fun _ => pure true) (s.pendAll r done) := by
  have hnbr := s.nbr_pendAll r done m
  have hheap : (s.pendAll r done).heap = s.heap := rfl
  rw [overflows, decide_eq_true_iff] at h
  rw [addRetransmission, Eff.get_bind_apply, hheap, hnbr, if_neg hm, if_neg h.1, if_pos h.2]

/-- All neighbors in turn, up to the first that has no room. -/
theorem addRetransmissions_run : ∀ (todo done : List NbrRef), (∀ m ∈ done, overflows s r m = false) →
    match todo.find? (overflows s r) with
    | none => Eff.forUntil todo (addRetransmission r) (s.pendAll r done) =
        (.ok false, s.pendAll r (done ++ todo))
    | some m => ∃ ns, Eff.forUntil todo (addRetransmission r) (s.pendAll r done) =
        (nbrEvent m .killNbr >>= fun _ => pure true) (s.pendAll r ns)
  | [], done, _ => by
    rw [List.append_nil]
    rfl
  | m :: todo, done, hdone => by
    rw [Eff.forUntil_cons]
    by_cases hm : overflows s r m = true
    · rw [List.find?_cons_of_pos hm]
      have hnot : m ∉ done := fun hmem => by
        rw [hdone m hmem] at hm
        cases hm
      refine ⟨done, ?_⟩
      have hkill := addRetransmission_kills hnot hm
      rw [Eff.bind_apply, hkill]
      rcases hrun : nbrEvent m .killNbr (s.pendAll r done) with ⟨e | u, t⟩
      · rw [Eff.bind_apply_error hrun]
      · rw [Eff.bind_apply_ok hrun]
        rfl
    · have hm' : overflows s r m = false := by simpa using hm
      have hrest := addRetransmissions_run todo (done ++ [m]) fun k hk => by
        rcases List.mem_append.1 hk with hk | hk
        · exact hdone k hk
        · rwa [List.mem_singleton.1 hk]
      rw [List.find?_cons_of_neg hm, Eff.bind_apply_ok (addRetransmission_pends done hm'),
        if_neg Bool.false_ne_true]
      rw [List.append_assoc] at hrest
      exact hrest

end Lists

/-! ## One interface -/

theorem Instance.adjacentNeighbors_congr {s t : Instance} (hn : t.nbr = s.nbr) (hi : t.intf = s.intf)
    (i : IntfId) : t.adjacentNeighbors i = s.adjacentNeighbors i := by
  simp only [adjacentNeighbors, neighborsOf, hn, hi]

section Interface

variable {i : IntfId} {r : LsaRef} {s t : Instance} {recv : Option NbrRef}

/-- **Flooding to an interface** on which the LSA was not received. -/
theorem floodToInterface_covers (hi : recv.map NbrRef.intf ≠ some i)
    (h : Eff.Runs (floodToInterface r i) s () t) : CoversOn s t r recv i ↔ FloodsTo s r recv i := by
  have hnot : ¬Spared s recv i := fun hs => hi hs.1
  have hother : ∀ {u : Instance}, ∀ m ∈ u.adjacentNeighbors i, some m ≠ recv := by
    rintro u m hm rfl
    refine hi ?_
    rw [Option.map_some, (Instance.mem_neighborsOf.1 (List.mem_of_mem_filter hm)).1]
  rw [FloodsTo, if_neg hi]
  rw [floodToInterface, Eff.Runs, Eff.get_bind_apply] at h
  by_cases hne : s.adjacentNeighbors i ≠ []
  · rw [Eff.when_pos hne] at h
    have hloop := addRetransmissions_run (s := s) (r := r) (s.adjacentNeighbors i) [] (by simp)
    rw [Instance.pendAll_nil, List.nil_append] at hloop
    rcases hfind : (s.adjacentNeighbors i).find? (overflows s r) with _ | m
    · -- everyone has room
      rw [hfind] at hloop
      dsimp only at hloop ⊢
      rw [Eff.bind_apply_ok hloop, Eff.when_pos (by simp), Eff.get_bind_apply, Eff.ite_apply] at h
      have hsend : SendsLsa i r (s.pendAll r (s.adjacentNeighbors i)) t := by
        split at h
        · exact floodMulticast_sendsLsa h
        · exact floodUnicast_sendsLsa hne h
      have hadj : t.adjacentNeighbors i = s.adjacentNeighbors i :=
        (Instance.adjacentNeighbors_congr hsend.nbr hsend.intf i).trans
          (s.sameSeats_pendAll r _ i).adjacentNeighbors
      have htrans := transmitted_pendAll s t r (s.adjacentNeighbors i) i
      have hsocket : ((s.pendAll r (s.adjacentNeighbors i)).intf i).socket = (s.intf i).socket := rfl
      have hget : ∀ m ∈ s.adjacentNeighbors i,
          (t.nbr m).lsRetransmissionList.get? (s.heap.obj r).key =
            some (((s.nbr m).lsRetransmissionList.get? (s.heap.obj r).key).getD r) := by
        intro m hm
        rw [hsend.nbr, Instance.nbr_pendAll, if_pos hm, OspfNeighbor.get?_pended]
      constructor
      · intro hc m hm
        obtain ⟨hlist, hsent⟩ := hc hnot m (by rwa [hadj]) (hother m hm)
        refine ⟨?_, fun k hk => ?_⟩
        · by_contra hsock
          rw [← hsocket, Bool.not_eq_true] at hsock
          exact not_transmitted (.of_eq (hsend.unsent hsock)) (htrans.2 hsent)
        · rw [hget m hm, hk] at hlist
          exact Option.some.inj hlist
      · intro hc _ m hm _
        rw [hadj] at hm
        obtain ⟨hsock, hkey⟩ := hc m hm
        refine ⟨?_, htrans.1 (hsend.transmitted hsock)⟩
        rw [hget m hm]
        rcases hk : (s.nbr m).lsRetransmissionList.get? (s.heap.obj r).key with _ | k
        · rfl
        · rw [hkey k hk]
          rfl
    · -- the first neighbor without room is killed
      rw [hfind] at hloop
      obtain ⟨ns, hloop⟩ := hloop
      have hm : m.intf = i :=
        (Instance.mem_neighborsOf.1 (List.mem_of_mem_filter (List.mem_of_find?_eq_some hfind))).1
      obtain ⟨-, hok, hsame⟩ := killNbr_together hm (s.sameSeats_pendAll r ns i)
      have hsent := nbrEvent_sends (A := fun p => p.pktType = packetTypeLsu → p.intf ≠ i)
        (fun p hp h => absurd h (Nat.ne_of_lt hp)) m .killNbr (s.pendAll r ns)
      rcases hrun : nbrEvent m .killNbr (s.pendAll r ns) with ⟨res, v⟩
      rw [hrun] at hok hsame hsent
      obtain rfl : res = .ok () := hok
      rw [Eff.bind_apply_ok hrun] at hloop
      rw [Eff.bind_apply_ok hloop, Eff.when_neg (by simp)] at h
      obtain rfl : v = t := congrArg Prod.snd h
      dsimp only
      rw [← hsame.adjacentNeighbors]
      constructor
      · intro hc
        by_contra hsome
        obtain ⟨k, hk⟩ := List.exists_mem_of_ne_nil _ hsome
        exact not_transmitted hsent ((transmitted_pendAll s v r ns i).2 (hc hnot k hk (hother k hk)).2)
      · intro hnone _ k hk
        rw [hnone] at hk
        cases hk
  · rw [Eff.when_neg hne] at h
    obtain rfl : s = t := congrArg Prod.snd h
    rw [not_not] at hne
    rw [hne]
    exact ⟨fun _ k hk => (by cases hk), fun _ _ k hk => by rw [hne] at hk; cases hk⟩

/-- **Flooding on the receiving interface.** -/
theorem floodBackToSource_covers (hi : recv.map NbrRef.intf = some i)
    (h : Eff.Runs (floodBackToSource r i) s () t) : CoversOn s t r recv i ↔ FloodsTo s r recv i := by
  rw [FloodsTo, if_pos hi]
  rw [floodBackToSource, Eff.Runs, Eff.get_bind_apply] at h
  by_cases hdr : (s.intf i).intfType.isMultiAccess = true ∧ (s.intf i).state = .dr
  · rw [Eff.when_pos hdr] at h
    have hsend := floodMulticast_sendsLsa h
    have hnot : ¬Spared s recv i := fun hs => hs.2.2 hdr.2
    have hadj := Instance.adjacentNeighbors_congr hsend.nbr hsend.intf i
    rw [or_iff_right hnot]
    constructor
    · intro hc m hm hne
      obtain ⟨hlist, hsent⟩ := hc hnot m (by rwa [hadj]) hne
      refine ⟨hdr.1, ?_, by rwa [← hsend.nbr]⟩
      by_contra hsock
      exact not_transmitted (.of_eq (hsend.unsent (by simpa using hsock))) hsent
    · intro hc _ m hm hne
      rw [hadj] at hm
      obtain ⟨-, hsock, hlist⟩ := hc m hm hne
      exact ⟨by rwa [hsend.nbr], hsend.transmitted hsock⟩
  · rw [Eff.when_neg hdr] at h
    obtain rfl : s = t := congrArg Prod.snd h
    constructor
    · intro hc
      by_cases hs : Spared s recv i
      · exact Or.inl hs
      · exact Or.inr fun m hm hne => absurd (hc hs m hm hne).2 (not_transmitted (.of_eq rfl))
    · rintro (hs | hc) hnot m hm hne
      · exact absurd hs hnot
      · refine absurd ⟨hi, (hc m hm hne).1, fun hst => hdr ⟨(hc m hm hne).1, hst⟩⟩ hnot

end Interface

/-! ## All interfaces -/

section Frame

variable {i j : IntfId} {r : LsaRef} {recv : Option NbrRef} {s t u : Instance}

theorem Outside.adjacentNeighbors (h : Outside j r s t) (hij : i ≠ j) :
    t.adjacentNeighbors i = s.adjacentNeighbors i := by
  rw [Instance.adjacentNeighbors, Instance.adjacentNeighbors, Instance.neighborsOf, Instance.neighborsOf,
    h.intf i hij]
  refine List.filter_congr fun m hm => ?_
  have hmi : m.intf = i := (Instance.mem_neighborsOf (s := s)).1 hm |>.1
  rw [h.nbr m (by rwa [hmi])]

theorem Outside.sameSeats (h : Outside j r s t) (hij : i ≠ j) : SameSeats i s t :=
  ⟨h.intf i hij, h.routerId, fun m hm => by rw [h.nbr m (by rwa [hm])]⟩

theorem Outside.spared (h : Outside j r s t) (hij : i ≠ j) : Spared t recv i ↔ Spared s recv i := by
  rw [Spared, Spared, h.intf i hij]

/-- Flooding on one interface does not change what flooding does on another. -/
theorem Outside.floodsTo (h : Outside j r s t) (hij : i ≠ j) :
    FloodsTo t r recv i ↔ FloodsTo s r recv i := by
  have hmem : ∀ m ∈ s.adjacentNeighbors i, m.intf = i := fun m hm =>
    (Instance.mem_neighborsOf.1 (List.mem_of_mem_filter hm)).1
  have hnbr : ∀ m ∈ s.adjacentNeighbors i, t.nbr m = s.nbr m := fun m hm =>
    h.nbr m (by rwa [hmem m hm])
  rw [FloodsTo, FloodsTo, h.adjacentNeighbors hij, h.spared hij, h.intf i hij, h.key]
  by_cases hrecv : recv.map NbrRef.intf = some i
  · rw [if_pos hrecv, if_pos hrecv]
    refine or_congr_right (forall₂_congr fun m hm => ?_)
    rw [hnbr m hm]
  · rw [if_neg hrecv, if_neg hrecv]
    have hfind : (s.adjacentNeighbors i).find? (overflows t r) =
        (s.adjacentNeighbors i).find? (overflows s r) := by
      refine List.find?_congr fun m hm => ?_
      rw [overflows, overflows, hnbr m hm, h.key]
    rw [hfind]
    rcases hf : (s.adjacentNeighbors i).find? (overflows s r) with _ | m
    · refine forall₂_congr fun m hm => ?_
      rw [hnbr m hm]
    · have hm := hmem m (List.mem_of_find?_eq_some hf)
      dsimp only
      rw [(killNbr_together hm (h.sameSeats hij)).same.adjacentNeighbors]

theorem Outside.transmitted (h : Outside j r s t) (hij : i ≠ j) (ha : Adds t u) :
    Transmitted s u r i ↔ Transmitted t u r i := by
  obtain ⟨new, hnew, hall⟩ := h.sent
  obtain ⟨more, hmore, -⟩ := ha
  constructor
  · rintro ⟨all, hall', p, hp, hpi, htype, hbytes⟩
    obtain rfl : new ++ more = all :=
      List.append_cancel_left (by rw [← List.append_assoc, ← hnew, ← hmore, hall'])
    rcases List.mem_append.1 hp with hp | hp
    · exact absurd ((hpi.symm.trans (hall p hp htype))) hij
    · exact ⟨more, hmore, p, hp, hpi, htype, h.bytes.trans hbytes⟩
  · rintro ⟨more', hmore', p, hp, hpi, htype, hbytes⟩
    refine ⟨new ++ more', by rw [hmore', hnew, List.append_assoc], p, List.mem_append_right _ hp, hpi,
      htype, h.bytes.symm.trans hbytes⟩

/-- Nor does it change whom flooding reached on another, before or after. -/
theorem Outside.coversOn_before (h : Outside j r s t) (hij : i ≠ j) (ha : Adds t u) :
    CoversOn s u r recv i ↔ CoversOn t u r recv i := by
  rw [CoversOn, CoversOn, h.spared hij, h.transmitted hij ha, h.key]

theorem Outside.coversOn_after (h : Outside j r t u) (hij : i ≠ j) (ha : Adds s t) :
    CoversOn s u r recv i ↔ CoversOn s t r recv i := by
  have htrans : Transmitted s u r i ↔ Transmitted s t r i := by
    constructor
    · rintro ⟨new, hnew, p, hp, hpi, htype, hbytes⟩
      obtain ⟨more, hmore, -⟩ := ha
      obtain ⟨rest, hrest, hall⟩ := h.sent
      obtain rfl : more ++ rest = new :=
        List.append_cancel_left (by rw [← List.append_assoc, ← hmore, ← hrest, hnew])
      rcases List.mem_append.1 hp with hp | hp
      · exact ⟨more, hmore, p, hp, hpi, htype, hbytes⟩
      · exact absurd (hpi.symm.trans (hall p hp htype)) hij
    · exact fun htr => htr.adds (h.sent.mono fun _ _ => trivial)
  have hnbr : ∀ m ∈ t.adjacentNeighbors i, u.nbr m = t.nbr m := fun m hm =>
    h.nbr m (by rwa [(Instance.mem_neighborsOf.1 (List.mem_of_mem_filter hm)).1])
  rw [CoversOn, CoversOn, h.adjacentNeighbors hij, htrans]
  refine imp_congr_right fun _ => forall₂_congr fun m hm => ?_
  rw [hnbr m hm]

end Frame

/-- **When flooding reaches every neighbor**: on each interface in scope, as it is before
flooding. -/
theorem floodLsa_covers_iff {s t : Instance} {r : LsaRef} {areaId : IPv4Address} {recv : Option NbrRef}
    (hscope : (floodScope s (s.heap.obj r).header.lsType areaId).Nodup)
    (h : Eff.Runs (floodLsa r areaId (recv.map NbrRef.intf)) s () t) :
    Covers s t r areaId recv ↔
      ∀ i ∈ floodScope s (s.heap.obj r).header.lsType areaId, FloodsTo s r recv i := by
  have hout : ∀ i, Eff.Within (Outside i r) (if recv.map NbrRef.intf = some i then floodBackToSource r i
      else floodToInterface r i) := fun i =>
    Eff.Within.ite floodBackToSource_outside floodToInterface_outside
  have hruns : ∀ i u v, Eff.Runs (if recv.map NbrRef.intf = some i then floodBackToSource r i
      else floodToInterface r i) u () v → Outside i r u v := by
    intro i u v hv
    have hiv := hout i u
    rwa [hv] at hiv
  have hadds : ∀ {i u v}, Outside i r u v → Adds u v := fun hv => hv.sent.mono fun _ _ => trivial
  rw [floodLsa, Eff.Runs, Eff.get_bind_apply] at h
  refine forall₂_congr fun i hi => ?_
  refine Eff.Runs.forEach_iff (R := Adds) (P := fun i u v => CoversOn u v r recv i)
    (C := fun i u => FloodsTo u r recv i) ?_ ?_ ?_ ?_ ?_ hscope h i hi
  · exact fun i u v hv => hadds (hruns i u v hv)
  · intro i u v hv
    by_cases hrecv : recv.map NbrRef.intf = some i
    · rw [if_pos hrecv] at hv
      exact floodBackToSource_covers hrecv hv
    · rw [if_neg hrecv] at hv
      exact floodToInterface_covers hrecv hv
  · exact fun i j u v hij hv => (hruns j u v hv).floodsTo hij
  · exact fun i j u v w hij hv ha => (hruns j u v hv).coversOn_before hij ha
  · exact fun i j u v w hij ha hw => (hruns j v w hw).coversOn_after hij ha

/-! ### The second instance of an LSA -/

/-- A new Summary-LSA of this router, not yet flooded. -/
def withSummary (s : Instance) : Instance :=
  (newLsa { header := originatedHeader s lsaTypeSummary 167772416 initialSeqNum,
            body := some (.summary { networkMask := 4294967040, metric := 10 }) } s).2

/-- It is flooded. -/
def floodSummary (s : Instance) : Except PyError Unit × Instance :=
  floodLsa s.heap.next backboneArea none (withSummary s)

theorem runs_floodSummary {s : Instance} (h : (floodSummary s).1.isOk = true) :
    Eff.Runs (floodLsa s.heap.next backboneArea none) (withSummary s) () (floodSummary s).2 := by
  change floodSummary s = _
  rcases hrun : floodSummary s with ⟨e | u, t⟩
  · rw [hrun] at h
    cases h
  · rfl

/-- The first instance reaches the neighbor. -/
theorem floodLsa_covers_first : (withSummary peerExchange).adjacentNeighbors 0 = [⟨0, 2⟩] ∧
    Covers (withSummary peerExchange) (floodSummary peerExchange).2 peerExchange.heap.next backboneArea none :=
  ⟨by decide +kernel,
    (@floodLsa_covers_iff _ _ _ _ none (by decide +kernel) (runs_floodSummary (by decide +kernel))).2
      (by decide +kernel)⟩

/-- While it is not acknowledged, the next one is not put on the list. -/
theorem not_floodLsa_covers : ¬∀ s t r areaId recv,
    (floodScope s (s.heap.obj r).header.lsType areaId).Nodup →
    Eff.Runs (floodLsa r areaId (recv.map NbrRef.intf)) s () t → Covers s t r areaId recv := by
  intro hall
  let s : Instance := (floodSummary peerExchange).2
  have hcovers := hall (withSummary s) (floodSummary s).2 s.heap.next backboneArea none (by decide +kernel)
    (runs_floodSummary (by decide +kernel))
  have hon := hcovers 0 (by decide +kernel) (by decide +kernel) ⟨0, 2⟩ (by decide +kernel) nofun
  have hlist : ((floodSummary s).2.nbr ⟨0, 2⟩).lsRetransmissionList.get?
      ((withSummary s).heap.obj s.heap.next).key ≠ some s.heap.next := by decide +kernel
  exact hlist hon.1

end Ospfd
