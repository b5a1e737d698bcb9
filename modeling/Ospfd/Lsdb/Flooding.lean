import Ospfd.Protocol.Exchange

/-!
# Flooding

* `floodLsa` — flood an LSA out of the interfaces in its scope.
* `floodToInterface` — to one interface: the LSA goes on the retransmission list of
  every adjacent neighbor, and is sent once.
* `addRetransmission` — one neighbor's list, with its limit.
-/

namespace Ospfd

def maxRxmtList : Nat := 1000

/-- Send an LSA to each of the neighbors. -/
def floodUnicast (r : LsaRef) (i : IntfId) (eligible : List NbrRef) : Py Unit :=
  Eff.forEach eligible fun n => do
    let body ← serializeLsu [r]
    let s ← Eff.get
    sendPacket i packetTypeLsu body (s.nbr n).ipAddr

/-- Send an LSA to a multicast address. -/
def floodMulticast (r : LsaRef) (i : IntfId) (dest : IPv4Address) : Py Unit := do
  let body ← serializeLsu [r]
  sendPacket i packetTypeLsu body dest

/-- Put an LSA on the retransmission list of a neighbor that has none of its key.  A
neighbor whose list is full is killed instead, which is answered by `true`. -/
def addRetransmission (r : LsaRef) (n : NbrRef) : Py Bool := do
  let s ← Eff.get
  let key := (s.heap.obj r).key
  if (s.nbr n).lsRetransmissionList.contains key then pure false
  else if maxRxmtList ≤ (s.nbr n).lsRetransmissionList.size then
    nbrEvent n .killNbr
    pure true
  else
    modifyNbr n fun x => { x with lsRetransmissionList := x.lsRetransmissionList.set key r }
    pure false

/-- `_flood_to_interface`. -/
def floodToInterface (r : LsaRef) (i : IntfId) : Py Unit := do
  let s ← Eff.get
  let eligible := s.adjacentNeighbors i
  Eff.when (eligible ≠ []) do
    let killed ← Eff.forUntil eligible (addRetransmission r)
    Eff.when (¬killed) do
      let s ← Eff.get
      (if (s.intf i).intfType.isMultiAccess then floodMulticast r i (floodDest (s.intf i))
      else floodUnicast r i eligible)

/-- `_flood_back_to_source`: only the DR of a multi-access network floods back. -/
def floodBackToSource (r : LsaRef) (i : IntfId) : Py Unit := do
  let s ← Eff.get
  Eff.when ((s.intf i).intfType.isMultiAccess ∧ (s.intf i).state = .dr)
    (floodMulticast r i allSpfRouters)

/-- The interfaces of all areas for an AS-wide LSA, those of its area for any other. -/
def floodScope (s : Instance) (lsType : Nat) (areaId : IPv4Address) : List IntfId :=
  if asWide lsType then (s.areas.values.map OspfArea.interfaces).flatten
  else s.interfacesForArea areaId

/-- `flood_lsa`, with the interface the LSA was received on, if it was received. -/
def floodLsa (r : LsaRef) (areaId : IPv4Address) (recvIntf : Option IntfId) : Py Unit := do
  let s ← Eff.get
  Eff.forEach (floodScope s (s.heap.obj r).header.lsType areaId) fun i =>
    if recvIntf = some i then floodBackToSource r i else floodToInterface r i

end Ospfd
