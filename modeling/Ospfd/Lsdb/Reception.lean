import Ospfd.Lsdb.Origination

/-!
# Reception of updates

* `processReceivedLsa` — one received LSA: newer, the same, or older than the stored one.
* `receiveLsu` — a received update; afterwards its keys leave the neighbor's lists.
-/

namespace Ospfd

/-- The LSA types that are known. -/
def validLsaType (lsType : Nat) : Bool := lsType ∈ [1, 2, 3, 4, 5, 9, 10, 11]

/-- `_acknowledge`: directly while the interface is Down, Loopback, Waiting or
Point-to-Point, delayed otherwise. -/
def acknowledge (r : LsaRef) (n : NbrRef) : Py Unit := do
  let s ← Eff.get
  let intf := s.intf n.intf
  if intf.intfType.isMultiAccess ∧ ¬(intf.state = .dr ∨ intf.state = .backup ∨ intf.state = .drOther)
  then
    let body ← serializeLsack [r]
    sendPacket n.intf packetTypeLsack body (s.nbr n).ipAddr
  else queueDelayedAck n.intf r

/-- The steps after a received LSA was installed and flooded. -/
def afterInstall (r : LsaRef) (n : NbrRef) (areaId : IPv4Address) : Py Unit := do
  let s ← Eff.get
  let lsa := s.heap.obj r
  if s.lsdb.isSelfOriginated lsa then
    if maxAge ≤ lsa.header.lsAge then removeLsa areaId lsa.key
    else
      let _ ← refreshLsa areaId r
      pure ()
  else
    acknowledge r n
    scheduleSpf

/-- A received LSA that is new, or newer than the stored one. -/
def receivedNewer (r : LsaRef) (n : NbrRef) (areaId : IPv4Address) : Py Unit := do
  let installed ← installLsa areaId r
  Eff.when installed do
    floodLsa r areaId (some n.intf)
    afterInstall r n areaId

/-- A received LSA that is the stored instance: an implied acknowledgment. -/
def receivedSame (r : LsaRef) (n : NbrRef) : Py Unit := do
  let s ← Eff.get
  modifyNbr n fun x => x.acked (s.heap.obj r).key
  Eff.when (s.intf n.intf).intfType.isMultiAccess (queueDelayedAck n.intf r)

/-- `_process_received_lsa`. -/
def processReceivedLsa (r : LsaRef) (n : NbrRef) (areaId : IPv4Address) : Py Unit := do
  let s ← Eff.get
  let lsa := s.heap.obj r
  Eff.when (validLsaType lsa.header.lsType) <|
    match s.lsdb.lookup areaId lsa.key with
    | none => receivedNewer r n areaId
    | some e =>
        let cmp := compareLsa lsa.header (s.heap.obj e).header
        if 0 < cmp then receivedNewer r n areaId
        else if cmp = 0 then receivedSame r n
        else sendLsUpdate n [e]

/-- The LSAs of a decoded update, as objects. -/
def newLsas : List Lsa → Py (List LsaRef)
  | [] => pure []
  | lsa :: lsas => do
      let r ← newLsa lsa
      let rs ← newLsas lsas
      pure (r :: rs)

/-- `receive_lsu`. -/
def receiveLsu (n : NbrRef) (lsu : LsuPacket) : Py Unit := do
  let s ← Eff.get
  let areaId := (s.intf n.intf).areaId
  let rs ← newLsas lsu.lsas
  Eff.forEach rs fun r => processReceivedLsa r n areaId
  processLsUpdate n (lsu.lsas.map Lsa.key)

end Ospfd
