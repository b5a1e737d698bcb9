import Ospfd.Protocol.Interface

/-!
# The database exchange

What a neighbor does with received Database Description, Link State Request and Link
State Acknowledgment packets, and with the keys of a processed update.

* `processDd` — by the state of the neighbor; `processDdExstart` negotiates master and
  slave, `processDdExchange` pages through both summaries.
* `processDdHeaders` — what is missing here goes on the request list.
* `processLsRequest`, `processLsUpdate`, `processLsAck`.
-/

namespace Ospfd

/-! ## Database descriptions -/

/-- Whether this router needs the instance a header describes. -/
def needsLsa (s : Instance) (areaId : IPv4Address) (h : LsaHeader) : Bool :=
  match s.lsdb.lookup areaId h.key with
  | none => true
  | some r => 0 < compareLsa h (s.heap.obj r).header

/-- `_process_dd_headers`. -/
def processDdHeaders (n : NbrRef) (dd : DDPacket) : Py Unit :=
  Eff.forEach dd.lsaHeaders fun h => do
    let s ← Eff.get
    Eff.when (needsLsa s (s.intf n.intf).areaId h) do
      modifyNbr n fun x =>
        { x with lsRequestList := x.lsRequestList.set h.key h, requested := x.requested ++ [h] }

/-- `_is_duplicate_dd`. -/
def OspfNeighbor.isDuplicateDd (x : OspfNeighbor) (dd : DDPacket) : Bool :=
  match x.lastReceivedDd with
  | none => false
  | some last =>
      dd.ddSeqNumber = last.ddSeqNumber ∧ dd.flags = last.flags ∧ dd.options = last.options

/-- A description with which the neighbor claims to be master: I, M and MS set, no headers. -/
def DDPacket.claimsMaster (dd : DDPacket) : Bool :=
  dd.isInit ∧ dd.isMore ∧ dd.isMaster ∧ dd.lsaHeaders = []

/-- The neighbor has the higher router ID and becomes master. -/
def becomeSlave (n : NbrRef) (dd : DDPacket) : Py Unit := do
  modifyNbr n fun x =>
    { x with isMaster := false, ddSeqNumber := dd.ddSeqNumber, ddOptions := dd.options,
             ddRxmtTimer := false }
  nbrEvent n .negotiationDone
  sendDdSlave n

/-- The neighbor acknowledges this router as master. -/
def becomeMaster (n : NbrRef) (dd : DDPacket) : Py Unit := do
  modifyNbr n fun x => { x with isMaster := true, ddOptions := dd.options, ddRxmtTimer := false }
  nbrEvent n .negotiationDone
  processDdHeaders n dd
  modifyNbr n fun x => { x with lastReceivedDd := some dd }
  modifyNbr n fun x => { x with ddSeqNumber := x.ddSeqNumber + 1 }
  sendDdMaster n

/-- `_process_dd_exstart`: master/slave negotiation. -/
def processDdExstart (n : NbrRef) (dd : DDPacket) : Py Unit := do
  let s ← Eff.get
  if dd.claimsMaster then
    Eff.when (s.routerId < (s.nbr n).routerId) (becomeSlave n dd)
  else
    Eff.when (¬dd.isInit ∧ ¬dd.isMaster ∧ (s.nbr n).routerId < s.routerId ∧
      dd.ddSeqNumber = (s.nbr n).ddSeqNumber) (becomeMaster n dd)

/-- Whether a description is the one that comes next in Exchange. -/
def OspfNeighbor.expectsDd (x : OspfNeighbor) (dd : DDPacket) : Bool :=
  if x.isMaster then dd.ddSeqNumber = x.ddSeqNumber ∧ ¬(dd.isInit ∨ dd.isMaster)
  else dd.ddSeqNumber = x.ddSeqNumber + 1 ∧ ¬dd.isInit

/-- The exchange is over when the neighbor has no more headers, nor has this router. -/
def exchangeOver (s : Instance) (n : NbrRef) (dd : DDPacket) : Bool :=
  ¬dd.isMore ∧ (s.nbr n).dbSummaryList = []

/-- The master's reaction to an expected description. -/
def masterExchange (n : NbrRef) (dd : DDPacket) : Py Unit := do
  processDdHeaders n dd
  modifyNbr n fun x => { x with ddSeqNumber := x.ddSeqNumber + 1 }
  let s ← Eff.get
  (if exchangeOver s n dd then nbrEvent n .exchangeDone else sendDdMaster n)
  modifyNbr n fun x => { x with lastReceivedDd := some dd }

/-- The slave's reaction to an expected description. -/
def slaveExchange (n : NbrRef) (dd : DDPacket) : Py Unit := do
  modifyNbr n fun x => { x with ddSeqNumber := dd.ddSeqNumber }
  processDdHeaders n dd
  sendDdSlave n
  let s ← Eff.get
  Eff.when (exchangeOver s n dd) (nbrEvent n .exchangeDone)
  modifyNbr n fun x => { x with lastReceivedDd := some dd }

/-- `_process_dd_exchange`. -/
def processDdExchange (n : NbrRef) (dd : DDPacket) : Py Unit := do
  let s ← Eff.get
  let x := s.nbr n
  if x.isDuplicateDd dd then Eff.when (¬x.isMaster) (retransmitLastDd n)
  else if ¬x.expectsDd dd then nbrEvent n .seqNumMismatch
  else if x.isMaster then masterExchange n dd
  else slaveExchange n dd

/-- `process_dd` in Loading and Full. -/
def processDdLoaded (n : NbrRef) (dd : DDPacket) : Py Unit := do
  let s ← Eff.get
  if (s.nbr n).isDuplicateDd dd then Eff.when (¬(s.nbr n).isMaster) (retransmitLastDd n)
  else nbrEvent n .seqNumMismatch

/-- `process_dd`; a description received in Init implies that the neighbor is
bidirectional. -/
def processDd (n : NbrRef) (dd : DDPacket) : Py Unit := do
  let s ← Eff.get
  match (s.nbr n).state with
  | .down | .attempt | .twoWay => pure ()
  | .init => do
      nbrEvent n .twoWayReceived
      let s ← Eff.get
      Eff.when ((s.nbr n).state = .exStart) (processDdExstart n dd)
  | .exStart => processDdExstart n dd
  | .exchange => processDdExchange n dd
  | .loading | .full => processDdLoaded n dd

/-! ## Requests, updates, acknowledgments -/

/-- `send_ls_update`: send LSA objects to one neighbor. -/
def sendLsUpdate (n : NbrRef) (lsas : List LsaRef) : Py Unit := do
  let s ← Eff.get
  Eff.when (lsas ≠ []) do
    let body ← serializeLsu lsas
    sendPacket n.intf packetTypeLsu body (s.nbr n).ipAddr

/-- The LSAs that are requested, or `none` when one of them is not in the database. -/
def requestedLsas (s : Instance) (areaId : IPv4Address) : List LsrItem → Option (List LsaRef)
  | [] => some []
  | item :: items =>
      match s.lsdb.lookup areaId item.key with
      | none => none
      | some r => (requestedLsas s areaId items).map (r :: ·)

/-- `process_ls_request`. -/
def processLsRequest (n : NbrRef) (lsr : LsrPacket) : Py Unit := do
  let s ← Eff.get
  Eff.when (NbrState.exchange ≤ (s.nbr n).state) <|
    match requestedLsas s (s.intf n.intf).areaId lsr.items with
    | none => nbrEvent n .badLsReq
    | some lsas => sendLsUpdate n lsas

/-- A neighbor whose request and retransmission list no longer hold a key. -/
def OspfNeighbor.strike (x : OspfNeighbor) (key : LsaKey) : OspfNeighbor :=
  { x with lsRequestList := x.lsRequestList.pop key
           lsRetransmissionList := x.lsRetransmissionList.pop key }

/-- `process_ls_update`: the keys of a processed update leave both lists. -/
def processLsUpdate (n : NbrRef) (keys : List LsaKey) : Py Unit := do
  modifyNbr n fun x => keys.foldl OspfNeighbor.strike x
  let s ← Eff.get
  Eff.when ((s.nbr n).state = .loading ∧ (s.nbr n).lsRequestList.entries = [])
    (nbrEvent n .loadingDone)

/-- A neighbor whose retransmission list no longer holds a key. -/
def OspfNeighbor.acked (x : OspfNeighbor) (key : LsaKey) : OspfNeighbor :=
  { x with lsRetransmissionList := x.lsRetransmissionList.pop key }

/-- `process_ls_ack`. -/
def processLsAck (n : NbrRef) (headers : List LsaHeader) : Py Unit :=
  modifyNbr n fun x => (headers.map LsaHeader.key).foldl OspfNeighbor.acked x

end Ospfd
