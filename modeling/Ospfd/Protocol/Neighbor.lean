import Ospfd.Protocol.Services

/-!
# The neighbor state machine: states, actions, table

* `startDdExchange`, `sendDd`, `sendDdMaster`, `sendDdSlave`, `sendLsRequest` — what
  the actions send.
* `NbrAction` — the actions of the machine; `NbrAction.run` — what each does.
* `nbrFsm` — the transition table.
* `shouldFormAdjacency` — whether a bidirectional neighbor becomes adjacent.
-/

namespace Ospfd

/-! ## Fields -/

namespace OspfNeighbor

/-- `_clear_lists`. -/
def clearLists (x : OspfNeighbor) : OspfNeighbor :=
  { x with dbSummaryList := [], lsRequestList := Dict.empty, lsRetransmissionList := Dict.empty,
           lastReceivedDd := none }

/-- Both retransmission timers are stopped. -/
def stopRxmtTimers (x : OspfNeighbor) : OspfNeighbor :=
  { x with ddRxmtTimer := false, rxmtTimer := false }

end OspfNeighbor

/-- When an inactivity timer started now fires. -/
def inactivityDeadline (s : Instance) (i : IntfId) : Time :=
  s.now + (s.intf i).deadInterval.toNat * second

/-! ## Adjacencies -/

/-- Section 10.4: always on networks without a designated router; otherwise when this
router or the neighbor is DR or BDR. -/
def shouldFormAdjacency (s : Instance) (n : NbrRef) : Bool :=
  let intf := s.intf n.intf
  let nbr := s.nbr n
  if ¬intf.intfType.isMultiAccess then true
  else if intf.dr = intf.ipAddr ∨ intf.bdr = intf.ipAddr then true
  else if nbr.ipAddr = intf.dr ∨ nbr.ipAddr = intf.bdr then true
  else false

/-! ## Sending -/

/-- `_send_dd`. -/
def sendDd (n : NbrRef) (flags : Nat) (lsaHeaders : List LsaRef) : Py Unit := do
  let s ← Eff.get
  let dd : SentDD :=
    { interfaceMtu := (s.intf n.intf).mtu, options := s.options, flags,
      ddSeqNumber := (s.nbr n).ddSeqNumber, lsaHeaders }
  let body ← Eff.lift (dd.packet s.heap).serialize
  sendPacket n.intf packetTypeDd body (s.nbr n).ipAddr
  modifyNbr n fun x => { x with lastSentDd := some dd }

/-- How many headers fit into a database description. -/
def maxDdHeaders (s : Instance) (n : NbrRef) : Nat := ((s.intf n.intf).mtu - 24 - 8) / 20

/-- Send the next batch of the summary list, with further flags. -/
def sendDdBatch (n : NbrRef) (flags : Nat) : Py Unit := do
  let s ← Eff.get
  let headers := (s.nbr n).dbSummaryList.take (maxDdHeaders s n)
  let rest := (s.nbr n).dbSummaryList.drop (maxDdHeaders s n)
  modifyNbr n fun x => { x with dbSummaryList := rest }
  sendDd n (if rest = [] then flags else ddFlagM ||| flags) headers

/-- `_send_dd_master`. -/
def sendDdMaster (n : NbrRef) : Py Unit := sendDdBatch n ddFlagMS

/-- `_send_dd_slave`: the MS bit is not set. -/
def sendDdSlave (n : NbrRef) : Py Unit := sendDdBatch n 0

/-- `_retransmit_last_dd`. -/
def retransmitLastDd (n : NbrRef) : Py Unit := do
  let s ← Eff.get
  match (s.nbr n).lastSentDd with
  | none => pure ()
  | some dd =>
      let body ← Eff.lift (dd.packet s.heap).serialize
      sendPacket n.intf packetTypeDd body (s.nbr n).ipAddr

/-- The request item of a header. -/
def LsrItem.ofHeader (h : LsaHeader) : LsrItem :=
  { lsType := h.lsType, linkStateId := h.linkStateId, advertisingRouter := h.advertisingRouter }

/-- `_send_ls_request`: ask for the first ten of the request list. -/
def sendLsRequest (n : NbrRef) : Py Unit := do
  let s ← Eff.get
  Eff.when ((s.nbr n).lsRequestList.entries ≠ []) do
    let batch := (s.nbr n).lsRequestList.values.take 10
    let body ← Eff.lift (LsrPacket.serialize { items := batch.map LsrItem.ofHeader })
    sendPacket n.intf packetTypeLsr body (s.nbr n).ipAddr
    modifyNbr n fun x => { x with rxmtTimer := true }

/-- `_start_dd_exchange`: choose a sequence number, claim to be master, and send the
empty initial description until it is answered. -/
def startDdExchange (n : NbrRef) : Py Unit := do
  Eff.modify fun s =>
    ({ s with drawn := s.drawn + 1 } : Instance).setNbr n
      { s.nbr n with
        ddSeqNumber := (s.entropy s.drawn).val % 2147483648
        isMaster := true
        dbSummaryList := []
        lsRequestList := Dict.empty
        lsRetransmissionList := Dict.empty
        requested := [] }
  sendDd n (ddFlagI ||| ddFlagM ||| ddFlagMS) []
  modifyNbr n fun x => { x with ddRxmtTimer := true }

/-! ## Actions -/

/-- The actions of the neighbor state machine. -/
inductive NbrAction where
  | helloReceivedDown | helloReceivedAny | start | twoWayReceived | adjOk2Way | adjOkAdjformed
  | negotiationDone | exchangeDone | loadingDone | seqNumMismatch | badLsReq | oneWay
  deriving DecidableEq, Repr

/-- `_seq_num_mismatch`: back to ExStart. -/
def seqNumMismatch (n : NbrRef) : Py Unit := do
  modifyNbr n fun x => { x with state := .exStart }.clearLists
  startDdExchange n

/-- What an action does. -/
def NbrAction.run (n : NbrRef) : NbrAction → Py Unit
  | .helloReceivedDown =>
      Eff.modify fun s => s.setNbr n
        { s.nbr n with state := .init, inactivityTimer := some (inactivityDeadline s n.intf) }
  | .helloReceivedAny =>
      Eff.modify fun s => s.setNbr n
        { s.nbr n with inactivityTimer := some (inactivityDeadline s n.intf) }
  | .start =>
      Eff.modify fun s => s.setNbr n
        { s.nbr n with state := .attempt, inactivityTimer := some (inactivityDeadline s n.intf) }
  | .twoWayReceived => do
      if shouldFormAdjacency (← Eff.get) n then
        modifyNbr n fun x => { x with state := .exStart }
        startDdExchange n
      else modifyNbr n fun x => { x with state := .twoWay }
  | .adjOk2Way => do
      let s ← Eff.get
      Eff.when (shouldFormAdjacency s n) do
        modifyNbr n fun x => { x with state := .exStart }
        startDdExchange n
  | .adjOkAdjformed => do
      let s ← Eff.get
      Eff.when (¬shouldFormAdjacency s n) do
        modifyNbr n fun x => { x with state := .twoWay }.clearLists.stopRxmtTimers
  | .negotiationDone =>
      Eff.modify fun s => s.setNbr n
        { s.nbr n with
          state := .exchange
          dbSummaryList := s.lsdb.getAllHeaders (s.intf n.intf).areaId }
  | .exchangeDone => do
      if ((← Eff.get).nbr n).lsRequestList.entries ≠ [] then
        modifyNbr n fun x => { x with state := .loading }
        sendLsRequest n
      else modifyNbr n fun x => { x with state := .full, rxmtTimer := false }
  | .loadingDone => modifyNbr n fun x => { x with state := .full }
  | .seqNumMismatch => Ospfd.seqNumMismatch n
  | .badLsReq => Ospfd.seqNumMismatch n
  | .oneWay => modifyNbr n fun x => { x with state := .init }.clearLists.stopRxmtTimers

/-- The transition table.  KillNbr, InactivityTimer and LLDown are not in it. -/
def nbrFsm : NbrState → NbrEvent → Option NbrAction
  | .down, .helloReceived => some .helloReceivedDown
  | .down, .start => some .start
  | .init, .helloReceived => some .helloReceivedAny
  | .init, .twoWayReceived => some .twoWayReceived
  | .twoWay, .helloReceived => some .helloReceivedAny
  | .twoWay, .adjOk => some .adjOk2Way
  | .twoWay, .oneWay => some .oneWay
  | .exStart, .helloReceived => some .helloReceivedAny
  | .exStart, .negotiationDone => some .negotiationDone
  | .exStart, .adjOk => some .adjOkAdjformed
  | .exStart, .seqNumMismatch => some .seqNumMismatch
  | .exStart, .oneWay => some .oneWay
  | .exchange, .helloReceived => some .helloReceivedAny
  | .exchange, .exchangeDone => some .exchangeDone
  | .exchange, .adjOk => some .adjOkAdjformed
  | .exchange, .seqNumMismatch => some .seqNumMismatch
  | .exchange, .badLsReq => some .badLsReq
  | .exchange, .oneWay => some .oneWay
  | .loading, .helloReceived => some .helloReceivedAny
  | .loading, .loadingDone => some .loadingDone
  | .loading, .adjOk => some .adjOkAdjformed
  | .loading, .seqNumMismatch => some .seqNumMismatch
  | .loading, .badLsReq => some .badLsReq
  | .loading, .oneWay => some .oneWay
  | .full, .helloReceived => some .helloReceivedAny
  | .full, .adjOk => some .adjOkAdjformed
  | .full, .seqNumMismatch => some .seqNumMismatch
  | .full, .badLsReq => some .badLsReq
  | .full, .oneWay => some .oneWay
  | _, _ => none

end Ospfd
