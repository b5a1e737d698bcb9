import Ospfd.Protocol.Election
import Ospfd.Protocol.Neighbor

/-!
# The interface state machine, and the dispatch of events

An event of a neighbor can change its state, which the interface is told; the
interface may then run an election, which gives every bidirectional neighbor an
event.  The functions that call each other this way take the dispatcher of neighbor
events as a parameter, and `nbrEvent` closes the circle.

* `intfFsm`, `IntfAction.run`, `runDrElection` — the interface's machine.
* `neighborStateChanged`, `goDown`, `dispatchNbr`, `dispatchIntf` — one level of dispatch.
* `nbrEvent`, `intfEvent` — dispatch, to the depth that Python's stack allows.
* `processHello`, `sendHello` — Hellos.
-/

namespace Ospfd

/-! ## Hellos out -/

/-- The Hello of an interface. -/
def helloOf (s : Instance) (i : IntfId) : HelloPacket :=
  let intf := s.intf i
  { networkMask := intf.ipMask, helloInterval := intf.helloInterval, options := s.options,
    priority := intf.priority, deadInterval := intf.deadInterval, designatedRouter := intf.dr,
    backupDesignatedRouter := intf.bdr,
    neighbors := ((s.neighborsOf i).filter fun n => NbrState.init ≤ (s.nbr n).state).map
      fun n => (s.nbr n).routerId }

/-- `_send_hello`: to all routers, or to each neighbor on NBMA and virtual links. -/
def sendHello (i : IntfId) : Py Unit := do
  let s ← Eff.get
  Eff.when (¬(s.intf i).passive) <|
    match (s.intf i).intfType with
    | .broadcast | .p2p | .p2mp => do
        let body ← Eff.lift (helloOf s i).serialize
        sendPacket i packetTypeHello body allSpfRouters
    | .nbma | .virtual =>
        Eff.forEach (s.neighborsOf i) fun n => do
          let body ← Eff.lift (helloOf s i).serialize
          sendPacket i packetTypeHello body (s.nbr n).ipAddr

/-- `_start_hello`. -/
def startHello (i : IntfId) : Py Unit := do
  modifyIntf i fun x => { x with helloTimer := true, ackTimer := true }
  sendHello i

/-- `_stop_all`. -/
def OspfInterface.stopAll (x : OspfInterface) : OspfInterface :=
  { x with helloTimer := false, waitTimer := none, ackTimer := false }

/-! ## The machine -/

/-- The actions of the interface state machine. -/
inductive IntfAction where
  | ifUp | waitTimer | backupSeen | nbrChange | loopInd | unloopInd | ifDown
  deriving DecidableEq, Repr

/-- The transition table. -/
def intfFsm : IntfState → IntfEvent → Option IntfAction
  | .down, .ifUp => some .ifUp
  | .down, .loopInd => some .loopInd
  | .loopback, .unloopInd => some .unloopInd
  | .loopback, .ifDown => some .ifDown
  | .waiting, .waitTimer => some .waitTimer
  | .waiting, .backupSeen => some .backupSeen
  | .waiting, .ifDown => some .ifDown
  | .waiting, .loopInd => some .loopInd
  | .p2p, .ifDown => some .ifDown
  | .p2p, .loopInd => some .loopInd
  | .drOther, .nbrChange => some .nbrChange
  | .drOther, .ifDown => some .ifDown
  | .drOther, .loopInd => some .loopInd
  | .backup, .nbrChange => some .nbrChange
  | .backup, .ifDown => some .ifDown
  | .backup, .loopInd => some .loopInd
  | .dr, .nbrChange => some .nbrChange
  | .dr, .ifDown => some .ifDown
  | .dr, .loopInd => some .loopInd
  | _, _ => none

/-- The state an election leaves the interface in. -/
def electedState (myAddr dr bdr : IPv4Address) : IntfState :=
  if dr = myAddr then .dr else if bdr = myAddr then .backup else .drOther

/-- `_state_changed` of the interface. -/
def intfStateChanged (i : IntfId) : Py Unit := do
  let s ← Eff.get
  scheduleRouterLsa (s.intf i).areaId
  Eff.when ((s.intf i).state = .dr) (scheduleNetworkLsa i)

section Dispatch

-- the dispatcher of neighbor events
variable (event : NbrRef → NbrEvent → Py Unit)

/-- `_run_dr_election`: elect, take the new state, and when DR or BDR changed let every
bidirectional neighbor reconsider its adjacency. -/
def runDrElection (i : IntfId) : Py Unit := do
  let s ← Eff.get
  let elected := electDrBdr s i
  modifyIntf i fun x =>
    { x with dr := elected.1, bdr := elected.2,
             state := electedState x.ipAddr elected.1 elected.2 }
  Eff.when ((s.intf i).dr ≠ elected.1 ∨ (s.intf i).bdr ≠ elected.2) do
    Eff.forEach (s.neighborsOf i) fun n => do
      let s ← Eff.get
      Eff.when (NbrState.twoWay ≤ (s.nbr n).state) (event n .adjOk)

/-- What an action of the interface does. -/
def IntfAction.run (i : IntfId) : IntfAction → Py Unit
  | .ifUp => do
      let s ← Eff.get
      let intf := s.intf i
      if intf.passive then modifyIntf i fun x => { x with state := .loopback }
      else if intf.intfType.isMultiAccess then
        if intf.priority = 0 then
          modifyIntf i fun x => { x with state := .drOther }
          startHello i
          runDrElection event i
        else
          modifyIntf i fun x => { x with state := .waiting }
          startHello i
          Eff.modify fun s => s.setIntf i
            { s.intf i with waitTimer := some (s.now + (s.intf i).deadInterval.toNat * second) }
      else
        modifyIntf i fun x => { x with state := .p2p }
        startHello i
  | .waitTimer => runDrElection event i
  | .backupSeen => do
      modifyIntf i fun x => { x with waitTimer := none }
      runDrElection event i
  | .nbrChange => runDrElection event i
  | .loopInd => modifyIntf i fun x => { x with state := .loopback }.stopAll
  | .unloopInd => modifyIntf i fun x => { x with state := .down }
  | .ifDown => do
      modifyIntf i fun x => { x with state := .down }.stopAll
      let s ← Eff.get
      Eff.forEach (s.neighborsOf i) fun n => event n .killNbr
      modifyIntf i fun x => { x with neighbors := [], dr := zeroAddr, bdr := zeroAddr }

/-- The handler of an interface event. -/
def handleIntf (i : IntfId) (old : IntfState) (evt : IntfEvent) : Py Unit :=
  match intfFsm old evt with
  | some action => action.run event i
  | none => pure ()

/-- `OspfInterface.event`. -/
def dispatchIntf (i : IntfId) (evt : IntfEvent) : Py Unit := do
  let s ← Eff.get
  let old := (s.intf i).state
  handleIntf event i old evt
  let s ← Eff.get
  Eff.when ((s.intf i).state ≠ old) (intfStateChanged i)

/-- Whether a neighbor became bidirectional, or stopped being so. -/
def crossesTwoWay (old new : NbrState) : Bool :=
  old < .twoWay ∧ .twoWay ≤ new ∨ .twoWay ≤ old ∧ new < .twoWay

/-- `neighbor_state_changed`. -/
def neighborStateChanged (n : NbrRef) (old : NbrState) : Py Unit := do
  let s ← Eff.get
  Eff.when ((s.intf n.intf).intfType.isMultiAccess ∧ crossesTwoWay old (s.nbr n).state)
    (dispatchIntf event n.intf .nbrChange)
  let s ← Eff.get
  scheduleRouterLsa (s.intf n.intf).areaId
  Eff.when ((s.intf n.intf).state = .dr) (scheduleNetworkLsa n.intf)

/-- A neighbor in state Down, its lists and timers cleared. -/
def OspfNeighbor.goneDown (x : OspfNeighbor) : OspfNeighbor :=
  { x with state := .down, inactivityTimer := none }.clearLists.stopRxmtTimers

/-- `_go_down`: the interface is told here, and once more by the dispatcher. -/
def goDown (n : NbrRef) : Py Unit := do
  let s ← Eff.get
  let old := (s.nbr n).state
  modifyNbr n OspfNeighbor.goneDown
  Eff.when (old ≠ .down) (neighborStateChanged event n old)

/-- The events that bring a neighbor down from any state. -/
def NbrEvent.isReset : NbrEvent → Bool
  | .killNbr | .llDown | .inactivityTimer => true
  | _ => false

/-- The handler of a neighbor event. -/
def handleNbr (n : NbrRef) (old : NbrState) (evt : NbrEvent) : Py Unit :=
  match nbrFsm old evt with
  | some action => action.run n
  | none => Eff.when evt.isReset (goDown event n)

/-- `OspfNeighbor.event`, one level. -/
def dispatchNbr (n : NbrRef) (evt : NbrEvent) : Py Unit := do
  Eff.modify fun s => { s with trace := s.trace ++ [(n, evt)] }
  let s ← Eff.get
  let old := (s.nbr n).state
  handleNbr event n old evt
  let s ← Eff.get
  Eff.when ((s.nbr n).state ≠ old) (neighborStateChanged event n old)

end Dispatch

/-- Neighbor events nested to a given depth. -/
def nbrEventDepth : Nat → NbrRef → NbrEvent → Py Unit
  | 0, _, _ => Eff.throw .recursionError
  | depth + 1, n, evt => dispatchNbr (nbrEventDepth depth) n evt

/-- How many nested neighbor events fit on Python's stack of 1000 frames. -/
def recursionLimit : Nat := 100

/-- `OspfNeighbor.event`. -/
def nbrEvent (n : NbrRef) (evt : NbrEvent) : Py Unit := nbrEventDepth recursionLimit n evt

/-- `OspfInterface.event`. -/
def intfEvent (i : IntfId) (evt : IntfEvent) : Py Unit := dispatchIntf nbrEvent i evt

/-! ## Hellos in -/

def maxNeighbors : Nat := 128

/-- The parameter checks of a Hello. -/
def helloAccepted (s : Instance) (i : IntfId) (hello : HelloPacket) : Bool :=
  let intf := s.intf i
  if hello.helloInterval ≠ intf.helloInterval then false
  else if hello.deadInterval ≠ intf.deadInterval then false
  else if intf.intfType = .broadcast ∧ hello.networkMask ≠ intf.ipMask then false
  else if hello.options &&& optE ≠ s.options &&& optE then false
  else true

/-- Find the neighbor of a Hello, or create it; refused at the neighbor limit. -/
def findOrCreate (i : IntfId) (src routerId : IPv4Address) : Py Bool := do
  let s ← Eff.get
  if routerId ∈ (s.intf i).neighbors then pure true
  else if maxNeighbors ≤ (s.intf i).neighbors.length then pure false
  else
    Eff.modify fun s =>
      (s.setNbr ⟨i, routerId⟩ { routerId, ipAddr := src }).setIntf i
        { s.intf i with neighbors := (s.intf i).neighbors ++ [routerId] }
    pure true

/-- The BackupSeen check of a Hello while the interface is waiting. -/
def backupSeen (hello : HelloPacket) (src : IPv4Address) : Bool :=
  hello.backupDesignatedRouter = src ∨
    hello.designatedRouter = src ∧ hello.backupDesignatedRouter = zeroAddr

/-- The bidirectionality check of a Hello. -/
def helloTwoWay (n : NbrRef) (hello : HelloPacket) : Py Unit := do
  let s ← Eff.get
  if s.routerId ∈ hello.neighbors then
    Eff.when ((s.nbr n).state = .init) (nbrEvent n .twoWayReceived)
  else Eff.when (NbrState.twoWay ≤ (s.nbr n).state) (nbrEvent n .oneWay)

/-- A neighbor as its Hello describes it. -/
def OspfNeighbor.told (x : OspfNeighbor) (hello : HelloPacket) (src : IPv4Address) : OspfNeighbor :=
  { x with ipAddr := src, priority := hello.priority, dr := hello.designatedRouter,
           bdr := hello.backupDesignatedRouter }

/-- `process_hello`, from an accepted Hello of a known neighbor on. -/
def helloFrom (n : NbrRef) (hello : HelloPacket) (src : IPv4Address) : Py Unit := do
  let s ← Eff.get
  let oldDr := (s.nbr n).dr
  let oldBdr := (s.nbr n).bdr
  modifyNbr n fun x =>
    { x with ipAddr := src, priority := hello.priority, dr := hello.designatedRouter,
             bdr := hello.backupDesignatedRouter }
  nbrEvent n .helloReceived
  helloTwoWay n hello
  let s ← Eff.get
  Eff.when ((s.intf n.intf).state = .waiting ∧ backupSeen hello src) (intfEvent n.intf .backupSeen)
  let s ← Eff.get
  Eff.when (NbrState.twoWay ≤ (s.nbr n).state ∧ (oldDr ≠ (s.nbr n).dr ∨ oldBdr ≠ (s.nbr n).bdr))
    (intfEvent n.intf .nbrChange)

/-- `process_hello`. -/
def processHello (i : IntfId) (hello : HelloPacket) (src routerId : IPv4Address) : Py Unit := do
  let s ← Eff.get
  Eff.when (helloAccepted s i hello) do
    let found ← findOrCreate i src routerId
    Eff.when found (helloFrom ⟨i, routerId⟩ hello src)

/-! ## Delayed acknowledgments -/

/-- `queue_delayed_ack`. -/
def queueDelayedAck (i : IntfId) (r : LsaRef) : Py Unit :=
  modifyIntf i fun x => { x with delayedAcks := x.delayedAcks ++ [r] }

/-- Where flooded LSAs and delayed acknowledgments go on a multi-access network. -/
def floodDest (intf : OspfInterface) : IPv4Address :=
  if intf.state = .dr ∨ intf.state = .backup then allSpfRouters else allDRouters

/-- `_flush_delayed_acks`. -/
def flushDelayedAcks (i : IntfId) : Py Unit := do
  let s ← Eff.get
  let acks := (s.intf i).delayedAcks
  Eff.when (acks ≠ []) do
    modifyIntf i fun x => { x with delayedAcks := [] }
    let body ← serializeLsack acks
    sendPacket i packetTypeLsack body
      (if (s.intf i).intfType.isMultiAccess then floodDest (s.intf i) else allSpfRouters)

end Ospfd
