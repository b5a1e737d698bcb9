import Ospfd.Lsdb.Aging
import Ospfd.Lsdb.Reception

/-!
# The instance: reception, timers, events

The callbacks of the event loop.  Each runs to its end before the next one starts, and
an exception that leaves it is logged and dropped.

* `acceptPacket` — the checks every received packet has to pass.
* `receivePacket` — reception and dispatch by packet type.
* `Event`, `exec` — everything that can happen to the daemon, shutdown excepted.
* `Reachable` — the states of a running daemon.
-/

namespace Ospfd

/-! ## Reception -/

/-- The checks of `_receive_packet`: the header of an accepted packet, and its body. -/
def acceptPacket (md5 : Md5) (routerId : IPv4Address) (intf : OspfInterface) (data : Bytes)
    (src : IPv4Address) : Option (OspfHeader × Bytes) :=
  match OspfHeader.deserialize data with
  | .error _ => none
  | .ok header =>
      let packet := data.take header.length
      if header.version ≠ 2 then none
      else if header.routerId = routerId then none
      else if data.length < header.length then none
      else if header.length < OspfHeader.size then none
      else if intf.authType = .none ∧ ¬verifyIpChecksum packet then none
      else if ¬verifyAuth md5 packet intf.authType intf.authKey intf.authKeyId then none
      else if header.areaId ≠ intf.areaId then none
      else if intf.intfType = .broadcast ∧
          networkAddress src intf.ipMask ≠ networkAddress intf.ipAddr intf.ipMask then none
      else some (header, Bytes.slice data OspfHeader.size header.length)

/-- A packet for a neighbor is dropped when there is no such neighbor. -/
def forNeighbor (n : NbrRef) (m : Py Unit) : Py Unit := do
  let s ← Eff.get
  Eff.when (n.routerId ∈ (s.intf n.intf).neighbors) m

/-- Decode a body and process it. -/
def decodeThen {α : Type} (r : Except PyError α) (process : α → Py Unit) : Py Unit := do
  let packet ← Eff.lift r
  process packet

/-- Dispatch by packet type; packets of other types are dropped. -/
def dispatchPacket (i : IntfId) (header : OspfHeader) (body : Bytes) (src : IPv4Address) : Py Unit :=
  let n : NbrRef := ⟨i, header.routerId⟩
  if header.type = packetTypeHello then
    decodeThen (HelloPacket.deserialize body) fun hello => processHello i hello src header.routerId
  else if header.type = packetTypeDd then
    decodeThen (DDPacket.deserialize body) fun dd => forNeighbor n (processDd n dd)
  else if header.type = packetTypeLsr then
    decodeThen (LsrPacket.deserialize body) fun lsr => forNeighbor n (processLsRequest n lsr)
  else if header.type = packetTypeLsu then
    decodeThen (LsuPacket.deserialize body) fun lsu => forNeighbor n (receiveLsu n lsu)
  else if header.type = packetTypeLsack then
    decodeThen (LsackPacket.deserialize body) fun ack => forNeighbor n (processLsAck n ack.lsaHeaders)
  else pure ()

/-- `_receive_packet`. -/
def receivePacket (i : IntfId) (data : Bytes) (src : IPv4Address) : Py Unit := do
  let s ← Eff.get
  match acceptPacket s.md5 s.routerId (s.intf i) data src with
  | none => pure ()
  | some (header, body) => dispatchPacket i header body src

/-! ## Timers -/

/-- `_inactivity_timeout`; a one-shot timer that fires is no longer armed. -/
def inactivityTimeout (n : NbrRef) : Py Unit := do
  modifyNbr n fun x => { x with inactivityTimer := none }
  nbrEvent n .inactivityTimer

/-- `_rxmt_timeout`. -/
def rxmtTimeout (n : NbrRef) : Py Unit := do
  let s ← Eff.get
  Eff.when ((s.nbr n).state = .loading ∧ (s.nbr n).lsRequestList.entries ≠ []) (sendLsRequest n)

/-- `_dd_rxmt_timeout`. -/
def ddRxmtTimeout (n : NbrRef) : Py Unit := do
  let s ← Eff.get
  Eff.when ((s.nbr n).state = .exStart ∨ (s.nbr n).state = .exchange) (retransmitLastDd n)

/-- `_wait_timer_fire`. -/
def waitTimerFire (i : IntfId) : Py Unit := do
  modifyIntf i fun x => { x with waitTimer := none }
  intfEvent i .waitTimer

/-- `_originate_router_lsa`. -/
def routerLsaTimer (areaId : IPv4Address) : Py Unit := do
  Eff.modify fun s => { s with routerLsaPending := s.routerLsaPending.pop areaId }
  let _ ← originateRouterLsa areaId
  pure ()

/-- `_originate_network_lsa`. -/
def networkLsaTimer (i : IntfId) : Py Unit := do
  Eff.modify fun s => { s with networkLsaPending := s.networkLsaPending.pop i }
  let _ ← originateNetworkLsa i
  pure ()

/-- `_run_spf`, as far as it changes the instance: the result goes to the routing table. -/
def runSpf : Py Unit := Eff.modify fun s => { s with spfTimer := none, lastSpfTime := s.now }

/-! ## Events -/

/-- What can happen to the daemon. -/
inductive Event where
  /-- A packet arrives on an interface. -/
  | receive (i : IntfId) (data : Bytes) (src : IPv4Address)
  /-- A timer of a neighbor fires. -/
  | inactivity (n : NbrRef)
  | rxmt (n : NbrRef)
  | ddRxmt (n : NbrRef)
  /-- A timer of an interface fires. -/
  | helloTimer (i : IntfId)
  | waitTimer (i : IntfId)
  | ackTimer (i : IntfId)
  /-- An event of an interface or of a neighbor from outside. -/
  | intfEvent (i : IntfId) (evt : IntfEvent)
  | killNbr (n : NbrRef)
  | llDown (n : NbrRef)
  | startNbr (n : NbrRef)
  /-- The scheduled work of the instance. -/
  | routerLsa (areaId : IPv4Address)
  | networkLsa (i : IntfId)
  | spf
  | aging
  /-- This router originates an LSA. -/
  | originate (areaId : IPv4Address) (lsType : Nat) (linkStateId : IPv4Address) (body : LsaBody)
  /-- Time passes. -/
  | tick (d : Time)

/-- The callback of an event. -/
def Event.callback : Event → Py Unit
  | .receive i data src => receivePacket i data src
  | .inactivity n => inactivityTimeout n
  | .rxmt n => rxmtTimeout n
  | .ddRxmt n => ddRxmtTimeout n
  | .helloTimer i => sendHello i
  | .waitTimer i => waitTimerFire i
  | .ackTimer i => flushDelayedAcks i
  | .intfEvent i evt => Ospfd.intfEvent i evt
  | .killNbr n => nbrEvent n .killNbr
  | .llDown n => nbrEvent n .llDown
  | .startNbr n => nbrEvent n .start
  | .routerLsa areaId => routerLsaTimer areaId
  | .networkLsa i => networkLsaTimer i
  | .spf => runSpf
  | .aging => checkAges
  | .originate areaId lsType linkStateId body => do
      let _ ← Ospfd.originate areaId lsType linkStateId (some body) none
      pure ()
  | .tick d => Eff.modify fun s => { s with now := s.now + d }

/-- The events that can happen in a state: timers fire when they are armed and due, and
the neighbors an event is for exist. -/
def Event.Enabled (s : Instance) : Event → Prop
  | .inactivity n => ∃ t, (s.nbr n).inactivityTimer = some t ∧ t ≤ s.now
  | .rxmt n => (s.nbr n).rxmtTimer = true
  | .ddRxmt n => (s.nbr n).ddRxmtTimer = true
  | .helloTimer i => (s.intf i).helloTimer = true
  | .waitTimer i => ∃ t, (s.intf i).waitTimer = some t ∧ t ≤ s.now
  | .ackTimer i => (s.intf i).ackTimer = true
  | .killNbr n => n.routerId ∈ (s.intf n.intf).neighbors
  | .llDown n => n.routerId ∈ (s.intf n.intf).neighbors
  | .startNbr n => n.routerId ∈ (s.intf n.intf).neighbors
  | .routerLsa areaId => ∃ t, s.routerLsaPending.get? areaId = some t ∧ t ≤ s.now
  | .networkLsa i => ∃ t, s.networkLsaPending.get? i = some t ∧ t ≤ s.now
  | .spf => ∃ t, s.spfTimer = some t ∧ t ≤ s.now
  | _ => True

/-- The daemon after an event; an exception of its callback is dropped. -/
def exec (s : Instance) (e : Event) : Instance := (e.callback s).2

theorem exec_originate (s : Instance) (areaId : IPv4Address) (lsType : Nat) (linkStateId : IPv4Address)
    (body : LsaBody) : exec s (.originate areaId lsType linkStateId body) =
      (originate areaId lsType linkStateId (some body) none s).2 :=
  Eff.discard_final _ s

theorem exec_routerLsa (s : Instance) (areaId : IPv4Address) : exec s (.routerLsa areaId) =
    (originateRouterLsa areaId { s with routerLsaPending := s.routerLsaPending.pop areaId }).2 :=
  Eff.discard_final _ _

theorem exec_networkLsa (s : Instance) (i : IntfId) : exec s (.networkLsa i) =
    (originateNetworkLsa i { s with networkLsaPending := s.networkLsaPending.pop i }).2 :=
  Eff.discard_final _ _

/-- The state in which the interfaces are created: no neighbors, nothing sent, and a
database that holds at most what was originated before. -/
structure Instance.Initial (s : Instance) : Prop where
  nbr : ∀ n, s.nbr n = { routerId := n.routerId, ipAddr := 0 }
  neighbors : ∀ i, (s.intf i).neighbors = []
  routerId : s.lsdb.routerId = s.routerId

/-- A daemon that starts, with no LSA stored. -/
def Instance.Empty (s : Instance) : Prop :=
  s.Initial ∧ ∀ areaId, s.lsdb.getAllHeaders areaId = []

/-- The states a daemon reaches by events that satisfy a condition. -/
inductive Reachable (ok : Instance → Event → Prop) : Instance → Prop where
  | init {s : Instance} (h : s.Initial) : Reachable ok s
  | step {s : Instance} {e : Event} (h : Reachable ok s) (hen : e.Enabled s) (hok : ok s e) :
      Reachable ok (exec s e)

/-- What holds at first and is kept by every event holds of every reachable state. -/
theorem Reachable.invariant {ok : Instance → Event → Prop} {I : Instance → Prop}
    (h0 : ∀ s : Instance, s.Initial → I s)
    (hstep : ∀ s e, I s → e.Enabled s → ok s e → I (exec s e)) {s : Instance}
    (h : Reachable ok s) : I s := by
  induction h with
  | init h => exact h0 _ h
  | step _ hen hok ih => exact hstep _ _ ih hen hok

/-- Fewer events, fewer states. -/
theorem Reachable.mono {ok ok' : Instance → Event → Prop} (h : ∀ s e, ok s e → ok' s e)
    {s : Instance} (hs : Reachable ok s) : Reachable ok' s := by
  induction hs with
  | init h0 => exact .init h0
  | step _ hen hok ih => exact .step ih hen (h _ _ hok)

/-- A new instance without neighbors is in such a state. -/
theorem Instance.initial_init {routerId : IPv4Address} {areas : Dict IPv4Address OspfArea}
    {intf : IntfId → OspfInterface} {md5 : Md5} {entropy : Nat → Fin 4294967296} {now : Time}
    (h : ∀ i, (intf i).neighbors = []) :
    (Instance.init routerId areas intf md5 entropy now).Initial :=
  ⟨fun _ => rfl, h, rfl⟩

/-! ## A router on a point-to-point link -/

/-- An end of a point-to-point link. -/
def linkEnd (authType : AuthType) : OspfInterface :=
  { intfType := .p2p, cost := 10, priority := 1, helloInterval := 10, deadInterval := 40,
    passive := false, authType, authKey := [115, 101, 99], authKeyId := 1, areaId := backboneArea,
    ipAddr := 167772161, ipMask := 4294967292, mtu := 1500, mtu_lt := ethernetMtu_lt, ifIndex := 1,
    socket := true }

/-- A router with one end. -/
def linkRouter (authType : AuthType) : Instance :=
  Instance.init 1 (Dict.empty.set backboneArea { areaId := backboneArea, interfaces := [0] }) (fun _ => linkEnd authType)
    zeroMd5 (fun _ => 0) 0

theorem initial_linkRouter (authType : AuthType) : (linkRouter authType).Initial :=
  Instance.initial_init fun _ => rfl

end Ospfd
