import Ospfd.Protocol.State

/-!
# Sending and scheduling

What the state machines use of the rest of the instance: sending packets, and asking
for an origination or an SPF run later.

* `sendPacket` — header, checksum and authentication, then the socket.
* `serializeLsa`, `serializeLsas` — serialization of LSA objects, which changes them.
* `scheduleRouterLsa`, `scheduleNetworkLsa`, `scheduleSpf` — the debounced requests.
-/

namespace Ospfd

/-! ## Sending -/

/-- `send_packet`: build the complete packet and hand it to the socket, if there is one. -/
def sendPacket (i : IntfId) (pktType : Nat) (body : Bytes) (dest : IPv4Address) : Py Unit := do
  let s ← Eff.get
  let intf := s.intf i
  Eff.when intf.socket do
    let seq := (s.cryptSeq i + 1) % 4294967296
    let data ← Eff.lift (transmitted s.md5 s.routerId intf.areaId intf.authType intf.authKey
      intf.authKeyId seq pktType body)
    Eff.modify fun s =>
      { s with
        cryptSeq := Function.update s.cryptSeq i seq
        sent := s.sent ++ [{ intf := i, dest, pktType, body, data }] }

/-- `lsa.serialize()`: the object's length, age and checksum are updated. -/
def serializeLsa (r : LsaRef) : Py Bytes := do
  let s ← Eff.get
  Eff.modify fun s => { s with heap := s.heap.set r ((s.heap.obj r).serialize s.now).2 }
  Eff.lift ((s.heap.obj r).serialize s.now).1

/-- The concatenated serializations of LSA objects. -/
def serializeLsas : List LsaRef → Py Bytes
  | [] => pure []
  | r :: rs => do
      let b ← serializeLsa r
      let bs ← serializeLsas rs
      pure (b ++ bs)

/-- `LsuPacket(lsas).serialize()`. -/
def serializeLsu (rs : List LsaRef) : Py Bytes := do
  let count ← Eff.lift (pack [.I] [.nat rs.length])
  let lsas ← serializeLsas rs
  pure (count ++ lsas)

/-- `LsackPacket(headers).serialize()`, of the headers of LSA objects. -/
def serializeLsack (rs : List LsaRef) : Py Bytes := do
  let s ← Eff.get
  Eff.lift (LsackPacket.serialize { lsaHeaders := rs.map fun r => (s.heap.obj r).header })

/-! ## Scheduling -/

/-- Ask for a new Router-LSA in a second, unless one is pending for the area. -/
def scheduleRouterLsa (areaId : IPv4Address) : Py Unit :=
  Eff.modify fun s =>
    if s.routerLsaPending.contains areaId then s
    else { s with routerLsaPending := s.routerLsaPending.set areaId (s.now + second) }

/-- Ask for a new Network-LSA in a second, unless one is pending for the interface. -/
def scheduleNetworkLsa (i : IntfId) : Py Unit :=
  Eff.modify fun s =>
    if s.networkLsaPending.contains i then s
    else { s with networkLsaPending := s.networkLsaPending.set i (s.now + second) }

/-- Ask for an SPF run, unless one is pending: after the configured delay, and not
before the hold time since the last run is over. -/
def scheduleSpf : Py Unit :=
  Eff.modify fun s =>
    match s.spfTimer with
    | some _ => s
    | none =>
        let elapsed := s.now - s.lastSpfTime
        let delay := if elapsed < s.spfHold then max s.spfDelay (s.spfHold - elapsed) else s.spfDelay
        { s with spfTimer := some (s.now + delay) }

end Ospfd
