import Ospfd.Lsdb.Flooding

/-!
# Origination

* `installLsa`, `removeLsa`, `newLsa` — the database and the LSA objects, as state.
* `originate` — the common origination with MinLSInterval and the sequence number.
* `refreshLsa` — re-origination of a stored LSA.
* `originateRouterLsa`, `originateNetworkLsa`, … — the LSAs of this router.
-/

namespace Ospfd

/-! ## Installing -/

/-- `lsdb.install`: whether the LSA was installed. -/
def installLsa (areaId : IPv4Address) (r : LsaRef) : Py Bool := fun s =>
  let (answer, db, heap) := s.lsdb.install s.heap s.now areaId r
  (.ok answer.1, { s with lsdb := db, heap := heap })

/-- `lsdb.remove`. -/
def removeLsa (areaId : IPv4Address) (key : LsaKey) : Py Unit :=
  Eff.modify fun s => { s with lsdb := s.lsdb.remove areaId key }

/-- A new LSA object. -/
def newLsa (lsa : Lsa) : Py LsaRef := fun s =>
  (.ok (s.heap.alloc lsa).1, { s with heap := (s.heap.alloc lsa).2 })

/-! ## Origination -/

/-- The header of a new instance; checksum and length are filled in when it is
serialized. -/
def originatedHeader (s : Instance) (lsType : Nat) (linkStateId : IPv4Address) (seqNum : Nat) :
    LsaHeader :=
  { lsAge := 0, options := s.options, lsType, linkStateId, advertisingRouter := s.routerId,
    lsSequenceNumber := seqNum, lsChecksum := 0, length := 0 }

/-- The sequence number after `old`, unless it exceeds the largest one. -/
def nextSeqNum (old : Nat) : Option Nat := if maxSeqNum < old + 1 then none else some (old + 1)

/-- The sequence number `_originate` chooses by itself. -/
def chooseSeqNum (s : Instance) (areaId : IPv4Address) (key : LsaKey) : Option Nat :=
  match s.lsdb.lookup areaId key with
  | some r =>
      if s.lsdb.isSelfOriginated (s.heap.obj r) then
        nextSeqNum (s.heap.obj r).header.lsSequenceNumber
      else some initialSeqNum
  | none => some initialSeqNum

/-- `self._last_origination.get(key, 0.0)`. -/
def lastOriginationOf (s : Instance) (key : LsaKey) : Time := (s.lastOrigination.get? key).getD 0

/-- `_originate` once the sequence number is determined: build, install, flood. -/
def originateWith (areaId : IPv4Address) (lsType : Nat) (linkStateId : IPv4Address)
    (body : Option LsaBody) (seqNum : Nat) : Py (Option LsaRef) := do
  let s ← Eff.get
  let header := originatedHeader s lsType linkStateId seqNum
  let r ← newLsa { header, body }
  let _ ← serializeLsa r
  let installed ← installLsa areaId r
  Eff.when installed do
    Eff.modify fun t => { t with lastOrigination := t.lastOrigination.set header.key s.now }
    floodLsa r areaId none
  pure (some r)

/-- `_originate`: nothing is originated within MinLSInterval of the last time, nor
beyond the largest sequence number. -/
def originate (areaId : IPv4Address) (lsType : Nat) (linkStateId : IPv4Address)
    (body : Option LsaBody) (seqNum : Option Nat) : Py (Option LsaRef) := do
  let s ← Eff.get
  let key : LsaKey := ⟨lsType, linkStateId, s.routerId⟩
  if s.now - lastOriginationOf s key < minLsInterval then pure none
  else
    match (match seqNum with | some n => some n | none => chooseSeqNum s areaId key) with
    | none => pure none
    | some n => originateWith areaId lsType linkStateId body n

/-- `refresh_lsa`: re-originate a stored self-originated LSA, with the content given. -/
def refreshLsa (areaId : IPv4Address) (r : LsaRef) : Py (Option LsaRef) := do
  let s ← Eff.get
  let lsa := s.heap.obj r
  match s.lsdb.lookup areaId lsa.key with
  | none => pure none
  | some old =>
      if ¬s.lsdb.isSelfOriginated (s.heap.obj old) then pure none
      else
        match nextSeqNum (s.heap.obj old).header.lsSequenceNumber with
        | none => pure none
        | some n => originate areaId lsa.header.lsType lsa.header.linkStateId lsa.body (some n)

/-! ## The LSAs of this router -/

/-- A stub link. -/
def stubLink (linkId linkData : IPv4Address) (metric : Int) : RouterLsaLink :=
  { linkId, linkData, type := linkTypeStub, numTos := 0, metric }

/-- The links to the fully adjacent routers of a point-to-point or point-to-multipoint
interface. -/
def p2pLinks (s : Instance) (i : IntfId) : List RouterLsaLink :=
  (s.fullNeighbors i).map fun n =>
    { linkId := (s.nbr n).routerId, linkData := (s.intf i).ipAddr, type := linkTypeP2P, numTos := 0,
      metric := (s.intf i).cost }

/-- The link of a multi-access interface: to the transit network with a full adjacency
and a DR, to a stub network otherwise. -/
def multiAccessLink (s : Instance) (i : IntfId) : RouterLsaLink :=
  let intf := s.intf i
  if s.fullNeighbors i ≠ [] ∧ (intf.state = .dr ∨ intf.dr ≠ zeroAddr) then
    { linkId := intf.dr, linkData := intf.ipAddr, type := linkTypeTransit, numTos := 0,
      metric := intf.cost }
  else stubLink (networkAddress intf.ipAddr intf.ipMask) intf.ipMask intf.cost

/-- The links of one interface. -/
def linksOf (s : Instance) (i : IntfId) : List RouterLsaLink :=
  let intf := s.intf i
  match intf.state with
  | .loopback => [stubLink intf.ipAddr hostMask 0]
  | .down => []
  | _ =>
      match intf.intfType with
      | .p2p =>
          p2pLinks s i ++ [stubLink (networkAddress intf.ipAddr intf.ipMask) intf.ipMask intf.cost]
      | .broadcast | .nbma => [multiAccessLink s i]
      | .p2mp => stubLink intf.ipAddr hostMask 0 :: p2pLinks s i
      | .virtual => []

/-- The body of this router's Router-LSA for an area. -/
def routerLsaBody (s : Instance) (areaId : IPv4Address) : RouterLsa :=
  let links := ((s.interfacesForArea areaId).map (linksOf s)).flatten
  { flags := (if 1 < s.areas.size then routerFlagB else 0) ||| (if s.isAsbr then routerFlagE else 0),
    numLinks := links.length, links }

/-- `originate_router_lsa`. -/
def originateRouterLsa (areaId : IPv4Address) : Py (Option LsaRef) := do
  let s ← Eff.get
  originate areaId lsaTypeRouter s.routerId (some (.router (routerLsaBody s areaId))) none

/-- The body of the Network-LSA of an interface. -/
def networkLsaBody (s : Instance) (i : IntfId) : NetworkLsa :=
  { networkMask := (s.intf i).ipMask,
    attachedRouters := (s.fullNeighbors i).map (fun n => (s.nbr n).routerId) ++ [s.routerId] }

/-- `originate_network_lsa`: only by the DR, with a full adjacency. -/
def originateNetworkLsa (i : IntfId) : Py (Option LsaRef) := do
  let s ← Eff.get
  if (s.intf i).state ≠ .dr ∨ s.fullNeighbors i = [] then pure none
  else
    originate (s.intf i).areaId lsaTypeNetwork (s.intf i).dr (some (.network (networkLsaBody s i))) none

/-- `originate_summary_lsa`. -/
def originateSummaryLsa (areaId destination mask : IPv4Address) (metric : Nat) :
    Py (Option LsaRef) :=
  originate areaId lsaTypeSummary destination (some (.summary { networkMask := mask, metric })) none

/-- `originate_asbr_summary_lsa`. -/
def originateAsbrSummaryLsa (areaId asbrId : IPv4Address) (metric : Nat) : Py (Option LsaRef) :=
  originate areaId lsaTypeAsbrSummary asbrId (some (.summary { networkMask := zeroAddr, metric })) none

/-- `originate_external_lsa`. -/
def originateExternalLsa (destination mask : IPv4Address) (metric metricType : Nat)
    (forwardingAddress : IPv4Address) (tag : Nat) : Py (Option LsaRef) :=
  originate backboneArea lsaTypeExternal destination
    (some (.external { networkMask := mask, eBit := metricType = 2, metric, forwardingAddress,
                       externalRouteTag := tag })) none

end Ospfd
