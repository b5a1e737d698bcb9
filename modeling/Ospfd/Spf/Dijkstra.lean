import Ospfd.Lib.LazySearch
import Ospfd.Protocol.State

/-!
# The shortest path tree of an area

* `SpfVertex` — a vertex of the tree, with the next hops towards it.
* `processRouterVertex`, `processNetworkVertex` — the candidates a vertex gives rise to.
* `calculate` — the tree, keyed by vertex.
-/

namespace Ospfd

/-- An outgoing interface and a next-hop address. -/
structure SpfNexthop where
  interfaceName : IntfId
  nextHopIp : IPv4Address
  interfaceIndex : Nat := 0
  deriving DecidableEq, Repr

/-- Next hops are equal when interface and address are. -/
def SpfNexthop.same (a b : SpfNexthop) : Bool :=
  a.interfaceName = b.interfaceName ∧ a.nextHopIp = b.nextHopIp

/-- `nexthops.add`: an equal element stays as it is. -/
def addNexthop (nexthops : List SpfNexthop) (h : SpfNexthop) : List SpfNexthop :=
  if nexthops.any h.same then nexthops else nexthops ++ [h]

theorem mem_foldl_addNexthop {new nexthops : List SpfNexthop} {h : SpfNexthop}
    (hh : h ∈ new.foldl addNexthop nexthops) : h ∈ nexthops ∨ h ∈ new := by
  induction new generalizing nexthops with
  | nil => exact Or.inl hh
  | cons x new ih =>
    rcases ih hh with hh | hh
    · rw [addNexthop] at hh
      split at hh
      · exact Or.inl hh
      · rcases List.mem_append.1 hh with hh | hh
        · exact Or.inl hh
        · exact Or.inr (by simp [List.mem_singleton.1 hh])
    · exact Or.inr (List.mem_cons_of_mem _ hh)

inductive SpfVertexType where
  | router | network
  deriving DecidableEq, Repr

/-- A vertex of the tree; its parent is the vertex it was reached from. -/
structure SpfVertex where
  vertexId : IPv4Address
  vertexType : SpfVertexType
  lsa : LsaRef
  distance : Int := 0
  parent : Option SpfVertex := none
  nexthops : List SpfNexthop := []

/-! ## LSAs -/

/-- `lsa.current_age >= MAX_AGE`. -/
def expired (s : Instance) (r : LsaRef) : Bool := maxAge ≤ (s.heap.obj r).currentAge s.now

/-- The key of the Router-LSA of a router. -/
def routerLsaKey (routerId : IPv4Address) : LsaKey := ⟨lsaTypeRouter, routerId, routerId⟩

/-- `_find_network_lsa`: the first Network-LSA with that link state ID. -/
def findNetworkLsa (s : Instance) (areaId drIp : IPv4Address) : Option LsaRef :=
  (s.lsdb.getAllOfType s.heap areaId lsaTypeNetwork).find? fun r =>
    (s.heap.obj r).header.linkStateId = drIp

/-! ## Next hops -/

/-- The next hops an interface offers towards a directly connected vertex. -/
def interfaceNexthops (s : Instance) (destId : IPv4Address) (link : Option RouterLsaLink)
    (i : IntfId) : List SpfNexthop :=
  let intf := s.intf i
  match link with
  | none => []
  | some link =>
      if link.type = linkTypeP2P then
        ((s.neighborsOf i).filter fun n => (s.nbr n).routerId = destId).map fun n =>
          ⟨i, (s.nbr n).ipAddr, intf.ifIndex⟩
      else if link.type = linkTypeTransit ∧ (intf.dr = link.linkId ∨ intf.ipAddr = link.linkId) then
        [⟨i, zeroAddr, intf.ifIndex⟩]
      else []

/-- `_get_direct_nexthops`. -/
def getDirectNexthops (s : Instance) (destId : IPv4Address) (link : Option RouterLsaLink) :
    List SpfNexthop :=
  (((s.areas.values.map OspfArea.interfaces).flatten.map
    (interfaceNexthops s destId link)).flatten).foldl addNexthop []

/-- `_calculate_nexthops`: inherited, unless the parent is the root. -/
def calculateNexthops (s : Instance) (parent : SpfVertex) (destId : IPv4Address)
    (link : Option RouterLsaLink) : List SpfNexthop :=
  if parent.distance = 0 ∧ parent.parent.isNone then getDirectNexthops s destId link
  else parent.nexthops

/-! ## Candidates -/

/-- `_update_candidate`: the candidate that is pushed. -/
def updateCandidate (s : Instance) (vertexId : IPv4Address) (vertexType : SpfVertexType)
    (lsa : LsaRef) (newDist : Int) (parent : SpfVertex) (link : Option RouterLsaLink) : SpfVertex :=
  let nexthops := calculateNexthops s parent vertexId link
  let nexthops := if nexthops = [] then parent.nexthops else nexthops
  { vertexId, vertexType, lsa, distance := newDist, parent := some parent, nexthops }

/-- The candidate behind a link of a Router-LSA, if there is one. -/
def linkCandidate (s : Instance) (areaId : IPv4Address) (tree : Dict IPv4Address SpfVertex)
    (vertex : SpfVertex) (link : RouterLsaLink) : Option SpfVertex :=
  if link.type = linkTypeStub then none
  else if link.type = linkTypeTransit then
    match findNetworkLsa s areaId link.linkId with
    | none => none
    | some net =>
        let netId := (s.heap.obj net).header.linkStateId
        if expired s net then none
        else if tree.contains netId then none
        else some (updateCandidate s netId .network net (vertex.distance + link.metric) vertex link)
  else if link.type = linkTypeP2P then
    match s.lsdb.lookup areaId (routerLsaKey link.linkId) with
    | none => none
    | some nbr =>
        if expired s nbr then none
        else if tree.contains link.linkId then none
        else some (updateCandidate s link.linkId .router nbr (vertex.distance + link.metric) vertex link)
  else none

/-- `_process_router_vertex`. -/
def processRouterVertex (s : Instance) (areaId : IPv4Address) (tree : Dict IPv4Address SpfVertex)
    (vertex : SpfVertex) : List SpfVertex :=
  match (s.heap.obj vertex.lsa).body with
  | some (.router body) => body.links.filterMap (linkCandidate s areaId tree vertex)
  | _ => []

/-- The candidate of an attached router, if there is one. -/
def attachedCandidate (s : Instance) (areaId : IPv4Address) (tree : Dict IPv4Address SpfVertex)
    (vertex : SpfVertex) (rtrId : IPv4Address) : Option SpfVertex :=
  if tree.contains rtrId then none
  else
    match s.lsdb.lookup areaId (routerLsaKey rtrId) with
    | none => none
    | some rtr =>
        if expired s rtr then none
        else some (updateCandidate s rtrId .router rtr (vertex.distance + 0) vertex none)

/-- `_process_network_vertex`: from a network to its routers at cost 0. -/
def processNetworkVertex (s : Instance) (areaId : IPv4Address) (tree : Dict IPv4Address SpfVertex)
    (vertex : SpfVertex) : List SpfVertex :=
  match (s.heap.obj vertex.lsa).body with
  | some (.network body) => body.attachedRouters.filterMap (attachedCandidate s areaId tree vertex)
  | _ => []

/-! ## The algorithm -/

/-- The search behind `calculate`: the queue is ordered by distance and by a counter. -/
def spfSearch (s : Instance) (areaId : IPv4Address) : LazySearch IPv4Address SpfVertex where
  vertex := SpfVertex.vertexId
  dist := SpfVertex.distance
  expand tree vertex :=
    match vertex.vertexType with
    | .router => processRouterVertex s areaId tree vertex
    | .network => processNetworkVertex s areaId tree vertex

/-- The root of the tree: this router. -/
def spfRoot (s : Instance) (rootLsa : LsaRef) : SpfVertex :=
  { vertexId := s.routerId, vertexType := .router, lsa := rootLsa }

/-- `calculate`: the tree, keyed by vertex ID; empty without a valid Router-LSA of this
router.  `none` when the turns of the loop do not suffice. -/
def calculate (s : Instance) (areaId : IPv4Address) (fuel : Nat) :
    Option (Dict IPv4Address SpfVertex) :=
  match s.lsdb.lookup areaId (routerLsaKey s.routerId) with
  | none => some Dict.empty
  | some rootLsa =>
      if expired s rootLsa then some Dict.empty
      else
        let search := spfSearch s areaId
        search.run fuel (search.start (spfRoot s rootLsa))

end Ospfd
