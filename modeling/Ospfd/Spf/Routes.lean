import Mathlib.Data.Finset.Image
import Mathlib.Data.Prod.Lex
import Ospfd.Spf.Dijkstra

/-!
# Routes

* `IPv4Network` — destinations.
* `OspfRoute`, `OspfRoute.isBetterThan` — routes and their preference.
* `calculateIntraAreaRoutes`, `calculateInterAreaRoutes` — the routes of an area.
* `calculateAsbrRoutes`, `calculateExternalRoutes` — the routes beyond the domain.
-/

namespace Ospfd

/-! ## Destinations -/

/-- A network: its address, and the length of its prefix. -/
structure IPv4Network where
  address : IPv4Address
  prefixLen : Nat
  deriving DecidableEq, Repr

/-- `mask_to_prefix_len`: the number of ones. -/
def maskToPrefixLen (mask : IPv4Address) : Nat :=
  ((List.range 32).filter fun i => mask.val.testBit i).length

/-- The address with the bits behind a prefix cleared. -/
def clearHost (addr : IPv4Address) (prefixLen : Nat) : IPv4Address :=
  Fin.ofNat 4294967296 (addr.val / 2 ^ (32 - prefixLen) * 2 ^ (32 - prefixLen))

/-- `IPv4Network(f"{addr}/{prefix_len}", strict=False)`. -/
def ipv4Network (addr : IPv4Address) (prefixLen : Nat) : IPv4Network :=
  { address := clearHost addr prefixLen, prefixLen }

/-- `addr in network`. -/
def IPv4Network.contains (network : IPv4Network) (addr : IPv4Address) : Bool :=
  clearHost addr network.prefixLen = network.address

/-! ## Routes -/

/-- What a path consists of, the preferred kind first. -/
inductive PathType where
  | intraArea | interArea | type1External | type2External
  deriving DecidableEq, Repr

def PathType.num : PathType → Nat
  | .intraArea => 1
  | .interArea => 2
  | .type1External => 3
  | .type2External => 4

theorem PathType.num_inj {a b : PathType} : a.num = b.num ↔ a = b := by
  cases a <;> cases b <;> decide

/-- A route.  Its next hops are a set: no two have the same interface and address. -/
structure OspfRoute where
  destination : IPv4Network
  pathType : PathType
  cost : Int
  /-- Of a type 2 external route. -/
  type2Cost : Nat := 0
  areaId : IPv4Address := zeroAddr
  nexthops : List SpfNexthop := []
  advertisingRouter : IPv4Address := zeroAddr
  deriving DecidableEq, Repr

/-- The interfaces and addresses of next hops, by which they are compared. -/
def hopSet (nexthops : List SpfNexthop) : Finset (IntfId × IPv4Address) :=
  (nexthops.map fun h => (h.interfaceName, h.nextHopIp)).toFinset

def OspfRoute.hops (route : OspfRoute) : Finset (IntfId × IPv4Address) := hopSet route.nexthops

/-- `is_better_than`. -/
def OspfRoute.isBetterThan (route other : OspfRoute) : Bool :=
  if route.pathType ≠ other.pathType then route.pathType.num < other.pathType.num
  else if route.pathType = .type2External then
    if route.type2Cost ≠ other.type2Cost then route.type2Cost < other.type2Cost
    else route.cost < other.cost
  else route.cost < other.cost

/-! ## Inside an area -/

/-- The route to the stub network of a link. -/
def stubRoute (areaId : IPv4Address) (vertex : SpfVertex) (link : RouterLsaLink) : OspfRoute :=
  { destination := ipv4Network link.linkId (maskToPrefixLen link.linkData)
    pathType := .intraArea
    cost := vertex.distance + link.metric
    areaId
    nexthops := vertex.nexthops
    advertisingRouter := vertex.vertexId }

/-- The route to a transit network. -/
def transitRoute (areaId : IPv4Address) (vertex : SpfVertex) (lsa : Lsa) (body : NetworkLsa) : OspfRoute :=
  { destination := ipv4Network (vertex.vertexId &&& body.networkMask) (maskToPrefixLen body.networkMask)
    pathType := .intraArea
    cost := vertex.distance
    areaId
    nexthops := vertex.nexthops
    advertisingRouter := lsa.header.advertisingRouter }

/-- The routes of a vertex: to the stub networks of a router, or to a network. -/
def vertexRoutes (s : Instance) (areaId : IPv4Address) (vertex : SpfVertex) : List OspfRoute :=
  match vertex.vertexType, (s.heap.obj vertex.lsa).body with
  | .router, some (.router body) =>
      (body.links.filter fun link => link.type = linkTypeStub).map (stubRoute areaId vertex)
  | .network, some (.network body) => [transitRoute areaId vertex (s.heap.obj vertex.lsa) body]
  | _, _ => []

/-- `calculate_intra_area_routes`. -/
def calculateIntraAreaRoutes (s : Instance) (tree : Dict IPv4Address SpfVertex) (areaId : IPv4Address) :
    List OspfRoute :=
  (tree.values.map (vertexRoutes s areaId)).flatten

/-! ## Between areas -/

/-- The metric of a Summary-LSA that is no route. -/
def lsInfinity : Nat := 16777215

/-- The body of a Summary-LSA below MaxAge that is a route, and the router in the tree that
advertises it. -/
def summaryOf (s : Instance) (tree : Dict IPv4Address SpfVertex) (r : LsaRef) :
    Option (SummaryLsa × SpfVertex) :=
  if expired s r then none
  else
    match (s.heap.obj r).body with
    | some (.summary body) =>
        if lsInfinity ≤ body.metric then none
        else (tree.get? (s.heap.obj r).header.advertisingRouter).map fun abr => (body, abr)
    | _ => none

/-- The inter-area route of a Summary-LSA, if there is one. -/
def summaryRoute (s : Instance) (tree : Dict IPv4Address SpfVertex) (areaId : IPv4Address)
    (intraDests : List IPv4Network) (r : LsaRef) : Option OspfRoute :=
  match summaryOf s tree r with
  | none => none
  | some (body, abr) =>
      let lsa := s.heap.obj r
      let destination := ipv4Network lsa.header.linkStateId (maskToPrefixLen body.networkMask)
      if lsa.header.advertisingRouter = s.lsdb.routerId then none
      else if destination ∈ intraDests then none
      else
        some { destination, pathType := .interArea, cost := abr.distance + body.metric, areaId,
               nexthops := abr.nexthops, advertisingRouter := lsa.header.advertisingRouter }

/-- `calculate_inter_area_routes`. -/
def calculateInterAreaRoutes (s : Instance) (tree : Dict IPv4Address SpfVertex) (areaId : IPv4Address)
    (intraRoutes : List OspfRoute) : List OspfRoute :=
  (s.lsdb.getAllOfType s.heap areaId lsaTypeSummary).filterMap
    (summaryRoute s tree areaId (intraRoutes.map OspfRoute.destination))

/-! ## ASBRs -/

/-- Keep the least cost of an ASBR. -/
def lowerCost (costs : Dict IPv4Address Int) (asbrId : IPv4Address) (cost : Int) : Dict IPv4Address Int :=
  match costs.get? asbrId with
  | none => costs.set asbrId cost
  | some known => if cost < known then costs.set asbrId cost else costs

/-- The ASBR of an ASBR-summary-LSA, and the cost through the router that advertises it. -/
def asbrOffer (s : Instance) (tree : Dict IPv4Address SpfVertex) (r : LsaRef) : Option (IPv4Address × Int) :=
  (summaryOf s tree r).map fun p => ((s.heap.obj r).header.linkStateId, p.2.distance + p.1.metric)

/-- The least cost of each ASBR that is offered. -/
def lowestCosts (offers : List (IPv4Address × Int)) : Dict IPv4Address Int :=
  offers.foldl (fun costs offer => lowerCost costs offer.1 offer.2) Dict.empty

/-- `calculate_asbr_routes`. -/
def calculateAsbrRoutes (s : Instance) (tree : Dict IPv4Address SpfVertex) (areaId : IPv4Address) :
    Dict IPv4Address Int :=
  lowestCosts ((s.lsdb.getAllOfType s.heap areaId lsaTypeAsbrSummary).filterMap (asbrOffer s tree))

/-- The trees of the areas. -/
abbrev SpfTrees : Type := Dict IPv4Address (Dict IPv4Address SpfVertex)

/-- `_run_spf`: the least cost of each ASBR over all areas. -/
def allAsbrCosts (s : Instance) (trees : SpfTrees) : Dict IPv4Address Int :=
  lowestCosts (trees.entries.map fun area => (calculateAsbrRoutes s area.2 area.1).entries).flatten

/-! ## Beyond the domain -/

/-- Cost and next hops of the nearest vertex of a router, over the trees of the areas. -/
def nearestVertex (trees : SpfTrees) (asbrId : IPv4Address) : Option (Int × List SpfNexthop) :=
  trees.values.foldl
    (fun best tree =>
      match tree.get? asbrId with
      | none => best
      | some v =>
          match best with
          | none => some (v.distance, v.nexthops)
          | some (cost, _) => if v.distance < cost then some (v.distance, v.nexthops) else best)
    none

/-- Cost and next hops towards an ASBR: those of the nearest vertex, with the cost that its
summaries offer when it is lower. -/
def asbrPath (trees : SpfTrees) (asbrCosts : Dict IPv4Address Int) (asbrId : IPv4Address) :
    Option (Int × List SpfNexthop) :=
  match nearestVertex trees asbrId, asbrCosts.get? asbrId with
  | best, none => best
  | none, some interCost => some (interCost, [])
  | some (cost, nexthops), some interCost =>
      if interCost < cost then some (interCost, nexthops) else some (cost, nexthops)

/-- `_find_route_to`: the first of the routes with the longest prefix that contain the address. -/
def findRouteTo (addr : IPv4Address) (routes : List OspfRoute) : Option OspfRoute :=
  routes.foldl
    (fun best route =>
      if route.destination.contains addr then
        match best with
        | none => some route
        | some b => if b.destination.prefixLen < route.destination.prefixLen then some route else some b
      else best)
    none

/-- Cost and next hops towards a forwarding address, if there is one and a route to it. -/
def forwardingPath (fwdAddr : IPv4Address) (routes : List OspfRoute) (path : Int × List SpfNexthop) :
    Int × List SpfNexthop :=
  if fwdAddr = zeroAddr then path
  else
    match findRouteTo fwdAddr routes with
    | none => path
    | some route => (route.cost, route.nexthops)

/-- The route of an AS-external-LSA over a path. -/
def externalRouteVia (lsa : Lsa) (body : ExternalLsa) (path : Int × List SpfNexthop) : OspfRoute :=
  let destination := ipv4Network lsa.header.linkStateId (maskToPrefixLen body.networkMask)
  if body.eBit then
    { destination, pathType := .type2External, cost := path.1, type2Cost := body.metric,
      nexthops := path.2, advertisingRouter := lsa.header.advertisingRouter }
  else
    { destination, pathType := .type1External, cost := path.1 + body.metric, nexthops := path.2,
      advertisingRouter := lsa.header.advertisingRouter }

/-- The route of an AS-external-LSA, if there is one. -/
def externalRoute (s : Instance) (trees : SpfTrees) (asbrCosts : Dict IPv4Address Int)
    (routes : List OspfRoute) (r : LsaRef) : Option OspfRoute :=
  let lsa := s.heap.obj r
  if expired s r then none
  else
    match lsa.body with
    | some (.external body) =>
        (asbrPath trees asbrCosts lsa.header.advertisingRouter).map fun path =>
          externalRouteVia lsa body (forwardingPath body.forwardingAddress routes path)
    | _ => none

/-- `calculate_external_routes`. -/
def calculateExternalRoutes (s : Instance) (trees : SpfTrees) (asbrCosts : Dict IPv4Address Int)
    (intraRoutes interRoutes : List OspfRoute) : List OspfRoute :=
  s.lsdb.getAllExternal.filterMap (externalRoute s trees asbrCosts (intraRoutes ++ interRoutes))

end Ospfd
