import Mathlib
import Ospfd.Protocol.Instance
import Ospfd.Spf.RoutingTable

/-!
# The path of an external route

The cost of an ASBR is the least over the trees of the areas and over the summaries of area
border routers, the next hops are always those of a tree.

* `lowestCosts_eq`, `nearestVertex_eq` — the two running minima.
* `AsbrSummary` — an ASBR-summary-LSA offers a cost, through a router of the tree.
* `PathTo` — a path to an ASBR: inside an area, or through the advertiser of a summary.
* `CostedPath` — a route whose next hops are those of a path of the cost it was given.
* `externalRoutes_costed` — **exactly when the nearest vertex of the ASBR is its own and no
  summary is cheaper**, or another path of that cost happens to have the same next hops.
-/

namespace Ospfd

/-! ## Running minima -/

theorem get?_lowerCost (costs : Dict IPv4Address Int) (offer : IPv4Address × Int) (id : IPv4Address) :
    (lowerCost costs offer.1 offer.2).get? id =
      if offer.1 = id then some (((costs.get? id).map fun known => min offer.2 known).getD offer.2)
      else costs.get? id := by
  by_cases hid : offer.1 = id
  · subst hid
    rw [if_pos rfl, lowerCost]
    cases hknown : costs.get? offer.1 with
    | none => exact Dict.get?_set_self ..
    | some known =>
      dsimp only
      split
      · rename_i hlt
        rw [Dict.get?_set_self, Option.map_some, Option.getD_some, min_eq_left hlt.le]
      · rename_i hle
        rw [hknown, Option.map_some, Option.getD_some, min_eq_right (not_lt.1 hle)]
  · rw [if_neg hid, lowerCost]
    split
    · exact Dict.get?_set_of_ne _ hid _
    · split
      · exact Dict.get?_set_of_ne _ hid _
      · rfl

/-- Each ASBR is kept with the least of the costs that are offered. -/
theorem lowestCosts_eq (offers : List (IPv4Address × Int)) (id : IPv4Address) :
    (lowestCosts offers).get? id =
      ((offers.filter fun offer => offer.1 = id).argmin Prod.snd).map Prod.snd := by
  rw [lowestCosts, Dict.get?_foldl Prod.fst
    (fun held offer => some ((held.map fun known => min offer.2 known).getD offer.2)) get?_lowerCost]
  generalize (offers.filter fun offer => offer.1 = id) = mine
  induction mine using List.reverseRecOn with
  | nil => rfl
  | append_singleton mine offer ih =>
    rw [List.foldl_append, List.foldl_cons, List.foldl_nil, ih, List.argmin_concat]
    cases mine.argmin Prod.snd with
    | none => rfl
    | some known =>
      simp only [Option.map_some, Option.getD_some]
      split
      · rename_i hlt
        rw [min_eq_left hlt.le, Option.map_some]
      · rename_i hle
        rw [min_eq_right (not_lt.1 hle), Option.map_some]

theorem lowestCosts_mem {offers : List (IPv4Address × Int)} {id : IPv4Address} {cost : Int}
    (h : (lowestCosts offers).get? id = some cost) : (id, cost) ∈ offers := by
  rw [lowestCosts_eq, Option.map_eq_some_iff] at h
  obtain ⟨offer, hmin, rfl⟩ := h
  have hmem := List.mem_filter.1 (List.argmin_mem hmin)
  rw [← of_decide_eq_true hmem.2]
  exact hmem.1

theorem lowestCosts_le {offers : List (IPv4Address × Int)} {id : IPv4Address} {cost : Int}
    (h : (id, cost) ∈ offers) : ∃ least, (lowestCosts offers).get? id = some least ∧ least ≤ cost := by
  have hmem : (id, cost) ∈ offers.filter fun offer => offer.1 = id := List.mem_filter.2 ⟨h, by simp⟩
  rw [lowestCosts_eq]
  cases hmin : (offers.filter fun offer => offer.1 = id).argmin Prod.snd with
  | none =>
    rw [List.argmin_eq_none.1 hmin] at hmem
    cases hmem
  | some offer => exact ⟨_, rfl, List.le_of_mem_argmin hmem hmin⟩

/-- The vertices of a router in the trees of the areas. -/
def verticesOf (trees : SpfTrees) (id : IPv4Address) : List SpfVertex :=
  trees.values.filterMap fun tree => tree.get? id

/-- The nearest vertex, the first among several. -/
theorem nearestVertex_eq (trees : SpfTrees) (id : IPv4Address) :
    nearestVertex trees id =
      ((verticesOf trees id).argmin SpfVertex.distance).map fun v => (v.distance, v.nexthops) := by
  rw [nearestVertex, verticesOf]
  generalize trees.values = areas
  induction areas using List.reverseRecOn with
  | nil => rfl
  | append_singleton areas tree ih =>
    rw [List.foldl_append, List.foldl_cons, List.foldl_nil, ih, List.filterMap_append]
    cases hv : tree.get? id with
    | none => simp [hv]
    | some v =>
      have hlast : ([tree].filterMap fun tree => tree.get? id) = [v] := by simp [hv]
      rw [hlast, List.argmin_concat]
      dsimp only
      cases (areas.filterMap fun tree => tree.get? id).argmin SpfVertex.distance with
      | none => rfl
      | some w =>
        simp only [Option.map_some]
        split <;> rfl

/-- Nothing leads to a router: it is in no tree, and no cost is known. -/
def Unreachable (trees : SpfTrees) (asbrCosts : Dict IPv4Address Int) (asbrId : IPv4Address) : Prop :=
  verticesOf trees asbrId = [] ∧ asbrCosts.get? asbrId = none

theorem asbrPath_eq_none_iff {trees : SpfTrees} {asbrCosts : Dict IPv4Address Int} {asbrId : IPv4Address} :
    asbrPath trees asbrCosts asbrId = none ↔ Unreachable trees asbrCosts asbrId := by
  rw [asbrPath, nearestVertex_eq, Unreachable, ← List.argmin_eq_none (f := SpfVertex.distance)]
  cases (verticesOf trees asbrId).argmin SpfVertex.distance with
  | none => cases asbrCosts.get? asbrId <;> simp
  | some v =>
    cases asbrCosts.get? asbrId with
    | none => simp
    | some cost =>
      dsimp only [Option.map_some]
      split <;> simp

/-! ## Paths to an ASBR -/

/-- An ASBR-summary-LSA offers a cost, through a vertex of the tree. -/
def AsbrSummary (s : Instance) (trees : SpfTrees) (asbrId : IPv4Address) (cost : Int) (abr : SpfVertex) :
    Prop :=
  ∃ areaId tree r body, trees.get? areaId = some tree ∧
    r ∈ s.lsdb.getAllOfType s.heap areaId lsaTypeAsbrSummary ∧ summaryOf s tree r = some (body, abr) ∧
    (s.heap.obj r).header.linkStateId = asbrId ∧ cost = abr.distance + body.metric

variable {s : Instance} {trees : SpfTrees} {asbrId : IPv4Address}

theorem AsbrSummary.offer {lsas : List LsaRef} {tree : Dict IPv4Address SpfVertex} {cost : Int} :
    (asbrId, cost) ∈ lsas.filterMap (asbrOffer s tree) ↔
      ∃ r body abr, r ∈ lsas ∧ summaryOf s tree r = some (body, abr) ∧
        (s.heap.obj r).header.linkStateId = asbrId ∧ cost = abr.distance + body.metric := by
  rw [List.mem_filterMap]
  constructor
  · rintro ⟨r, hr, hoffer⟩
    rw [asbrOffer, Option.map_eq_some_iff] at hoffer
    obtain ⟨⟨body, abr⟩, hsum, heq⟩ := hoffer
    cases heq
    exact ⟨r, body, abr, hr, hsum, rfl, rfl⟩
  · rintro ⟨r, body, abr, hr, hsum, rfl, rfl⟩
    exact ⟨r, hr, by rw [asbrOffer, hsum]; rfl⟩

/-- The cost of an ASBR over all areas is one that a summary offers. -/
theorem AsbrSummary.of_costs {cost : Int} (h : (allAsbrCosts s trees).get? asbrId = some cost) :
    ∃ abr, AsbrSummary s trees asbrId cost abr := by
  have hmem := lowestCosts_mem h
  rw [List.mem_flatten] at hmem
  obtain ⟨costs, hcosts, hmem⟩ := hmem
  obtain ⟨⟨areaId, tree⟩, harea, rfl⟩ := List.mem_map.1 hcosts
  obtain ⟨r, body, abr, hr, hsum, hid, hcost⟩ :=
    AsbrSummary.offer.1 (lowestCosts_mem (Dict.mem_entries_iff.1 hmem))
  exact ⟨abr, areaId, tree, r, body, Dict.mem_entries_iff.1 harea, hr, hsum, hid, hcost⟩

/-- It is the least. -/
theorem AsbrSummary.costs_le {cost : Int} {abr : SpfVertex} (h : AsbrSummary s trees asbrId cost abr) :
    ∃ least, (allAsbrCosts s trees).get? asbrId = some least ∧ least ≤ cost := by
  obtain ⟨areaId, tree, r, body, htree, hr, hsum, hid, hcost⟩ := h
  obtain ⟨inArea, hin, hle⟩ := lowestCosts_le (AsbrSummary.offer.2 ⟨r, body, abr, hr, hsum, hid, hcost⟩)
  have hentry : (asbrId, inArea) ∈ (trees.entries.map fun area =>
      (calculateAsbrRoutes s area.2 area.1).entries).flatten :=
    List.mem_flatten.2 ⟨_, List.mem_map.2 ⟨(areaId, tree), Dict.mem_entries_iff.2 htree, rfl⟩,
      Dict.mem_entries_iff.2 hin⟩
  obtain ⟨least, hleast, hle'⟩ := lowestCosts_le hentry
  exact ⟨least, hleast, hle'.trans hle⟩

/-- **A path to an ASBR**, with the router whose next hops it has: the ASBR itself inside an area,
or the area border router that advertises it. -/
def PathTo (s : Instance) (trees : SpfTrees) (asbrId : IPv4Address) (cost : Int) (v : SpfVertex) : Prop :=
  v.vertexType = .router ∧
    (v ∈ verticesOf trees asbrId ∧ cost = v.distance ∨ AsbrSummary s trees asbrId cost v)

/-- Some next hops are there, and belong to a path of some cost. -/
def CostedPath (s : Instance) (trees : SpfTrees) (asbrId : IPv4Address) (cost : Int)
    (nexthops : List SpfNexthop) : Prop :=
  nexthops ≠ [] ∧ ∃ v, PathTo s trees asbrId cost v ∧ hopSet nexthops ⊆ hopSet v.nexthops

/-- The nearest vertex of the ASBR is its own and no summary is cheaper; or its next hops are,
by chance, also those of a path that is as cheap as any. -/
def NearestServes (s : Instance) (trees : SpfTrees) (asbrId : IPv4Address) : Prop :=
  ∃ v, (verticesOf trees asbrId).argmin SpfVertex.distance = some v ∧
    ((v.vertexType = .router ∧ ∀ cost abr, AsbrSummary s trees asbrId cost abr → v.distance ≤ cost) ∨
      ∃ cost, CostedPath s trees asbrId cost v.nexthops ∧ cost ≤ v.distance ∧
        ∀ cost' abr, AsbrSummary s trees asbrId cost' abr → cost ≤ cost')

/-- Every router that is reached has next hops. -/
def ReachedByHops (s : Instance) (trees : SpfTrees) : Prop :=
  ∀ id, id ≠ s.routerId → ∀ v ∈ verticesOf trees id, v.vertexType = .router → v.nexthops ≠ []

section Path

variable {cost : Int} {nexthops : List SpfNexthop}
  (hpath : asbrPath trees (allAsbrCosts s trees) asbrId = some (cost, nexthops))

include hpath

/-- An ASBR that is in no tree has no next hops. -/
theorem asbrPath_of_none (h : (verticesOf trees asbrId).argmin SpfVertex.distance = none) :
    nexthops = [] := by
  rw [asbrPath, nearestVertex_eq, h, Option.map_none] at hpath
  cases hcost : (allAsbrCosts s trees).get? asbrId with
  | none =>
    rw [hcost] at hpath
    cases hpath
  | some interCost =>
    rw [hcost] at hpath
    cases hpath
    rfl

/-- The next hops are those of the nearest vertex, the cost is the least. -/
theorem asbrPath_of_some {v : SpfVertex} (h : (verticesOf trees asbrId).argmin SpfVertex.distance = some v) :
    nexthops = v.nexthops ∧ cost ≤ v.distance ∧
      (∀ cost' abr, AsbrSummary s trees asbrId cost' abr → cost ≤ cost') ∧
      (cost = v.distance ∨ ∃ abr, AsbrSummary s trees asbrId cost abr) := by
  rw [asbrPath, nearestVertex_eq, h, Option.map_some] at hpath
  cases hcost : (allAsbrCosts s trees).get? asbrId with
  | none =>
    rw [hcost] at hpath
    cases hpath
    refine ⟨rfl, le_refl _, fun cost' abr habr => ?_, Or.inl rfl⟩
    obtain ⟨least, hleast, -⟩ := habr.costs_le
    rw [hcost] at hleast
    cases hleast
  | some interCost =>
    have hsummaries : ∀ cost' abr, AsbrSummary s trees asbrId cost' abr → interCost ≤ cost' := by
      intro cost' abr habr
      obtain ⟨least, hleast, hle⟩ := habr.costs_le
      rw [hcost] at hleast
      rwa [Option.some.inj hleast]
    rw [hcost] at hpath
    dsimp only at hpath
    split at hpath
    · rename_i hlt
      cases hpath
      exact ⟨rfl, hlt.le, hsummaries, Or.inr (AsbrSummary.of_costs hcost)⟩
    · rename_i hle
      cases hpath
      exact ⟨rfl, le_refl _, fun cost' abr habr => (not_lt.1 hle).trans (hsummaries cost' abr habr), Or.inl rfl⟩

/-- **The path towards an ASBR has the cost that is used** exactly when the nearest vertex
serves. -/
theorem asbrPath_costed (hreach : ReachedByHops s trees) (hother : asbrId ≠ s.routerId) :
    CostedPath s trees asbrId cost nexthops ↔ NearestServes s trees asbrId := by
  cases hmin : (verticesOf trees asbrId).argmin SpfVertex.distance with
  | none =>
    have hempty := asbrPath_of_none hpath hmin
    constructor
    · rintro ⟨hne, -⟩
      exact absurd hempty hne
    · rintro ⟨v, hv, -⟩
      rw [hmin] at hv
      cases hv
  | some v =>
    obtain ⟨rfl, hle, hsummaries, hfrom⟩ := asbrPath_of_some hpath hmin
    have hv : v ∈ verticesOf trees asbrId := List.argmin_mem hmin
    constructor
    · exact fun hcosted => ⟨v, hmin, Or.inr ⟨cost, hcosted, hle, hsummaries⟩⟩
    · rintro ⟨w, hw, hserves⟩
      obtain rfl : v = w := Option.some.inj (hmin.symm.trans hw)
      rcases hserves with ⟨hrouter, hleast⟩ | ⟨cost', hcosted, hle', hsummaries'⟩
      · have hcost : cost = v.distance := by
          rcases hfrom with hcost | ⟨abr, habr⟩
          · exact hcost
          · exact le_antisymm hle (hleast cost abr habr)
        exact ⟨hreach asbrId hother v hv hrouter, v, ⟨hrouter, Or.inl ⟨hv, hcost⟩⟩, Finset.Subset.refl _⟩
      · -- the two costs are both the least
        have hcost : cost = cost' := by
          apply le_antisymm
          · obtain ⟨-, u, ⟨-, ⟨hu, heq⟩ | hsum⟩, -⟩ := hcosted
            · rw [heq]
              exact hle.trans (List.le_of_mem_argmin hu hmin)
            · exact hsummaries cost' u hsum
          · rcases hfrom with heq | ⟨abr, habr⟩
            · rwa [heq]
            · exact hsummaries' cost abr habr
        rwa [hcost]

end Path

/-! ## External routes -/

/-- An AS-external-LSA of another router, without a forwarding address. -/
structure ForeignExternal (s : Instance) (r : LsaRef) (body : ExternalLsa) : Prop where
  stored : r ∈ s.lsdb.getAllExternal
  young : expired s r = false
  body_eq : (s.heap.obj r).body = some (.external body)
  foreign : (s.heap.obj r).header.advertisingRouter ≠ s.routerId
  direct : body.forwardingAddress = zeroAddr

/-- The cost of the ASBR in the cost of an external route. -/
def OspfRoute.asbrCost (route : OspfRoute) (body : ExternalLsa) : Int :=
  if body.eBit then route.cost else route.cost - body.metric

theorem asbrCost_externalRouteVia (lsa : Lsa) (body : ExternalLsa) (path : Int × List SpfNexthop) :
    (externalRouteVia lsa body path).asbrCost body = path.1 := by
  rw [externalRouteVia, OspfRoute.asbrCost]
  by_cases hbit : body.eBit = true
  · simp [hbit]
  · simp [hbit]

theorem nexthops_externalRouteVia (lsa : Lsa) (body : ExternalLsa) (path : Int × List SpfNexthop) :
    (externalRouteVia lsa body path).nexthops = path.2 := by
  rw [externalRouteVia]
  by_cases hbit : body.eBit = true
  · simp [hbit]
  · simp [hbit]

/-- The route of an LSA goes over the path towards its ASBR. -/
theorem ForeignExternal.route {r : LsaRef} {body : ExternalLsa} (h : ForeignExternal s r body)
    {asbrCosts : Dict IPv4Address Int} {routes : List OspfRoute} {route : OspfRoute}
    (hroute : externalRoute s trees asbrCosts routes r = some route) :
    asbrPath trees asbrCosts (s.heap.obj r).header.advertisingRouter =
      some (route.asbrCost body, route.nexthops) := by
  rw [externalRoute, h.young, if_neg Bool.false_ne_true, h.body_eq] at hroute
  obtain ⟨path, hpath, rfl⟩ := Option.map_eq_some_iff.1 hroute
  rw [hpath, forwardingPath, if_pos h.direct, asbrCost_externalRouteVia, nexthops_externalRouteVia]

/-- The ASBR of an LSA is in a tree, or a summary offers a cost. -/
def AsbrReachable (s : Instance) (trees : SpfTrees) (asbrId : IPv4Address) : Prop :=
  verticesOf trees asbrId ≠ [] ∨ ∃ cost abr, AsbrSummary s trees asbrId cost abr

theorem ForeignExternal.exists_route_iff {r : LsaRef} {body : ExternalLsa} (h : ForeignExternal s r body)
    (routes : List OspfRoute) :
    (∃ route, externalRoute s trees (allAsbrCosts s trees) routes r = some route) ↔
      AsbrReachable s trees (s.heap.obj r).header.advertisingRouter := by
  rw [externalRoute, h.young, if_neg Bool.false_ne_true, h.body_eq]
  dsimp only
  have hsome : ∀ {α β : Type} (o : Option α) (f : α → β), (∃ b, o.map f = some b) ↔ o ≠ none := by
    intro α β o f
    cases o <;> simp
  rw [hsome, asbrPath, nearestVertex_eq, AsbrReachable]
  cases hcost : (allAsbrCosts s trees).get? (s.heap.obj r).header.advertisingRouter with
  | none =>
    have hno : ¬∃ cost abr, AsbrSummary s trees (s.heap.obj r).header.advertisingRouter cost abr := by
      rintro ⟨cost, abr, habr⟩
      obtain ⟨least, hleast, -⟩ := habr.costs_le
      rw [hcost] at hleast
      cases hleast
    simp [hno]
  | some cost =>
    obtain ⟨abr, habr⟩ := AsbrSummary.of_costs hcost
    refine ⟨fun _ => Or.inr ⟨cost, abr, habr⟩, fun _ => ?_⟩
    cases (verticesOf trees (s.heap.obj r).header.advertisingRouter).argmin SpfVertex.distance with
    | none => exact Option.some_ne_none _
    | some v =>
      dsimp only [Option.map_some]
      split <;> exact Option.some_ne_none _

/-- **The external routes use the path they are costed on** exactly when for each of their ASBRs
the nearest vertex serves. -/
theorem externalRoutes_costed (hreach : ReachedByHops s trees) (intraRoutes interRoutes : List OspfRoute) :
    (∀ r body route, ForeignExternal s r body →
      externalRoute s trees (allAsbrCosts s trees) (intraRoutes ++ interRoutes) r = some route →
      CostedPath s trees (s.heap.obj r).header.advertisingRouter (route.asbrCost body) route.nexthops) ↔
    ∀ r body, ForeignExternal s r body → AsbrReachable s trees (s.heap.obj r).header.advertisingRouter →
      NearestServes s trees (s.heap.obj r).header.advertisingRouter := by
  constructor
  · intro h r body hr hreachable
    obtain ⟨route, hroute⟩ := (hr.exists_route_iff (intraRoutes ++ interRoutes)).2 hreachable
    exact (asbrPath_costed (hr.route hroute) hreach hr.foreign).1 (h r body route hr hroute)
  · intro h r body route hr hroute
    have hreachable := (hr.exists_route_iff _).1 ⟨route, hroute⟩
    exact (asbrPath_costed (hr.route hroute) hreach hr.foreign).2 (h r body hr hreachable)

/-! ### An ASBR in another area -/

/-- Router 2 advertises the ASBR 3. -/
def asbrSummaryLsa : Lsa :=
  { header := ⟨0, optE, lsaTypeAsbrSummary, 3, 2, initialSeqNum, 0, 28⟩
    body := some (.summary { networkMask := 0, metric := 5 }) }

/-- An AS-external-LSA of a router. -/
def asExternalLsa (asbrId : IPv4Address) : Lsa :=
  { header := ⟨0, optE, lsaTypeExternal, 167772160, asbrId, initialSeqNum, 0, 36⟩
    body := some (.external { networkMask := 4278190080, eBit := true, metric := 20,
                              forwardingAddress := 0, externalRouteTag := 0 }) }

/-- Router 1 with a summary from router 2, and an AS-external-LSA. -/
def externalRouter (asbrId : IPv4Address) : Instance :=
  { linkRouter .none with
    heap := { obj := fun r => if r = 0 then asbrSummaryLsa else asExternalLsa asbrId, next := 2 }
    lsdb :=
      { routerId := 1
        areas := Dict.empty.set backboneArea (Dict.empty.set asbrSummaryLsa.key 0)
        external := Dict.empty.set (asExternalLsa asbrId).key 1 } }

/-- Router 2. -/
def borderVertex : SpfVertex :=
  { vertexId := 2, vertexType := .router, lsa := 0, distance := 10, nexthops := [⟨0, 167772162, 1⟩] }

/-- Router 2 is in the tree. -/
def borderTree : SpfTrees := Dict.empty.set backboneArea (Dict.empty.set 2 borderVertex)

theorem reachedByHops_borderTree (asbrId : IPv4Address) : ReachedByHops (externalRouter asbrId) borderTree := by
  intro id _ v hv _
  obtain ⟨tree, htree, hget⟩ := List.mem_filterMap.1 hv
  obtain rfl := List.mem_singleton.1 htree
  rw [Dict.get?_set] at hget
  split at hget
  · cases hget
    exact List.cons_ne_nil _ _
  · cases hget

theorem foreignExternal_externalRouter {asbrId : IPv4Address} (h : asbrId ≠ 1) :
    ForeignExternal (externalRouter asbrId) 1
      { networkMask := 4278190080, eBit := true, metric := 20, forwardingAddress := 0, externalRouteTag := 0 } where
  stored := List.mem_singleton.2 rfl
  young := rfl
  body_eq := rfl
  foreign := h
  direct := rfl

/-- The route over an ASBR that only a summary leads to has no next hops. -/
theorem not_externalRoutes_costed : ¬∀ s trees intraRoutes interRoutes, ReachedByHops s trees →
    ∀ r body route, ForeignExternal s r body →
      externalRoute s trees (allAsbrCosts s trees) (intraRoutes ++ interRoutes) r = some route →
      CostedPath s trees (s.heap.obj r).header.advertisingRouter (route.asbrCost body) route.nexthops := by
  intro h
  have hforeign := @foreignExternal_externalRouter 3 (by decide)
  obtain ⟨hne, -⟩ := h (externalRouter 3) borderTree [] [] (reachedByHops_borderTree 3) 1 _
    { destination := ⟨167772160, 8⟩, pathType := .type2External, cost := 15, type2Cost := 20,
      advertisingRouter := 3 } hforeign (by decide +kernel)
  exact hne rfl

/-- The route over router 2 itself. -/
theorem externalRoutes_costed_borderTree :
    externalRoute (externalRouter 2) borderTree (allAsbrCosts (externalRouter 2) borderTree) [] 1 =
      some { destination := ⟨167772160, 8⟩, pathType := .type2External, cost := 10, type2Cost := 20,
             advertisingRouter := 2, nexthops := borderVertex.nexthops } ∧
    CostedPath (externalRouter 2) borderTree 2 10 borderVertex.nexthops := by
  have hroute : externalRoute (externalRouter 2) borderTree (allAsbrCosts (externalRouter 2) borderTree) [] 1 =
      some { destination := ⟨167772160, 8⟩, pathType := .type2External, cost := 10, type2Cost := 20,
             advertisingRouter := 2, nexthops := borderVertex.nexthops } := by decide +kernel
  refine ⟨hroute, (externalRoutes_costed (reachedByHops_borderTree 2) [] []).2 ?_ 1 _ _
    (foreignExternal_externalRouter (by decide)) hroute⟩
  intro r body hr _
  obtain rfl := List.mem_singleton.1 hr.stored
  refine ⟨borderVertex, rfl, Or.inl ⟨rfl, ?_⟩⟩
  rintro cost abr ⟨areaId, tree, r, body, htree, hr, hsum, hid, -⟩
  have harea : backboneArea = areaId := by
    by_contra hne
    rw [borderTree, Dict.get?_set_of_ne _ hne] at htree
    cases htree
  subst harea
  obtain rfl := List.mem_singleton.1 hr
  exact absurd hid (by decide)

end Ospfd
