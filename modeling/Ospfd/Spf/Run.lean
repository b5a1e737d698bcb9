import Ospfd.Spf.Forwarding
import Ospfd.Spf.Kernel
import Ospfd.Sr.Areas

/-!
# A run of SPF

What `_run_spf` makes of the databases of the areas.

* `spfTrees` — the trees of all areas; `spfTrees_ends` — there are such trees.
* `intraRoutes`, `interRoutes`, `externalRoutes` — the routes that come of them.
* `RouteTables.run` — the tables after a run, which is a round of them.
* `IntraOffer`, `InterOffer` — at what cost a network is to be had inside the areas, and between them.
* `runSpf_selects` — **the table has the cheapest offers, those inside an area first**.
-/

namespace Ospfd

variable {s : Instance} {trees : SpfTrees} {areaId : IPv4Address} {tree : Dict IPv4Address SpfVertex}

/-! ## The trees -/

/-- `_run_spf`: a tree for each area. -/
def spfTrees (s : Instance) (fuel : Nat) : Option SpfTrees :=
  s.areas.keys.foldlM (fun trees areaId => (calculate s areaId fuel).map (trees.set areaId)) Dict.empty

/-- The trees stand in the order of the areas. -/
theorem foldlM_trees {fuel : Nat} {f : IPv4Address → Dict IPv4Address SpfVertex} {areaIds : List IPv4Address}
    {trees : SpfTrees} (h : ∀ a ∈ areaIds, calculate s a fuel = some (f a))
    (hnodup : (trees.keys ++ areaIds).Nodup) :
    ∃ trees', areaIds.foldlM (fun trees areaId => (calculate s areaId fuel).map (trees.set areaId)) trees =
      some trees' ∧ trees'.entries = trees.entries ++ areaIds.map fun a => (a, f a) := by
  induction areaIds generalizing trees with
  | nil => exact ⟨trees, rfl, (List.append_nil _).symm⟩
  | cons a areaIds ih =>
    have hnew : trees.get? a = none := by
      by_contra hsome
      have hkey := Dict.mem_keys_iff.2 (Option.isSome_iff_ne_none.2 hsome)
      exact (List.nodup_append'.1 hnodup).2.2 hkey (List.mem_cons_self ..)
    have hentries := Dict.entries_set_of_none hnew (f a)
    obtain ⟨trees', hrun, htrees'⟩ := ih (fun b hb => h b (List.mem_cons_of_mem _ hb)) (by
      rwa [Dict.keys, hentries, List.map_append, List.append_assoc])
    refine ⟨trees', ?_, ?_⟩
    · rw [List.foldlM_cons, h a (List.mem_cons_self ..)]
      exact hrun
    · rw [htrees', hentries, List.append_assoc]
      rfl

theorem RunTrees.of_entries {f : IPv4Address → Dict IPv4Address SpfVertex}
    (h : trees.entries = s.areas.keys.map fun a => (a, f a))
    (hrun : ∀ a ∈ s.areas.keys, ∃ fuel, calculate s a fuel = some (f a)) : RunTrees s trees where
  keys := by
    rw [Dict.keys, h, List.map_map]
    exact List.map_id _
  tree a tree htree := by
    have hmem := Dict.mem_entries_iff.2 htree
    rw [h] at hmem
    obtain ⟨b, hb, heq⟩ := List.mem_map.1 hmem
    obtain ⟨rfl, rfl⟩ := Prod.ext_iff.1 heq
    exact hrun b hb

/-- **What is computed are the trees of the areas.** -/
theorem spfTrees_runs {fuel : Nat} (h : spfTrees s fuel = some trees) : RunTrees s trees := by
  have hall : ∀ (areaIds : List IPv4Address) (d : SpfTrees),
      areaIds.foldlM (fun trees areaId => (calculate s areaId fuel).map (trees.set areaId)) d = some trees →
        ∀ a ∈ areaIds, calculate s a fuel = some ((calculate s a fuel).getD Dict.empty) := by
    intro areaIds
    induction areaIds with
    | nil =>
      intro d _ a ha
      cases ha
    | cons b areaIds ih =>
      intro d hd a ha
      rw [List.foldlM_cons] at hd
      obtain ⟨d', hd', hrest⟩ := Option.bind_eq_some_iff.1 hd
      obtain ⟨tree, htree, -⟩ := Option.map_eq_some_iff.1 hd'
      rcases List.mem_cons.1 ha with rfl | ha
      · rw [htree, Option.getD_some]
      · exact ih d' hrest a ha
  have hruns := hall _ _ h
  obtain ⟨trees', hrun, hentries⟩ := foldlM_trees hruns (show ((Dict.empty : SpfTrees).keys ++ s.areas.keys).Nodup from s.areas.nodup)
  obtain rfl : trees' = trees := Option.some.inj (hrun.symm.trans h)
  exact .of_entries hentries fun a ha => ⟨fuel, hruns a ha⟩

/-- **All trees are computed**, each on its own. -/
theorem spfTrees_ends (s : Instance) : ∃ trees turns, ∀ fuel, turns < fuel → spfTrees s fuel = some trees := by
  choose f turns hrun using calculate_ends s
  have hall : ∀ fuel, (s.areas.keys.map turns).sum < fuel →
      ∃ trees, spfTrees s fuel = some trees ∧ trees.entries = s.areas.keys.map fun a => (a, f a) := by
    intro fuel hfuel
    refine foldlM_trees (fun a ha => hrun a fuel (lt_of_le_of_lt ?_ hfuel)) ?_
    · exact List.le_sum_of_mem (List.mem_map_of_mem ha)
    · exact s.areas.nodup
  obtain ⟨trees, -, htrees⟩ := hall _ (Nat.lt_succ_self _)
  refine ⟨trees, (s.areas.keys.map turns).sum, fun fuel hfuel => ?_⟩
  obtain ⟨trees', hrun', htrees'⟩ := hall fuel hfuel
  have heq : trees' = trees := by
    cases trees'
    cases trees
    simp only [Dict.mk.injEq]
    exact htrees'.trans htrees.symm
  rw [hrun', heq]

namespace RunTrees

variable (h : RunTrees s trees)
include h

theorem exists_tree (ha : areaId ∈ s.areas.keys) : ∃ tree, trees.get? areaId = some tree := by
  rw [← h.keys] at ha
  exact Option.isSome_iff_exists.1 (Dict.mem_keys_iff.1 ha)

theorem mem_keys (htree : trees.get? areaId = some tree) : areaId ∈ s.areas.keys := by
  rw [← h.keys]
  exact Dict.mem_keys_iff.2 (Option.isSome_iff_exists.2 ⟨tree, htree⟩)

end RunTrees

/-! ## The routes -/

/-- `_run_spf`: the routes inside all areas. -/
def intraRoutes (s : Instance) (trees : SpfTrees) : List OspfRoute :=
  trees.entries.flatMap fun area => calculateIntraAreaRoutes s area.2 area.1

/-- `_run_spf`: the routes between areas. -/
def interRoutes (s : Instance) (trees : SpfTrees) : List OspfRoute :=
  trees.entries.flatMap fun area =>
    calculateInterAreaRoutes s area.2 area.1 (calculateIntraAreaRoutes s area.2 area.1)

/-- `_run_spf`: the external routes. -/
def externalRoutes (s : Instance) (trees : SpfTrees) : List OspfRoute :=
  calculateExternalRoutes s trees (allAsbrCosts s trees) (intraRoutes s trees) (interRoutes s trees)

/-- `_run_spf`: the routing table, and what is pushed to the kernel. -/
def RouteTables.run (tables : RouteTables) (s : Instance) (trees : SpfTrees) : RouteTables :=
  let (table, delta) := tables.table.update (intraRoutes s trees) (interRoutes s trees) (externalRoutes s trees)
  { table, kernel := syncToKernel tables.kernel delta }

theorem mem_intraRoutes {route : OspfRoute} : route ∈ intraRoutes s trees ↔
    ∃ areaId tree, trees.get? areaId = some tree ∧
      ∃ id v, tree.get? id = some v ∧ route ∈ vertexRoutes s areaId v := by
  rw [intraRoutes, List.mem_flatMap]
  constructor
  · rintro ⟨⟨areaId, tree⟩, hmem, hroute⟩
    obtain ⟨routes, hroutes, hroute⟩ := List.mem_flatten.1 hroute
    obtain ⟨v, hv, rfl⟩ := List.mem_map.1 hroutes
    obtain ⟨id, hid⟩ := Dict.mem_values_iff.1 hv
    exact ⟨areaId, tree, Dict.mem_entries_iff.1 hmem, id, v, hid, hroute⟩
  · rintro ⟨areaId, tree, htree, id, v, hid, hroute⟩
    refine ⟨(areaId, tree), Dict.mem_entries_iff.2 htree, List.mem_flatten.2 ⟨_, List.mem_map.2 ⟨v, ?_, rfl⟩, hroute⟩⟩
    exact Dict.mem_values_iff.2 ⟨id, hid⟩

/-- What the routes of a vertex have in common. -/
theorem vertexRoutes_spec {v : SpfVertex} {route : OspfRoute} (h : route ∈ vertexRoutes s areaId v) :
    route.pathType = .intraArea ∧ route.type2Cost = 0 ∧ route.nexthops = v.nexthops := by
  rw [vertexRoutes] at h
  split at h
  · obtain ⟨link, -, rfl⟩ := List.mem_map.1 h
    exact ⟨rfl, rfl, rfl⟩
  · rw [List.mem_singleton.1 h]
    exact ⟨rfl, rfl, rfl⟩
  · cases h

theorem summaryOf_eq_some_iff {r : LsaRef} {body : SummaryLsa} {abr : SpfVertex} :
    summaryOf s tree r = some (body, abr) ↔ expired s r = false ∧ (s.heap.obj r).body = some (.summary body) ∧
      body.metric < lsInfinity ∧ tree.get? (s.heap.obj r).header.advertisingRouter = some abr := by
  rw [summaryOf]
  cases hage : expired s r with
  | true => simp
  | false =>
    rcases hbody : (s.heap.obj r).body with _ | _ | _ | b | _ | _
    case some.summary =>
      by_cases hmetric : lsInfinity ≤ b.metric
      · simp [hmetric]
        rintro rfl
        omega
      · simp [hmetric]
        constructor
        · rintro ⟨habr, rfl⟩
          exact ⟨rfl, by omega, habr⟩
        · rintro ⟨rfl, -, habr⟩
          exact ⟨habr, rfl⟩
    all_goals simp

theorem summaryRoute_eq_some_iff {intraDests : List IPv4Network} {r : LsaRef} {route : OspfRoute} :
    summaryRoute s tree areaId intraDests r = some route ↔ ∃ body abr, summaryOf s tree r = some (body, abr) ∧
      (s.heap.obj r).header.advertisingRouter ≠ s.lsdb.routerId ∧ route.destination ∉ intraDests ∧
      route = { destination := ipv4Network (s.heap.obj r).header.linkStateId (maskToPrefixLen body.networkMask),
                pathType := .interArea, cost := abr.distance + body.metric, areaId, nexthops := abr.nexthops,
                advertisingRouter := (s.heap.obj r).header.advertisingRouter } := by
  rw [summaryRoute]
  constructor
  · intro h
    split at h
    · cases h
    · rename_i body abr hsum
      dsimp only at h
      split_ifs at h with hself hdest
      cases h
      exact ⟨body, abr, hsum, hself, hdest, rfl⟩
  · rintro ⟨body, abr, hsum, hself, hdest, rfl⟩
    rw [hsum]
    exact (if_neg hself).trans (if_neg hdest)

theorem mem_interRoutes {route : OspfRoute} : route ∈ interRoutes s trees ↔
    ∃ areaId tree, trees.get? areaId = some tree ∧
      ∃ r ∈ s.lsdb.getAllOfType s.heap areaId lsaTypeSummary, summaryRoute s tree areaId
        ((calculateIntraAreaRoutes s tree areaId).map OspfRoute.destination) r = some route := by
  rw [interRoutes, List.mem_flatMap]
  constructor
  · rintro ⟨⟨areaId, tree⟩, hmem, hroute⟩
    exact ⟨areaId, tree, Dict.mem_entries_iff.1 hmem, List.mem_filterMap.1 hroute⟩
  · rintro ⟨areaId, tree, htree, hroute⟩
    exact ⟨(areaId, tree), Dict.mem_entries_iff.2 htree, List.mem_filterMap.2 hroute⟩

theorem pathType_of_mem_externalRoutes {route : OspfRoute} (h : route ∈ externalRoutes s trees) :
    route.pathType = .type1External ∧ route.type2Cost = 0 ∨ route.pathType = .type2External := by
  obtain ⟨r, -, hroute⟩ := List.mem_filterMap.1 h
  rw [externalRoute] at hroute
  split_ifs at hroute
  split at hroute
  · obtain ⟨path, -, rfl⟩ := Option.map_eq_some_iff.1 hroute
    rw [externalRouteVia]
    split_ifs
    · exact Or.inr rfl
    · exact Or.inl ⟨rfl, rfl⟩
  · cases hroute

/-- All routes of a run. -/
def spfRoutes (s : Instance) (trees : SpfTrees) : List OspfRoute :=
  intraRoutes s trees ++ interRoutes s trees ++ externalRoutes s trees

theorem mem_spfRoutes {route : OspfRoute} : route ∈ spfRoutes s trees ↔
    route ∈ intraRoutes s trees ∨ route ∈ interRoutes s trees ∨ route ∈ externalRoutes s trees := by
  rw [spfRoutes, List.mem_append, List.mem_append, or_assoc]

theorem pathType_of_mem_intraRoutes {route : OspfRoute} (h : route ∈ intraRoutes s trees) :
    route.pathType = .intraArea := by
  obtain ⟨_, _, -, _, _, -, hroute⟩ := mem_intraRoutes.1 h
  exact (vertexRoutes_spec hroute).1

theorem pathType_of_mem_interRoutes {route : OspfRoute} (h : route ∈ interRoutes s trees) :
    route.pathType = .interArea := by
  obtain ⟨_, _, -, r, -, hroute⟩ := mem_interRoutes.1 h
  obtain ⟨_, _, -, -, -, rfl⟩ := summaryRoute_eq_some_iff.1 hroute
  rfl

/-! ## Next hops -/

/-- **A next hop of a link** has the index of its interface, and no address or that of a neighbor behind a
point-to-point link. -/
theorem mem_linkNexthops {link : RouterLsaLink} {x : SpfNexthop} (h : x ∈ linkNexthops s link) :
    x.interfaceIndex = (s.intf x.interfaceName).ifIndex ∧ (x.nextHopIp = zeroAddr ∨
      link.type = linkTypeP2P ∧ ∃ n ∈ s.neighborsOf x.interfaceName, (s.nbr n).routerId = link.linkId ∧
        (s.nbr n).ipAddr = x.nextHopIp) := by
  rcases mem_foldl_addNexthop h with hnil | hmem
  · cases hnil
  · obtain ⟨hops, hhops, hmem⟩ := List.mem_flatten.1 hmem
    obtain ⟨i, -, rfl⟩ := List.mem_map.1 hhops
    rw [interfaceNexthops] at hmem
    split at hmem
    case isTrue ht =>
      obtain ⟨n, hn, rfl⟩ := List.mem_map.1 hmem
      obtain ⟨hn, hid⟩ := List.mem_filter.1 hn
      exact ⟨rfl, .inr ⟨ht, n, hn, of_decide_eq_true hid, rfl⟩⟩
    case isFalse =>
      split at hmem
      · obtain rfl := List.mem_singleton.1 hmem
        exact ⟨rfl, .inl rfl⟩
      · cases hmem

/-- The next hops have the indices of their interfaces. -/
def Indexed (s : Instance) (nexthops : List SpfNexthop) : Prop :=
  ∀ h ∈ nexthops, h.interfaceIndex = (s.intf h.interfaceName).ifIndex

theorem Indexed.nil : Indexed s [] := by
  intro h hh
  cases hh

namespace RunTrees

variable (h : RunTrees s trees)
include h

theorem indexed (htree : trees.get? areaId = some tree) {id : IPv4Address} {v : SpfVertex}
    (hv : tree.get? id = some v) : Indexed s v.nexthops := by
  obtain ⟨fuel, hrun⟩ := h.tree areaId tree htree
  by_cases hvalid : ValidRouter s areaId s.routerId
  · obtain ⟨-, rootLsa, -, hgrown⟩ := grown_of_calculate hvalid hrun hv
    rcases hgrown.via with rfl | ⟨-, link, -, hhops⟩
    · exact .nil
    · rw [hhops]
      exact fun x hx => (mem_linkNexthops hx).1
  · rw [calculate_of_not_valid hvalid] at hrun
    obtain rfl := Option.some.inj hrun
    cases hv

theorem indexed_inside {route : OspfRoute} (hroute : route ∈ intraRoutes s trees ++ interRoutes s trees) :
    Indexed s route.nexthops := by
  rcases List.mem_append.1 hroute with hroute | hroute
  · obtain ⟨areaId, tree, htree, id, v, hv, hroute⟩ := mem_intraRoutes.1 hroute
    rw [(vertexRoutes_spec hroute).2.2]
    exact h.indexed htree hv
  · obtain ⟨areaId, tree, htree, r, -, hroute⟩ := mem_interRoutes.1 hroute
    obtain ⟨body, abr, hsum, -, -, rfl⟩ := summaryRoute_eq_some_iff.1 hroute
    exact h.indexed htree (summaryOf_eq_some_iff.1 hsum).2.2.2

theorem indexed_path {asbrCosts : Dict IPv4Address Int} {asbrId : IPv4Address} {path : Int × List SpfNexthop}
    (hpath : asbrPath trees asbrCosts asbrId = some path) : Indexed s path.2 := by
  have hnearest : ∀ p, nearestVertex trees asbrId = some p → Indexed s p.2 := by
    intro p hp
    rw [nearestVertex_eq] at hp
    obtain ⟨v, hv, rfl⟩ := Option.map_eq_some_iff.1 hp
    obtain ⟨tree, htree, hv⟩ := List.mem_filterMap.1 (List.argmin_mem hv)
    obtain ⟨areaId, htree⟩ := Dict.mem_values_iff.1 htree
    exact h.indexed htree hv
  rw [asbrPath] at hpath
  generalize asbrCosts.get? asbrId = offered at hpath
  rcases hbest : nearestVertex trees asbrId with _ | ⟨cost, nexthops⟩
  · rw [hbest] at hpath
    rcases offered with _ | interCost
    · cases hpath
    · cases hpath
      exact .nil
  · rw [hbest] at hpath
    rcases offered with _ | interCost
    · exact hnearest path (hbest.trans hpath)
    · dsimp only at hpath
      split_ifs at hpath <;> cases hpath <;> exact hnearest (cost, nexthops) hbest

theorem indexed_external {route : OspfRoute} (hroute : route ∈ externalRoutes s trees) :
    Indexed s route.nexthops := by
  obtain ⟨r, -, hroute⟩ := List.mem_filterMap.1 hroute
  rw [externalRoute] at hroute
  split_ifs at hroute
  split at hroute
  · obtain ⟨path, hpath, rfl⟩ := Option.map_eq_some_iff.1 hroute
    have hhops : ∀ (lsa : Lsa) (body : ExternalLsa) (p : Int × List SpfNexthop),
        (externalRouteVia lsa body p).nexthops = p.2 := by
      intro lsa body p
      rw [externalRouteVia]
      split_ifs <;> rfl
    rw [hhops, forwardingPath]
    split
    · exact h.indexed_path hpath
    · split
      · exact h.indexed_path hpath
      · rename_i found hfound
        rw [findRouteTo_eq] at hfound
        exact h.indexed_inside (List.mem_filter.1 (List.argmax_mem hfound)).1
  · cases hroute

/-- **What a run computes is a result that the kernel can be asked for.** -/
def spfResult : SpfResult where
  intraRoutes := intraRoutes s trees
  interRoutes := interRoutes s trees
  externalRoutes := externalRoutes s trees
  ifIndex i := (s.intf i).ifIndex
  indexed := by
    intro route hroute
    rcases List.mem_append.1 hroute with hroute | hroute
    · exact h.indexed_inside hroute
    · exact h.indexed_external hroute
  typed := by
    intro route hroute hne
    rcases mem_spfRoutes.1 hroute with hroute | hroute | hroute
    · obtain ⟨_, _, -, _, _, -, hroute⟩ := mem_intraRoutes.1 hroute
      exact (vertexRoutes_spec hroute).2.1
    · obtain ⟨_, _, -, _, -, hroute⟩ := mem_interRoutes.1 hroute
      obtain ⟨_, _, -, -, -, rfl⟩ := summaryRoute_eq_some_iff.1 hroute
      rfl
    · exact ((pathType_of_mem_externalRoutes hroute).resolve_right hne).2

/-- A run is a round of the tables. -/
theorem run_eq (tables : RouteTables) : tables.run s trees = tables.round h.spfResult := rfl

end RunTrees

/-! ## What is offered -/

/-- What is assumed of the areas: no metric is negative, and no router and network that are reached share
an ID. -/
structure SoundAreas (s : Instance) : Prop where
  metrics : ∀ areaId ∈ s.areas.keys, ∀ u link, HasLink s areaId u link → 0 ≤ link.metric
  ids : ∀ areaId ∈ s.areas.keys, DistinctIds s areaId

/-- A node at the least cost of its paths, for a router that has a valid Router-LSA of its own. -/
def Seen (s : Instance) (areaId : IPv4Address) (u : SpfNode) (d : Int) : Prop :=
  ValidRouter s areaId s.routerId ∧ LeastDistance s areaId u d

/-- A network inside an area, at the cost of a shortest path to a node that has it. -/
def IntraOffer (s : Instance) (dest : IPv4Network) (cost : Int) : Prop :=
  ∃ areaId ∈ s.areas.keys, ∃ u d, Seen s areaId u d ∧ (dest, cost) ∈ nodeRoutes s areaId u d

/-- A Summary-LSA of another router that can be used: its network and metric. -/
def Summarizes (s : Instance) (r : LsaRef) (dest : IPv4Network) (metric : Nat) : Prop :=
  expired s r = false ∧ (s.heap.obj r).header.advertisingRouter ≠ s.lsdb.routerId ∧ metric < lsInfinity ∧
    ∃ body, (s.heap.obj r).body = some (.summary body) ∧ metric = body.metric ∧
      dest = ipv4Network (s.heap.obj r).header.linkStateId (maskToPrefixLen body.networkMask)

/-- A network of another area, at the cost of a shortest path to a node that summarizes it. -/
def InterOffer (s : Instance) (dest : IPv4Network) (cost : Int) : Prop :=
  ∃ areaId ∈ s.areas.keys, ∃ r ∈ s.lsdb.getAllOfType s.heap areaId lsaTypeSummary, ∃ u d metric,
    Seen s areaId u d ∧ u.id = (s.heap.obj r).header.advertisingRouter ∧ Summarizes s r dest metric ∧
      cost = d + (metric : Nat)

theorem LeastDistance.unique {u : SpfNode} {d d' : Int} (h : LeastDistance s areaId u d)
    (h' : LeastDistance s areaId u d') : d = d' :=
  le_antisymm (h.2 d' h'.1) (h'.2 d h.1)

section Offers

variable (hs : SoundAreas s) (h : RunTrees s trees)
include hs h

/-- **What is seen are the vertices of the tree.** -/
theorem SoundAreas.vertices (htree : trees.get? areaId = some tree) :
    (∀ id v, tree.get? id = some v → v.vertexId = id ∧ v.Good s areaId ∧ Seen s areaId v.node v.distance) ∧
      ∀ u d, Seen s areaId u d → ∃ v, tree.get? u.id = some v ∧ v.node = u ∧ v.distance = d := by
  obtain ⟨fuel, hrun⟩ := h.tree areaId tree htree
  by_cases hvalid : ValidRouter s areaId s.routerId
  · have hspf := (hs.ids areaId (h.mem_keys htree)).spfTree hvalid (hs.metrics areaId (h.mem_keys htree)) hrun
    have hgood : ∀ id v, tree.get? id = some v → v.Good s areaId := by
      intro id v hv
      obtain ⟨-, rootLsa, hroot, hgrown⟩ := grown_of_calculate hvalid hrun hv
      exact hgrown.good hroot
    refine ⟨fun id v hv => ⟨hspf.vertexId id v hv, hgood id v hv, hvalid, hspf.least id v hv⟩, ?_⟩
    rintro u d ⟨-, hleast⟩
    obtain ⟨v, hv, hnode, hd⟩ := (hspf.distinguishes hgood).vertex u ⟨d, hleast.1⟩
    exact ⟨v, hv, hnode, hd.unique hleast⟩
  · rw [calculate_of_not_valid hvalid] at hrun
    obtain rfl := Option.some.inj hrun
    refine ⟨fun id v hv => ?_, fun u d hseen => absurd hseen.1 hvalid⟩
    cases hv

/-- The routes of a vertex are offered, and its next hops begin a shortest path to it. -/
theorem SoundAreas.vertexRoutes (htree : trees.get? areaId = some tree) {id : IPv4Address} {v : SpfVertex}
    (hv : tree.get? id = some v) {route : OspfRoute} (hroute : route ∈ vertexRoutes s areaId v) :
    (route.destination, route.cost) ∈ nodeRoutes s areaId v.node v.distance ∧
      ∀ x ∈ route.nexthops, ∃ link, BeginsShortest s areaId link v.node ∧ x ∈ linkNexthops s link := by
  obtain ⟨-, hgood, hvalid, -⟩ := (hs.vertices h htree).1 id v hv
  refine ⟨?_, fun x hx => ?_⟩
  · rw [← vertexRoutes_of_good hgood]
    exact List.mem_map_of_mem hroute
  · obtain ⟨fuel, hrun⟩ := h.tree areaId tree htree
    rw [(vertexRoutes_spec hroute).2.2] at hx
    rcases nexthops_of_calculate (hs.metrics areaId (h.mem_keys htree)) hvalid (hs.ids areaId (h.mem_keys htree)) hrun hv with
      ⟨-, hnil⟩ | ⟨link, hlink, hhops⟩
    · rw [hnil] at hx
      cases hx
    · rw [hhops] at hx
      exact ⟨link, hlink, hx⟩

theorem SoundAreas.intraOffer_iff {dest : IPv4Network} {cost : Int} :
    IntraOffer s dest cost ↔ ∃ route ∈ intraRoutes s trees, route.destination = dest ∧ route.cost = cost := by
  constructor
  · rintro ⟨areaId, ha, u, d, hseen, hmem⟩
    obtain ⟨tree, htree⟩ := h.exists_tree ha
    obtain ⟨hvertex, hofSeen⟩ := hs.vertices h htree
    obtain ⟨v, hv, rfl, rfl⟩ := hofSeen u d hseen
    rw [← vertexRoutes_of_good (hvertex _ v hv).2.1] at hmem
    obtain ⟨route, hroute, heq⟩ := List.mem_map.1 hmem
    obtain ⟨rfl, rfl⟩ := Prod.ext_iff.1 heq
    exact ⟨route, mem_intraRoutes.2 ⟨areaId, tree, htree, _, v, hv, hroute⟩, rfl, rfl⟩
  · rintro ⟨route, hroute, rfl, rfl⟩
    obtain ⟨areaId, tree, htree, id, v, hv, hroute⟩ := mem_intraRoutes.1 hroute
    exact ⟨areaId, h.mem_keys htree, v.node, v.distance, ((hs.vertices h htree).1 id v hv).2.2,
      (hs.vertexRoutes h htree hv hroute).1⟩

/-- A route between areas is one that is offered, and to nothing inside its own area. -/
theorem SoundAreas.interOffer_of_mem {route : OspfRoute} (hroute : route ∈ interRoutes s trees) :
    InterOffer s route.destination route.cost := by
  obtain ⟨areaId, tree, htree, r, hr, hroute⟩ := mem_interRoutes.1 hroute
  obtain ⟨body, abr, hsum, hself, -, rfl⟩ := summaryRoute_eq_some_iff.1 hroute
  obtain ⟨hage, hbody, hmetric, habr⟩ := summaryOf_eq_some_iff.1 hsum
  obtain ⟨hid, -, hseen⟩ := (hs.vertices h htree).1 _ abr habr
  exact ⟨areaId, h.mem_keys htree, r, hr, abr.node, abr.distance, body.metric, hseen, hid,
    ⟨hage, hself, hmetric, body, hbody, rfl, rfl⟩, rfl⟩

/-- What is offered between areas is a route, unless it is offered inside one. -/
theorem SoundAreas.mem_of_interOffer {dest : IPv4Network} {cost : Int} (hoffer : InterOffer s dest cost)
    (hintra : ∀ c, ¬IntraOffer s dest c) :
    ∃ route ∈ interRoutes s trees, route.destination = dest ∧ route.cost = cost := by
  obtain ⟨areaId, ha, r, hr, u, d, metric, hseen, hid, ⟨hage, hself, hmetric, body, hbody, rfl, rfl⟩, rfl⟩ := hoffer
  obtain ⟨tree, htree⟩ := h.exists_tree ha
  obtain ⟨abr, habr, rfl, rfl⟩ := (hs.vertices h htree).2 u d hseen
  rw [hid] at habr
  refine ⟨_, mem_interRoutes.2 ⟨areaId, tree, htree, r, hr, summaryRoute_eq_some_iff.2 ⟨body, abr,
    summaryOf_eq_some_iff.2 ⟨hage, hbody, hmetric, habr⟩, hself, ?_, rfl⟩⟩, rfl, rfl⟩
  -- a route of the area would be an offer inside it
  intro hdest
  obtain ⟨route, hroute, heq⟩ := List.mem_map.1 hdest
  refine hintra route.cost ((hs.intraOffer_iff h).2 ⟨route, ?_, heq, rfl⟩)
  exact List.mem_flatMap.2 ⟨(areaId, tree), Dict.mem_entries_iff.2 htree, hroute⟩

end Offers

/-! ## What is selected -/

/-- A route that ranks no lower than one of a kind at least as good. -/
theorem OspfRoute.cost_le_of_rank {a b : OspfRoute} (h : a.rank ≤ b.rank) (hb : b.pathType ≠ .type2External)
    (hkind : b.pathType.num ≤ a.pathType.num) : a.pathType = b.pathType ∧ a.cost ≤ b.cost := by
  have hbetter : b.isBetterThan a = false := by
    rw [Bool.eq_false_iff, Ne, OspfRoute.isBetterThan_iff]
    exact not_lt.2 h
  rw [isBetterThan] at hbetter
  split_ifs at hbetter with hne
  · -- kinds of the same number are the same
    refine absurd (PathType.num_inj.1 (le_antisymm hkind ?_)) hne
    simpa using hbetter
  · exact ⟨(not_not.1 hne).symm, by simpa using hbetter⟩

/-- **The route that is kept**, where none is of a better kind: the cheapest of its kind. -/
theorem newRoutes_kept {routes : List OspfRoute} {dest : IPv4Network} {kind : PathType}
    (hkind : kind ≠ .type2External) (hex : ∃ x ∈ routes, x.destination = dest ∧ x.pathType = kind)
    (hmin : ∀ x ∈ routes, x.destination = dest → kind.num ≤ x.pathType.num) :
    ∃ route, (newRoutes routes).get? dest = some route ∧ route.pathType = kind ∧
      IsLeast {c | ∃ x ∈ routes, x.destination = dest ∧ x.pathType = kind ∧ x.cost = c} route.cost := by
  obtain ⟨y, hy, hdest, hyk⟩ := hex
  obtain ⟨route, hroute⟩ := Option.isSome_iff_exists.1 (contains_newRoutes_iff.2 (List.mem_map.2 ⟨y, hy, hdest⟩))
  have hbest := (bestRoute_of_get? hroute).best
  obtain ⟨x, hx, hrank⟩ := hbest.attained
  obtain ⟨hx, hxdest⟩ := mem_routesTo.1 hx
  have htype := OspfRoute.pathType_eq_of_rank hrank
  have hcheaper : ∀ z ∈ routes, z.destination = dest → z.pathType = kind →
      route.pathType = z.pathType ∧ route.cost ≤ z.cost := by
    intro z hz hzdest hzk
    refine OspfRoute.cost_le_of_rank (hbest.least z (mem_routesTo.2 ⟨hz, hzdest⟩)) (hzk ▸ hkind) ?_
    rw [hzk, ← htype]
    exact hmin x hx hxdest
  have hroutek : route.pathType = kind := (hcheaper y hy hdest hyk).1.trans hyk
  refine ⟨route, hroute, hroutek, ⟨x, hx, hxdest, htype.trans hroutek, ?_⟩, ?_⟩
  · refine le_antisymm ?_ (hcheaper x hx hxdest (htype.trans hroutek)).2
    exact (OspfRoute.cost_le_of_rank hrank.le (hroutek ▸ hkind) (by rw [htype])).2
  · rintro c ⟨z, hz, hzdest, hzk, rfl⟩
    exact (hcheaper z hz hzdest hzk).2

/-- **What a routing table should hold**: the cheapest offer inside an area, or else between areas, or else
an external route; and inside an area the next hops of shortest paths. -/
structure Selected (s : Instance) (routes : Dict IPv4Network OspfRoute) : Prop where
  intra : ∀ dest cost, IntraOffer s dest cost → ∃ route, routes.get? dest = some route ∧
    route.pathType = .intraArea ∧ IsLeast {c | IntraOffer s dest c} route.cost
  inter : ∀ dest cost, (∀ c, ¬IntraOffer s dest c) → InterOffer s dest cost → ∃ route,
    routes.get? dest = some route ∧ route.pathType = .interArea ∧ IsLeast {c | InterOffer s dest c} route.cost
  external : ∀ dest route, (∀ c, ¬IntraOffer s dest c) → (∀ c, ¬InterOffer s dest c) →
    routes.get? dest = some route → route.pathType = .type1External ∨ route.pathType = .type2External
  hops : ∀ dest route, routes.get? dest = some route → route.pathType = .intraArea → ∀ k ∈ route.hops,
    ∃ areaId ∈ s.areas.keys, ∃ u d link x, Seen s areaId u d ∧ (dest, route.cost) ∈ nodeRoutes s areaId u d ∧
      BeginsShortest s areaId link u ∧ x ∈ linkNexthops s link ∧ (x.interfaceName, x.nextHopIp) = k

/-- A route of a run is of the kind of the list it is in. -/
theorem mem_intraRoutes_of_pathType {route : OspfRoute} (h : route ∈ spfRoutes s trees)
    (hkind : route.pathType = .intraArea) : route ∈ intraRoutes s trees := by
  rcases mem_spfRoutes.1 h with h | h | h
  · exact h
  · rw [pathType_of_mem_interRoutes h] at hkind
    cases hkind
  · rcases pathType_of_mem_externalRoutes h with ⟨hext, -⟩ | hext <;> rw [hext] at hkind <;> cases hkind

theorem mem_interRoutes_of_pathType {route : OspfRoute} (h : route ∈ spfRoutes s trees)
    (hkind : route.pathType = .interArea) : route ∈ interRoutes s trees := by
  rcases mem_spfRoutes.1 h with h | h | h
  · rw [pathType_of_mem_intraRoutes h] at hkind
    cases hkind
  · exact h
  · rcases pathType_of_mem_externalRoutes h with ⟨hext, -⟩ | hext <;> rw [hext] at hkind <;> cases hkind

/-- **The routes of a run are selected as they should be.** -/
theorem SoundAreas.selected (hs : SoundAreas s) (h : RunTrees s trees) :
    Selected s (newRoutes (spfRoutes s trees)) := by
  refine ⟨fun dest cost hoffer => ?_, fun dest cost hintra hoffer => ?_, fun dest route hintra hinter hroute => ?_,
    fun dest route hroute hkind k hk => ?_⟩
  · obtain ⟨x, hx, hdest, -⟩ := (hs.intraOffer_iff h).1 hoffer
    obtain ⟨route, hroute, hkind, hleast⟩ := newRoutes_kept (show PathType.intraArea ≠ .type2External by decide)
      ⟨x, mem_spfRoutes.2 (.inl hx), hdest, pathType_of_mem_intraRoutes hx⟩
      fun y _ _ => by cases y.pathType <;> decide
    have hset : {c | IntraOffer s dest c} =
        {c | ∃ x ∈ spfRoutes s trees, x.destination = dest ∧ x.pathType = .intraArea ∧ x.cost = c} := by
      ext c
      constructor
      · intro hc
        obtain ⟨x, hx, hdest, hc⟩ := (hs.intraOffer_iff h).1 hc
        exact ⟨x, mem_spfRoutes.2 (.inl hx), hdest, pathType_of_mem_intraRoutes hx, hc⟩
      · rintro ⟨x, hx, hdest, hkind, hc⟩
        exact (hs.intraOffer_iff h).2 ⟨x, mem_intraRoutes_of_pathType hx hkind, hdest, hc⟩
    exact ⟨route, hroute, hkind, hset ▸ hleast⟩
  · have hnone : ∀ x ∈ intraRoutes s trees, x.destination ≠ dest :=
      fun x hx hdest => hintra x.cost ((hs.intraOffer_iff h).2 ⟨x, hx, hdest, rfl⟩)
    obtain ⟨x, hx, hdest, -⟩ := hs.mem_of_interOffer h hoffer hintra
    obtain ⟨route, hroute, hkind, hleast⟩ := newRoutes_kept (show PathType.interArea ≠ .type2External by decide)
      ⟨x, mem_spfRoutes.2 (.inr (.inl hx)), hdest, pathType_of_mem_interRoutes hx⟩ (by
        intro y hy hydest
        rcases mem_spfRoutes.1 hy with hy | hy | hy
        · exact absurd hydest (hnone y hy)
        · rw [pathType_of_mem_interRoutes hy]
        · rcases pathType_of_mem_externalRoutes hy with ⟨hext, -⟩ | hext <;> rw [hext] <;> decide)
    have hset : {c | InterOffer s dest c} =
        {c | ∃ x ∈ spfRoutes s trees, x.destination = dest ∧ x.pathType = .interArea ∧ x.cost = c} := by
      ext c
      constructor
      · intro hc
        obtain ⟨x, hx, hdest, hcost⟩ := hs.mem_of_interOffer h hc hintra
        exact ⟨x, mem_spfRoutes.2 (.inr (.inl hx)), hdest, pathType_of_mem_interRoutes hx, hcost⟩
      · rintro ⟨x, hx, rfl, hkind, rfl⟩
        exact hs.interOffer_of_mem h (mem_interRoutes_of_pathType hx hkind)
    exact ⟨route, hroute, hkind, hset ▸ hleast⟩
  · obtain ⟨x, hx, hrank⟩ := (bestRoute_of_get? hroute).best.attained
    obtain ⟨hx, hdest⟩ := mem_routesTo.1 hx
    rw [← OspfRoute.pathType_eq_of_rank hrank]
    rcases mem_spfRoutes.1 hx with hx | hx | hx
    · exact absurd ((hs.intraOffer_iff h).2 ⟨x, hx, hdest, rfl⟩) (hintra _)
    · exact absurd (hdest ▸ hs.interOffer_of_mem h hx) (hinter _)
    · exact (pathType_of_mem_externalRoutes hx).imp_left And.left
  · -- a next hop is one of a route of the same cost
    obtain ⟨x, hx, hrank, hxk⟩ := ((bestRoute_of_get? hroute).best.carries k).1 hk
    obtain ⟨hmem, rfl⟩ := mem_routesTo.1 hx
    have htype := OspfRoute.pathType_eq_of_rank hrank
    have hcost : x.cost = route.cost := by
      have hne : x.pathType ≠ .type2External := by rw [htype, hkind]; decide
      exact le_antisymm (OspfRoute.cost_le_of_rank hrank.le (htype ▸ hne) (by rw [htype])).2
        (OspfRoute.cost_le_of_rank hrank.ge hne (by rw [htype])).2
    obtain ⟨areaId, tree, htree, id, v, hv, hvroute⟩ :=
      mem_intraRoutes.1 (mem_intraRoutes_of_pathType hmem (htype.trans hkind))
    obtain ⟨hnode, hhops⟩ := hs.vertexRoutes h htree hv hvroute
    obtain ⟨y, hy, hyk⟩ := mem_hopSet.1 hxk
    obtain ⟨link, hlink, hhop⟩ := hhops y hy
    exact ⟨areaId, h.mem_keys htree, v.node, v.distance, link, y, ((hs.vertices h htree).1 id v hv).2.2,
      hcost ▸ hnode, hlink, hhop, hyk⟩

/-- **A run of SPF ends, with the routes that its databases offer.** -/
theorem runSpf_selects (hs : SoundAreas s) : ∃ trees turns, (∀ fuel, turns < fuel → spfTrees s fuel = some trees) ∧
    ∀ tables : RouteTables, Selected s (tables.run s trees).table.routes := by
  obtain ⟨trees, turns, hrun⟩ := spfTrees_ends s
  exact ⟨trees, turns, hrun, fun _ => hs.selected (spfTrees_runs (hrun _ (Nat.lt_succ_self turns)))⟩

/-! ### Two routers with a network each -/

/-- A Router-LSA with a point-to-point link of cost 10 and the network 10.0.x.0/24 of the router, of cost 1. -/
def stubRouterLsa (routerId nbrId : IPv4Address) : Lsa :=
  { header := ⟨0, optE, lsaTypeRouter, routerId, routerId, initialSeqNum, 0, 48⟩
    body := some (.router { flags := 0, numLinks := 2, links :=
      [{ linkId := nbrId, linkData := 0, type := linkTypeP2P, numTos := 0, metric := 10 },
       { linkId := 167772160 + 256 * routerId, linkData := 4294967040, type := linkTypeStub, numTos := 0,
         metric := 1 }] }) }

/-- Router 1 or 2, with the other as a full neighbor. -/
def linkedRouter (routerId peer : IPv4Address) : Instance :=
  { adjacentArea with
    routerId
    intf := fun _ => { twoRouterArea.linkless with neighbors := [peer], state := .p2p }
    nbr := fun n => { routerId := n.routerId, ipAddr := 167837696 + n.routerId, state := .full }
    heap := { obj := fun r => if r = 0 then stubRouterLsa 1 2 else stubRouterLsa 2 1, next := 2 }
    lsdb := { routerId, areas := Dict.empty.set backboneArea twoRouterArea.partition } }

theorem metric_linkedRouter {routerId peer areaId u : IPv4Address} {link : RouterLsaLink}
    (h : HasLink (linkedRouter routerId peer) areaId u link) : 0 < link.metric := by
  obtain ⟨r, body, -, hbody, hlink⟩ := h
  have hm : ∀ a b : IPv4Address, (stubRouterLsa a b).body = some (.router body) → 0 < link.metric := by
    intro a b hab
    cases hab
    simp only [List.mem_cons, List.not_mem_nil, or_false] at hlink
    rcases hlink with rfl | rfl
    · exact Int.natCast_pos.2 (by decide : 0 < 10)
    · exact Int.natCast_pos.2 (by decide : 0 < 1)
  change (if r = 0 then stubRouterLsa 1 2 else stubRouterLsa 2 1).body = _ at hbody
  split at hbody
  · exact hm _ _ hbody
  · exact hm _ _ hbody

theorem soundAreas_linkedRouter {routerId peer : IPv4Address} (h : routerId = 1 ∨ routerId = 2) :
    SoundAreas (linkedRouter routerId peer) where
  metrics _ _ _ _ hlink := (metric_linkedRouter hlink).le
  ids := by
    intro areaId ha
    obtain rfl := List.mem_singleton.1 ha
    refine SpfInput.distinct ⟨?_, ?_, fun _ _ hlink => (metric_linkedRouter hlink).le⟩
    · rcases h with rfl | rfl
      · exact ⟨0, rfl, rfl⟩
      · exact ⟨1, rfl, rfl⟩
    · intro r hr
      have hnone : (linkedRouter routerId peer).lsdb.getAllOfType (linkedRouter routerId peer).heap backboneArea
          lsaTypeNetwork = [] := rfl
      rw [hnone] at hr
      cases hr

/-- Router 1 selects what the databases offer. -/
theorem runSpf_selects_linkedRouter : ∃ trees turns,
    (∀ fuel, turns < fuel → spfTrees (linkedRouter 1 2) fuel = some trees) ∧
      ∀ tables : RouteTables, Selected (linkedRouter 1 2) (tables.run (linkedRouter 1 2) trees).table.routes :=
  runSpf_selects (soundAreas_linkedRouter (.inl rfl))

end Ospfd
