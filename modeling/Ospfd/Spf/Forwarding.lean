import Ospfd.Spf.External

/-!
# Forwarding addresses

The route to a forwarding address is looked up in the lists of routes, before the best of them are
selected: the first of the routes to the network with the longest prefix is taken.

* `LongestPrefix` — the network that contains an address, with the longest prefix among several.
* `OspfRoutingTable.LongestMatch` — the entry of a routing table for an address.
* `findRouteTo_eq_some_iff` — the lookup takes the first route to that network.
* `FirstServes` — that route costs as much as the best, and has all their next hops.
* `forwards_iff` — **an LSA is routed by the table exactly if there is a route to the forwarding
  address, and the first one serves**.
-/

namespace Ospfd

/-! ## The longest prefix -/

/-- Of some networks the one that contains an address and has the longest prefix. -/
structure LongestPrefix (dests : Set IPv4Network) (addr : IPv4Address) (dest : IPv4Network) : Prop where
  mem : dest ∈ dests
  contains : dest.contains addr = true
  longest : ∀ other ∈ dests, other.contains addr = true → other.prefixLen ≤ dest.prefixLen

/-- Two networks that contain an address differ in the length of the prefix. -/
theorem IPv4Network.eq_of_contains {a b : IPv4Network} {addr : IPv4Address} (ha : a.contains addr = true)
    (hb : b.contains addr = true) (h : a.prefixLen = b.prefixLen) : a = b := by
  rw [contains, decide_eq_true_eq] at ha hb
  rw [IPv4Network.mk.injEq]
  exact ⟨by rw [← ha, ← hb, h], h⟩

theorem LongestPrefix.unique {dests : Set IPv4Network} {addr : IPv4Address} {a b : IPv4Network}
    (ha : LongestPrefix dests addr a) (hb : LongestPrefix dests addr b) : a = b :=
  IPv4Network.eq_of_contains ha.contains hb.contains
    (le_antisymm (hb.longest a ha.mem ha.contains) (ha.longest b hb.mem hb.contains))

/-- The destinations of some routes. -/
def destinations (routes : List OspfRoute) : Set IPv4Network := {dest | ∃ route ∈ routes, route.destination = dest}

/-! ## In a list of routes -/

section Lookup

variable {routes : List OspfRoute} {addr : IPv4Address}

/-- The first route with the longest prefix, among those that contain the address. -/
theorem findRouteTo_eq (addr : IPv4Address) (routes : List OspfRoute) : findRouteTo addr routes =
    (routes.filter fun route => route.destination.contains addr).argmax fun route =>
      route.destination.prefixLen := by
  rw [findRouteTo]
  induction routes using List.reverseRecOn with
  | nil => rfl
  | append_singleton routes route ih =>
    rw [List.foldl_append, List.foldl_cons, List.foldl_nil, ih, List.filter_append]
    by_cases hcontains : route.destination.contains addr = true
    · rw [if_pos hcontains, List.filter_cons_of_pos (by exact hcontains), List.filter_nil, List.argmax_concat]
      cases List.argmax (fun route : OspfRoute => route.destination.prefixLen)
        (routes.filter fun route => route.destination.contains addr) with
      | none => rfl
      | some best => rfl
    · rw [if_neg hcontains, List.filter_cons_of_neg (by exact hcontains), List.filter_nil, List.append_nil]

theorem findRouteTo_eq_none_iff :
    findRouteTo addr routes = none ↔ ∀ route ∈ routes, ¬route.destination.contains addr = true := by
  rw [findRouteTo_eq, List.argmax_eq_none, List.filter_eq_nil_iff]

/-- What is found has the longest prefix. -/
theorem longestPrefix_of_findRouteTo {first : OspfRoute} (h : findRouteTo addr routes = some first) :
    LongestPrefix (destinations routes) addr first.destination := by
  rw [findRouteTo_eq] at h
  obtain ⟨hmem, hcontains⟩ := List.mem_filter.1 (List.argmax_mem h)
  refine ⟨⟨first, hmem, rfl⟩, hcontains, ?_⟩
  rintro - ⟨route, hroute, rfl⟩ hcontains'
  exact List.le_of_mem_argmax (f := fun route : OspfRoute => route.destination.prefixLen)
    (List.mem_filter.2 ⟨hroute, hcontains'⟩) h

/-- What is found is the first route to its destination. -/
theorem head_routesTo_of_findRouteTo {first : OspfRoute} (h : findRouteTo addr routes = some first) :
    (routesTo routes first.destination).head? = some first := by
  induction routes using List.reverseRecOn generalizing first with
  | nil => cases h
  | append_singleton routes route ih =>
    have hstep : findRouteTo addr (routes ++ [route]) =
        if route.destination.contains addr then
          (findRouteTo addr routes).elim (some route) fun b =>
            if b.destination.prefixLen < route.destination.prefixLen then some route else some b
        else findRouteTo addr routes := by
      rw [findRouteTo, List.foldl_append, List.foldl_cons, List.foldl_nil, ← findRouteTo]
      cases findRouteTo addr routes <;> rfl
    have hfound : ∀ best, findRouteTo addr routes = some best →
        (routesTo (routes ++ [route]) best.destination).head? = some best := by
      intro best hbest
      rw [routesTo, List.filter_append, List.head?_append, ← routesTo, ih hbest]
      rfl
    have hlast : (∀ r ∈ routes, r.destination ≠ route.destination) →
        (routesTo (routes ++ [route]) route.destination).head? = some route := by
      intro hnew
      have hnil : routesTo routes route.destination = [] :=
        List.eq_nil_iff_forall_not_mem.2 fun r hr => hnew r (mem_routesTo.1 hr).1 (mem_routesTo.1 hr).2
      rw [routesTo, List.filter_append, ← routesTo, hnil]
      simp
    rw [hstep] at h
    split at h
    · rename_i hcontains
      cases hbefore : findRouteTo addr routes with
      | none =>
        rw [hbefore] at h
        cases h
        refine hlast fun r hr heq => findRouteTo_eq_none_iff.1 hbefore r hr ?_
        rwa [heq]
      | some best =>
        rw [hbefore, Option.elim_some] at h
        split at h
        · -- a longer prefix than before
          rename_i hlt
          cases h
          refine hlast fun r hr heq => ?_
          have hle := (longestPrefix_of_findRouteTo hbefore).longest r.destination ⟨r, hr, rfl⟩ (by rwa [heq])
          rw [heq] at hle
          exact absurd hlt (not_lt.2 hle)
        · cases h
          exact hfound _ hbefore
    · exact hfound _ h

/-- **The lookup takes the first route to the network with the longest prefix.** -/
theorem findRouteTo_eq_some_iff {first : OspfRoute} : findRouteTo addr routes = some first ↔
    ∃ dest, LongestPrefix (destinations routes) addr dest ∧ (routesTo routes dest).head? = some first := by
  constructor
  · exact fun h => ⟨_, longestPrefix_of_findRouteTo h, head_routesTo_of_findRouteTo h⟩
  · rintro ⟨dest, hdest, hhead⟩
    cases hfind : findRouteTo addr routes with
    | none =>
      obtain ⟨route, hroute, rfl⟩ := hdest.mem
      exact absurd hdest.contains (findRouteTo_eq_none_iff.1 hfind route hroute)
    | some found =>
      obtain rfl := hdest.unique (longestPrefix_of_findRouteTo hfind)
      rw [← head_routesTo_of_findRouteTo hfind, hhead]

end Lookup

/-! ## In a table -/

namespace OspfRoutingTable

/-- The entry for an address. -/
def LongestMatch (table : OspfRoutingTable) (addr : IPv4Address) (entry : OspfRoute) : Prop :=
  table.routes.get? entry.destination = some entry ∧
    LongestPrefix {dest | table.routes.contains dest = true} addr entry.destination

/-- Some entry contains an address. -/
def Covers (table : OspfRoutingTable) (addr : IPv4Address) : Prop :=
  ∃ dest entry, table.routes.get? dest = some entry ∧ dest.contains addr = true

variable {table : OspfRoutingTable} {intraRoutes interRoutes : List OspfRoute} {addr : IPv4Address}

theorem routes_update :
    (table.update intraRoutes interRoutes []).1.routes = newRoutes (intraRoutes ++ interRoutes) := by
  rw [update, List.append_nil]

theorem dests_update : {dest | (table.update intraRoutes interRoutes []).1.routes.contains dest = true} =
    destinations (intraRoutes ++ interRoutes) := by
  ext dest
  rw [Set.mem_ofPred_eq, routes_update, contains_newRoutes_iff, List.mem_map]
  rfl

/-- **The entry for an address** is the best route to the network with the longest prefix. -/
theorem longestMatch_update {entry : OspfRoute} :
    (table.update intraRoutes interRoutes []).1.LongestMatch addr entry ↔
      (newRoutes (intraRoutes ++ interRoutes)).get? entry.destination = some entry ∧
        LongestPrefix (destinations (intraRoutes ++ interRoutes)) addr entry.destination := by
  rw [LongestMatch, dests_update, routes_update]

theorem covers_update : (table.update intraRoutes interRoutes []).1.Covers addr ↔
    ∃ route ∈ intraRoutes ++ interRoutes, route.destination.contains addr = true := by
  rw [Covers, routes_update]
  constructor
  · rintro ⟨dest, entry, hget, hcontains⟩
    obtain ⟨route, hroute, rfl⟩ := List.mem_map.1 (contains_newRoutes_iff.1 (Option.isSome_of_mem hget))
    exact ⟨route, hroute, hcontains⟩
  · rintro ⟨route, hroute, hcontains⟩
    obtain ⟨entry, hget⟩ := Option.isSome_iff_exists.1
      (contains_newRoutes_iff.2 (List.mem_map_of_mem (f := OspfRoute.destination) hroute))
    exact ⟨_, entry, hget, hcontains⟩

end OspfRoutingTable

/-- The first of the routes to a network costs what the best does, and has the next hops of all that
are as good. -/
def FirstServes (routes : List OspfRoute) (dest : IPv4Network) : Prop :=
  ∃ first best, (routesTo routes dest).head? = some first ∧ best ∈ routesTo routes dest ∧
    (∀ route ∈ routesTo routes dest, best.rank ≤ route.rank) ∧ first.cost = best.cost ∧
    ∀ k, k ∈ first.hops ↔ ∃ route ∈ routesTo routes dest, route.rank = best.rank ∧ k ∈ route.hops

theorem OspfRoute.cost_eq_of_rank {a b : OspfRoute} (h : a.rank = b.rank) : a.cost = b.cost := by
  rw [rank, rank, toLex_inj, Prod.mk.injEq, toLex_inj, Prod.mk.injEq] at h
  exact h.2.2

/-- The first route serves exactly if it is like the entry of the table. -/
theorem firstServes_iff {routes : List OspfRoute} {dest : IPv4Network} {first entry : OspfRoute}
    (hfirst : (routesTo routes dest).head? = some first)
    (hentry : (newRoutes routes).get? dest = some entry) :
    FirstServes routes dest ↔ first.cost = entry.cost ∧ first.hops = entry.hops := by
  have hbest := (bestRoute_of_get? hentry).best
  have hhops : ∀ k, k ∈ entry.hops ↔ ∃ route ∈ routesTo routes dest, route.rank = entry.rank ∧ k ∈ route.hops :=
    fun k => hbest.carries k
  constructor
  · rintro ⟨first', best, hfirst', hmem, hleast, hcost, hall⟩
    obtain rfl := Option.some.inj (hfirst.symm.trans hfirst')
    obtain ⟨route, hroute, hrank⟩ := hbest.attained
    have heq : best.rank = entry.rank :=
      le_antisymm (hrank ▸ hleast route hroute) (hbest.least best hmem)
    refine ⟨hcost.trans (OspfRoute.cost_eq_of_rank heq), ?_⟩
    ext k
    rw [hall, hhops, heq]
  · rintro ⟨hcost, heq⟩
    obtain ⟨best, hmem, hrank⟩ := hbest.attained
    refine ⟨first, best, hfirst, hmem, fun route hroute => ?_, ?_, fun k => ?_⟩
    · rw [hrank]
      exact hbest.least route hroute
    · rw [hcost, OspfRoute.cost_eq_of_rank hrank]
    · rw [heq, hhops, hrank]

/-! ## The route of an LSA -/

/-- An AS-external-LSA with a forwarding address. -/
structure ForwardedExternal (s : Instance) (r : LsaRef) (body : ExternalLsa) : Prop where
  stored : r ∈ s.lsdb.getAllExternal
  body_eq : (s.heap.obj r).body = some (.external body)
  forwarded : body.forwardingAddress ≠ zeroAddr

/-- **The route of an LSA is that of its forwarding address in a table**: of the cost and with the next
hops of the entry for it, and there is none without an entry. -/
structure Forwards (table : OspfRoutingTable) (s : Instance) (trees : SpfTrees) (asbrCosts : Dict IPv4Address Int)
    (routes : List OspfRoute) (r : LsaRef) (body : ExternalLsa) : Prop where
  uses : ∀ route entry, externalRoute s trees asbrCosts routes r = some route →
    table.LongestMatch body.forwardingAddress entry → route.asbrCost body = entry.cost ∧ route.hops = entry.hops
  uncovered : ¬table.Covers body.forwardingAddress → externalRoute s trees asbrCosts routes r = none

/-- An LSA with a forwarding address has a route if it is below MaxAge and something leads to its ASBR. -/
theorem ForwardedExternal.route {s : Instance} {r : LsaRef} {body : ExternalLsa} (h : ForwardedExternal s r body)
    (trees : SpfTrees) (asbrCosts : Dict IPv4Address Int) (routes : List OspfRoute) :
    (expired s r = false → ¬Unreachable trees asbrCosts (s.heap.obj r).header.advertisingRouter →
      ∃ path, externalRoute s trees asbrCosts routes r = some (externalRouteVia (s.heap.obj r) body
        (((findRouteTo body.forwardingAddress routes).map fun route => (route.cost, route.nexthops)).getD path))) ∧
    (¬(expired s r = false ∧ ¬Unreachable trees asbrCosts (s.heap.obj r).header.advertisingRouter) →
      externalRoute s trees asbrCosts routes r = none) := by
  rw [externalRoute, h.body_eq, ← asbrPath_eq_none_iff]
  constructor
  · intro hage hreach
    obtain ⟨path, hpath⟩ := Option.ne_none_iff_exists'.1 hreach
    refine ⟨path, ?_⟩
    rw [hage, if_neg Bool.false_ne_true, hpath]
    dsimp only [Option.map_some]
    rw [forwardingPath, if_neg h.forwarded]
    cases findRouteTo body.forwardingAddress routes <;> rfl
  · intro hnone
    split
    · rfl
    · rename_i hage
      rw [not_and, not_not] at hnone
      rw [hnone (by simpa using hage)]
      rfl

/-- **A forwarding address is resolved by the table** exactly if, where the LSA has a route at all, some
route leads to the address and the first one to the network with the longest prefix serves. -/
theorem forwards_iff {s : Instance} {r : LsaRef} {body : ExternalLsa} (h : ForwardedExternal s r body)
    (table : OspfRoutingTable) (trees : SpfTrees) (asbrCosts : Dict IPv4Address Int)
    (intraRoutes interRoutes : List OspfRoute) :
    Forwards (table.update intraRoutes interRoutes []).1 s trees asbrCosts (intraRoutes ++ interRoutes) r body ↔
      (expired s r = false → ¬Unreachable trees asbrCosts (s.heap.obj r).header.advertisingRouter →
        ∃ dest, LongestPrefix (destinations (intraRoutes ++ interRoutes)) body.forwardingAddress dest ∧
          FirstServes (intraRoutes ++ interRoutes) dest) := by
  obtain ⟨hroute, hnone⟩ := h.route trees asbrCosts (intraRoutes ++ interRoutes)
  by_cases hused : expired s r = false ∧ ¬Unreachable trees asbrCosts (s.heap.obj r).header.advertisingRouter
  · obtain ⟨path, hpath⟩ := hroute hused.1 hused.2
    rw [forall_prop_of_true hused.1, forall_prop_of_true hused.2]
    cases hfind : findRouteTo body.forwardingAddress (intraRoutes ++ interRoutes) with
    | none =>
      -- no entry, but a route over the path towards the ASBR
      have hno := findRouteTo_eq_none_iff.1 hfind
      constructor
      · intro hforwards
        have huncovered := hforwards.uncovered (by
          rw [OspfRoutingTable.covers_update]
          rintro ⟨route, hmem, hcontains⟩
          exact hno route hmem hcontains)
        rw [hpath] at huncovered
        cases huncovered
      · rintro ⟨-, ⟨⟨route, hmem, rfl⟩, hcontains, -⟩, -⟩
        exact absurd hcontains (hno route hmem)
    | some first =>
      have hlongest := longestPrefix_of_findRouteTo hfind
      obtain ⟨entry, hget⟩ := Option.isSome_iff_exists.1 (contains_newRoutes_iff.2 (List.mem_map.2 hlongest.mem))
      have hdest := newRoutes_keyed _ _ _ hget
      have hserves := firstServes_iff (head_routesTo_of_findRouteTo hfind) hget
      rw [hfind] at hpath
      constructor
      · intro hforwards
        refine ⟨first.destination, hlongest, hserves.2 ?_⟩
        have huses := hforwards.uses _ entry hpath (OspfRoutingTable.longestMatch_update.2 (by
          rw [hdest]
          exact ⟨hget, hlongest⟩))
        rwa [asbrCost_externalRouteVia, OspfRoute.hops, nexthops_externalRouteVia] at huses
      · rintro ⟨dest, hdest', hfirst⟩
        obtain rfl := hdest'.unique hlongest
        refine ⟨fun route entry' hroute' hmatch => ?_, fun huncovered => ?_⟩
        · obtain ⟨hget', hlongest'⟩ := OspfRoutingTable.longestMatch_update.1 hmatch
          rw [hlongest'.unique hlongest, hget] at hget'
          cases hget'
          rw [hpath] at hroute'
          cases hroute'
          rw [asbrCost_externalRouteVia, OspfRoute.hops, nexthops_externalRouteVia]
          exact hserves.1 hfirst
        · obtain ⟨route, hmem, heq⟩ := hlongest.mem
          exact absurd (OspfRoutingTable.covers_update.2 ⟨route, hmem, heq ▸ hlongest.contains⟩) huncovered
  · have hno := hnone hused
    constructor
    · exact fun _ hage hreach => absurd ⟨hage, hreach⟩ hused
    · intro _
      refine ⟨fun route entry hroute' _ => ?_, fun _ => hno⟩
      rw [hno] at hroute'
      cases hroute'

/-! ### Two routes to one network -/

/-- A network behind a forwarding address. -/
def forwardedBody : ExternalLsa :=
  { networkMask := 4278190080, eBit := true, metric := 20, forwardingAddress := 3232235777, externalRouteTag := 0 }

/-- Router 1 with an AS-external-LSA of router 2. -/
def forwardedRouter : Instance :=
  { externalRouter 2 with
    heap := { obj := fun _ => { asExternalLsa 2 with body := some (.external forwardedBody) }, next := 2 } }

/-- A route to the network of the forwarding address. -/
def networkRoute (cost : Int) : OspfRoute :=
  { destination := ⟨3232235776, 24⟩, pathType := .intraArea, cost, nexthops := [⟨0, 167772162, 1⟩] }

theorem forwardedExternal_forwardedRouter : ForwardedExternal forwardedRouter 1 forwardedBody where
  stored := List.mem_singleton.2 rfl
  body_eq := rfl
  forwarded := by decide

theorem longestPrefix_networkRoute {dest : IPv4Network} {cost cost' : Int}
    (h : dest ∈ destinations [networkRoute cost, networkRoute cost']) : dest = ⟨3232235776, 24⟩ := by
  obtain ⟨route, hmem, rfl⟩ := h
  rcases List.mem_pair.1 hmem with rfl | rfl
  · rfl
  · rfl

/-- The cheaper route comes first. -/
theorem forwards_networkRoute :
    (∃ route, route.cost = 10 ∧
      externalRoute forwardedRouter borderTree Dict.empty [networkRoute 10, networkRoute 20] 1 = some route) ∧
    Forwards (OspfRoutingTable.empty.update [networkRoute 10, networkRoute 20] [] []).1 forwardedRouter borderTree
      Dict.empty [networkRoute 10, networkRoute 20] 1 forwardedBody := by
  refine ⟨⟨_, by decide, rfl⟩, (forwards_iff forwardedExternal_forwardedRouter OspfRoutingTable.empty borderTree
    Dict.empty [networkRoute 10, networkRoute 20] []).2 fun _ _ => ⟨⟨3232235776, 24⟩, ?_, ?_⟩⟩
  · refine ⟨⟨networkRoute 10, by simp, rfl⟩, by decide, fun other hother _ => ?_⟩
    rw [longestPrefix_networkRoute hother]
  · have hhead : (routesTo [networkRoute 10, networkRoute 20] ⟨3232235776, 24⟩).head? = some (networkRoute 10) := by
      decide
    have hentry : (newRoutes [networkRoute 10, networkRoute 20]).get? ⟨3232235776, 24⟩ = some (networkRoute 10) := by
      decide
    exact (firstServes_iff hhead hentry).2 ⟨rfl, rfl⟩

/-- The dearer one does: the table has cost 10 for the forwarding address, the external route cost 20. -/
theorem not_forwards : ¬∀ (table : OspfRoutingTable) (s : Instance) (trees : SpfTrees)
    (asbrCosts : Dict IPv4Address Int) (intraRoutes interRoutes : List OspfRoute) (r : LsaRef) (body : ExternalLsa),
    ForwardedExternal s r body →
    Forwards (table.update intraRoutes interRoutes []).1 s trees asbrCosts (intraRoutes ++ interRoutes) r body := by
  intro h
  obtain ⟨dest, hdest, hserves⟩ := (forwards_iff forwardedExternal_forwardedRouter OspfRoutingTable.empty borderTree
    Dict.empty [networkRoute 20, networkRoute 10] []).1 (h _ _ _ _ _ _ _ _ forwardedExternal_forwardedRouter) rfl
    fun hnone => absurd hnone.1 (by decide)
  rw [longestPrefix_networkRoute hdest.mem] at hserves
  have hhead : (routesTo [networkRoute 20, networkRoute 10] ⟨3232235776, 24⟩).head? = some (networkRoute 20) := by
    decide
  have hentry : (newRoutes [networkRoute 20, networkRoute 10]).get? ⟨3232235776, 24⟩ = some (networkRoute 10) := by
    decide
  exact absurd ((firstServes_iff hhead hentry).1 hserves).1 (by decide)

end Ospfd
