import Mathlib.Data.List.Infix
import Ospfd.Spf.RoutingTable

/-!
# The kernel's routes

Only the difference between two tables is pushed to the kernel.

* `KernelTable`, `installRoute`, `removeRoute` — what the kernel is asked for.
* `syncToKernel` — the routes that are pushed.
* `Follows` — the kernel has the gateways of every route of the table.
* `SpfResult.Pushable` — no route loses all its gateways, and none changes nothing but the
  index of an interface.
* `follows_round` — with such a result, and only then, the kernel goes on following.
* `kernel_follows` — **it follows through the runs of such results, and no others**.
-/

namespace Ospfd

/-! ## Pushing routes -/

/-- A next hop of a kernel route. -/
structure Nexthop where
  gateway : IPv4Address
  interfaceIndex : Nat
  interfaceName : IntfId

/-- What the kernel holds for a destination: gateways with their interfaces, and a metric. -/
structure KernelRoute where
  gateways : Finset (IPv4Address × Nat)
  metric : Int
  deriving DecidableEq

/-- The kernel's routes. -/
abbrev KernelTable : Type := Dict IPv4Network KernelRoute

/-- `install_route`, which replaces what is there. -/
def installRoute (kernel : KernelTable) (destination : IPv4Network) (nexthops : List Nexthop)
    (metric : Int) : KernelTable :=
  kernel.set destination
    { gateways := (nexthops.map fun h => (h.gateway, h.interfaceIndex)).toFinset, metric }

/-- `remove_route`. -/
def removeRoute (kernel : KernelTable) (destination : IPv4Network) : KernelTable := kernel.pop destination

/-- `_convert_nexthops`: a connected route has no gateway. -/
def convertNexthops (route : OspfRoute) : List Nexthop :=
  (route.nexthops.filter fun h => h.nextHopIp ≠ zeroAddr).map fun h =>
    { gateway := h.nextHopIp, interfaceIndex := h.interfaceIndex, interfaceName := h.interfaceName }

/-- Install a route that has gateways. -/
def pushRoute (kernel : KernelTable) (route : OspfRoute) : KernelTable :=
  if convertNexthops route ≠ [] then
    installRoute kernel route.destination (convertNexthops route) route.cost
  else kernel

/-- `sync_to_kernel`. -/
def syncToKernel (kernel : KernelTable) (delta : RouteDelta) : KernelTable :=
  (delta.added ++ delta.changed).foldl pushRoute
    ((delta.removed.map OspfRoute.destination).foldl removeRoute kernel)

/-! ## Rounds -/

/-- What one run of SPF computes.  The index of a next hop's interface is the interface's at
that time, and only type 2 external routes have a type 2 cost. -/
structure SpfResult where
  intraRoutes : List OspfRoute
  interRoutes : List OspfRoute
  externalRoutes : List OspfRoute
  ifIndex : IntfId → Nat
  indexed : ∀ route ∈ intraRoutes ++ interRoutes ++ externalRoutes, ∀ h ∈ route.nexthops,
    h.interfaceIndex = ifIndex h.interfaceName
  typed : ∀ route ∈ intraRoutes ++ interRoutes ++ externalRoutes,
    route.pathType ≠ .type2External → route.type2Cost = 0

/-- All routes of a result. -/
def SpfResult.routes (result : SpfResult) : List OspfRoute :=
  result.intraRoutes ++ result.interRoutes ++ result.externalRoutes

/-- The two tables. -/
structure RouteTables where
  table : OspfRoutingTable
  kernel : KernelTable

/-- The tables before the first run of SPF. -/
def RouteTables.initial : RouteTables := ⟨.empty, Dict.empty⟩

/-- `update`, and `sync_to_kernel` with the difference. -/
def RouteTables.round (tables : RouteTables) (result : SpfResult) : RouteTables :=
  let (table, delta) := tables.table.update result.intraRoutes result.interRoutes result.externalRoutes
  { table, kernel := syncToKernel tables.kernel delta }

/-- Several rounds. -/
def RouteTables.rounds (results : List SpfResult) : RouteTables := results.foldl round initial

/-! ## Following -/

/-- The gateways of a route. -/
def OspfRoute.gateways (route : OspfRoute) : Finset (IPv4Address × Nat) :=
  ((route.nexthops.filter fun h => h.nextHopIp ≠ zeroAddr).map fun h =>
    (h.nextHopIp, h.interfaceIndex)).toFinset

/-- What the kernel should have for a route. -/
def OspfRoute.kernelRoute (route : OspfRoute) : Option KernelRoute :=
  if route.gateways = ∅ then none else some { gateways := route.gateways, metric := route.cost }

/-- **The kernel follows the table**: it has an entry for a destination when the route there
has a gateway, with the gateways and the cost of the route. -/
def RouteTables.Follows (tables : RouteTables) : Prop :=
  ∀ dest, tables.kernel.get? dest = (tables.table.routes.get? dest).bind OspfRoute.kernelRoute

/-- The gateways of a route, with the indices that its interfaces have now. -/
def SpfResult.currentGateways (result : SpfResult) (route : OspfRoute) : Finset (IPv4Address × Nat) :=
  (route.hops.filter fun h => h.2 ≠ zeroAddr).image fun h => (h.2, result.ifIndex h.1)

/-- A result after which the kernel can follow: where the old route to a destination has a
gateway, so have the best of the new ones, and where these differ in nothing that is compared,
its gateways are still behind interfaces of the same indices. -/
def SpfResult.Pushable (result : SpfResult) (tables : RouteTables) : Prop :=
  ∀ dest old new, tables.table.routes.get? dest = some old → BestRoute result.routes dest new →
    (old.gateways ≠ ∅ → new.gateways ≠ ∅) ∧
    (old.rank = new.rank → old.hops = new.hops → result.currentGateways old = old.gateways)

/-! ## One round -/

/-- Only type 2 external routes have a type 2 cost. -/
def OspfRoute.Typed (route : OspfRoute) : Prop := route.pathType ≠ .type2External → route.type2Cost = 0

theorem OspfRoute.gateways_eq_empty_iff {route : OspfRoute} :
    route.gateways = ∅ ↔ ∀ h ∈ route.hops, h.2 = zeroAddr := by
  rw [gateways, List.toFinset_eq_empty_iff, List.map_eq_nil_iff, List.filter_eq_nil_iff]
  constructor
  · intro hall k hk
    obtain ⟨h, hh, rfl⟩ := mem_hopSet.1 hk
    simpa using hall h hh
  · intro hall h hh
    have hzero := hall _ (mem_hopSet.2 ⟨h, hh, rfl⟩)
    simpa using hzero

theorem OspfRoute.gateways_eq {route : OspfRoute} {ifIndex : IntfId → Nat}
    (h : ∀ h ∈ route.nexthops, h.interfaceIndex = ifIndex h.interfaceName) :
    route.gateways = (route.hops.filter fun h => h.2 ≠ zeroAddr).image fun h => (h.2, ifIndex h.1) := by
  ext k
  rw [gateways, List.mem_toFinset, List.mem_map, Finset.mem_image]
  constructor
  · rintro ⟨x, hx, rfl⟩
    rw [List.mem_filter, decide_eq_true_eq] at hx
    refine ⟨_, Finset.mem_filter.2 ⟨mem_hopSet.2 ⟨x, hx.1, rfl⟩, hx.2⟩, ?_⟩
    rw [h x hx.1]
  · rintro ⟨j, hj, rfl⟩
    obtain ⟨hj, hne⟩ := Finset.mem_filter.1 hj
    obtain ⟨x, hx, rfl⟩ := mem_hopSet.1 hj
    refine ⟨x, List.mem_filter.2 ⟨hx, decide_eq_true hne⟩, ?_⟩
    rw [h x hx]

/-- Two routes that are compared equal. -/
theorem OspfRoute.differs_eq_false_iff {old new : OspfRoute} (ho : old.Typed) (hn : new.Typed) :
    old.differs new = false ↔ old.rank = new.rank ∧ old.hops = new.hops := by
  rw [differs, decide_eq_false_iff_not]
  push Not
  constructor
  · rintro ⟨hcost, htype, hhops, htype2⟩
    refine ⟨?_, hhops⟩
    rw [rank, rank, hcost, htype, htype2]
  · rintro ⟨hrank, hhops⟩
    have htype := pathType_eq_of_rank hrank
    rw [rank, rank, toLex_inj, Prod.mk.injEq, toLex_inj, Prod.mk.injEq] at hrank
    obtain ⟨-, htype2, hcost⟩ := hrank
    refine ⟨hcost, htype, hhops, ?_⟩
    by_cases hext : new.pathType = .type2External
    · rwa [htype, if_pos hext, if_pos hext] at htype2
    · rw [ho (htype ▸ hext), hn hext]

section Round

variable {result : SpfResult} {dest : IPv4Network} {new : OspfRoute}

/-- The table after a round has the indices of its result. -/
theorem SpfResult.gateways_eq (h : (newRoutes result.routes).get? dest = some new) :
    new.gateways = result.currentGateways new := by
  apply OspfRoute.gateways_eq
  refine newRoutes_induction (P := fun route => ∀ h ∈ route.nexthops,
    h.interfaceIndex = result.ifIndex h.interfaceName) ?_ ?_ h
  · intro a b ha hb h hh
    rcases mem_foldl_addNexthop hh with hh | hh
    · exact ha h hh
    · exact hb h hh
  · exact fun route hroute _ => result.indexed route hroute

theorem SpfResult.newRoutes_typed (h : (newRoutes result.routes).get? dest = some new) : new.Typed :=
  newRoutes_induction (fun _ _ ha _ => ha) (fun route hroute _ => result.typed route hroute) h

/-- The kernel entry of a route that is pushed: its own when it has a gateway, else what is
there stays. -/
theorem get?_pushRoute (kernel : KernelTable) (route : OspfRoute) (dest : IPv4Network) :
    (pushRoute kernel route).get? dest =
      if route.destination = dest then route.kernelRoute.or (kernel.get? dest) else kernel.get? dest := by
  have hgateways : ((convertNexthops route).map fun h => (h.gateway, h.interfaceIndex)).toFinset =
      route.gateways := by
    rw [convertNexthops, List.map_map]
    rfl
  have hempty : convertNexthops route = [] ↔ route.gateways = ∅ := by
    rw [← hgateways, List.toFinset_eq_empty_iff, List.map_eq_nil_iff]
  rw [pushRoute, OspfRoute.kernelRoute]
  by_cases h : route.gateways = ∅
  · rw [if_neg (not_not.2 (hempty.2 h)), if_pos h, Option.none_or, ite_self]
  · rw [if_pos (fun hnil => h (hempty.1 hnil)), if_neg h, installRoute, hgateways, Dict.get?_set]
    rfl

/-- What the kernel holds after a round. -/
theorem get?_round (tables : RouteTables) (result : SpfResult) (dest : IPv4Network) :
    (tables.round result).kernel.get? dest =
    match (newRoutes result.routes).get? dest with
    | none => if tables.table.routes.contains dest then none else tables.kernel.get? dest
    | some route =>
        if ∀ r, tables.table.routes.get? dest = some r → r.differs route = true then
          route.kernelRoute.or (tables.kernel.get? dest)
        else tables.kernel.get? dest :=
  get?_follow tables.table.keyed (newRoutes_keyed _) (fun held route => route.kernelRoute.or held)
    get?_pushRoute tables.kernel dest

theorem OspfRoute.kernelRoute_eq_none_iff {route : OspfRoute} :
    route.kernelRoute = none ↔ route.gateways = ∅ := by
  rw [kernelRoute]
  split <;> simp_all

/-- Where the kernel follows the table, a round makes it follow the new one at a destination just
when the old route there can be replaced. -/
theorem get?_round_iff {tables : RouteTables} (h : tables.Follows) {old : OspfRoute}
    (hold : tables.table.routes.get? dest = some old) (ho : old.Typed)
    (hnew : (newRoutes result.routes).get? dest = some new) :
    (tables.round result).kernel.get? dest = new.kernelRoute ↔
      (old.gateways ≠ ∅ → new.gateways ≠ ∅) ∧
      (old.rank = new.rank → old.hops = new.hops → result.currentGateways old = old.gateways) := by
  have hkernel : tables.kernel.get? dest = old.kernelRoute := by
    rw [h dest, hold]
    rfl
  have hsame := OspfRoute.differs_eq_false_iff ho (result.newRoutes_typed hnew)
  rw [get?_round, hnew, hkernel]
  dsimp only
  by_cases hdiff : old.differs new = true
  · rw [if_pos fun r hr => by rwa [← Option.some.inj (hold.symm.trans hr)]]
    rw [hdiff] at hsame
    constructor
    · intro heq
      refine ⟨fun hne hempty => hne ?_, fun hrank hhops => ?_⟩
      · rw [OspfRoute.kernelRoute_eq_none_iff.2 hempty, Option.none_or] at heq
        exact OspfRoute.kernelRoute_eq_none_iff.1 heq
      · cases hsame.2 ⟨hrank, hhops⟩
    · rintro ⟨hgate, -⟩
      by_cases hempty : new.gateways = ∅
      · rw [OspfRoute.kernelRoute_eq_none_iff.2 hempty, Option.none_or, OspfRoute.kernelRoute_eq_none_iff]
        by_contra hne
        exact hgate hne hempty
      · rw [OspfRoute.kernelRoute, if_neg hempty, Option.some_or]
  · rw [if_neg fun hall => hdiff (hall old hold)]
    obtain ⟨hrank, hhops⟩ := hsame.1 (Bool.eq_false_iff.2 hdiff)
    have hcost : old.cost = new.cost := by
      rw [OspfRoute.rank, OspfRoute.rank, toLex_inj, Prod.mk.injEq, toLex_inj, Prod.mk.injEq] at hrank
      exact hrank.2.2
    have hempty : old.gateways = ∅ ↔ new.gateways = ∅ := by
      rw [OspfRoute.gateways_eq_empty_iff, OspfRoute.gateways_eq_empty_iff, hhops]
    have hcurrent : result.currentGateways old = new.gateways := by
      rw [result.gateways_eq hnew, SpfResult.currentGateways, SpfResult.currentGateways, hhops]
    rw [hcurrent, OspfRoute.kernelRoute, OspfRoute.kernelRoute, hcost]
    by_cases hnone : new.gateways = ∅
    · rw [if_pos (hempty.2 hnone), if_pos hnone, hempty.2 hnone, hnone]
      simp
    · rw [if_neg fun h => hnone (hempty.1 h), if_neg hnone]
      simp [hnone, hrank, hhops, eq_comm]

/-- **A round after which the kernel follows.** -/
theorem follows_round {tables : RouteTables} (h : tables.Follows)
    (ht : ∀ dest route, tables.table.routes.get? dest = some route → route.Typed) :
    (tables.round result).Follows ↔ result.Pushable tables := by
  have hat : ∀ dest, (tables.round result).kernel.get? dest =
      ((tables.round result).table.routes.get? dest).bind OspfRoute.kernelRoute ↔
      ∀ old new, tables.table.routes.get? dest = some old →
        (newRoutes result.routes).get? dest = some new →
        (old.gateways ≠ ∅ → new.gateways ≠ ∅) ∧
        (old.rank = new.rank → old.hops = new.hops → result.currentGateways old = old.gateways) := by
    intro dest
    change _ = ((newRoutes result.routes).get? dest).bind _ ↔ _
    cases hnew : (newRoutes result.routes).get? dest with
    | none =>
      have hgone : (tables.round result).kernel.get? dest = none := by
        rw [get?_round, hnew, h dest]
        cases hold : tables.table.routes.get? dest with
        | none => simp [Dict.contains, hold]
        | some old => simp [Dict.contains, hold]
      rw [hgone]
      simp
    | some new =>
      cases hold : tables.table.routes.get? dest with
      | none =>
        have hadded : (tables.round result).kernel.get? dest = new.kernelRoute := by
          rw [get?_round, hnew, h dest, hold]
          simp
        rw [hadded]
        simp
      | some old =>
        rw [Option.bind_some, get?_round_iff h hold (ht dest old hold) hnew]
        simp
  constructor
  · intro hfollows dest old new hold hbest
    obtain ⟨x, hx, -⟩ := hbest.best.attained
    obtain ⟨hx, hdest⟩ := mem_routesTo.1 hx
    have hcontains := contains_newRoutes_iff.2 (List.mem_map.2 ⟨x, hx, hdest⟩)
    obtain ⟨kept, hkept⟩ := Option.isSome_iff_exists.1 hcontains
    obtain ⟨hrank, hhops⟩ := hbest.best.congr (bestRoute_of_get? hkept).best fun _ => Iff.rfl
    have hhops : new.hops = kept.hops := Finset.coe_injective hhops
    obtain ⟨hgate, hindex⟩ := (hat dest).1 (hfollows dest) old kept hold hkept
    rw [Ne, Ne, @OspfRoute.gateways_eq_empty_iff new, hhops, hrank, ← OspfRoute.gateways_eq_empty_iff]
    exact ⟨hgate, hindex⟩
  · intro hpush dest
    refine (hat dest).2 fun old new hold hnew => hpush dest old new hold (bestRoute_of_get? hnew)

end Round

/-! ## Runs -/

theorem RouteTables.rounds_concat (results : List SpfResult) (result : SpfResult) :
    rounds (results ++ [result]) = (rounds results).round result := by
  simp [rounds, List.foldl_append]

theorem RouteTables.follows_initial : initial.Follows := by
  intro dest
  rfl

theorem RouteTables.typed_rounds (results : List SpfResult) (dest : IPv4Network) (route : OspfRoute)
    (h : (rounds results).table.routes.get? dest = some route) : route.Typed := by
  induction results using List.reverseRecOn with
  | nil => cases h
  | append_singleton results result _ =>
    rw [rounds_concat] at h
    exact result.newRoutes_typed h

/-- **The kernel follows the table through a run** just when every result of the run can be
pushed. -/
theorem kernel_follows (results : List SpfResult) :
    (∀ earlier, earlier <+: results → (RouteTables.rounds earlier).Follows) ↔
      ∀ earlier result, earlier ++ [result] <+: results → result.Pushable (RouteTables.rounds earlier) := by
  constructor
  · intro h earlier result hprefix
    have hbefore := h earlier ((List.prefix_append earlier [result]).trans hprefix)
    have hafter := h _ hprefix
    rw [RouteTables.rounds_concat] at hafter
    exact (follows_round hbefore (RouteTables.typed_rounds earlier)).1 hafter
  · intro h earlier
    induction earlier using List.reverseRecOn with
    | nil => exact fun _ => RouteTables.follows_initial
    | append_singleton earlier result ih =>
      intro hprefix
      have hbefore := ih ((List.prefix_append earlier [result]).trans hprefix)
      rw [RouteTables.rounds_concat]
      exact (follows_round hbefore (RouteTables.typed_rounds earlier)).2 (h earlier result hprefix)

/-! ### A gateway that is lost -/

/-- A result with one route, over one next hop. -/
def oneRoute (nextHopIp : IPv4Address) : SpfResult where
  intraRoutes := [{ destination := ⟨167772160, 24⟩, pathType := .intraArea, cost := 10,
                    nexthops := [⟨0, nextHopIp, 2⟩] }]
  interRoutes := []
  externalRoutes := []
  ifIndex := fun _ => 2
  indexed := by simp
  typed := by simp

/-- A network that was behind a gateway is now connected: the kernel keeps the gateway. -/
theorem not_kernel_follows : ¬∀ results earlier, earlier <+: results →
    (RouteTables.rounds earlier).Follows := by
  intro h
  have hfollows := h [oneRoute 167772161, oneRoute 0] _ (List.prefix_refl _) ⟨167772160, 24⟩
  have hstale : ((RouteTables.rounds [oneRoute 167772161, oneRoute 0]).kernel.get? ⟨167772160, 24⟩).isSome =
      true := by decide +kernel
  rw [hfollows] at hstale
  revert hstale
  decide +kernel

end Ospfd
