import Ospfd.Lib.Ties
import Ospfd.Spf.Routes

/-!
# The routing table

* `OspfRoutingTable`, `update` — the table of best routes, and the difference to the old one.
* `OspfRoute.rank` — what routes are compared by.
* `BestRoute` — a route of the least rank, with the next hops of all such routes.
* `update_selects` — **the table holds the best routes, in whatever order they come, and the
  difference leads from the old table to the new one**.
-/

namespace Ospfd

/-! ## The table -/

/-- The routes, each under its destination. -/
structure OspfRoutingTable where
  routes : Dict IPv4Network OspfRoute
  keyed : ∀ dest route, routes.get? dest = some route → route.destination = dest

/-- A table without routes. -/
def OspfRoutingTable.empty : OspfRoutingTable where
  routes := Dict.empty
  keyed := by
    intro dest route h
    cases h

/-- A route with the next hops of another. -/
def OspfRoute.merge (existing route : OspfRoute) : OspfRoute :=
  { existing with nexthops := route.nexthops.foldl addNexthop existing.nexthops }

/-- Keep the better route to a destination, or both when neither is better. -/
def addRoute (routes : Dict IPv4Network OspfRoute) (route : OspfRoute) : Dict IPv4Network OspfRoute :=
  match routes.get? route.destination with
  | none => routes.set route.destination route
  | some existing =>
      if route.isBetterThan existing then routes.set route.destination route
      else if ¬existing.isBetterThan route ∧ route.pathType = existing.pathType then
        routes.set route.destination (existing.merge route)
      else routes

/-- The best routes. -/
def newRoutes (routes : List OspfRoute) : Dict IPv4Network OspfRoute :=
  routes.foldl addRoute Dict.empty

/-- Whether a route differs from the one that was there. -/
def OspfRoute.differs (old route : OspfRoute) : Bool :=
  old.cost ≠ route.cost ∨ old.pathType ≠ route.pathType ∨ old.hops ≠ route.hops ∨
    old.type2Cost ≠ route.type2Cost

/-- What changed from one table to the next. -/
structure RouteDelta where
  added : List OspfRoute
  changed : List OspfRoute
  removed : List OspfRoute

/-- The routes that are new, that differ, and that are gone. -/
def routeDelta (old new : Dict IPv4Network OspfRoute) : RouteDelta where
  added := (new.entries.filter fun p => ¬old.contains p.1).map Prod.snd
  changed := (new.entries.filter fun p => (old.get? p.1).any fun route => route.differs p.2).map Prod.snd
  removed := (old.entries.filter fun p => ¬new.contains p.1).map Prod.snd

/-! ## Preference -/

/-- What routes are compared by: the kind of path, the type 2 cost of type 2 external routes,
the cost. -/
def OspfRoute.rank (route : OspfRoute) : ℕ ×ₗ ℕ ×ₗ ℤ :=
  toLex (route.pathType.num,
    toLex (if route.pathType = .type2External then route.type2Cost else 0, route.cost))

theorem OspfRoute.isBetterThan_iff {a b : OspfRoute} : a.isBetterThan b = true ↔ a.rank < b.rank := by
  rw [isBetterThan, rank, rank, Prod.Lex.toLex_lt_toLex, Prod.Lex.toLex_lt_toLex, PathType.num_inj]
  by_cases htype : a.pathType = b.pathType
  · rw [htype]
    by_cases hext : b.pathType = .type2External
    · by_cases hcost : a.type2Cost = b.type2Cost
      · simp [hext, hcost]
      · simp [hext, hcost]
    · simp [hext]
  · simp [htype]

theorem OspfRoute.pathType_eq_of_rank {a b : OspfRoute} (h : a.rank = b.rank) : a.pathType = b.pathType := by
  rw [rank, rank, toLex_inj, Prod.mk.injEq] at h
  exact PathType.num_inj.1 h.1

theorem mem_hopSet {nexthops : List SpfNexthop} {k : IntfId × IPv4Address} :
    k ∈ hopSet nexthops ↔ ∃ h ∈ nexthops, (h.interfaceName, h.nextHopIp) = k := by
  rw [hopSet, List.mem_toFinset, List.mem_map]

theorem hopSet_addNexthop (nexthops : List SpfNexthop) (h : SpfNexthop) :
    hopSet (addNexthop nexthops h) = insert (h.interfaceName, h.nextHopIp) (hopSet nexthops) := by
  ext k
  rw [addNexthop]
  split
  · rename_i hany
    obtain ⟨x, hx, hsame⟩ := List.any_eq_true.1 hany
    rw [Finset.mem_insert]
    constructor
    · exact Or.inr
    · rintro (rfl | hk)
      · refine mem_hopSet.2 ⟨x, hx, ?_⟩
        rw [SpfNexthop.same, decide_eq_true_eq] at hsame
        rw [hsame.1, hsame.2]
      · exact hk
  · rw [Finset.mem_insert, mem_hopSet, mem_hopSet]
    simp only [List.mem_append, List.mem_singleton]
    constructor
    · rintro ⟨x, hx | rfl, rfl⟩
      · exact Or.inr ⟨x, hx, rfl⟩
      · exact Or.inl rfl
    · rintro (rfl | ⟨x, hx, rfl⟩)
      · exact ⟨h, Or.inr rfl, rfl⟩
      · exact ⟨x, Or.inl hx, rfl⟩

/-- Adding next hops. -/
theorem hopSet_foldl (new nexthops : List SpfNexthop) :
    hopSet (new.foldl addNexthop nexthops) = hopSet nexthops ∪ hopSet new := by
  induction new generalizing nexthops with
  | nil => simp [hopSet]
  | cons h new ih =>
    rw [List.foldl_cons, ih, hopSet_addNexthop]
    ext k
    simp only [Finset.mem_union, Finset.mem_insert, hopSet, List.map_cons, List.toFinset_cons]
    tauto

/-- The interfaces and addresses of a route's next hops. -/
def OspfRoute.hopsOf (route : OspfRoute) : Set (IntfId × IPv4Address) := route.hops

/-- Merging two routes keeps the rank and joins the next hops. -/
theorem OspfRoute.merges : Ties.Merges rank merge hopsOf where
  rank := fun _ _ => rfl
  carries := by
    intro a b
    rw [hopsOf, hopsOf, hopsOf, ← Finset.coe_union]
    exact congrArg _ (hopSet_foldl b.nexthops a.nexthops)

/-! ## Selection -/

/-- A register of routes for each destination. -/
theorem get?_addRoute (routes : Dict IPv4Network OspfRoute) (route : OspfRoute) (dest : IPv4Network) :
    (addRoute routes route).get? dest =
      if route.destination = dest then
        Ties.offer OspfRoute.rank OspfRoute.merge (routes.get? dest) route
      else routes.get? dest := by
  by_cases hdest : route.destination = dest
  · subst hdest
    rw [if_pos rfl, addRoute]
    cases hheld : routes.get? route.destination with
    | none => exact Dict.get?_set_self ..
    | some existing =>
      simp only [Ties.offer, ← OspfRoute.isBetterThan_iff]
      by_cases hbetter : route.isBetterThan existing = true
      · rw [if_pos hbetter, if_pos hbetter, Dict.get?_set_self]
      · rw [if_neg hbetter, if_neg hbetter]
        by_cases hworse : existing.isBetterThan route = true
        · rw [if_neg fun h => h.1 hworse, if_pos hworse, hheld]
        · have hrank : route.rank = existing.rank := by
            rw [OspfRoute.isBetterThan_iff] at hbetter hworse
            exact le_antisymm (not_lt.1 hworse) (not_lt.1 hbetter)
          rw [if_pos ⟨hworse, OspfRoute.pathType_eq_of_rank hrank⟩, if_neg hworse, Dict.get?_set_self]
  · rw [if_neg hdest, addRoute]
    split
    · exact Dict.get?_set_of_ne _ hdest _
    · split_ifs
      · exact Dict.get?_set_of_ne _ hdest _
      · exact Dict.get?_set_of_ne _ hdest _
      · rfl

/-- The routes to a destination. -/
def routesTo (routes : List OspfRoute) (dest : IPv4Network) : List OspfRoute :=
  routes.filter fun route => route.destination = dest

theorem mem_routesTo {routes : List OspfRoute} {dest : IPv4Network} {route : OspfRoute} :
    route ∈ routesTo routes dest ↔ route ∈ routes ∧ route.destination = dest := by
  simp [routesTo]

theorem get?_newRoutes (routes : List OspfRoute) (dest : IPv4Network) :
    (newRoutes routes).get? dest = Ties.after OspfRoute.rank OspfRoute.merge (routesTo routes dest) :=
  Dict.get?_foldl OspfRoute.destination _ get?_addRoute routes Dict.empty dest

/-- A route to a destination, of the least rank among several and with the next hops of all
those of that rank. -/
structure BestRoute (routes : List OspfRoute) (dest : IPv4Network) (route : OspfRoute) : Prop where
  destination : route.destination = dest
  best : Ties.Best OspfRoute.rank OspfRoute.hopsOf (routesTo routes dest) route

/-- What holds of the routes to a destination, and of what merging makes of two, holds of the
route that is kept. -/
theorem newRoutes_induction {P : OspfRoute → Prop} (hmerge : ∀ a b, P a → P b → P (a.merge b))
    {routes : List OspfRoute} {dest : IPv4Network} (h : ∀ route ∈ routes, route.destination = dest → P route)
    {route : OspfRoute} (hget : (newRoutes routes).get? dest = some route) : P route := by
  rw [get?_newRoutes] at hget
  refine Ties.after_induction hmerge (fun r hr => ?_) hget
  obtain ⟨hmem, hdest⟩ := mem_routesTo.1 hr
  exact h r hmem hdest

theorem newRoutes_keyed (routes : List OspfRoute) (dest : IPv4Network) (route : OspfRoute)
    (h : (newRoutes routes).get? dest = some route) : route.destination = dest :=
  newRoutes_induction (fun _ _ ha _ => ha) (fun _ _ hdest => hdest) h

/-- `update`. -/
def OspfRoutingTable.update (table : OspfRoutingTable)
    (intraRoutes interRoutes externalRoutes : List OspfRoute) : OspfRoutingTable × RouteDelta :=
  let routes := intraRoutes ++ interRoutes ++ externalRoutes
  (⟨newRoutes routes, newRoutes_keyed routes⟩, routeDelta table.routes (newRoutes routes))

theorem get?_newRoutes_eq_none_iff {routes : List OspfRoute} {dest : IPv4Network} :
    (newRoutes routes).get? dest = none ↔ ∀ route ∈ routes, route.destination ≠ dest := by
  rw [get?_newRoutes, Ties.after_eq_none_iff, List.eq_nil_iff_forall_not_mem]
  simp only [mem_routesTo, not_and]

theorem contains_newRoutes_iff {routes : List OspfRoute} {dest : IPv4Network} :
    (newRoutes routes).contains dest = true ↔ dest ∈ routes.map OspfRoute.destination := by
  rw [Dict.contains, Option.isSome_iff_ne_none, Ne, get?_newRoutes_eq_none_iff, List.mem_map]
  push Not
  rfl

theorem bestRoute_of_get? {routes : List OspfRoute} {dest : IPv4Network} {route : OspfRoute}
    (h : (newRoutes routes).get? dest = some route) : BestRoute routes dest route where
  destination := newRoutes_keyed routes dest route h
  best := Ties.after_spec OspfRoute.merges ((get?_newRoutes routes dest).symm.trans h)

/-- The order of the routes does not matter. -/
theorem newRoutes_perm {routes routes' : List OspfRoute} (h : routes'.Perm routes) (dest : IPv4Network) :
    Option.Rel (fun a b => a.rank = b.rank ∧ a.hops = b.hops) ((newRoutes routes').get? dest)
      ((newRoutes routes).get? dest) := by
  cases ha : (newRoutes routes').get? dest with
  | none =>
    have hb : (newRoutes routes).get? dest = none := by
      rw [get?_newRoutes_eq_none_iff] at ha ⊢
      exact fun route hroute => ha route (h.mem_iff.2 hroute)
    rw [hb]
    exact .none
  | some a =>
    cases hb : (newRoutes routes).get? dest with
    | none =>
      rw [get?_newRoutes_eq_none_iff] at hb
      obtain ⟨x, hx, -⟩ := (bestRoute_of_get? ha).best.attained
      rw [mem_routesTo] at hx
      exact absurd hx.2 (hb x (h.mem_iff.1 hx.1))
    | some b =>
      obtain ⟨hrank, hhops⟩ := (bestRoute_of_get? ha).best.congr (bestRoute_of_get? hb).best fun x => by
        rw [mem_routesTo, mem_routesTo, h.mem_iff]
      exact .some ⟨hrank, Finset.coe_injective hhops⟩

/-! ## The difference -/

/-- The routes after those that are gone are deleted, and the new and the changed ones put in. -/
def RouteDelta.replay (delta : RouteDelta) (routes : Dict IPv4Network OspfRoute) :
    Dict IPv4Network OspfRoute :=
  (delta.added ++ delta.changed).foldl (fun routes route => routes.set route.destination route)
    ((delta.removed.map OspfRoute.destination).foldl Dict.pop routes)

variable {old new : Dict IPv4Network OspfRoute}

theorem mem_added {route : OspfRoute} :
    route ∈ (routeDelta old new).added ↔ ∃ dest, new.get? dest = some route ∧ old.get? dest = none := by
  simp [routeDelta, Dict.mem_entries_iff, Dict.contains]

theorem mem_changed {route : OspfRoute} :
    route ∈ (routeDelta old new).changed ↔
      ∃ dest r, new.get? dest = some route ∧ old.get? dest = some r ∧ r.differs route = true := by
  simp [routeDelta, Dict.mem_entries_iff, Option.any_eq_true]

theorem mem_removed {route : OspfRoute} :
    route ∈ (routeDelta old new).removed ↔ ∃ dest, old.get? dest = some route ∧ new.get? dest = none := by
  simp [routeDelta, Dict.mem_entries_iff, Dict.contains]

/-- The routes to install are those of the new table that are not in the old one, or differ. -/
theorem mem_added_changed {route : OspfRoute} :
    route ∈ (routeDelta old new).added ++ (routeDelta old new).changed ↔
      ∃ dest, new.get? dest = some route ∧ ∀ r, old.get? dest = some r → r.differs route = true := by
  rw [List.mem_append, mem_added, mem_changed]
  constructor
  · rintro (⟨dest, hnew, hold⟩ | ⟨dest, r, hnew, hold, hdiff⟩)
    · refine ⟨dest, hnew, fun r hr => ?_⟩
      rw [hold] at hr
      cases hr
    · refine ⟨dest, hnew, fun r' hr' => ?_⟩
      rw [hold] at hr'
      rwa [← Option.some.inj hr']
  · rintro ⟨dest, hnew, h⟩
    cases hold : old.get? dest with
    | none => exact Or.inl ⟨dest, hnew, hold⟩
    | some r => exact Or.inr ⟨dest, r, hnew, hold, h r hold⟩

theorem mem_removed_iff (ho : ∀ dest route, old.get? dest = some route → route.destination = dest)
    {dest : IPv4Network} :
    dest ∈ (routeDelta old new).removed.map OspfRoute.destination ↔
      old.contains dest = true ∧ new.get? dest = none := by
  rw [List.mem_map, Dict.contains, Option.isSome_iff_exists]
  constructor
  · rintro ⟨route, hroute, hdest⟩
    obtain ⟨d, hold, hgone⟩ := mem_removed.1 hroute
    obtain rfl : dest = d := by rw [← hdest, ho d route hold]
    exact ⟨⟨route, hold⟩, hgone⟩
  · rintro ⟨⟨route, hold⟩, hgone⟩
    exact ⟨route, mem_removed.2 ⟨dest, hold, hgone⟩, ho dest route hold⟩

section Keyed

variable (ho : ∀ dest route, old.get? dest = some route → route.destination = dest)
  (hn : ∀ dest route, new.get? dest = some route → route.destination = dest)

include hn

theorem mem_added_changed_iff {dest : IPv4Network} {route : OspfRoute} (hdest : route.destination = dest) :
    route ∈ (routeDelta old new).added ++ (routeDelta old new).changed ↔
      new.get? dest = some route ∧ ∀ r, old.get? dest = some r → r.differs route = true := by
  rw [mem_added_changed]
  constructor
  · rintro ⟨d, hnew, h⟩
    obtain rfl : dest = d := by rw [← hdest, hn d route hnew]
    exact ⟨hnew, h⟩
  · exact fun h => ⟨dest, h⟩

theorem added_changed_nodup :
    (((routeDelta old new).added ++ (routeDelta old new).changed).map OspfRoute.destination).Nodup := by
  rw [List.map_append, List.nodup_append']
  refine ⟨Dict.nodup_map_filter hn _, Dict.nodup_map_filter hn _, ?_⟩
  intro dest ha hc
  obtain ⟨a, ha, hdest⟩ := List.mem_map.1 ha
  obtain ⟨c, hc, hdest'⟩ := List.mem_map.1 hc
  obtain ⟨d, hnew, hold⟩ := mem_added.1 ha
  obtain ⟨d', r, hnew', hold', -⟩ := mem_changed.1 hc
  have heq : d = d' := by rw [← hn d a hnew, ← hn d' c hnew', hdest, hdest']
  rw [heq, hold'] at hold
  cases hold

include ho

/-- No destination occurs twice in a difference. -/
theorem routeDelta_nodup :
    (((routeDelta old new).added ++ (routeDelta old new).changed ++ (routeDelta old new).removed).map
      OspfRoute.destination).Nodup := by
  rw [List.map_append, List.nodup_append']
  refine ⟨added_changed_nodup hn, Dict.nodup_map_filter ho _, ?_⟩
  intro dest hp hr
  obtain ⟨p, hp, hdest⟩ := List.mem_map.1 hp
  obtain ⟨hnew, -⟩ := (mem_added_changed_iff hn hdest).1 hp
  obtain ⟨-, hgone⟩ := (mem_removed_iff ho).1 hr
  rw [hgone] at hnew
  cases hnew

section Follow

variable {ν : Type} {f : Dict IPv4Network ν → OspfRoute → Dict IPv4Network ν}
  (g : Option ν → OspfRoute → Option ν)
  (hf : ∀ d x k, (f d x).get? k = if x.destination = k then g (d.get? k) x else d.get? k)
  (d : Dict IPv4Network ν)

include hn hf

/-- **What a dictionary holds that follows a difference**: the routes that are gone are popped,
the new and the changed ones are put in by some update of their destination. -/
theorem get?_follow (dest : IPv4Network) :
    (((routeDelta old new).added ++ (routeDelta old new).changed).foldl f
      (((routeDelta old new).removed.map OspfRoute.destination).foldl Dict.pop d)).get? dest =
    match new.get? dest with
    | none => if old.contains dest then none else d.get? dest
    | some route =>
        if ∀ r, old.get? dest = some r → r.differs route = true then g (d.get? dest) route
        else d.get? dest := by
  have hpopped : (((routeDelta old new).removed.map OspfRoute.destination).foldl Dict.pop d).get? dest =
      if old.contains dest = true ∧ new.get? dest = none then none else d.get? dest := by
    simp only [Dict.get?_foldl_pop, mem_removed_iff ho]
  cases hnew : new.get? dest with
  | none =>
    rw [Dict.get?_foldl_of_ne OspfRoute.destination g hf, hpopped, hnew]
    · simp only [and_true]
    · intro x hx hdest
      rw [((mem_added_changed_iff hn hdest).1 hx).1] at hnew
      cases hnew
  | some route =>
    have hdest := hn dest route hnew
    rw [hnew, if_neg (by simp)] at hpopped
    dsimp only
    by_cases hdiff : ∀ r, old.get? dest = some r → r.differs route = true
    · rw [if_pos hdiff, ← hpopped, ← hdest]
      exact Dict.get?_foldl_of_mem OspfRoute.destination g hf
        ((mem_added_changed_iff hn hdest).2 ⟨hnew, hdiff⟩) (added_changed_nodup hn) _
    · rw [if_neg hdiff, ← hpopped]
      refine Dict.get?_foldl_of_ne OspfRoute.destination g hf (fun x hx hx' => ?_) _
      obtain ⟨hx, h⟩ := (mem_added_changed_iff hn hx').1 hx
      rw [hnew] at hx
      rw [← Option.some.inj hx] at h
      exact hdiff h

end Follow

/-- **A difference leads from the old table to the new one.** -/
theorem replay_routeDelta (dest : IPv4Network) :
    Option.Rel (fun a b => a.differs b = false) (((routeDelta old new).replay old).get? dest)
      (new.get? dest) := by
  have hsame : ∀ route : OspfRoute, route.differs route = false := by simp [OspfRoute.differs]
  rw [RouteDelta.replay, get?_follow ho hn (fun _ route => some route) fun _ _ _ => Dict.get?_set ..]
  cases hnew : new.get? dest with
  | none =>
    have hnone : (if old.contains dest = true then none else old.get? dest) = none := by
      rw [ite_eq_left_iff, Dict.contains]
      simp
    rw [hnone]
    exact .none
  | some route =>
    dsimp only
    split
    · exact .some (hsame route)
    · rename_i hdiff
      push Not at hdiff
      obtain ⟨r, hold, hr⟩ := hdiff
      rw [hold]
      exact .some (Bool.eq_false_iff.2 hr)

end Keyed

/-- **The table after an update holds the best routes**, in whatever order they come, and the
difference names no destination twice and leads from the old table to the new one. -/
theorem update_selects (table : OspfRoutingTable) (intraRoutes interRoutes externalRoutes : List OspfRoute) :
    let routes := intraRoutes ++ interRoutes ++ externalRoutes
    let table' := (table.update intraRoutes interRoutes externalRoutes).1
    let delta := (table.update intraRoutes interRoutes externalRoutes).2
    (∀ dest, table'.routes.contains dest = true ↔ dest ∈ routes.map OspfRoute.destination) ∧
    (∀ dest route, table'.routes.get? dest = some route → BestRoute routes dest route) ∧
    (∀ intraRoutes' interRoutes' externalRoutes',
      (intraRoutes' ++ interRoutes' ++ externalRoutes').Perm routes → ∀ dest,
        Option.Rel (fun a b => a.rank = b.rank ∧ a.hops = b.hops)
          ((table.update intraRoutes' interRoutes' externalRoutes').1.routes.get? dest)
          (table'.routes.get? dest)) ∧
    ((delta.added ++ delta.changed ++ delta.removed).map OspfRoute.destination).Nodup ∧
    ∀ dest, Option.Rel (fun a b => a.differs b = false) ((delta.replay table.routes).get? dest)
      (table'.routes.get? dest) := by
  intro routes table' delta
  refine ⟨?_, ?_, ?_, ?_, ?_⟩
  · exact fun dest => contains_newRoutes_iff
  · exact fun dest route => bestRoute_of_get?
  · exact fun _ _ _ h => newRoutes_perm h
  · exact routeDelta_nodup table.keyed (newRoutes_keyed routes)
  · exact replay_routeDelta table.keyed (newRoutes_keyed routes)

end Ospfd
