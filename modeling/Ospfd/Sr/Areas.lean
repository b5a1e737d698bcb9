import Ospfd.Spf.Nexthops
import Ospfd.Sr.Spf

/-!
# SR routes by area

* `runSpfSr` — the SR part of a run of SPF: one database, rebuilt for each area, then the routes of all
  trees.
* `getNode_runSpfSr` — **the last area is what the database holds**.
* `srRoutesPerArea_iff` — **the routes of an area are its own exactly if the last area advertises the
  same labels**.
-/

namespace Ospfd

/-! ## The run -/

/-- The trees of the areas, as a run of SPF computes them. -/
structure RunTrees (s : Instance) (trees : SpfTrees) : Prop where
  keys : trees.keys = s.areas.keys
  tree : ∀ areaId tree, trees.get? areaId = some tree → ∃ fuel, calculate s areaId fuel = some tree

/-- The SR part of `_run_spf`. -/
def runSpfSr (s : Instance) (srDb : SrDatabase) (trees : SpfTrees) :
    SrDatabase × Dict IPv4Address (List SrRoute) :=
  let srDb := s.areas.keys.foldl (fun db areaId => db.rebuild s.lsdb s.heap areaId) srDb
  (srDb, trees.map fun tree => computeSrRoutes tree srDb)

/-- The database of an area. -/
def areaSrDb (s : Instance) (areaId : IPv4Address) : SrDatabase :=
  ({} : SrDatabase).rebuild s.lsdb s.heap areaId

/-- The routes of each area are those of its own database. -/
def SrRoutesPerArea (s : Instance) (srDb : SrDatabase) (trees : SpfTrees) : Prop :=
  ∀ areaId tree, trees.get? areaId = some tree →
    (runSpfSr s srDb trees).2.get? areaId = some (computeSrRoutes tree (areaSrDb s areaId))

/-- **The last area is what the database holds.** -/
theorem runSpfSr_db {s : Instance} {last : IPv4Address} (h : s.areas.keys.getLast? = some last)
    (srDb : SrDatabase) (trees : SpfTrees) : (runSpfSr s srDb trees).1 = areaSrDb s last := by
  obtain ⟨areas, hareas⟩ := List.getLast?_eq_some_iff.1 h
  rw [runSpfSr, hareas]
  simp only [List.foldl_append, List.foldl_cons, List.foldl_nil]
  exact SrDatabase.rebuild_eq ..

/-! ## Routes and labels -/

/-- The labels of the SIDs of a node, seen from a vertex. -/
def srLabels (vertex : SpfVertex) : Option NodeSrInfo → List (IPv4Network × Nat)
  | none => []
  | some node => node.nodeSids.filterMap fun x => (computeOutgoingLabel vertex x.2 node).map fun label =>
      (x.1, label)

/-- A route with a label. -/
def srRoute (id : IPv4Address) (vertex : SpfVertex) (x : IPv4Network × Nat) (nexthop : SpfNexthop) :
    SrRoute :=
  { destination := x.1, nexthopIp := nexthop.nextHopIp, nexthopIntf := nexthop.interfaceName,
    outgoingLabel := x.2, destRouterId := id, metric := vertex.distance }

/-- The routes to a vertex, from the labels. -/
def routesOf (db : SrDatabase) (x : IPv4Address × SpfVertex) : List SrRoute :=
  (srLabels x.2 (db.getNode x.1)).flatMap fun l => x.2.nexthops.map (srRoute x.1 x.2 l)

theorem srRoutesTo_eq (id : IPv4Address) (vertex : SpfVertex) (node : NodeSrInfo) :
    srRoutesTo id vertex node =
      (srLabels vertex (some node)).flatMap fun l => vertex.nexthops.map (srRoute id vertex l) := by
  rw [srRoutesTo, srLabels]
  induction node.nodeSids with
  | nil => rfl
  | cons x sids ih =>
    rw [List.flatMap_cons, ih, List.filterMap_cons]
    cases computeOutgoingLabel vertex x.2 node with
    | none => rfl
    | some label => rfl

theorem computeSrRoutes_eq (tree : Dict IPv4Address SpfVertex) (db : SrDatabase) :
    computeSrRoutes tree db = tree.entries.flatMap (routesOf db) := by
  rw [computeSrRoutes]
  congr 1
  funext x
  rw [routesOf]
  cases db.getNode x.1 with
  | none => rfl
  | some node => exact srRoutesTo_eq x.1 x.2 node

/-- The same copies were made of the same list. -/
theorem flatMap_map_injective {α β γ : Type} {f : α → β → γ} {hs : List β} (hne : hs ≠ [])
    (hf : ∀ x y h, f x h = f y h → x = y) : ∀ {xs ys : List α},
      (xs.flatMap fun x => hs.map (f x)) = (ys.flatMap fun y => hs.map (f y)) → xs = ys := by
  obtain ⟨h, hs, rfl⟩ := List.exists_cons_of_ne_nil hne
  intro xs
  induction xs with
  | nil =>
    rintro (_ | ⟨y, ys⟩) heq
    · rfl
    · cases heq
  | cons x xs ih =>
    rintro (_ | ⟨y, ys⟩) heq
    · cases heq
    · simp only [List.flatMap_cons] at heq
      obtain ⟨hhead, htail⟩ := List.append_inj heq (by rw [List.length_map, List.length_map])
      rw [hf x y h (List.cons.inj hhead).1, ih htail]

theorem destRouterId_of_mem_routesOf {db : SrDatabase} {x : IPv4Address × SpfVertex} {route : SrRoute}
    (h : route ∈ routesOf db x) : route.destRouterId = x.1 := by
  obtain ⟨l, -, hroute⟩ := List.mem_flatMap.1 h
  obtain ⟨nexthop, -, rfl⟩ := List.mem_map.1 hroute
  rfl

/-- The routes to one vertex among all routes. -/
theorem filter_routes {db : SrDatabase} {id : IPv4Address} {vertex : SpfVertex}
    {entries : List (IPv4Address × SpfVertex)} (hnodup : (entries.map Prod.fst).Nodup)
    (hmem : (id, vertex) ∈ entries) :
    (entries.flatMap (routesOf db)).filter (fun r => r.destRouterId = id) = routesOf db (id, vertex) := by
  induction entries with
  | nil => cases hmem
  | cons x entries ih =>
    rw [List.map_cons, List.nodup_cons] at hnodup
    rw [List.flatMap_cons, List.filter_append]
    rcases List.mem_cons.1 hmem with rfl | hmem
    · have hown : (routesOf db (id, vertex)).filter (fun r => r.destRouterId = id) =
          routesOf db (id, vertex) :=
        List.filter_eq_self.2 fun r hr => by simpa using destRouterId_of_mem_routesOf hr
      have hrest : (entries.flatMap (routesOf db)).filter (fun r => r.destRouterId = id) = [] := by
        refine List.filter_eq_nil_iff.2 fun r hr => ?_
        obtain ⟨y, hy, hroute⟩ := List.mem_flatMap.1 hr
        rw [destRouterId_of_mem_routesOf hroute]
        simp only [decide_eq_true_eq]
        intro hid
        have hin : y.1 ∈ entries.map Prod.fst := List.mem_map_of_mem hy
        exact hnodup.1 (hid ▸ hin)
      rw [hown, hrest, List.append_nil]
    · have hother : (routesOf db x).filter (fun r => r.destRouterId = id) = [] := by
        refine List.filter_eq_nil_iff.2 fun r hr => ?_
        rw [destRouterId_of_mem_routesOf hr]
        simp only [decide_eq_true_eq]
        intro hx
        exact hnodup.1 (hx ▸ List.mem_map_of_mem hmem)
      rw [hother, List.nil_append, ih hnodup.2 hmem]

/-- **The routes of a tree determine the labels** of each vertex with next hops. -/
theorem computeSrRoutes_inj {tree : Dict IPv4Address SpfVertex} {db db' : SrDatabase} :
    computeSrRoutes tree db = computeSrRoutes tree db' ↔ ∀ id vertex, tree.get? id = some vertex →
      vertex.nexthops ≠ [] → srLabels vertex (db.getNode id) = srLabels vertex (db'.getNode id) := by
  rw [computeSrRoutes_eq, computeSrRoutes_eq]
  constructor
  · intro heq id vertex hvertex hne
    have hmem := Dict.mem_entries_iff.2 hvertex
    have hroutes : routesOf db (id, vertex) = routesOf db' (id, vertex) := by
      rw [← filter_routes tree.nodup hmem, ← filter_routes tree.nodup hmem, heq]
    refine flatMap_map_injective (f := srRoute id vertex) hne (fun x y h hxy => ?_) hroutes
    rw [srRoute, srRoute, SrRoute.mk.injEq] at hxy
    exact Prod.ext hxy.1 hxy.2.2.2.1
  · intro hall
    have hone : ∀ x ∈ tree.entries, routesOf db x = routesOf db' x := by
      rintro ⟨id, vertex⟩ hmem
      by_cases hne : vertex.nexthops = []
      · have hnil : ∀ db, routesOf db (id, vertex) = [] := fun db => by simp [routesOf, hne]
        rw [hnil, hnil]
      · rw [routesOf, routesOf, hall id vertex (Dict.mem_entries_iff.1 hmem) hne]
    rw [List.flatMap_congr hone]

/-! ## The areas -/

/-- **The routes of an area are its own exactly if the last area advertises the same labels** for
each router that is reached. -/
theorem srRoutesPerArea_iff {s : Instance} {trees : SpfTrees} (h : RunTrees s trees) (srDb : SrDatabase) :
    SrRoutesPerArea s srDb trees ↔ ∀ areaId tree, trees.get? areaId = some tree →
      ∀ last, s.areas.keys.getLast? = some last → ∀ id vertex, tree.get? id = some vertex →
        vertex.nexthops ≠ [] →
          srLabels vertex (SrDatabase.nodeOf id (SrDatabase.advertised s.lsdb s.heap last id) none) =
            srLabels vertex (SrDatabase.nodeOf id (SrDatabase.advertised s.lsdb s.heap areaId id) none) := by
  have hget : ∀ areaId tree, trees.get? areaId = some tree →
      (runSpfSr s srDb trees).2.get? areaId = some (computeSrRoutes tree (runSpfSr s srDb trees).1) := by
    intro areaId tree htree
    rw [runSpfSr, Dict.get?_map, htree]
    rfl
  refine forall_congr' fun areaId => forall_congr' fun tree => forall_congr' fun htree => ?_
  -- there is an area, so there is a last one
  have hkey : areaId ∈ s.areas.keys := by
    rw [← h.keys, Dict.mem_keys_iff, htree]
    rfl
  obtain ⟨last, hlast⟩ : ∃ last, s.areas.keys.getLast? = some last :=
    Option.isSome_iff_exists.1 (List.getLast?_isSome.2 (List.ne_nil_of_mem hkey))
  rw [hget areaId tree htree, runSpfSr_db hlast, Option.some_inj, computeSrRoutes_inj, hlast]
  simp only [areaSrDb, SrDatabase.getNode_rebuild, Option.some.injEq, forall_eq']

/-! ### Two areas -/

/-- An opaque LSA of router 2 with an absolute label for 192.168.1.1/32. -/
def labelLsa : Lsa where
  header := ⟨0, 0, lsaTypeOpaqueArea, makeOpaqueLsaId opaqueTypeExtendedPrefix 1, 2, initialSeqNum, 0, 44⟩
  body := some (.raw [0, 1, 0, 20, 1, 32, 0, 64, 192, 168, 1, 1, 0, 2, 0, 7, 72, 0, 0, 0, 0, 0, 100, 0])

/-- Router 1 with router 2 as a full neighbor, and the label of router 2. -/
def labelledArea : Instance :=
  { adjacentArea with
    heap := { obj := fun r => if r = 2 then labelLsa else adjacentArea.heap.obj r, next := 3 }
    lsdb := { adjacentArea.lsdb with
      areas := Dict.empty.set backboneArea (twoRouterArea.partition.set labelLsa.key 2) } }

/-- The same with an area that has no LSAs. -/
def emptiedArea : Instance :=
  { labelledArea with areas := labelledArea.areas.set 1 { areaId := 1, interfaces := [] } }

def treeOf (s : Instance) (areaId : IPv4Address) : Dict IPv4Address SpfVertex :=
  (calculate s areaId 10).getD Dict.empty

/-- One more tree. -/
theorem ran_set {s : Instance} {areaId : IPv4Address} {trees : SpfTrees}
    (h : (calculate s areaId 10).isSome = true)
    (hrest : ∀ a tree, trees.get? a = some tree → ∃ fuel, calculate s a fuel = some tree) :
    ∀ a tree, (trees.set areaId (treeOf s areaId)).get? a = some tree →
      ∃ fuel, calculate s a fuel = some tree := by
  intro a tree htree
  rw [Dict.get?_set] at htree
  split at htree
  · rename_i hid
    obtain ⟨tree', htree'⟩ := Option.isSome_iff_exists.1 h
    rw [treeOf, htree', Option.getD_some] at htree
    exact ⟨10, by rw [← hid, htree', htree]⟩
  · exact hrest a tree htree

theorem ran_empty {s : Instance} : ∀ a tree, (Dict.empty : SpfTrees).get? a = some tree →
    ∃ fuel, calculate s a fuel = some tree := by
  intro a tree h
  cases h

/-- With one area the last area is the area itself. -/
theorem srRoutesPerArea_labelledArea : SrRoutesPerArea labelledArea {}
    (Dict.empty.set backboneArea (treeOf labelledArea backboneArea)) := by
  have hrun : RunTrees labelledArea (Dict.empty.set backboneArea (treeOf labelledArea backboneArea)) :=
    ⟨rfl, ran_set (by decide +kernel) ran_empty⟩
  refine (srRoutesPerArea_iff hrun {}).2 fun areaId tree htree last hlast id vertex _ _ => ?_
  rw [Dict.get?_set] at htree
  split at htree
  · rename_i hid
    have hone : last = backboneArea := (Option.some.inj hlast).symm
    rw [hone, hid]
  · cases htree

/-- The label of router 2 is lost, since the other area comes last. -/
theorem not_srRoutesPerArea : ¬∀ (s : Instance) (srDb : SrDatabase) (trees : SpfTrees),
    RunTrees s trees → SrRoutesPerArea s srDb trees := by
  intro hall
  let trees : SpfTrees := (Dict.empty.set backboneArea (treeOf emptiedArea backboneArea)).set 1
    (treeOf emptiedArea 1)
  have hrun : RunTrees emptiedArea trees :=
    ⟨rfl, ran_set (by decide +kernel) (ran_set (by decide +kernel) ran_empty)⟩
  have hroutes := hall emptiedArea {} trees hrun backboneArea _ rfl
  have hlost : ((runSpfSr emptiedArea {} trees).2.get? backboneArea).map List.length = some 0 := by
    decide +kernel
  have hown : (computeSrRoutes (treeOf emptiedArea backboneArea)
      (areaSrDb emptiedArea backboneArea)).length = 1 := by decide +kernel
  rw [hroutes, Option.map_some, hown] at hlost
  cases hlost

end Ospfd
