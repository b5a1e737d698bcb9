import Ospfd.Spf.Eligible
import Ospfd.Sr.Database

/-!
# Which LSAs count, with segment routing

The SR database is rebuilt from all opaque LSAs of an area, whatever their age.

* `YoungSuffice` — the LSAs of a router at MaxAge add nothing.
* `nodesEligible_iff` — **the SR database is that of the LSAs below MaxAge exactly if they suffice for
  each router**.
* `eligible_iff` — the four scans together.
-/

namespace Ospfd

/-- Below MaxAge. -/
def young (s : Instance) (lsa : Lsa) : Bool := lsa.currentAge s.now < maxAge

namespace SrDatabase

/-- The database of the opaque LSAs of an area that are below MaxAge. -/
def ofYoung (s : Instance) (areaId : IPv4Address) : SrDatabase :=
  ((opaqueLsas s.lsdb s.heap areaId).filter (young s)).foldl readLsa {}

/-- Each router has the entry that the LSAs below MaxAge make. -/
def NodesEligible (s : Instance) (db : SrDatabase) (areaId : IPv4Address) : Prop :=
  ∀ routerId, (db.rebuild s.lsdb s.heap areaId).getNode routerId = (ofYoung s areaId).getNode routerId

/-- Of the LSAs of a router those at MaxAge add nothing: another one is there, they have no SIDs, and
the SRGB and the algorithms that count are the same without them. -/
structure YoungSuffice (s : Instance) (lsas : List Lsa) : Prop where
  other : lsas ≠ [] → ∃ lsa ∈ lsas, young s lsa = true
  nodeSids : ∀ lsa ∈ lsas, young s lsa = false → NodeSrInfo.sidsOf lsa = []
  adjSids : ∀ lsa ∈ lsas, young s lsa = false → NodeSrInfo.adjSidsOf lsa = []
  srgb : (lsas.filter (young s)).reverse.findSome? NodeSrInfo.srgbOf =
    lsas.reverse.findSome? NodeSrInfo.srgbOf
  algorithms : ((lsas.filter (young s)).reverse.findSome? NodeSrInfo.algorithmsOf).getD [srAlgSpf] =
    (lsas.reverse.findSome? NodeSrInfo.algorithmsOf).getD [srAlgSpf]

section Nodes

variable {s : Instance} {lsas : List Lsa} {routerId : IPv4Address}

/-- Two nodes read from LSAs agree exactly if what counts in the LSAs does. -/
theorem readLsas_inj {lsas' : List Lsa} {node : NodeSrInfo} :
    lsas'.foldl NodeSrInfo.readLsa node = lsas.foldl NodeSrInfo.readLsa node ↔
      (lsas'.reverse.findSome? NodeSrInfo.srgbOf).or node.srgb =
          (lsas.reverse.findSome? NodeSrInfo.srgbOf).or node.srgb ∧
        (lsas'.reverse.findSome? NodeSrInfo.algorithmsOf).getD node.algorithms =
          (lsas.reverse.findSome? NodeSrInfo.algorithmsOf).getD node.algorithms ∧
        lsas'.flatMap NodeSrInfo.sidsOf = lsas.flatMap NodeSrInfo.sidsOf ∧
        lsas'.flatMap NodeSrInfo.adjSidsOf = lsas.flatMap NodeSrInfo.adjSidsOf := by
  rw [NodeSrInfo.mk.injEq, NodeSrInfo.routerId_foldl, NodeSrInfo.routerId_foldl, NodeSrInfo.srgb_foldl,
    NodeSrInfo.srgb_foldl, NodeSrInfo.algorithms_foldl, NodeSrInfo.algorithms_foldl,
    NodeSrInfo.nodeSids_foldl, NodeSrInfo.nodeSids_foldl, NodeSrInfo.adjSids_foldl,
    NodeSrInfo.adjSids_foldl, List.append_cancel_left_eq, List.append_cancel_left_eq]
  exact and_iff_right rfl

theorem nodeOf_eq (lsas : List Lsa) : nodeOf routerId lsas none =
    if lsas = [] then none else some (lsas.foldl NodeSrInfo.readLsa { routerId }) := by
  cases lsas with
  | nil => rfl
  | cons lsa lsas => exact nodeOf_cons ..

/-- The LSAs below MaxAge make the same entry exactly if they suffice. -/
theorem nodeOf_young_iff (routerId : IPv4Address) :
    nodeOf routerId lsas none = nodeOf routerId (lsas.filter (young s)) none ↔ YoungSuffice s lsas := by
  rw [nodeOf_eq, nodeOf_eq]
  by_cases hnil : lsas = []
  · subst hnil
    simp only [List.filter_nil, if_true, true_iff]
    exact ⟨fun h => absurd rfl h, by simp, by simp, rfl, rfl⟩
  · have hyoung : lsas.filter (young s) = [] ↔ ¬∃ lsa ∈ lsas, young s lsa = true := by
      simp [List.filter_eq_nil_iff]
    rw [if_neg hnil]
    by_cases hother : ∃ lsa ∈ lsas, young s lsa = true
    · rw [if_neg fun h => hyoung.1 h hother, Option.some_inj, eq_comm, readLsas_inj, flatMap_filter_eq_iff,
        flatMap_filter_eq_iff, Option.or_none, Option.or_none]
      constructor
      · rintro ⟨hsrgb, halgorithms, hsids, hadj⟩
        exact ⟨fun _ => hother, hsids, hadj, hsrgb, halgorithms⟩
      · rintro ⟨-, hsids, hadj, hsrgb, halgorithms⟩
        exact ⟨hsrgb, halgorithms, hsids, hadj⟩
    · rw [if_pos (hyoung.2 hother)]
      exact ⟨fun h => (Option.some_ne_none _ h).elim, fun h => absurd (h.other hnil) hother⟩

end Nodes

/-- **The SR database is that of the LSAs below MaxAge** exactly if they suffice for each router. -/
theorem nodesEligible_iff {s : Instance} {db : SrDatabase} {areaId : IPv4Address} :
    NodesEligible s db areaId ↔
      ∀ routerId, YoungSuffice s (advertised s.lsdb s.heap areaId routerId) := by
  refine forall_congr' fun routerId => ?_
  rw [getNode_rebuild, ofYoung, getNode_foldl, ← nodeOf_young_iff routerId, advertised,
    List.filter_comm]
  rfl

end SrDatabase

/-- **Ineligible LSAs never influence routing** between areas; elsewhere exactly if nothing that this
router offers is cheaper, no such LSA has an ASBR that something leads to, and the opaque LSAs below
MaxAge suffice. -/
theorem eligible_iff (s : Instance) :
    (∀ tree areaId intraRoutes, InterAreaEligible s tree areaId intraRoutes) ∧
    (∀ tree areaId, AsbrCostsEligible s tree areaId ↔ ∀ id cost,
      Offered s tree areaId (fun r => (s.heap.obj r).header.advertisingRouter = s.lsdb.routerId) id cost →
        ∃ cost' ≤ cost, Offered s tree areaId
          (fun r => (s.heap.obj r).header.advertisingRouter ≠ s.lsdb.routerId) id cost') ∧
    (∀ trees asbrCosts intraRoutes interRoutes,
      ExternalsEligible s trees asbrCosts intraRoutes interRoutes ↔
        ∀ r ∈ s.lsdb.getAllExternal, ∀ body, (s.heap.obj r).body = some (.external body) →
          expired s r = false → (lsInfinity ≤ body.metric ∨
            (s.heap.obj r).header.advertisingRouter = s.lsdb.routerId) →
          Unreachable trees asbrCosts (s.heap.obj r).header.advertisingRouter) ∧
    ∀ db areaId, SrDatabase.NodesEligible s db areaId ↔
      ∀ routerId, SrDatabase.YoungSuffice s (SrDatabase.advertised s.lsdb s.heap areaId routerId) :=
  ⟨interAreaEligible s, asbrCostsEligible_iff s, externalsEligible_iff s,
    fun _ _ => SrDatabase.nodesEligible_iff⟩

/-! ### A destination that was withdrawn -/

/-- Router 1 with an AS-external-LSA of router 2 that has the metric LSInfinity. -/
def withdrawnRouter : Instance :=
  { externalRouter 2 with
    heap := { obj := fun _ => { asExternalLsa 2 with
                body := some (.external { networkMask := 4278190080, eBit := true, metric := lsInfinity,
                                          forwardingAddress := 0, externalRouteTag := 0 }) }
              next := 2 } }

/-- Router 2 is in the tree, so that the destination has a route. -/
theorem not_eligible : ¬∀ s : Instance,
    (∀ tree areaId intraRoutes, InterAreaEligible s tree areaId intraRoutes) ∧
    (∀ tree areaId, AsbrCostsEligible s tree areaId) ∧
    (∀ trees asbrCosts intraRoutes interRoutes,
      ExternalsEligible s trees asbrCosts intraRoutes interRoutes) ∧
    ∀ db areaId, SrDatabase.NodesEligible s db areaId := by
  intro h
  obtain ⟨-, -, hexternal, -⟩ := h withdrawnRouter
  obtain ⟨hnone, -⟩ := (externalsEligible_iff withdrawnRouter borderTree Dict.empty [] []).1
    (hexternal ..) 1 (List.mem_singleton.2 rfl) _ rfl rfl (Or.inl le_rfl)
  exact absurd hnone (by decide)

end Ospfd
