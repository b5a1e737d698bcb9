import Ospfd.Lib.Scan
import Ospfd.Spf.External

/-!
# Which LSAs count

An LSA at MaxAge, with the metric LSInfinity or of this router itself is to have no influence on routes
to other areas and beyond.  Each scan of the database filters on its own.

* `eligibleLsa` — the three filters.
* `interAreaEligible` — **the routes between areas are those of the eligible LSAs**.
* `asbrCostsEligible_iff` — the costs of ASBRs are, where no LSA of this router is cheapest.
* `externalsEligible_iff` — the external routes are, where no ineligible LSA has a reachable ASBR.
-/

namespace Ospfd

/-- The metric of a Summary-LSA or of an AS-external-LSA. -/
def Lsa.metric (lsa : Lsa) : Nat :=
  match lsa.body with
  | some (.summary body) => body.metric
  | some (.external body) => body.metric
  | _ => 0

/-- Below MaxAge, with a metric that is a route, and not of this router. -/
def eligibleLsa (s : Instance) (r : LsaRef) : Bool :=
  ¬expired s r ∧ (s.heap.obj r).metric < lsInfinity ∧ (s.heap.obj r).header.advertisingRouter ≠ s.lsdb.routerId

section Eligible

variable {s : Instance} {r : LsaRef}

theorem eligibleLsa_eq_false_iff : eligibleLsa s r = false ↔ expired s r = true ∨
    lsInfinity ≤ (s.heap.obj r).metric ∨ (s.heap.obj r).header.advertisingRouter = s.lsdb.routerId := by
  rw [eligibleLsa, decide_eq_false_iff_not]
  by_cases hage : expired s r = true
  · simp [hage]
  · simp only [hage, Bool.false_eq_true, not_false_eq_true, true_and, false_or, not_and_or, not_lt, not_not]

/-- A Summary-LSA that is used is below MaxAge and has a metric. -/
theorem summaryOf_eq_some {tree : Dict IPv4Address SpfVertex} {body : SummaryLsa} {abr : SpfVertex}
    (h : summaryOf s tree r = some (body, abr)) :
    expired s r = false ∧ (s.heap.obj r).metric = body.metric ∧ body.metric < lsInfinity := by
  rw [summaryOf] at h
  split at h
  · cases h
  · rename_i hage
    split at h
    · rename_i body' hbody
      split at h
      · cases h
      · rename_i hmetric
        obtain ⟨abr', -, heq⟩ := Option.map_eq_some_iff.1 h
        cases heq
        refine ⟨by simpa using hage, ?_, not_le.1 hmetric⟩
        rw [Lsa.metric, hbody]
    · cases h

/-- Of the Summary-LSAs that are used only those of this router are not eligible. -/
theorem eligibleLsa_of_summaryOf {tree : Dict IPv4Address SpfVertex} {body : SummaryLsa} {abr : SpfVertex}
    (h : summaryOf s tree r = some (body, abr)) :
    eligibleLsa s r = true ↔ (s.heap.obj r).header.advertisingRouter ≠ s.lsdb.routerId := by
  obtain ⟨hage, hmetric, hlt⟩ := summaryOf_eq_some h
  simp [eligibleLsa, hage, hmetric, hlt]

end Eligible

/-! ## Between areas -/

section Scans

variable (s : Instance) (tree : Dict IPv4Address SpfVertex) (areaId : IPv4Address)

/-- The routes to other areas are those of the eligible LSAs. -/
def InterAreaEligible (intraRoutes : List OspfRoute) : Prop :=
  calculateInterAreaRoutes s tree areaId intraRoutes =
    ((s.lsdb.getAllOfType s.heap areaId lsaTypeSummary).filter (eligibleLsa s)).filterMap
      (summaryRoute s tree areaId (intraRoutes.map OspfRoute.destination))

/-- **The routes between areas are those of the eligible LSAs.** -/
theorem interAreaEligible (intraRoutes : List OspfRoute) : InterAreaEligible s tree areaId intraRoutes := by
  refine (filterMap_filter_eq_iff.2 fun r _ hr => ?_).symm
  rw [summaryRoute]
  split
  · rfl
  · rename_i body abr hsum
    have hown : (s.heap.obj r).header.advertisingRouter = s.lsdb.routerId := by
      by_contra hne
      rw [(eligibleLsa_of_summaryOf hsum).2 hne] at hr
      cases hr
    dsimp only
    rw [if_pos hown]

/-! ## ASBRs -/

/-- The costs of ASBRs that the eligible LSAs of an area offer. -/
def eligibleAsbrRoutes : Dict IPv4Address Int :=
  lowestCosts (((s.lsdb.getAllOfType s.heap areaId lsaTypeAsbrSummary).filter (eligibleLsa s)).filterMap
    (asbrOffer s tree))

/-- The costs of ASBRs are those that eligible LSAs offer. -/
def AsbrCostsEligible : Prop :=
  ∀ id, (calculateAsbrRoutes s tree areaId).get? id = (eligibleAsbrRoutes s tree areaId).get? id

/-- Fewer offers make the same least costs exactly if none of the others is cheaper. -/
theorem lowestCosts_congr_iff {xs ys : List (IPv4Address × Int)} (hsub : xs ⊆ ys) :
    (∀ id, (lowestCosts ys).get? id = (lowestCosts xs).get? id) ↔
      ∀ id cost, (id, cost) ∈ ys → ∃ cost' ≤ cost, (id, cost') ∈ xs := by
  constructor
  · intro h id cost hmem
    obtain ⟨least, hleast, hle⟩ := lowestCosts_le hmem
    exact ⟨least, hle, lowestCosts_mem ((h id).symm.trans hleast)⟩
  · intro h id
    cases hleast : (lowestCosts ys).get? id with
    | none =>
      cases hleast' : (lowestCosts xs).get? id with
      | none => rfl
      | some cost =>
        obtain ⟨least, hget, -⟩ := lowestCosts_le (hsub (lowestCosts_mem hleast'))
        rw [hleast] at hget
        cases hget
    | some cost =>
      obtain ⟨cost', hle, hmem⟩ := h id cost (lowestCosts_mem hleast)
      obtain ⟨least, hget, hle'⟩ := lowestCosts_le hmem
      obtain ⟨least', hget', hle''⟩ := lowestCosts_le (hsub (lowestCosts_mem hget))
      rw [hleast] at hget'
      cases hget'
      rw [hget, le_antisymm hle'' (hle'.trans hle)]

/-- A cost of an ASBR that an LSA of the area offers, through a vertex of the tree. -/
def Offered (p : LsaRef → Prop) (asbrId : IPv4Address) (cost : Int) : Prop :=
  ∃ r ∈ s.lsdb.getAllOfType s.heap areaId lsaTypeAsbrSummary, p r ∧ ∃ body abr,
    summaryOf s tree r = some (body, abr) ∧ (s.heap.obj r).header.linkStateId = asbrId ∧
      cost = abr.distance + body.metric

/-- **The costs of ASBRs are those that eligible LSAs offer** exactly if nothing that an LSA of this router
offers is cheaper. -/
theorem asbrCostsEligible_iff :
    AsbrCostsEligible s tree areaId ↔
      ∀ id cost, Offered s tree areaId (fun r => (s.heap.obj r).header.advertisingRouter = s.lsdb.routerId) id cost →
        ∃ cost' ≤ cost, Offered s tree areaId
          (fun r => (s.heap.obj r).header.advertisingRouter ≠ s.lsdb.routerId) id cost' := by
  have hother : ∀ id cost, (id, cost) ∈ ((s.lsdb.getAllOfType s.heap areaId lsaTypeAsbrSummary).filter
      (eligibleLsa s)).filterMap (asbrOffer s tree) ↔ Offered s tree areaId
        (fun r => (s.heap.obj r).header.advertisingRouter ≠ s.lsdb.routerId) id cost := by
    intro id cost
    rw [AsbrSummary.offer, Offered]
    constructor
    · rintro ⟨r, body, abr, hr, hsum, hid, hcost⟩
      obtain ⟨hr, hel⟩ := List.mem_filter.1 hr
      exact ⟨r, hr, (eligibleLsa_of_summaryOf hsum).1 hel, body, abr, hsum, hid, hcost⟩
    · rintro ⟨r, hr, hne, body, abr, hsum, hid, hcost⟩
      exact ⟨r, body, abr, List.mem_filter.2 ⟨hr, (eligibleLsa_of_summaryOf hsum).2 hne⟩, hsum, hid, hcost⟩
  rw [AsbrCostsEligible, calculateAsbrRoutes, eligibleAsbrRoutes, lowestCosts_congr_iff
    ((List.filter_sublist).filterMap _).subset]
  simp only [hother]
  constructor
  · rintro h id cost ⟨r, hr, -, body, abr, hsum, hid, hcost⟩
    exact h id cost (AsbrSummary.offer.2 ⟨r, body, abr, hr, hsum, hid, hcost⟩)
  · intro h id cost hmem
    obtain ⟨r, body, abr, hr, hsum, hid, hcost⟩ := AsbrSummary.offer.1 hmem
    by_cases hown : (s.heap.obj r).header.advertisingRouter = s.lsdb.routerId
    · exact h id cost ⟨r, hr, hown, body, abr, hsum, hid, hcost⟩
    · exact ⟨cost, le_rfl, r, hr, hown, body, abr, hsum, hid, hcost⟩

end Scans

/-! ## Beyond the domain -/

section Externals

variable (s : Instance) (trees : SpfTrees) (asbrCosts : Dict IPv4Address Int)
  (intraRoutes interRoutes : List OspfRoute)

/-- The external routes are those of the eligible LSAs. -/
def ExternalsEligible : Prop :=
  calculateExternalRoutes s trees asbrCosts intraRoutes interRoutes =
    (s.lsdb.getAllExternal.filter (eligibleLsa s)).filterMap
      (externalRoute s trees asbrCosts (intraRoutes ++ interRoutes))

/-- **The external routes are those of the eligible LSAs** exactly if no LSA that is not, and is below
MaxAge, is of a router that something leads to. -/
theorem externalsEligible_iff : ExternalsEligible s trees asbrCosts intraRoutes interRoutes ↔
    ∀ r ∈ s.lsdb.getAllExternal, ∀ body, (s.heap.obj r).body = some (.external body) →
      expired s r = false → (lsInfinity ≤ body.metric ∨
        (s.heap.obj r).header.advertisingRouter = s.lsdb.routerId) →
      Unreachable trees asbrCosts (s.heap.obj r).header.advertisingRouter := by
  rw [ExternalsEligible, eq_comm, calculateExternalRoutes, filterMap_filter_eq_iff]
  refine forall₂_congr fun r _ => ?_
  rw [eligibleLsa_eq_false_iff, externalRoute]
  constructor
  · intro h body hbody hage hinel
    have hmetric : (s.heap.obj r).metric = body.metric := by rw [Lsa.metric, hbody]
    have hnone := h (Or.inr (by rwa [hmetric]))
    rw [hage, if_neg Bool.false_ne_true, hbody] at hnone
    exact asbrPath_eq_none_iff.1 (Option.map_eq_none_iff.1 hnone)
  · intro h hinel
    split
    · rfl
    · rename_i hage
      split
      · rename_i body hbody
        have hmetric : (s.heap.obj r).metric = body.metric := by rw [Lsa.metric, hbody]
        rw [hmetric] at hinel
        rw [asbrPath_eq_none_iff.2 (h body hbody (by simpa using hage) (hinel.resolve_left hage))]
        rfl
      · rfl

end Externals

end Ospfd
