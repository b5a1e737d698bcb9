import Ospfd.Sr.Database

/-!
# Labels after SPF

* `computeSrRoutes` — the routes with labels to the routers of a tree.
* `SrRouteFor` — the vertex and the Prefix-SID that a route is computed for.
* `SpfVertex.nextHopRouter` — the first router on the path to a vertex.
* `labelsExpected_iff` — **the labels are those the next hops expect exactly if each next hop has
  the SRGB that the destination has**.
-/

namespace Ospfd

/-! ## The computation -/

def mplsLabelImplicitNull : Nat := 3

/-- A route with a label. -/
structure SrRoute where
  destination : IPv4Network
  nexthopIp : IPv4Address
  nexthopIntf : IntfId
  outgoingLabel : Nat
  destRouterId : IPv4Address
  metric : Int
  deriving DecidableEq, Repr

/-- `_compute_outgoing_label`: the label from the SRGB of the destination, and implicit null before
the last hop, unless that is ruled out.  Only 0.0.0.0 counts as the hop before the last. -/
def computeOutgoingLabel (vertex : SpfVertex) (psid : PrefixSid) (destNode : NodeSrInfo) : Option Nat :=
  match destNode.labelForPrefixSid psid with
  | none => none
  | some incomingLabel =>
      if psid.noPhp then some incomingLabel
      else
        match vertex.parent with
        | none => none
        | some parent =>
            if parent.vertexId = zeroAddr then some mplsLabelImplicitNull else some incomingLabel

/-- The routes to a vertex. -/
def srRoutesTo (vertexId : IPv4Address) (vertex : SpfVertex) (node : NodeSrInfo) : List SrRoute :=
  node.nodeSids.flatMap fun x =>
    match computeOutgoingLabel vertex x.2 node with
    | none => []
    | some label => vertex.nexthops.map fun nexthop =>
        { destination := x.1, nexthopIp := nexthop.nextHopIp, nexthopIntf := nexthop.interfaceName,
          outgoingLabel := label, destRouterId := vertexId, metric := vertex.distance }

/-- `compute_sr_routes` -/
def computeSrRoutes (tree : Dict IPv4Address SpfVertex) (db : SrDatabase) : List SrRoute :=
  tree.entries.flatMap fun x =>
    match db.getNode x.1 with
    | none => []
    | some node => srRoutesTo x.1 x.2 node

/-- The route was computed for a vertex and a Prefix-SID. -/
structure SrRouteFor (tree : Dict IPv4Address SpfVertex) (db : SrDatabase) (vertex : SpfVertex)
    (psid : PrefixSid) (route : SrRoute) : Prop where
  reached : tree.get? route.destRouterId = some vertex
  label : ∃ node, db.getNode route.destRouterId = some node ∧
    (route.destination, psid) ∈ node.nodeSids ∧
    computeOutgoingLabel vertex psid node = some route.outgoingLabel
  nexthop : ∃ nexthop ∈ vertex.nexthops, route.nexthopIp = nexthop.nextHopIp ∧
    route.nexthopIntf = nexthop.interfaceName
  metric : route.metric = vertex.distance

section Routes

variable {tree : Dict IPv4Address SpfVertex} {db : SrDatabase}

theorem mem_srRoutesTo {id : IPv4Address} {vertex : SpfVertex} {node : NodeSrInfo} {route : SrRoute} :
    route ∈ srRoutesTo id vertex node ↔ ∃ psid label, (route.destination, psid) ∈ node.nodeSids ∧
      computeOutgoingLabel vertex psid node = some label ∧ ∃ nexthop ∈ vertex.nexthops,
        route = { destination := route.destination, nexthopIp := nexthop.nextHopIp,
                  nexthopIntf := nexthop.interfaceName, outgoingLabel := label, destRouterId := id,
                  metric := vertex.distance } := by
  rw [srRoutesTo, List.mem_flatMap]
  constructor
  · rintro ⟨⟨net, psid⟩, hmem, hroute⟩
    split at hroute
    · cases hroute
    · rename_i label hlabel
      obtain ⟨nexthop, hnexthop, rfl⟩ := List.mem_map.1 hroute
      exact ⟨psid, label, hmem, hlabel, nexthop, hnexthop, rfl⟩
  · rintro ⟨psid, label, hmem, hlabel, nexthop, hnexthop, hroute⟩
    refine ⟨_, hmem, ?_⟩
    simp only [hlabel]
    exact List.mem_map.2 ⟨nexthop, hnexthop, hroute.symm⟩

/-- **What is computed**, one route at a time. -/
theorem mem_computeSrRoutes {route : SrRoute} :
    route ∈ computeSrRoutes tree db ↔ ∃ vertex psid, SrRouteFor tree db vertex psid route := by
  rw [computeSrRoutes, List.mem_flatMap]
  constructor
  · rintro ⟨⟨id, vertex⟩, hmem, hroute⟩
    split at hroute
    · cases hroute
    · rename_i node hnode
      obtain ⟨psid, label, hsid, hlabel, nexthop, hnexthop, heq⟩ := mem_srRoutesTo.1 hroute
      rw [heq]
      exact ⟨vertex, psid, Dict.mem_entries_iff.1 hmem, ⟨node, hnode, hsid, hlabel⟩,
        ⟨nexthop, hnexthop, rfl, rfl⟩, rfl⟩
  · rintro ⟨vertex, psid, hvertex, ⟨node, hnode, hsid, hlabel⟩, ⟨nexthop, hnexthop, hip, hintf⟩,
      hmetric⟩
    refine ⟨(route.destRouterId, vertex), Dict.mem_entries_iff.2 hvertex, ?_⟩
    simp only [hnode]
    refine mem_srRoutesTo.2 ⟨psid, _, hsid, hlabel, nexthop, hnexthop, ?_⟩
    rw [← hip, ← hintf, ← hmetric]

/-! ## The next hop -/

/-- The first router behind the root on the path to a vertex. -/
def SpfVertex.nextHopRouter : SpfVertex → Option IPv4Address
  | { vertexId, vertexType, parent, .. } =>
      match parent with
      | none => none
      | some p =>
          match p.nextHopRouter with
          | some r => some r
          | none => if vertexType = .router then some vertexId else none

/-- The SRGB of the next hop. -/
def SrDatabase.hopSrgb (db : SrDatabase) (vertex : SpfVertex) : Option SidLabelRange :=
  vertex.nextHopRouter.bind fun r => (db.getNode r).bind NodeSrInfo.srgb

/-- The hop before the last is to pop the label, as far as the code sees it. -/
def PopsBefore (vertex : SpfVertex) (psid : PrefixSid) : Prop :=
  psid.noPhp = false ∧ ∃ parent, vertex.parent = some parent ∧ parent.vertexId = zeroAddr

/-- **The label of a SID**: that of the destination's SRGB, or implicit null; no label for the root
unless popping is ruled out. -/
theorem computeOutgoingLabel_eq_some {vertex : SpfVertex} {psid : PrefixSid} {node : NodeSrInfo}
    {label : Nat} : computeOutgoingLabel vertex psid node = some label ↔
      (psid.noPhp = true ∨ vertex.parent.isSome) ∧ ∃ incoming,
        node.labelForPrefixSid psid = some incoming ∧
          (PopsBefore vertex psid ∧ label = mplsLabelImplicitNull ∨
            ¬PopsBefore vertex psid ∧ label = incoming) := by
  rw [computeOutgoingLabel]
  cases node.labelForPrefixSid psid with
  | none => simp
  | some incoming =>
    cases hphp : psid.noPhp with
    | true =>
      have hpop : ¬PopsBefore vertex psid := by
        rintro ⟨h, -⟩
        rw [hphp] at h
        cases h
      simp [hpop, eq_comm (a := incoming)]
    | false =>
      cases hparent : vertex.parent with
      | none => simp
      | some parent =>
        have hpop : PopsBefore vertex psid ↔ parent.vertexId = zeroAddr := by
          simp [PopsBefore, hphp, hparent]
        by_cases hzero : parent.vertexId = zeroAddr
        · simp [hpop, hzero, eq_comm (a := mplsLabelImplicitNull)]
        · simp [hpop, hzero, eq_comm (a := incoming)]

/-- An index is a label where the SRGB has it inside. -/
theorem labelForPrefixSid_index {node : NodeSrInfo} {psid : PrefixSid} {label : Nat}
    (h : psid.isValue = false) : node.labelForPrefixSid psid = some label ↔
      ∃ r, node.srgb = some r ∧ r.contains psid.sid = true ∧ label = r.labelForIndex psid.sid := by
  have hv : ¬psid.flags &&& prefixSidFlagV ≠ 0 := by simpa [PrefixSid.isValue] using h
  rw [NodeSrInfo.labelForPrefixSid, if_neg hv]
  cases node.srgb with
  | none => simp
  | some r => simp [eq_comm (a := r.labelForIndex psid.sid)]

theorem labelForPrefixSid_value {node : NodeSrInfo} {psid : PrefixSid} (h : psid.isValue = true) :
    node.labelForPrefixSid psid = some psid.sid := by
  have hv : psid.flags &&& prefixSidFlagV ≠ 0 := by simpa [PrefixSid.isValue] using h
  rw [NodeSrInfo.labelForPrefixSid, if_pos hv]

/-! ### Labels that are expected -/

/-- **The label is the one the next hop expects**: its SRGB is known, and an index is inside and
added to its start, unless the label is implicit null. -/
def Expects (hop : Option SidLabelRange) (psid : PrefixSid) (label : Nat) : Prop :=
  ∃ r, hop = some r ∧ (psid.isValue = false → r.contains psid.sid = true ∧
    (label ≠ mplsLabelImplicitNull → label = r.labelForIndex psid.sid))

/-- Every route has the label its next hop expects. -/
def LabelsExpected (tree : Dict IPv4Address SpfVertex) (db : SrDatabase) : Prop :=
  ∀ vertex psid route, SrRouteFor tree db vertex psid route →
    Expects (db.hopSrgb vertex) psid route.outgoingLabel

/-- The SRGB of the next hop is known, has an index inside where that of the destination has, and
starts where that one does, unless the label is implicit null. -/
def HopShares (hop : Option SidLabelRange) (vertex : SpfVertex) (psid : PrefixSid)
    (own : Option SidLabelRange) : Prop :=
  if psid.isValue then ∃ r, hop = some r
  else ∀ r, own = some r → r.contains psid.sid = true →
    ∃ r', hop = some r' ∧ r'.contains psid.sid = true ∧
      (r'.start = r.start ∨ r.labelForIndex psid.sid = mplsLabelImplicitNull ∨ PopsBefore vertex psid)

/-- Each vertex with next hops shares the SRGB of its next hop, as far as its SIDs are used. -/
def HopsShareSrgb (tree : Dict IPv4Address SpfVertex) (db : SrDatabase) : Prop :=
  ∀ id vertex node net psid, tree.get? id = some vertex → vertex.nexthops ≠ [] →
    db.getNode id = some node → (net, psid) ∈ node.nodeSids →
      (psid.noPhp = true ∨ vertex.parent.isSome) →
        HopShares (db.hopSrgb vertex) vertex psid node.srgb

/-- One SID of a vertex. -/
theorem hopShares_iff {hop : Option SidLabelRange} {vertex : SpfVertex} {psid : PrefixSid}
    {node : NodeSrInfo} (h : psid.noPhp = true ∨ vertex.parent.isSome) :
    (∀ label, computeOutgoingLabel vertex psid node = some label → Expects hop psid label) ↔
      HopShares hop vertex psid node.srgb := by
  simp only [computeOutgoingLabel_eq_some, h, true_and]
  cases hv : psid.isValue with
  | true =>
    simp only [HopShares, Expects, hv, if_true, labelForPrefixSid_value hv]
    constructor
    · intro hall
      by_cases hpop : PopsBefore vertex psid
      · obtain ⟨r, hr, -⟩ := hall _ ⟨psid.sid, rfl, Or.inl ⟨hpop, rfl⟩⟩
        exact ⟨r, hr⟩
      · obtain ⟨r, hr, -⟩ := hall _ ⟨psid.sid, rfl, Or.inr ⟨hpop, rfl⟩⟩
        exact ⟨r, hr⟩
    · rintro ⟨r, hr⟩ label -
      exact ⟨r, hr, by rintro ⟨⟩⟩
  | false =>
    simp only [HopShares, Expects, hv, Bool.false_eq_true, if_false, labelForPrefixSid_index hv,
      true_implies]
    constructor
    · intro hall r hr hin
      by_cases hpop : PopsBefore vertex psid
      · obtain ⟨r', hr', hin', -⟩ := hall _ ⟨_, ⟨r, hr, hin, rfl⟩, Or.inl ⟨hpop, rfl⟩⟩
        exact ⟨r', hr', hin', Or.inr (Or.inr hpop)⟩
      · obtain ⟨r', hr', hin', hlabel⟩ := hall _ ⟨_, ⟨r, hr, hin, rfl⟩, Or.inr ⟨hpop, rfl⟩⟩
        refine ⟨r', hr', hin', ?_⟩
        by_cases hnull : r.labelForIndex psid.sid = mplsLabelImplicitNull
        · exact Or.inr (Or.inl hnull)
        · exact Or.inl (Nat.add_right_cancel (hlabel hnull)).symm
    · rintro hshare label ⟨incoming, ⟨r, hr, hin, rfl⟩, hlabel⟩
      obtain ⟨r', hr', hin', hstart⟩ := hshare r hr hin
      refine ⟨r', hr', hin', fun hne => ?_⟩
      rcases hlabel with ⟨-, rfl⟩ | ⟨hpop, rfl⟩
      · exact absurd rfl hne
      · rcases hstart with hstart | hnull | hpops
        · rw [SidLabelRange.labelForIndex, SidLabelRange.labelForIndex, hstart]
        · exact absurd hnull hne
        · exact absurd hpops hpop

end Routes

/-- **The labels are those the next hops expect exactly if each next hop shares the SRGB of the
destination**, which no one checks. -/
theorem labelsExpected_iff (tree : Dict IPv4Address SpfVertex) (db : SrDatabase) :
    LabelsExpected tree db ↔ HopsShareSrgb tree db := by
  constructor
  · intro hall id vertex node net psid hvertex hhops hnode hsid hparent
    obtain ⟨nexthop, hnexthop⟩ := List.exists_mem_of_ne_nil _ hhops
    refine (hopShares_iff hparent).1 fun label hlabel => ?_
    exact hall vertex psid ⟨net, nexthop.nextHopIp, nexthop.interfaceName, label, id, vertex.distance⟩
      ⟨hvertex, ⟨node, hnode, hsid, hlabel⟩, ⟨nexthop, hnexthop, rfl, rfl⟩, rfl⟩
  · intro hall vertex psid route hroute
    obtain ⟨node, hnode, hsid, hlabel⟩ := hroute.label
    obtain ⟨nexthop, hnexthop, -⟩ := hroute.nexthop
    have hparent := (computeOutgoingLabel_eq_some.1 hlabel).1
    have hshare := hall _ vertex node _ psid hroute.reached (List.ne_nil_of_mem hnexthop) hnode hsid hparent
    exact (hopShares_iff hparent).2 hshare _ hlabel

/-! ### Two ranges -/

/-- Router 3 is behind router 2. -/
def chainVertex : SpfVertex :=
  { vertexId := 3, vertexType := .router, lsa := 2, distance := 20, parent := some hop, nexthops }
where
  nexthops : List SpfNexthop := [{ interfaceName := 0, nextHopIp := 167772162 }]
  root : SpfVertex := { vertexId := 1, vertexType := .router, lsa := 0 }
  hop : SpfVertex :=
    { vertexId := 2, vertexType := .router, lsa := 1, distance := 10, parent := some root, nexthops }

def chainTree : Dict IPv4Address SpfVertex :=
  ((Dict.empty.set 1 chainVertex.root).set 2 chainVertex.hop).set 3 chainVertex

/-- Router 2 and router 3 have different ranges. -/
def twoRanges : SrDatabase where
  nodes := (Dict.empty.set 2 { routerId := 2, srgb := some { start := 16000, size := 8000 } }).set 3
    { routerId := 3, srgb := some { start := 20000, size := 8000 }
      nodeSids := [({ address := 3232235777, prefixLen := 32 }, ⟨prefixSidFlagNP, srAlgSpf, 5⟩)] }

/-- The route to router 3 has a label from the range of router 3. -/
theorem not_labelsExpected : ¬∀ (tree : Dict IPv4Address SpfVertex) (db : SrDatabase),
    LabelsExpected tree db := by
  intro hall
  have hroute : SrRouteFor chainTree twoRanges chainVertex
      ⟨prefixSidFlagNP, srAlgSpf, 5⟩ ⟨⟨3232235777, 32⟩, 167772162, 0, 20005, 3, 20⟩ :=
    ⟨rfl, ⟨_, rfl, List.mem_singleton_self _, rfl⟩, ⟨_, List.mem_singleton_self _, rfl, rfl⟩, rfl⟩
  obtain ⟨r, hr, hin⟩ := hall _ _ _ _ _ hroute
  have hhop : twoRanges.hopSrgb chainVertex = some ⟨16000, 8000⟩ := rfl
  obtain rfl := Option.some.inj (hhop.symm.trans hr)
  exact absurd ((hin rfl).2 (by decide)) (by decide)

end Ospfd
