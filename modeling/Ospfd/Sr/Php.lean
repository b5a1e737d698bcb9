import Ospfd.Spf.Nexthops
import Ospfd.Sr.Spf

/-!
# The hop before the last

The label is to be popped before the last hop.  The code takes a vertex for the last hop when its
parent has the ID 0.0.0.0, which is not the root.

* `SpfVertex.oneHop` — a vertex right behind a router, or behind a network that is.
* `PopsAtLastHop` — implicit null exactly one hop away, unless that is ruled out.
* `parent_of_calculate` — every vertex but the root has a parent.
* `popsAtLastHop_iff` — **exactly when the test for 0.0.0.0 and the labels happen to agree with it**.
-/

namespace Ospfd

/-- A vertex one hop from a router: right behind it, or behind a network that is. -/
def SpfVertex.oneHop (rootId : IPv4Address) (vertex : SpfVertex) : Bool :=
  vertex.parent.any fun parent => parent.vertexId = rootId ∨
    parent.vertexType = .network ∧ parent.parent.any fun grandparent => grandparent.vertexId = rootId

/-- The test of the code for the hop before the last. -/
def SpfVertex.behindZero (vertex : SpfVertex) : Bool :=
  vertex.parent.any fun parent => parent.vertexId = zeroAddr

/-- **Implicit null exactly one hop away**, where the flags of the SID do not rule it out, in all routes
to other routers. -/
def PopsAtLastHop (tree : Dict IPv4Address SpfVertex) (db : SrDatabase) (rootId : IPv4Address) : Prop :=
  ∀ vertex psid route, SrRouteFor tree db vertex psid route → route.destRouterId ≠ rootId →
    (route.outgoingLabel = mplsLabelImplicitNull ↔ psid.noPhp = false ∧ vertex.oneHop rootId = true)

/-- For a SID with a label: one hop away exactly where the code thinks so or the label is implicit
null itself; and no such label where popping is ruled out. -/
def NullAgrees (rootId : IPv4Address) (vertex : SpfVertex) (psid : PrefixSid) (label : Nat) : Prop :=
  if psid.noPhp then label ≠ mplsLabelImplicitNull
  else ((vertex.behindZero = true ∨ label = mplsLabelImplicitNull) ↔ vertex.oneHop rootId = true)

variable {s : Instance} {areaId : IPv4Address} {fuel : Nat} {tree : Dict IPv4Address SpfVertex}

/-- **Every vertex but the root has a parent.** -/
theorem parent_of_calculate (hrun : calculate s areaId fuel = some tree) {id : IPv4Address}
    {vertex : SpfVertex} (hvertex : tree.get? id = some vertex) (hne : id ≠ s.routerId) :
    ∃ parent, vertex.parent = some parent := by
  by_cases hvalid : ValidRouter s areaId s.routerId
  · obtain ⟨hid, rootLsa, -, hgrown⟩ := grown_of_calculate hvalid hrun hvertex
    cases hgrown with
    | root => exact absurd hid.symm hne
    | offer hu _ hc => exact ⟨_, hc.parent⟩
  · rw [calculate_of_not_valid hvalid] at hrun
    cases hrun
    cases hvertex

/-- The label of one SID. -/
theorem implicitNull_iff {vertex parent : SpfVertex} {psid : PrefixSid} {node : NodeSrInfo} {label out : Nat}
    (hparent : vertex.parent = some parent) (hlabel : node.labelForPrefixSid psid = some label)
    (hout : computeOutgoingLabel vertex psid node = some out) (rootId : IPv4Address) :
    (out = mplsLabelImplicitNull ↔ psid.noPhp = false ∧ vertex.oneHop rootId = true) ↔
      NullAgrees rootId vertex psid label := by
  rw [computeOutgoingLabel, hlabel] at hout
  rw [NullAgrees, SpfVertex.behindZero]
  cases hphp : psid.noPhp with
  | true =>
    simp only [hphp, if_true] at hout
    cases hout
    simp
  | false =>
    simp only [hphp, Bool.false_eq_true, if_false, hparent] at hout
    simp only [hparent, Option.any_some, decide_eq_true_eq, true_and, Bool.false_eq_true, if_false]
    split at hout
    · rename_i hzero
      cases hout
      simp [hzero]
    · rename_i hzero
      cases hout
      simp [hzero]

/-- There is a label to push for every label there is. -/
theorem exists_computeOutgoingLabel {vertex parent : SpfVertex} {psid : PrefixSid} {node : NodeSrInfo}
    {label : Nat} (hparent : vertex.parent = some parent) (hlabel : node.labelForPrefixSid psid = some label) :
    ∃ out, computeOutgoingLabel vertex psid node = some out := by
  by_cases hpop : PopsBefore vertex psid
  · exact ⟨_, computeOutgoingLabel_eq_some.2 ⟨Or.inr (by rw [hparent]; rfl), label, hlabel,
      Or.inl ⟨hpop, rfl⟩⟩⟩
  · exact ⟨_, computeOutgoingLabel_eq_some.2 ⟨Or.inr (by rw [hparent]; rfl), label, hlabel,
      Or.inr ⟨hpop, rfl⟩⟩⟩

/-- **Labels are popped before the last hop exactly where the test of the code agrees with it**, in
every tree and for every SID that a route is computed for. -/
theorem popsAtLastHop_iff (hrun : calculate s areaId fuel = some tree) (db : SrDatabase) :
    PopsAtLastHop tree db s.routerId ↔ ∀ id vertex node net psid label, tree.get? id = some vertex →
      id ≠ s.routerId → vertex.nexthops ≠ [] → db.getNode id = some node → (net, psid) ∈ node.nodeSids →
        node.labelForPrefixSid psid = some label → NullAgrees s.routerId vertex psid label := by
  constructor
  · intro hall id vertex node net psid label hvertex hne hhops hnode hsid hlabel
    obtain ⟨parent, hparent⟩ := parent_of_calculate hrun hvertex hne
    obtain ⟨out, hout⟩ := exists_computeOutgoingLabel hparent hlabel
    obtain ⟨nexthop, hnexthop⟩ := List.exists_mem_of_ne_nil _ hhops
    have hroute := hall vertex psid
      ⟨net, nexthop.nextHopIp, nexthop.interfaceName, out, id, vertex.distance⟩
      ⟨hvertex, ⟨node, hnode, hsid, hout⟩, ⟨nexthop, hnexthop, rfl, rfl⟩, rfl⟩ hne
    exact (implicitNull_iff hparent hlabel hout s.routerId).1 hroute
  · intro hall vertex psid route hroute hne
    obtain ⟨parent, hparent⟩ := parent_of_calculate hrun hroute.reached hne
    obtain ⟨node, hnode, hsid, hout⟩ := hroute.label
    obtain ⟨nexthop, hnexthop, -⟩ := hroute.nexthop
    obtain ⟨-, label, hlabel, -⟩ := computeOutgoingLabel_eq_some.1 hout
    exact (implicitNull_iff hparent hlabel hout s.routerId).2 (hall _ vertex node _ psid label hroute.reached hne
      (List.ne_nil_of_mem hnexthop) hnode hsid hlabel)

/-! ### A neighbor -/

/-- Router 2 advertises a SID with some flags. -/
def neighborSid (flags : Nat) : SrDatabase where
  nodes := Dict.empty.set 2
    { routerId := 2, srgb := some { start := 16000, size := 8000 }
      nodeSids := [({ address := 3232235777, prefixLen := 32 }, ⟨flags, srAlgSpf, 5⟩)] }

/-- Router 2 is right behind the root. -/
theorem exists_tree_adjacentArea : ∃ tree vertex, calculate adjacentArea backboneArea 9 = some tree ∧
    tree.get? 2 = some vertex ∧ vertex.oneHop 1 = true ∧ vertex.behindZero = false ∧
      vertex.nexthops = [⟨0, 167772162, 1⟩] := by
  have hrun : ((calculate adjacentArea backboneArea 9).bind fun tree => (tree.get? 2).map fun v =>
      (v.oneHop 1, v.behindZero, v.nexthops)) = some (true, false, [⟨0, 167772162, 1⟩]) := by
    decide +kernel
  obtain ⟨tree, htree, hv⟩ := Option.bind_eq_some_iff.1 hrun
  obtain ⟨v, hv, hdata⟩ := Option.map_eq_some_iff.1 hv
  obtain ⟨hone, hrest⟩ := Prod.ext_iff.1 hdata
  obtain ⟨hzero, hhops⟩ := Prod.ext_iff.1 hrest
  exact ⟨tree, v, htree, hv, hone, hzero, hhops⟩

/-- The label of a neighbor is pushed, not popped. -/
theorem not_popsAtLastHop : ¬∀ s areaId fuel tree db, calculate s areaId fuel = some tree →
    PopsAtLastHop tree db s.routerId := by
  intro hall
  obtain ⟨tree, vertex, htree, hvertex, hone, hzero, hhops⟩ := exists_tree_adjacentArea
  obtain ⟨parent, hparent⟩ := parent_of_calculate htree hvertex (by decide)
  have hpop : parent.vertexId ≠ zeroAddr := by simpa [SpfVertex.behindZero, hparent] using hzero
  have hlabel : computeOutgoingLabel vertex ⟨0, srAlgSpf, 5⟩
      { routerId := 2, srgb := some { start := 16000, size := 8000 }
        nodeSids := [({ address := 3232235777, prefixLen := 32 }, ⟨0, srAlgSpf, 5⟩)] } = some 16005 := by
    refine computeOutgoingLabel_eq_some.2 ⟨Or.inr (by rw [hparent]; rfl), 16005, rfl, Or.inr ⟨?_, rfl⟩⟩
    rintro ⟨-, parent', hparent', hid⟩
    rw [hparent] at hparent'
    cases hparent'
    exact hpop hid
  have hroute : SrRouteFor tree (neighborSid 0) vertex ⟨0, srAlgSpf, 5⟩
      ⟨⟨3232235777, 32⟩, 167772162, 0, 16005, 2, vertex.distance⟩ :=
    ⟨hvertex, ⟨_, rfl, List.mem_singleton_self _, hlabel⟩,
      ⟨_, by rw [hhops]; exact List.mem_singleton_self _, rfl, rfl⟩, rfl⟩
  have hne : (2 : IPv4Address) ≠ adjacentArea.routerId := by decide
  have hnull : 16005 = mplsLabelImplicitNull :=
    (hall adjacentArea backboneArea 9 tree (neighborSid 0) htree vertex _ _ hroute hne).2 ⟨rfl, hone⟩
  exact absurd hnull (by decide)

/-- Where popping is ruled out nothing is popped. -/
theorem popsAtLastHop_neighborSid : ∃ tree, calculate adjacentArea backboneArea 9 = some tree ∧
    PopsAtLastHop tree (neighborSid prefixSidFlagNP) adjacentArea.routerId := by
  obtain ⟨tree, -, htree, -⟩ := exists_tree_adjacentArea
  refine ⟨tree, htree, (popsAtLastHop_iff htree _).2 ?_⟩
  intro id vertex node net psid label _ _ _ hnode hsid hlabel
  have hid : 2 = id := by
    by_contra hne
    rw [SrDatabase.getNode, neighborSid, Dict.get?_set_of_ne _ hne] at hnode
    cases hnode
  subst hid
  obtain rfl := Option.some.inj hnode
  obtain ⟨rfl, rfl⟩ := Prod.ext_iff.1 (List.mem_singleton.1 hsid)
  obtain rfl := Option.some.inj hlabel
  have hlabel : (16005 : Nat) ≠ mplsLabelImplicitNull := by decide
  exact hlabel

end Ospfd
