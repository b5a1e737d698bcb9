import Ospfd.Spf.Dijkstra

/-!
# Correctness of the shortest path tree

* `SpfNode`, `SpfEdge`, `SpfPath` — the graph an area's database describes, and the paths
  from this router.
* `SpfInput` — what is assumed of the database.
* `SpfTree` — a tree of shortest paths to exactly the reachable vertices.
* `DistinctIds` — no router and network that are reached share an ID.
* `Offers`, `expand_spec` — what a vertex gives rise to.
* `explores_spf` — **`calculate` searches that graph**, one candidate for each edge.
* `DistinctIds.calculate_tree`, `calculate_shortest` — `calculate` ends, with such a tree.
-/

namespace Ospfd

/-! ## The graph -/

/-- A router or a network. -/
structure SpfNode where
  type : SpfVertexType
  id : IPv4Address
  deriving DecidableEq, Repr

def SpfVertex.node (v : SpfVertex) : SpfNode := ⟨v.vertexType, v.vertexId⟩

/-- A link of the Router-LSA of a router. -/
def HasLink (s : Instance) (areaId routerId : IPv4Address) (link : RouterLsaLink) : Prop :=
  ∃ r body, s.lsdb.lookup areaId (routerLsaKey routerId) = some r ∧
    (s.heap.obj r).body = some (.router body) ∧ link ∈ body.links

/-- A router attached to a network, by the first Network-LSA with its link state ID. -/
def Attached (s : Instance) (areaId netId routerId : IPv4Address) : Prop :=
  ∃ r body, findNetworkLsa s areaId netId = some r ∧
    (s.heap.obj r).body = some (.network body) ∧ routerId ∈ body.attachedRouters

/-- The router has a Router-LSA below MaxAge. -/
def ValidRouter (s : Instance) (areaId routerId : IPv4Address) : Prop :=
  ∃ r, s.lsdb.lookup areaId (routerLsaKey routerId) = some r ∧ expired s r = false

/-- The first Network-LSA with that link state ID is below MaxAge. -/
def ValidNetwork (s : Instance) (areaId netId : IPv4Address) : Prop :=
  ∃ r, findNetworkLsa s areaId netId = some r ∧ expired s r = false

/-- The edges of the graph, with their costs. -/
inductive SpfEdge (s : Instance) (areaId : IPv4Address) : SpfNode → SpfNode → Int → Prop where
  | p2p {u : IPv4Address} {link : RouterLsaLink} (h : HasLink s areaId u link)
      (ht : link.type = linkTypeP2P) (hv : ValidRouter s areaId link.linkId) :
      SpfEdge s areaId ⟨.router, u⟩ ⟨.router, link.linkId⟩ link.metric
  | transit {u : IPv4Address} {link : RouterLsaLink} (h : HasLink s areaId u link)
      (ht : link.type = linkTypeTransit) (hv : ValidNetwork s areaId link.linkId) :
      SpfEdge s areaId ⟨.router, u⟩ ⟨.network, link.linkId⟩ link.metric
  | attached {n u : IPv4Address} (h : Attached s areaId n u) (hv : ValidRouter s areaId u) :
      SpfEdge s areaId ⟨.network, n⟩ ⟨.router, u⟩ 0

/-- A path from this router, with its cost. -/
inductive SpfPath (s : Instance) (areaId : IPv4Address) : SpfNode → Int → Prop where
  | root : SpfPath s areaId ⟨.router, s.routerId⟩ 0
  | edge {u v : SpfNode} {d w : Int} (h : SpfPath s areaId u d) (he : SpfEdge s areaId u v w) :
      SpfPath s areaId v (d + w)

/-- What is assumed of the database: this router's Router-LSA is there, no Network-LSA has
the link state ID of a router, and no metric is negative. -/
structure SpfInput (s : Instance) (areaId : IPv4Address) : Prop where
  root : ValidRouter s areaId s.routerId
  ids : ∀ r ∈ s.lsdb.getAllOfType s.heap areaId lsaTypeNetwork,
    s.lsdb.lookup areaId (routerLsaKey (s.heap.obj r).header.linkStateId) = none
  metrics : ∀ u link, HasLink s areaId u link → 0 ≤ link.metric

/-- **A tree of shortest paths**: exactly the reachable vertices, each at the least cost of
its paths and behind its parent, in the order of their distances. -/
structure SpfTree (s : Instance) (areaId : IPv4Address) (tree : Dict IPv4Address SpfVertex) :
    Prop where
  reachable : ∀ node : SpfNode,
    (∃ v, tree.get? node.id = some v ∧ v.vertexType = node.type) ↔ ∃ d, SpfPath s areaId node d
  vertexId : ∀ id v, tree.get? id = some v → v.vertexId = id
  least : ∀ id v, tree.get? id = some v →
    SpfPath s areaId v.node v.distance ∧ ∀ d, SpfPath s areaId v.node d → v.distance ≤ d
  parent : ∀ id v, tree.get? id = some v →
    id = s.routerId ∧ v.parent = none ∧ v.distance = 0 ∨
      ∃ p w, v.parent = some p ∧ tree.get? p.vertexId = some p ∧ SpfEdge s areaId p.node v.node w ∧
        v.distance = p.distance + w
  sorted : (tree.values.map SpfVertex.distance).Pairwise (· ≤ ·)

/-! ## Vertices by their IDs -/

/-- Whether there is an LSA, below MaxAge. -/
def valid (s : Instance) : Option LsaRef → Bool
  | some r => !expired s r
  | none => false

/-- The target of a link and its cost, where the link is an edge. -/
def linkTarget (s : Instance) (areaId : IPv4Address) (link : RouterLsaLink) :
    Option (IPv4Address × Int) :=
  if link.type = linkTypeTransit then
    if valid s (findNetworkLsa s areaId link.linkId) then some (link.linkId, link.metric) else none
  else if link.type = linkTypeP2P then
    if valid s (s.lsdb.lookup areaId (routerLsaKey link.linkId)) then some (link.linkId, link.metric)
    else none
  else none

/-- An attached router at cost 0, where it is an edge. -/
def attachedTarget (s : Instance) (areaId rtrId : IPv4Address) : Option (IPv4Address × Int) :=
  if valid s (s.lsdb.lookup areaId (routerLsaKey rtrId)) then some (rtrId, 0) else none

/-- The edges from a node, by its LSA. -/
def edgesFrom (s : Instance) (areaId : IPv4Address) (u : SpfNode) : List (IPv4Address × Int) :=
  match u.type with
  | .router =>
      match (s.lsdb.lookup areaId (routerLsaKey u.id)).bind fun r => (s.heap.obj r).body with
      | some (.router body) => body.links.filterMap (linkTarget s areaId)
      | _ => []
  | .network =>
      match (findNetworkLsa s areaId u.id).bind fun r => (s.heap.obj r).body with
      | some (.network body) => body.attachedRouters.filterMap (attachedTarget s areaId)
      | _ => []

/-- Some path leads to the node. -/
def Reached (s : Instance) (areaId : IPv4Address) (u : SpfNode) : Prop := ∃ d, SpfPath s areaId u d

/-- No router and network that are reached have the same ID. -/
def DistinctIds (s : Instance) (areaId : IPv4Address) : Prop :=
  ∀ u v, Reached s areaId u → Reached s areaId v → u.id = v.id → u = v

open Classical in
/-- The edges from the node that is reached under an ID. -/
noncomputable def adjacency (s : Instance) (areaId id : IPv4Address) : List (IPv4Address × Int) :=
  if h : ∃ u, Reached s areaId u ∧ u.id = id then edgesFrom s areaId h.choose else []

section Search

variable {s : Instance} {areaId : IPv4Address}

theorem linkStateId_findNetworkLsa {id : IPv4Address} {r : LsaRef}
    (h : findNetworkLsa s areaId id = some r) : (s.heap.obj r).header.linkStateId = id := by
  simpa using List.find?_some h

/-- A network is not a router. -/
theorem SpfInput.lookup_of_network (hin : SpfInput s areaId) {id : IPv4Address} {r : LsaRef}
    (h : findNetworkLsa s areaId id = some r) : s.lsdb.lookup areaId (routerLsaKey id) = none := by
  have hr := hin.ids r (List.mem_of_find?_eq_some h)
  rwa [linkStateId_findNetworkLsa h] at hr

theorem valid_iff {o : Option LsaRef} : valid s o = true ↔ ∃ r, o = some r ∧ expired s r = false := by
  cases o with
  | none => simp [valid]
  | some r => simp [valid]

theorem linkTarget_eq_some_iff {link : RouterLsaLink} {v : IPv4Address} {w : Int} :
    linkTarget s areaId link = some (v, w) ↔ link.linkId = v ∧ link.metric = w ∧
      (link.type = linkTypeTransit ∧ ValidNetwork s areaId v ∨
        link.type = linkTypeP2P ∧ ValidRouter s areaId v) := by
  have hne : linkTypeTransit ≠ linkTypeP2P := by decide
  have hnet : valid s (findNetworkLsa s areaId link.linkId) = true ↔
      ValidNetwork s areaId link.linkId := valid_iff
  have hrtr : valid s (s.lsdb.lookup areaId (routerLsaKey link.linkId)) = true ↔
      ValidRouter s areaId link.linkId := valid_iff
  rw [linkTarget]
  constructor
  · intro h
    split_ifs at h with ht hv hp hv
    · obtain ⟨rfl, rfl⟩ := Prod.mk.inj (Option.some.inj h)
      exact ⟨rfl, rfl, Or.inl ⟨ht, hnet.1 hv⟩⟩
    · obtain ⟨rfl, rfl⟩ := Prod.mk.inj (Option.some.inj h)
      exact ⟨rfl, rfl, Or.inr ⟨hp, hrtr.1 hv⟩⟩
  · rintro ⟨rfl, rfl, ⟨ht, hv⟩ | ⟨hp, hv⟩⟩
    · rw [if_pos ht, if_pos (hnet.2 hv)]
    · rw [if_neg (by rw [hp]; exact hne.symm), if_pos hp, if_pos (hrtr.2 hv)]

theorem attachedTarget_eq_some_iff {rtrId v : IPv4Address} {w : Int} :
    attachedTarget s areaId rtrId = some (v, w) ↔ rtrId = v ∧ w = 0 ∧ ValidRouter s areaId v := by
  have hrtr : valid s (s.lsdb.lookup areaId (routerLsaKey rtrId)) = true ↔
      ValidRouter s areaId rtrId := valid_iff
  rw [attachedTarget]
  constructor
  · intro h
    split_ifs at h with hv
    obtain ⟨rfl, rfl⟩ := Prod.mk.inj (Option.some.inj h)
    exact ⟨rfl, rfl, hrtr.1 hv⟩
  · rintro ⟨rfl, rfl, hv⟩
    rw [if_pos (hrtr.2 hv)]

/-! ## Candidates -/

/-- A vertex carries the LSA of its ID and type. -/
def SpfVertex.Good (s : Instance) (areaId : IPv4Address) (v : SpfVertex) : Prop :=
  match v.vertexType with
  | .router => s.lsdb.lookup areaId (routerLsaKey v.vertexId) = some v.lsa
  | .network => findNetworkLsa s areaId v.vertexId = some v.lsa

/-- What a link leads to. -/
def LinkTo (s : Instance) (areaId : IPv4Address) (link : RouterLsaLink) (v : SpfNode) : Prop :=
  link.linkId = v.id ∧ (link.type = linkTypeTransit ∧ v.type = .network ∧ ValidNetwork s areaId v.id ∨
    link.type = linkTypeP2P ∧ v.type = .router ∧ ValidRouter s areaId v.id)

theorem HasLink.edge {u : IPv4Address} {link : RouterLsaLink} {v : SpfNode} (h : HasLink s areaId u link)
    (hv : LinkTo s areaId link v) : SpfEdge s areaId ⟨.router, u⟩ v link.metric := by
  obtain ⟨t, id⟩ := v
  obtain ⟨rfl, ⟨ht, rfl, hv⟩ | ⟨ht, rfl, hv⟩⟩ := hv
  · exact .transit h ht hv
  · exact .p2p h ht hv

/-- The candidate of a link is what it leads to, unless that is in the tree. -/
theorem linkCandidate_spec {tree : Dict IPv4Address SpfVertex} {u c : SpfVertex}
    {link : RouterLsaLink} (h : linkCandidate s areaId tree u link = some c) :
    LinkTo s areaId link c.node ∧ tree.contains c.vertexId = false ∧ c.Good s areaId ∧
      c = updateCandidate s c.vertexId c.vertexType c.lsa (u.distance + link.metric) u link := by
  rw [linkCandidate] at h
  split at h
  · cases h
  · split at h
    · rename_i ht
      split at h
      · cases h
      · rename_i net hnet
        have hid := linkStateId_findNetworkLsa hnet
        dsimp only at h
        split_ifs at h with hx hin
        cases h
        rw [hid] at hin ⊢
        refine ⟨⟨rfl, Or.inl ⟨ht, rfl, net, hnet, by simpa using hx⟩⟩, Bool.eq_false_iff.2 hin, hnet, rfl⟩
    · split at h
      · rename_i hp
        split at h
        · cases h
        · rename_i nbr hnbr
          split_ifs at h with hx hin
          cases h
          exact ⟨⟨rfl, Or.inr ⟨hp, rfl, nbr, hnbr, by simpa using hx⟩⟩, Bool.eq_false_iff.2 hin, hnbr, rfl⟩
      · cases h

theorem LinkTo.target {link : RouterLsaLink} {v : SpfNode} (h : LinkTo s areaId link v) :
    linkTarget s areaId link = some (v.id, link.metric) := by
  obtain ⟨hid, ⟨ht, -, hv⟩ | ⟨ht, -, hv⟩⟩ := h
  · exact linkTarget_eq_some_iff.2 ⟨hid, rfl, Or.inl ⟨ht, hv⟩⟩
  · exact linkTarget_eq_some_iff.2 ⟨hid, rfl, Or.inr ⟨ht, hv⟩⟩

theorem exists_linkCandidate {tree : Dict IPv4Address SpfVertex} {u : SpfVertex}
    {link : RouterLsaLink} {v : IPv4Address} {w : Int}
    (h : linkTarget s areaId link = some (v, w)) (hin : tree.contains v = false) :
    ∃ c, linkCandidate s areaId tree u link = some c ∧ c.vertexId = v ∧
      c.distance = u.distance + w := by
  obtain ⟨rfl, rfl, ⟨ht, net, hnet, hage⟩ | ⟨hp, nbr, hnbr, hage⟩⟩ := linkTarget_eq_some_iff.1 h
  · have hid := linkStateId_findNetworkLsa hnet
    refine ⟨updateCandidate s link.linkId .network net (u.distance + link.metric) u link, ?_, rfl, rfl⟩
    rw [linkCandidate, if_neg (by rw [ht]; decide), if_pos ht, hnet]
    dsimp only
    rw [hid, hage, if_neg Bool.false_ne_true, hin, if_neg Bool.false_ne_true]
  · refine ⟨updateCandidate s link.linkId .router nbr (u.distance + link.metric) u link, ?_, rfl, rfl⟩
    rw [linkCandidate, if_neg (by rw [hp]; decide), if_neg (by rw [hp]; decide), if_pos hp, hnbr]
    dsimp only
    rw [hage, if_neg Bool.false_ne_true, hin, if_neg Bool.false_ne_true]

theorem attachedCandidate_spec {tree : Dict IPv4Address SpfVertex} {u c : SpfVertex}
    {rtrId : IPv4Address} (h : attachedCandidate s areaId tree u rtrId = some c) :
    (rtrId = c.vertexId ∧ c.vertexType = .router ∧ ValidRouter s areaId rtrId) ∧
      tree.contains c.vertexId = false ∧ c.Good s areaId ∧
      c = updateCandidate s c.vertexId c.vertexType c.lsa (u.distance + 0) u none := by
  rw [attachedCandidate] at h
  split at h
  · cases h
  · rename_i hin
    split at h
    · cases h
    · rename_i rtr hrtr
      split_ifs at h with hx
      cases h
      exact ⟨⟨rfl, rfl, rtr, hrtr, by simpa using hx⟩, Bool.eq_false_iff.2 hin, hrtr, rfl⟩

theorem exists_attachedCandidate {tree : Dict IPv4Address SpfVertex} {u : SpfVertex}
    {rtrId v : IPv4Address} {w : Int} (h : attachedTarget s areaId rtrId = some (v, w))
    (hin : tree.contains v = false) :
    ∃ c, attachedCandidate s areaId tree u rtrId = some c ∧ c.vertexId = v ∧
      c.distance = u.distance + w := by
  obtain ⟨rfl, rfl, rtr, hrtr, hage⟩ := attachedTarget_eq_some_iff.1 h
  refine ⟨updateCandidate s rtrId .router rtr (u.distance + 0) u none, ?_, rfl, rfl⟩
  rw [attachedCandidate, hin, if_neg Bool.false_ne_true, hrtr]
  dsimp only
  rw [hage, if_neg Bool.false_ne_true]

theorem length_filterMap_le {α β γ : Type} {f : α → Option β} {g : α → Option γ}
    (h : ∀ a b, f a = some b → ∃ c, g a = some c) (l : List α) :
    (l.filterMap f).length ≤ (l.filterMap g).length := by
  induction l with
  | nil => exact le_refl _
  | cons a l ih =>
    rcases hf : f a with _ | b
    · rw [List.filterMap_cons_none hf]
      rcases hg : g a with _ | c
      · rwa [List.filterMap_cons_none hg]
      · rw [List.filterMap_cons_some hg, List.length_cons]
        omega
    · obtain ⟨c, hg⟩ := h a b hf
      rw [List.filterMap_cons_some hf, List.filterMap_cons_some hg, List.length_cons,
        List.length_cons]
      omega

theorem edgesFrom_of_router {u : SpfVertex} (ht : u.vertexType = .router) (hu : u.Good s areaId) :
    edgesFrom s areaId u.node = match (s.heap.obj u.lsa).body with
      | some (.router body) => body.links.filterMap (linkTarget s areaId)
      | _ => [] := by
  rw [SpfVertex.Good, ht] at hu
  dsimp only at hu
  rw [edgesFrom, SpfVertex.node, ht]
  dsimp only
  rw [hu]
  rfl

theorem edgesFrom_of_network {u : SpfVertex} (ht : u.vertexType = .network) (hu : u.Good s areaId) :
    edgesFrom s areaId u.node = match (s.heap.obj u.lsa).body with
      | some (.network body) => body.attachedRouters.filterMap (attachedTarget s areaId)
      | _ => [] := by
  rw [SpfVertex.Good, ht] at hu
  dsimp only at hu
  rw [edgesFrom, SpfVertex.node, ht]
  dsimp only
  rw [hu]
  rfl

theorem mem_edgesFrom_link {id v : IPv4Address} {w : Int} {link : RouterLsaLink}
    (h : HasLink s areaId id link) (htarget : linkTarget s areaId link = some (v, w)) :
    (v, w) ∈ edgesFrom s areaId ⟨.router, id⟩ := by
  obtain ⟨r, body, hr, hbody, hlink⟩ := h
  rw [edgesFrom]
  dsimp only
  rw [hr, Option.bind_some, hbody]
  exact List.mem_filterMap.2 ⟨link, hlink, htarget⟩

/-- The edges of the graph are those of the LSAs. -/
theorem mem_edgesFrom_iff {u : SpfNode} {v : IPv4Address} {w : Int} :
    (v, w) ∈ edgesFrom s areaId u ↔ ∃ t, SpfEdge s areaId u ⟨t, v⟩ w := by
  obtain ⟨t, id⟩ := u
  constructor
  · intro h
    rw [edgesFrom] at h
    cases t with
    | router =>
      dsimp only at h
      split at h
      · rename_i body hbody
        obtain ⟨r, hr, hbody⟩ := Option.bind_eq_some_iff.1 hbody
        obtain ⟨link, hlink, htarget⟩ := List.mem_filterMap.1 h
        obtain ⟨rfl, rfl, ⟨ht, hv⟩ | ⟨hp, hv⟩⟩ := linkTarget_eq_some_iff.1 htarget
        · exact ⟨.network, .transit ⟨r, body, hr, hbody, hlink⟩ ht hv⟩
        · exact ⟨.router, .p2p ⟨r, body, hr, hbody, hlink⟩ hp hv⟩
      · cases h
    | network =>
      dsimp only at h
      split at h
      · rename_i body hbody
        obtain ⟨r, hr, hbody⟩ := Option.bind_eq_some_iff.1 hbody
        obtain ⟨rtr, hrtr, htarget⟩ := List.mem_filterMap.1 h
        obtain ⟨rfl, rfl, hv⟩ := attachedTarget_eq_some_iff.1 htarget
        exact ⟨.router, .attached ⟨r, body, hr, hbody, hrtr⟩ hv⟩
      · cases h
  · rintro ⟨t', he⟩
    cases he with
    | p2p hl hp hv => exact mem_edgesFrom_link hl (linkTarget_eq_some_iff.2 ⟨rfl, rfl, Or.inr ⟨hp, hv⟩⟩)
    | transit hl ht hv => exact mem_edgesFrom_link hl (linkTarget_eq_some_iff.2 ⟨rfl, rfl, Or.inl ⟨ht, hv⟩⟩)
    | attached ha hv =>
      obtain ⟨r, body, hr, hbody, hrtr⟩ := ha
      rw [edgesFrom]
      dsimp only
      rw [hr, Option.bind_some, hbody]
      exact List.mem_filterMap.2 ⟨v, hrtr, attachedTarget_eq_some_iff.2 ⟨rfl, rfl, hv⟩⟩

theorem DistinctIds.adjacency_eq (hids : DistinctIds s areaId) {u : SpfNode} (hu : Reached s areaId u) :
    adjacency s areaId u.id = edgesFrom s areaId u := by
  have hex : ∃ v, Reached s areaId v ∧ v.id = u.id := ⟨u, hu, rfl⟩
  rw [adjacency, dif_pos hex, hids _ _ hex.choose_spec.1 hu hex.choose_spec.2]

theorem mem_adjacency {id v : IPv4Address} {w : Int} (h : (v, w) ∈ adjacency s areaId id) :
    ∃ u t, Reached s areaId u ∧ u.id = id ∧ SpfEdge s areaId u ⟨t, v⟩ w := by
  rw [adjacency] at h
  split at h
  · rename_i hex
    obtain ⟨t, he⟩ := mem_edgesFrom_iff.1 h
    exact ⟨hex.choose, t, hex.choose_spec.1, hex.choose_spec.2, he⟩
  · cases h

theorem expand_router {tree : Dict IPv4Address SpfVertex} {u : SpfVertex}
    (ht : u.vertexType = .router) :
    (spfSearch s areaId).expand tree u = processRouterVertex s areaId tree u := by
  simp only [spfSearch, ht]

theorem expand_network {tree : Dict IPv4Address SpfVertex} {u : SpfVertex}
    (ht : u.vertexType = .network) :
    (spfSearch s areaId).expand tree u = processNetworkVertex s areaId tree u := by
  simp only [spfSearch, ht]

/-- A candidate that a vertex gives rise to, by a link when it is a router. -/
structure Offers (s : Instance) (areaId : IPv4Address) (tree : Dict IPv4Address SpfVertex)
    (u c : SpfVertex) (link : Option RouterLsaLink) (w : Int) : Prop where
  edge : SpfEdge s areaId u.node c.node w
  outside : tree.contains c.vertexId = false
  good : c.Good s areaId
  eq : c = updateCandidate s c.vertexId c.vertexType c.lsa (u.distance + w) u link
  via : u.vertexType = .router → ∃ l, link = some l ∧ HasLink s areaId u.vertexId l ∧
    LinkTo s areaId l c.node ∧ w = l.metric

section Candidate

variable {tree : Dict IPv4Address SpfVertex} {u c : SpfVertex} {link : Option RouterLsaLink} {w : Int}

theorem Offers.distance (h : Offers s areaId tree u c link w) : c.distance = u.distance + w := by
  rw [h.eq]
  rfl

theorem Offers.parent (h : Offers s areaId tree u c link w) : c.parent = some u := by
  rw [h.eq]
  rfl

/-- **What a vertex gives rise to.** -/
theorem expand_spec (hu : u.Good s areaId) (hc : c ∈ (spfSearch s areaId).expand tree u) :
    ∃ link w, Offers s areaId tree u c link w := by
  cases ht : u.vertexType with
  | router =>
    rw [expand_router ht, processRouterVertex] at hc
    split at hc
    · rename_i body hbody
      obtain ⟨link, hlink, hcand⟩ := List.mem_filterMap.1 hc
      obtain ⟨hto, hout, hgood, heq⟩ := linkCandidate_spec hcand
      rw [SpfVertex.Good, ht] at hu
      have hhas : HasLink s areaId u.vertexId link := ⟨u.lsa, body, hu, hbody, hlink⟩
      have hedge : SpfEdge s areaId u.node c.node link.metric := by
        rw [SpfVertex.node, ht]
        exact hhas.edge hto
      exact ⟨some link, link.metric, hedge, hout, hgood, heq, fun _ => ⟨link, rfl, hhas, hto, rfl⟩⟩
    · cases hc
  | network =>
    rw [expand_network ht, processNetworkVertex] at hc
    split at hc
    · rename_i body hbody
      obtain ⟨rtr, hrtr, hcand⟩ := List.mem_filterMap.1 hc
      obtain ⟨⟨rfl, hrouter, hvalid⟩, hout, hgood, heq⟩ := attachedCandidate_spec hcand
      rw [SpfVertex.Good, ht] at hu
      have hatt : Attached s areaId u.vertexId c.vertexId := ⟨u.lsa, body, hu, hbody, hrtr⟩
      have hedge : SpfEdge s areaId u.node c.node 0 := by
        rw [SpfVertex.node, SpfVertex.node, ht, hrouter]
        exact .attached hatt hvalid
      refine ⟨none, 0, hedge, hout, hgood, heq, fun hr => ?_⟩
      rw [ht] at hr
      cases hr
    · cases hc

/-- An edge to a vertex outside the tree gives rise to a candidate. -/
theorem exists_expand (hu : u.Good s areaId) {v : IPv4Address}
    (hvw : (v, w) ∈ edgesFrom s areaId u.node) (hout : tree.contains v = false) :
    ∃ c ∈ (spfSearch s areaId).expand tree u, c.vertexId = v ∧ c.distance = u.distance + w := by
  cases ht : u.vertexType with
  | router =>
    rw [edgesFrom_of_router ht hu] at hvw
    split at hvw
    · rename_i body hbody
      obtain ⟨link, hlink, htarget⟩ := List.mem_filterMap.1 hvw
      obtain ⟨c, hc, hv, hd⟩ := exists_linkCandidate (u := u) htarget hout
      refine ⟨c, ?_, hv, hd⟩
      rw [expand_router ht, processRouterVertex, hbody]
      exact List.mem_filterMap.2 ⟨link, hlink, hc⟩
    · cases hvw
  | network =>
    rw [edgesFrom_of_network ht hu] at hvw
    split at hvw
    · rename_i body hbody
      obtain ⟨rtr, hrtr, htarget⟩ := List.mem_filterMap.1 hvw
      obtain ⟨c, hc, hv, hd⟩ := exists_attachedCandidate (u := u) htarget hout
      refine ⟨c, ?_, hv, hd⟩
      rw [expand_network ht, processNetworkVertex, hbody]
      exact List.mem_filterMap.2 ⟨rtr, hrtr, hc⟩
    · cases hvw

/-- A vertex gives rise to no more candidates than it has edges. -/
theorem length_expand_le (tree : Dict IPv4Address SpfVertex) (hu : u.Good s areaId) :
    ((spfSearch s areaId).expand tree u).length ≤ (edgesFrom s areaId u.node).length := by
  cases ht : u.vertexType with
  | router =>
    rw [expand_router ht, processRouterVertex, edgesFrom_of_router ht hu]
    by_cases hbody : ∃ body, (s.heap.obj u.lsa).body = some (.router body)
    · obtain ⟨body, hbody⟩ := hbody
      rw [hbody]
      refine length_filterMap_le (fun link c hc => ?_) body.links
      exact ⟨_, (linkCandidate_spec hc).1.target⟩
    · split
      · rename_i body heq
        exact absurd ⟨body, heq⟩ hbody
      · exact Nat.zero_le _
  | network =>
    rw [expand_network ht, processNetworkVertex, edgesFrom_of_network ht hu]
    by_cases hbody : ∃ body, (s.heap.obj u.lsa).body = some (.network body)
    · obtain ⟨body, hbody⟩ := hbody
      rw [hbody]
      refine length_filterMap_le (fun rtr c hc => ?_) body.attachedRouters
      exact ⟨_, attachedTarget_eq_some_iff.2 ⟨rfl, rfl, (attachedCandidate_spec hc).1.2.2⟩⟩
    · split
      · rename_i body heq
        exact absurd ⟨body, heq⟩ hbody
      · exact Nat.zero_le _

end Candidate

/-- **`calculate` searches the graph**: the candidates of a vertex are its edges to
vertices outside the tree. -/
theorem explores_spf (hids : DistinctIds s areaId)
    (hmetrics : ∀ u link, HasLink s areaId u link → 0 ≤ link.metric) {rootLsa : LsaRef}
    (hroot : s.lsdb.lookup areaId (routerLsaKey s.routerId) = some rootLsa) :
    (spfSearch s areaId).Explores (adjacency s areaId)
      (fun v => v.Good s areaId ∧ Reached s areaId v.node) SpfVertex.parent (spfRoot s rootLsa) where
  nonneg := by
    rintro id ⟨x, w⟩ hp
    obtain ⟨u, t, -, -, he⟩ := mem_adjacency hp
    cases he with
    | p2p hl _ _ => exact hmetrics _ _ hl
    | transit hl _ _ => exact hmetrics _ _ hl
    | attached _ _ => exact le_refl 0
  good_root := ⟨hroot, 0, .root⟩
  dist_root := rfl
  parent_root := rfl
  sound := by
    rintro tree u c ⟨hgood, hreach⟩ hc
    obtain ⟨link, w, hoffer⟩ := expand_spec hgood hc
    obtain ⟨d, hpath⟩ := hreach
    refine ⟨⟨hoffer.good, d + w, hpath.edge hoffer.edge⟩, hoffer.parent, w, ?_, hoffer.distance⟩
    change (c.node.id, w) ∈ adjacency s areaId u.node.id
    rw [hids.adjacency_eq ⟨d, hpath⟩]
    exact mem_edgesFrom_iff.2 ⟨_, hoffer.edge⟩
  complete := by
    rintro tree u v w ⟨hgood, hreach⟩ hvw hout
    refine exists_expand hgood ?_ hout
    rw [← hids.adjacency_eq hreach]
    exact hvw
  length_expand := by
    rintro tree u ⟨hgood, hreach⟩
    refine (length_expand_le tree hgood).trans (le_of_eq ?_)
    rw [← hids.adjacency_eq hreach]
    rfl

/-! ## Paths and walks -/

/-- The node has an LSA. -/
def SpfNode.Present (s : Instance) (areaId : IPv4Address) (u : SpfNode) : Prop :=
  match u.type with
  | .router => ∃ r, s.lsdb.lookup areaId (routerLsaKey u.id) = some r
  | .network => ∃ r, findNetworkLsa s areaId u.id = some r

/-- In the input that is assumed, an ID stands for one node. -/
theorem SpfInput.node_unique (hin : SpfInput s areaId) {u v : SpfNode} (hu : u.Present s areaId)
    (hv : v.Present s areaId) (hid : u.id = v.id) : u = v := by
  obtain ⟨tu, iu⟩ := u
  obtain ⟨tv, iv⟩ := v
  dsimp only at hid
  subst hid
  rcases tu with _ | _ <;> rcases tv with _ | _
  · rfl
  · obtain ⟨r, hr⟩ := hu
    obtain ⟨n, hn⟩ := hv
    dsimp only at hr hn
    rw [hin.lookup_of_network hn] at hr
    cases hr
  · obtain ⟨n, hn⟩ := hu
    obtain ⟨r, hr⟩ := hv
    dsimp only at hr hn
    rw [hin.lookup_of_network hn] at hr
    cases hr
  · rfl

theorem SpfEdge.present {u v : SpfNode} {w : Int} (h : SpfEdge s areaId u v w) :
    v.Present s areaId := by
  cases h with
  | p2p _ _ hv => exact ⟨hv.choose, hv.choose_spec.1⟩
  | transit _ _ hv => exact ⟨hv.choose, hv.choose_spec.1⟩
  | attached _ hv => exact ⟨hv.choose, hv.choose_spec.1⟩

theorem Reached.present (hroot : ValidRouter s areaId s.routerId) {u : SpfNode}
    (h : Reached s areaId u) : u.Present s areaId := by
  obtain ⟨d, h⟩ := h
  cases h with
  | root =>
    obtain ⟨r, hr, -⟩ := hroot
    exact ⟨r, hr⟩
  | edge _ he => exact he.present

theorem SpfInput.distinct (hin : SpfInput s areaId) : DistinctIds s areaId :=
  fun _ _ hu hv hid => hin.node_unique (hu.present hin.root) (hv.present hin.root) hid

section Walks

variable (hids : DistinctIds s areaId)

include hids

theorem DistinctIds.walk_of_path {u : SpfNode} {d : Int} (h : SpfPath s areaId u d) :
    LazySearch.Walk (adjacency s areaId) s.routerId u.id d := by
  induction h with
  | root => exact .nil
  | edge h he ih =>
    refine ih.snoc ?_
    rw [hids.adjacency_eq ⟨_, h⟩]
    exact mem_edgesFrom_iff.2 ⟨_, he⟩

theorem DistinctIds.path_of_walk {id : IPv4Address} {d : Int}
    (h : LazySearch.Walk (adjacency s areaId) s.routerId id d) :
    ∃ t, SpfPath s areaId ⟨t, id⟩ d := by
  induction h with
  | nil => exact ⟨.router, .root⟩
  | snoc _ he ih =>
    obtain ⟨t, hp⟩ := ih
    obtain ⟨u, t', hu, hid, he⟩ := mem_adjacency he
    obtain rfl : u = ⟨t, _⟩ := hids _ _ hu ⟨_, hp⟩ hid
    exact ⟨t', hp.edge he⟩

/-- The walks to the ID of a node that is reached are the paths to it. -/
theorem DistinctIds.path_iff_walk {u : SpfNode} (hu : Reached s areaId u) {d : Int} :
    SpfPath s areaId u d ↔ LazySearch.Walk (adjacency s areaId) s.routerId u.id d := by
  refine ⟨fun h => hids.walk_of_path h, fun h => ?_⟩
  obtain ⟨t, hp⟩ := hids.path_of_walk h
  have heq : (⟨t, u.id⟩ : SpfNode) = u := hids _ _ ⟨d, hp⟩ hu rfl
  rwa [heq] at hp

end Walks

/-- The IDs of the vertices there can be. -/
def vertexIds (s : Instance) (areaId : IPv4Address) : Finset IPv4Address :=
  ((s.lsdb.area areaId).keys.map LsaKey.linkStateId ++
    (s.lsdb.getAll areaId).map fun r => (s.heap.obj r).header.linkStateId).toFinset

theorem mem_vertexIds {u : SpfNode} (h : u.Present s areaId) : u.id ∈ vertexIds s areaId := by
  obtain ⟨t, id⟩ := u
  rw [vertexIds, List.mem_toFinset, List.mem_append]
  rcases t with _ | _
  · obtain ⟨r, hr⟩ := h
    refine Or.inl (List.mem_map.2 ⟨routerLsaKey id, Dict.mem_keys_iff.2 ?_, rfl⟩)
    rw [show (s.lsdb.area areaId).get? (routerLsaKey id) = some r from hr]
    rfl
  · obtain ⟨r, hr⟩ := h
    have hmem := List.mem_filter.1 (List.mem_of_find?_eq_some hr)
    exact Or.inr (List.mem_map.2 ⟨r, hmem.1, linkStateId_findNetworkLsa hr⟩)

/-- With a Router-LSA of this router below MaxAge, `calculate` is the loop. -/
theorem calculate_eq {rootLsa : LsaRef} (hroot : s.lsdb.lookup areaId (routerLsaKey s.routerId) = some rootLsa)
    (hage : expired s rootLsa = false) (fuel : Nat) :
    calculate s areaId fuel =
      (spfSearch s areaId).run fuel ((spfSearch s areaId).start (spfRoot s rootLsa)) := by
  rw [calculate, hroot]
  dsimp only
  rw [hage, if_neg Bool.false_ne_true]

/-- **Where IDs are not shared, `calculate` ends with a tree of shortest paths** to exactly the
reachable vertices. -/
theorem DistinctIds.calculate_tree (hids : DistinctIds s areaId)
    (hvalid : ValidRouter s areaId s.routerId)
    (hmetrics : ∀ u link, HasLink s areaId u link → 0 ≤ link.metric) :
    ∃ tree, SpfTree s areaId tree ∧
      ∃ turns, ∀ fuel, turns < fuel → calculate s areaId fuel = some tree := by
  obtain ⟨rootLsa, hroot, hage⟩ := hvalid
  obtain ⟨tree, htree, hrun⟩ := LazySearch.run_shortest (explores_spf hids hmetrics hroot)
    (vertexIds s areaId) (by
      rintro v ⟨d, hw⟩
      obtain ⟨t, hp⟩ := hids.path_of_walk hw
      exact mem_vertexIds (Reached.present ⟨rootLsa, hroot, hage⟩ ⟨d, hp⟩))
  have hgood : ∀ id v, tree.get? id = some v → v.vertexId = id ∧ Reached s areaId v.node :=
    fun id v hv => ⟨(htree.vertex id v hv).1, (htree.vertex id v hv).2.2⟩
  refine ⟨tree, ⟨?_, ?_, ?_, ?_, htree.sorted⟩,
    1 + ∑ v ∈ vertexIds s areaId, (adjacency s areaId v).length, fun fuel hf => ?_⟩
  · intro u
    constructor
    · rintro ⟨v, hv, ht⟩
      obtain ⟨hid, hreach⟩ := hgood _ _ hv
      have hu : v.node = u := by rw [SpfVertex.node, ht, hid]
      exact hu ▸ hreach
    · rintro ⟨d, hp⟩
      obtain ⟨v, hv⟩ := (htree.contains_iff u.id).2 ⟨d, hids.walk_of_path hp⟩
      obtain ⟨hid, hreach⟩ := hgood _ _ hv
      exact ⟨v, hv, congrArg SpfNode.type (hids _ _ hreach ⟨d, hp⟩ hid)⟩
  · exact fun id v hv => (hgood id v hv).1
  · intro id v hv
    obtain ⟨hid, hreach⟩ := hgood _ _ hv
    obtain ⟨hw, hmin⟩ := htree.least _ _ hv
    rw [← hid] at hw hmin
    exact ⟨(hids.path_iff_walk hreach).2 hw, fun d hd => hmin d (hids.walk_of_path hd)⟩
  · intro id v hv
    obtain ⟨hid, hreach⟩ := hgood _ _ hv
    rcases htree.parent _ _ hv with rfl | ⟨p, w, hp, hpt, hadj, hd⟩
    · exact Or.inl ⟨hid.symm, rfl, rfl⟩
    · obtain ⟨-, d, hppath⟩ := hgood _ _ hpt
      obtain ⟨u, t, hu, hup, he⟩ := mem_adjacency hadj
      obtain rfl : u = p.node := hids _ _ hu ⟨d, hppath⟩ hup
      have hnode : (⟨t, id⟩ : SpfNode) = v.node := hids _ _ ⟨d + w, hppath.edge he⟩ hreach hid.symm
      exact Or.inr ⟨p, w, hp, hpt, hnode ▸ he, hd⟩
  · rw [calculate_eq hroot hage]
    exact hrun fuel hf

/-- **`calculate` ends, with a tree of shortest paths** to exactly the reachable vertices. -/
theorem calculate_shortest (hin : SpfInput s areaId) :
    ∃ tree, SpfTree s areaId tree ∧
      ∃ turns, ∀ fuel, turns < fuel → calculate s areaId fuel = some tree :=
  hin.distinct.calculate_tree hin.root hin.metrics

end Search

/-! ## Two routers on a point-to-point link -/

/-- A Router-LSA with one point-to-point link, on which cost 10 is advertised. -/
def p2pRouterLsa (routerId nbrId : IPv4Address) : Lsa :=
  { header := ⟨0, optE, lsaTypeRouter, routerId, routerId, initialSeqNum, 0, 36⟩
    body := some (.router { flags := 0, numLinks := 1, links :=
      [{ linkId := nbrId, linkData := 0, type := linkTypeP2P, numTos := 0, metric := 10 }] }) }

/-- Router 1 with the database of two routers that are linked. -/
def twoRouterArea : Instance :=
  { Instance.init 1 Dict.empty (fun _ => linkless) zeroMd5
      (fun _ => 0) 0 with
    heap := { obj := fun r => if r = 0 then p2pRouterLsa 1 2 else p2pRouterLsa 2 1, next := 2 }
    lsdb := { routerId := 1, areas := Dict.empty.set backboneArea partition } }
where
  partition : Partition := (Dict.empty.set (routerLsaKey 1) 0).set (routerLsaKey 2) 1
  linkless : OspfInterface :=
    { intfType := .p2p, cost := 10, priority := 1, helloInterval := 10, deadInterval := 40,
      passive := false, authType := .none, authKey := [], authKeyId := 0, areaId := backboneArea,
      ipAddr := 167772161, ipMask := 4294967292, mtu := 1500, mtu_lt := ethernetMtu_lt, ifIndex := 1,
      socket := true }

theorem spfInput_twoRouterArea : SpfInput twoRouterArea backboneArea where
  root := ⟨0, by decide, by decide⟩
  ids := by decide
  metrics := by
    rintro u link ⟨r, body, -, hbody, hlink⟩
    have hm : ∀ a b : IPv4Address, ((p2pRouterLsa a b).body = some (.router body)) →
        link.metric = 10 := by
      intro a b hab
      cases hab
      rw [List.mem_singleton.1 hlink]
    have h10 : link.metric = 10 := by
      change (if r = 0 then p2pRouterLsa 1 2 else p2pRouterLsa 2 1).body = _ at hbody
      split at hbody
      · exact hm _ _ hbody
      · exact hm _ _ hbody
    omega

theorem calculate_twoRouterArea : ∃ tree, SpfTree twoRouterArea backboneArea tree ∧
    ∃ turns, ∀ fuel, turns < fuel → calculate twoRouterArea backboneArea fuel = some tree :=
  calculate_shortest spfInput_twoRouterArea

end Ospfd
