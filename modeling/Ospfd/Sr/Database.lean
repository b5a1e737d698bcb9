import Ospfd.Lib.Scan
import Ospfd.Lsdb.Database
import Ospfd.Spf.Routes
import Ospfd.Sr.Opaque

/-!
# The SR database

* `NodeSrInfo` — what a router advertises: its SRGB and its SIDs.
* `SrDatabase.rebuild` — the nodes, from the opaque LSAs of an area.
* `getNode_rebuild` — **a node is made of the LSAs of its router alone**.
-/

namespace Ospfd

/-! ## Nodes -/

/-- What is known about a router. -/
structure NodeSrInfo where
  routerId : IPv4Address
  srgb : Option SidLabelRange := none
  algorithms : List Nat := [srAlgSpf]
  nodeSids : List (IPv4Network × PrefixSid) := []
  /-- Link ID, link data and SID. -/
  adjSids : List (IPv4Address × IPv4Address × AdjSid) := []
  deriving DecidableEq, Repr

/-- `lsa.body.raw_data`, where there is one. -/
def Lsa.rawData (lsa : Lsa) : Bytes :=
  match lsa.body with
  | some (.raw data) => data
  | _ => []

/-- The SIDs of the entries, up to the first whose prefix is too long. -/
def prefixSids : List ExtendedPrefixEntry → List (IPv4Network × PrefixSid)
  | [] => []
  | entry :: entries =>
      match entry.prefixSid with
      | none => prefixSids entries
      | some psid =>
          if 32 < entry.prefixLen then []
          else (ipv4Network entry.address entry.prefixLen, psid) :: prefixSids entries

namespace NodeSrInfo

/-- `label_for_prefix_sid` -/
def labelForPrefixSid (node : NodeSrInfo) (psid : PrefixSid) : Option Nat :=
  if psid.flags &&& prefixSidFlagV ≠ 0 then some psid.sid
  else
    match node.srgb with
    | some srgb => if srgb.contains psid.sid then some (srgb.labelForIndex psid.sid) else none
    | none => none

/-- The node with the content of an opaque LSA. -/
def readLsa (node : NodeSrInfo) (lsa : Lsa) : NodeSrInfo :=
  let opaqueType := opaqueTypeFromLsaId lsa.header.linkStateId
  if opaqueType = opaqueTypeRi then
    let ri := RouterInfoLsa.deserialize lsa.rawData
    { node with srgb := ri.srgb.or node.srgb, algorithms := ri.srAlgorithms }
  else if opaqueType = opaqueTypeExtendedPrefix then
    { node with nodeSids := node.nodeSids ++ prefixSids (ExtendedPrefixLsa.deserialize lsa.rawData).prefixes }
  else if opaqueType = opaqueTypeExtendedLink then
    let links := (ExtendedLinkLsa.deserialize lsa.rawData).links
    { node with adjSids := node.adjSids ++
        links.flatMap fun link => link.adjSids.map fun asid => (link.linkId, link.linkData, asid) }
  else node

/-- The SRGB in an opaque LSA. -/
def srgbOf (lsa : Lsa) : Option SidLabelRange :=
  if opaqueTypeFromLsaId lsa.header.linkStateId = opaqueTypeRi then
    (RouterInfoLsa.deserialize lsa.rawData).srgb
  else none

/-- The SIDs in an opaque LSA. -/
def sidsOf (lsa : Lsa) : List (IPv4Network × PrefixSid) :=
  if opaqueTypeFromLsaId lsa.header.linkStateId = opaqueTypeExtendedPrefix then
    prefixSids (ExtendedPrefixLsa.deserialize lsa.rawData).prefixes
  else []

/-- The Adj-SIDs in an opaque LSA. -/
def adjSidsOf (lsa : Lsa) : List (IPv4Address × IPv4Address × AdjSid) :=
  if opaqueTypeFromLsaId lsa.header.linkStateId = opaqueTypeExtendedLink then
    (ExtendedLinkLsa.deserialize lsa.rawData).links.flatMap fun link =>
      link.adjSids.map fun asid => (link.linkId, link.linkData, asid)
  else []

/-- The algorithms in an opaque LSA. -/
def algorithmsOf (lsa : Lsa) : Option (List Nat) :=
  if opaqueTypeFromLsaId lsa.header.linkStateId = opaqueTypeRi then
    some (RouterInfoLsa.deserialize lsa.rawData).srAlgorithms
  else none

section Reading

variable (lsas : List Lsa) (node : NodeSrInfo)

theorem srgb_readLsa (lsa : Lsa) : (node.readLsa lsa).srgb = (srgbOf lsa).or node.srgb := by
  simp only [readLsa, srgbOf]
  split
  · rfl
  · split
    · rfl
    · split
      · rfl
      · rfl

theorem nodeSids_readLsa (lsa : Lsa) : (node.readLsa lsa).nodeSids = node.nodeSids ++ sidsOf lsa := by
  have hne : opaqueTypeRi ≠ opaqueTypeExtendedPrefix := by decide
  simp only [readLsa, sidsOf]
  split
  · rename_i hri
    rw [hri, if_neg hne, List.append_nil]
  · split
    · rfl
    · split
      · exact (List.append_nil _).symm
      · exact (List.append_nil _).symm

theorem adjSids_readLsa (lsa : Lsa) : (node.readLsa lsa).adjSids = node.adjSids ++ adjSidsOf lsa := by
  have hri : opaqueTypeRi ≠ opaqueTypeExtendedLink := by decide
  have hprefix : opaqueTypeExtendedPrefix ≠ opaqueTypeExtendedLink := by decide
  simp only [readLsa, adjSidsOf]
  split
  · rename_i htype
    rw [htype, if_neg hri, List.append_nil]
  · split
    · rename_i htype
      rw [htype, if_neg hprefix, List.append_nil]
    · split
      · rfl
      · exact (List.append_nil _).symm

theorem algorithms_readLsa (lsa : Lsa) :
    (node.readLsa lsa).algorithms = (algorithmsOf lsa).getD node.algorithms := by
  simp only [readLsa, algorithmsOf]
  split
  · rfl
  · split
    · rfl
    · split
      · rfl
      · rfl

theorem routerId_readLsa (lsa : Lsa) : (node.readLsa lsa).routerId = node.routerId := by
  simp only [readLsa]
  split
  · rfl
  · split
    · rfl
    · split
      · rfl
      · rfl

/-- The last range counts. -/
theorem srgb_foldl : (lsas.foldl readLsa node).srgb = (lsas.reverse.findSome? srgbOf).or node.srgb :=
  foldl_last srgb_readLsa lsas node

/-- The last algorithms count. -/
theorem algorithms_foldl : (lsas.foldl readLsa node).algorithms =
    (lsas.reverse.findSome? algorithmsOf).getD node.algorithms := by
  have hstep : ∀ (node : NodeSrInfo) lsa,
      some (node.readLsa lsa).algorithms = (algorithmsOf lsa).or (some node.algorithms) := by
    intro node lsa
    rw [algorithms_readLsa]
    cases algorithmsOf lsa <;> rfl
  have hlast := foldl_last (v := fun node => some node.algorithms) hstep lsas node
  cases hfound : lsas.reverse.findSome? algorithmsOf with
  | none =>
    rw [hfound] at hlast
    exact Option.some.inj hlast
  | some algorithms =>
    rw [hfound] at hlast
    exact Option.some.inj hlast

theorem nodeSids_foldl : (lsas.foldl readLsa node).nodeSids = node.nodeSids ++ lsas.flatMap sidsOf :=
  foldl_collect nodeSids_readLsa lsas node

theorem adjSids_foldl : (lsas.foldl readLsa node).adjSids = node.adjSids ++ lsas.flatMap adjSidsOf :=
  foldl_collect adjSids_readLsa lsas node

theorem routerId_foldl : (lsas.foldl readLsa node).routerId = node.routerId :=
  foldl_keeps routerId_readLsa lsas node

end Reading

end NodeSrInfo

/-! ## The database -/

/-- The nodes by router ID. -/
structure SrDatabase where
  nodes : Dict IPv4Address NodeSrInfo := Dict.empty

namespace SrDatabase

/-- An opaque LSA is read into the node of its router. -/
def readLsa (db : SrDatabase) (lsa : Lsa) : SrDatabase :=
  let advRouter := lsa.header.advertisingRouter
  let node := (db.nodes.get? advRouter).getD { routerId := advRouter }
  { db with nodes := db.nodes.set advRouter (node.readLsa lsa) }

/-- The opaque LSAs of an area. -/
def opaqueLsas (lsdb : LinkStateDatabase) (heap : LsaHeap) (areaId : IPv4Address) : List Lsa :=
  (lsdb.getAllOfType heap areaId lsaTypeOpaqueArea).map heap.obj

/-- `rebuild`: what was known before is cleared. -/
def rebuild (db : SrDatabase) (lsdb : LinkStateDatabase) (heap : LsaHeap) (areaId : IPv4Address) :
    SrDatabase :=
  (opaqueLsas lsdb heap areaId).foldl readLsa { db with nodes := Dict.empty }

def getNode (db : SrDatabase) (routerId : IPv4Address) : Option NodeSrInfo := db.nodes.get? routerId

/-- `get_prefix_label`: the first SID of the prefix counts. -/
def getPrefixLabel (db : SrDatabase) (destRouterId : IPv4Address) (network : IPv4Network) : Option Nat :=
  match db.getNode destRouterId with
  | none => none
  | some node =>
      match node.nodeSids.find? fun x => x.1 = network with
      | some (_, psid) => node.labelForPrefixSid psid
      | none => none

/-- The LSAs that a router advertises in an area. -/
def advertised (lsdb : LinkStateDatabase) (heap : LsaHeap) (areaId routerId : IPv4Address) : List Lsa :=
  (opaqueLsas lsdb heap areaId).filter fun lsa => lsa.header.advertisingRouter = routerId

/-- What the LSAs of a router add to what is known about it. -/
def nodeOf (routerId : IPv4Address) (lsas : List Lsa) (node : Option NodeSrInfo) : Option NodeSrInfo :=
  lsas.foldl (fun node lsa => some ((node.getD { routerId }).readLsa lsa)) node

theorem getNode_foldl (routerId : IPv4Address) (lsas : List Lsa) (db : SrDatabase) :
    (lsas.foldl readLsa db).getNode routerId =
      nodeOf routerId (lsas.filter fun lsa => lsa.header.advertisingRouter = routerId)
        (db.getNode routerId) := by
  induction lsas generalizing db with
  | nil => rfl
  | cons lsa lsas ih =>
    rw [List.foldl_cons, ih]
    by_cases h : lsa.header.advertisingRouter = routerId
    · rw [List.filter_cons_of_pos (by simpa using h), nodeOf, nodeOf, List.foldl_cons]
      congr 1
      rw [getNode, readLsa, h, Dict.get?_set_self]
      rfl
    · rw [List.filter_cons_of_neg (by simpa using h)]
      congr 1
      rw [getNode, readLsa, Dict.get?_set_of_ne _ h]
      rfl

/-- **A node is made of the LSAs of its router alone.** -/
theorem getNode_rebuild (db : SrDatabase) (lsdb : LinkStateDatabase) (heap : LsaHeap)
    (areaId routerId : IPv4Address) : (db.rebuild lsdb heap areaId).getNode routerId =
      nodeOf routerId (advertised lsdb heap areaId routerId) none := by
  rw [rebuild, getNode_foldl]
  rfl

theorem nodeOf_cons (routerId : IPv4Address) (lsa : Lsa) (lsas : List Lsa) (node : Option NodeSrInfo) :
    nodeOf routerId (lsa :: lsas) node =
      some ((lsa :: lsas).foldl NodeSrInfo.readLsa (node.getD { routerId })) := by
  induction lsas generalizing lsa node with
  | nil => rfl
  | cons lsa' lsas ih =>
    have hstep : nodeOf routerId (lsa :: lsa' :: lsas) node =
        nodeOf routerId (lsa' :: lsas) (some ((node.getD { routerId }).readLsa lsa)) := rfl
    rw [hstep, ih]
    rfl

/-- **The label of a prefix**: the first SID of the prefix in the LSAs of the router, in its SRGB. -/
theorem getPrefixLabel_rebuild (db : SrDatabase) (lsdb : LinkStateDatabase) (heap : LsaHeap)
    (areaId routerId : IPv4Address) (network : IPv4Network) :
    (db.rebuild lsdb heap areaId).getPrefixLabel routerId network =
      (((advertised lsdb heap areaId routerId).flatMap NodeSrInfo.sidsOf).find? fun x =>
        x.1 = network).bind fun x =>
          ((advertised lsdb heap areaId routerId).foldl NodeSrInfo.readLsa { routerId }).labelForPrefixSid
            x.2 := by
  rw [getPrefixLabel, getNode_rebuild]
  cases advertised lsdb heap areaId routerId with
  | nil => rfl
  | cons lsa lsas =>
    rw [nodeOf_cons]
    dsimp only [Option.getD_none]
    rw [NodeSrInfo.nodeSids_foldl, List.nil_append]
    cases ((lsa :: lsas).flatMap NodeSrInfo.sidsOf).find? fun x => x.1 = network with
    | none => rfl
    | some x => rfl

theorem mem_advertised {lsdb : LinkStateDatabase} {heap : LsaHeap} {areaId routerId : IPv4Address}
    {lsa : Lsa} : lsa ∈ advertised lsdb heap areaId routerId ↔ ∃ k r,
      (lsdb.area areaId).get? k = some r ∧ heap.obj r = lsa ∧ lsa.header.lsType = lsaTypeOpaqueArea ∧
        lsa.header.advertisingRouter = routerId := by
  simp only [advertised, opaqueLsas, LinkStateDatabase.getAllOfType, LinkStateDatabase.getAll,
    List.mem_filter, List.mem_map, Dict.mem_values_iff, decide_eq_true_eq]
  constructor
  · rintro ⟨⟨r, ⟨⟨k, hk⟩, htype⟩, rfl⟩, hadv⟩
    exact ⟨k, r, hk, rfl, htype, hadv⟩
  · rintro ⟨k, r, hk, rfl, htype, hadv⟩
    exact ⟨⟨r, ⟨⟨k, hk⟩, htype⟩, rfl⟩, hadv⟩

/-- What was known before does not matter. -/
theorem rebuild_eq (db : SrDatabase) (lsdb : LinkStateDatabase) (heap : LsaHeap) (areaId : IPv4Address) :
    db.rebuild lsdb heap areaId = ({} : SrDatabase).rebuild lsdb heap areaId := rfl

end SrDatabase

end Ospfd
