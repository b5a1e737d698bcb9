import Ospfd.Sr.Spf

/-!
# Valid labels

Labels of 20 bits come from bytes received: absolute labels of 24 bits, or the start of a range plus
an index below its size, both of any size.  Nobody checks them.

* `ValidLabel` — implicit null, or a label that is not reserved.
* `ValidSid` — a SID with the range of its router gives a valid label, if any.
* `getNode_rebuild_iff` — what the database holds of a router, from the LSAs it advertises.
* `labelsValid_iff` — **the labels of all routes are valid exactly if the SIDs they are computed from
  are**.
* `label_lt` — what the parsers bound a label by.
-/

namespace Ospfd

def mplsLabelMinUnreserved : Nat := 16
def mplsLabelMax : Nat := 1048575

/-- A label that may be programmed. -/
def ValidLabel (label : Nat) : Prop :=
  label = mplsLabelImplicitNull ∨ mplsLabelMinUnreserved ≤ label ∧ label ≤ mplsLabelMax

instance (label : Nat) : Decidable (ValidLabel label) := inferInstanceAs (Decidable (_ ∨ _))

/-- A SID gives a valid label: an absolute label by itself, an index with the range it is inside of. -/
def ValidSid (srgb : Option SidLabelRange) (psid : PrefixSid) : Prop :=
  if psid.isValue then ValidLabel psid.sid
  else ∀ r, srgb = some r → psid.sid < r.size → ValidLabel (r.start + psid.sid)

namespace SrDatabase

/-- The SIDs that a router advertises in an area. -/
def sids (lsdb : LinkStateDatabase) (heap : LsaHeap) (areaId routerId : IPv4Address) :
    List (IPv4Network × PrefixSid) :=
  (advertised lsdb heap areaId routerId).flatMap NodeSrInfo.sidsOf

/-- The SRGB that a router advertises in an area, the last among several. -/
def srgb (lsdb : LinkStateDatabase) (heap : LsaHeap) (areaId routerId : IPv4Address) :
    Option SidLabelRange :=
  (advertised lsdb heap areaId routerId).reverse.findSome? NodeSrInfo.srgbOf

variable {db : SrDatabase} {lsdb : LinkStateDatabase} {heap : LsaHeap} {areaId routerId : IPv4Address}

/-- **What is known of a router**: the SIDs and the SRGB it advertises. -/
theorem getNode_rebuild_sids {node : NodeSrInfo}
    (h : (db.rebuild lsdb heap areaId).getNode routerId = some node) :
    node.nodeSids = sids lsdb heap areaId routerId ∧ node.srgb = srgb lsdb heap areaId routerId := by
  rw [getNode_rebuild] at h
  rw [sids, srgb]
  cases hlsas : advertised lsdb heap areaId routerId with
  | nil =>
    rw [hlsas] at h
    cases h
  | cons lsa lsas =>
    rw [hlsas, nodeOf_cons] at h
    cases h
    rw [NodeSrInfo.nodeSids_foldl, NodeSrInfo.srgb_foldl, Option.getD_none]
    exact ⟨List.nil_append _, Option.or_none⟩

theorem exists_getNode_rebuild (db : SrDatabase) {x : IPv4Network × PrefixSid}
    (h : x ∈ sids lsdb heap areaId routerId) :
    ∃ node, (db.rebuild lsdb heap areaId).getNode routerId = some node := by
  rw [getNode_rebuild]
  rw [sids] at h
  cases hlsas : advertised lsdb heap areaId routerId with
  | nil =>
    rw [hlsas] at h
    cases h
  | cons lsa lsas => exact ⟨_, nodeOf_cons ..⟩

end SrDatabase

/-- The labels of one SID. -/
theorem validSid_iff {node : NodeSrInfo} {psid : PrefixSid} :
    (∀ label, node.labelForPrefixSid psid = some label → ValidLabel label) ↔ ValidSid node.srgb psid := by
  rw [ValidSid]
  cases hv : psid.isValue with
  | true => simp [labelForPrefixSid_value hv]
  | false =>
    simp only [labelForPrefixSid_index hv, SidLabelRange.contains, SidLabelRange.labelForIndex,
      decide_eq_true_eq, Bool.false_eq_true, if_false]
    constructor
    · exact fun h r hr hlt => h _ ⟨r, hr, hlt, rfl⟩
    · rintro h label ⟨r, hr, hlt, rfl⟩
      exact h r hr hlt

/-- **All labels are valid exactly if the SIDs they come from are**: those of the routers that the tree
has next hops to, unless the label is popped. -/
theorem labelsValid_iff (tree : Dict IPv4Address SpfVertex) (db : SrDatabase) (lsdb : LinkStateDatabase)
    (heap : LsaHeap) (areaId : IPv4Address) :
    (∀ route ∈ computeSrRoutes tree (db.rebuild lsdb heap areaId), ValidLabel route.outgoingLabel) ↔
      ∀ id vertex net psid, tree.get? id = some vertex → vertex.nexthops ≠ [] →
        (net, psid) ∈ SrDatabase.sids lsdb heap areaId id → (psid.noPhp = true ∨ vertex.parent.isSome) →
          ¬PopsBefore vertex psid → ValidSid (SrDatabase.srgb lsdb heap areaId id) psid := by
  constructor
  · intro hall id vertex net psid hvertex hhops hsid hparent hpop
    obtain ⟨node, hnode⟩ := SrDatabase.exists_getNode_rebuild db hsid
    obtain ⟨hsids, hsrgb⟩ := SrDatabase.getNode_rebuild_sids hnode
    obtain ⟨nexthop, hnexthop⟩ := List.exists_mem_of_ne_nil _ hhops
    rw [← hsrgb]
    refine validSid_iff.1 fun label hlabel => ?_
    have hout : computeOutgoingLabel vertex psid node = some label :=
      computeOutgoingLabel_eq_some.2 ⟨hparent, label, hlabel, Or.inr ⟨hpop, rfl⟩⟩
    exact hall ⟨net, nexthop.nextHopIp, nexthop.interfaceName, label, id, vertex.distance⟩
      (mem_computeSrRoutes.2 ⟨vertex, psid, hvertex, ⟨node, hnode, hsids ▸ hsid, hout⟩,
        ⟨nexthop, hnexthop, rfl, rfl⟩, rfl⟩)
  · intro hall route hmem
    obtain ⟨vertex, psid, hvertex, ⟨node, hnode, hsid, hout⟩, ⟨nexthop, hnexthop, -⟩, -⟩ :=
      mem_computeSrRoutes.1 hmem
    obtain ⟨hsids, hsrgb⟩ := SrDatabase.getNode_rebuild_sids hnode
    obtain ⟨hparent, label, hlabel, hlast⟩ := computeOutgoingLabel_eq_some.1 hout
    rcases hlast with ⟨-, hnull⟩ | ⟨hpop, hlabel'⟩
    · exact Or.inl hnull
    · have hvalid := hall _ vertex _ psid hvertex (List.ne_nil_of_mem hnexthop) (hsids ▸ hsid) hparent hpop
      rw [← hsrgb] at hvalid
      rw [hlabel']
      exact validSid_iff.2 hvalid label hlabel

/-! ## What the parsers bound -/

theorem toNat_slice_lt (data : Bytes) (lo : Nat) {n : Nat} :
    Bytes.toNat (Bytes.slice data lo (lo + n)) < 256 ^ n := by
  refine lt_of_lt_of_le (Bytes.toNat_lt _) (Nat.pow_le_pow_right (by omega) ?_)
  rw [Bytes.slice, List.length_take]
  omega

/-- An absolute label has 24 bits. -/
theorem PrefixSid.sid_lt {data : Bytes} {psid : PrefixSid} (h : PrefixSid.deserialize data = .ok psid)
    (hv : psid.isValue = true) : psid.sid < 16777216 := by
  have hflag : psid.flags &&& prefixSidFlagV ≠ 0 := by simpa [PrefixSid.isValue] using hv
  rw [PrefixSid.deserialize] at h
  dsimp only at h
  split_ifs at h with hshort hbit hlong
  · cases h
    exact toNat_slice_lt data 4 (n := 3)
  · cases h
    exact absurd hflag hbit

/-- A range starts below 2^32, and its size has 24 bits. -/
theorem parseSidLabelRange_lt {data : Bytes} {r : SidLabelRange} (h : parseSidLabelRange data = .ok r) :
    r.start < 4294967296 ∧ r.size < 16777216 := by
  rw [parseSidLabelRange] at h
  dsimp only at h
  split_ifs at h with hshort hhdr hlabel
  · cases h
    exact ⟨Nat.zero_lt_succ _, toNat_slice_lt data 0 (n := 3)⟩
  · cases h
    refine ⟨lt_of_lt_of_le (toNat_slice_lt data 7) ?_, toNat_slice_lt data 0 (n := 3)⟩
    rcases hlabel.2.2 with h3 | h4
    · rw [h3]
      decide
    · rw [h4]
      decide
  · cases h
    exact ⟨Nat.zero_lt_succ _, toNat_slice_lt data 0 (n := 3)⟩

/-- What a body says of a range was parsed from a TLV. -/
theorem RouterInfoLsa.srgb_lt {data : Bytes} {r : SidLabelRange}
    (h : (RouterInfoLsa.deserialize data).srgb = some r) : r.start < 4294967296 ∧ r.size < 16777216 := by
  have hfold : ∀ (tlvs : List (Nat × Bytes)) (lsa : RouterInfoLsa),
      (∀ r, lsa.srgb = some r → r.start < 4294967296 ∧ r.size < 16777216) →
      ∀ r, (tlvs.foldl RouterInfoLsa.readTlv lsa).srgb = some r → r.start < 4294967296 ∧ r.size < 16777216 := by
    intro tlvs
    induction tlvs with
    | nil => exact fun lsa hlsa => hlsa
    | cons tlv tlvs ih =>
      intro lsa hlsa
      refine ih _ fun r hr => ?_
      rw [RouterInfoLsa.readTlv] at hr
      split_ifs at hr with hcap halg hrange
      · split at hr
        · exact hlsa r hr
        · exact hlsa r hr
      · exact hlsa r hr
      · split at hr
        · rename_i r' hparse
          cases hr
          exact parseSidLabelRange_lt hparse
        · exact hlsa r hr
      · exact hlsa r hr
  exact hfold _ _ (fun r hr => by cases hr) r h

/-- The SID of an entry was parsed from a TLV. -/
theorem ExtendedPrefixEntry.exists_deserialize {data : Bytes} {entry : ExtendedPrefixEntry} {psid : PrefixSid}
    (h : ExtendedPrefixEntry.deserialize data = .ok entry) (hsid : entry.prefixSid = some psid) :
    ∃ value, PrefixSid.deserialize value = .ok psid := by
  have hfold : ∀ (stlvs : List (Nat × Bytes)) (entry : ExtendedPrefixEntry),
      (∀ psid, entry.prefixSid = some psid → ∃ value, PrefixSid.deserialize value = .ok psid) →
      ∀ psid, (stlvs.foldl readStlv entry).prefixSid = some psid → ∃ value, PrefixSid.deserialize value = .ok psid := by
    intro stlvs
    induction stlvs with
    | nil => exact fun entry hentry => hentry
    | cons stlv stlvs ih =>
      intro entry hentry
      refine ih _ fun psid hpsid => ?_
      rw [readStlv] at hpsid
      split_ifs at hpsid with htype
      · split at hpsid
        · rename_i psid' hparse
          cases hpsid
          exact ⟨_, hparse⟩
        · exact hentry psid hpsid
      · exact hentry psid hpsid
  rw [ExtendedPrefixEntry.deserialize] at h
  split_ifs at h with hshort
  cases h
  exact hfold _ _ (fun psid hpsid => by cases hpsid) psid hsid

/-- The SIDs of entries. -/
theorem mem_prefixSids {entries : List ExtendedPrefixEntry} {x : IPv4Network × PrefixSid}
    (h : x ∈ prefixSids entries) : ∃ entry ∈ entries, entry.prefixSid = some x.2 := by
  induction entries with
  | nil => cases h
  | cons entry entries ih =>
    rw [prefixSids] at h
    split at h
    · obtain ⟨e, he, hsid⟩ := ih h
      exact ⟨e, List.mem_cons_of_mem _ he, hsid⟩
    · rename_i psid hpsid
      split_ifs at h with hlong
      · cases h
      · rcases List.mem_cons.1 h with rfl | h
        · exact ⟨entry, List.mem_cons_self .., hpsid⟩
        · obtain ⟨e, he, hsid⟩ := ih h
          exact ⟨e, List.mem_cons_of_mem _ he, hsid⟩

/-- A SID that is advertised was parsed from a TLV. -/
theorem SrDatabase.exists_deserialize {lsdb : LinkStateDatabase} {heap : LsaHeap} {areaId routerId : IPv4Address}
    {x : IPv4Network × PrefixSid} (h : x ∈ sids lsdb heap areaId routerId) :
    ∃ value, PrefixSid.deserialize value = .ok x.2 := by
  obtain ⟨lsa, -, hlsa⟩ := List.mem_flatMap.1 h
  rw [NodeSrInfo.sidsOf] at hlsa
  split at hlsa
  · obtain ⟨entry, hentry, hsid⟩ := mem_prefixSids hlsa
    obtain ⟨tlv, -, htlv⟩ := List.mem_filterMap.1 hentry
    split at htlv
    · cases hdes : ExtendedPrefixEntry.deserialize tlv.2 with
      | error e =>
        rw [hdes] at htlv
        cases htlv
      | ok entry' =>
        rw [hdes] at htlv
        cases htlv
        exact ExtendedPrefixEntry.exists_deserialize hdes hsid
    · cases htlv
  · cases hlsa

/-- **What a label is bounded by**: 24 bits if it is absolute, else the largest start and the largest
size of a range. -/
theorem label_lt {tree : Dict IPv4Address SpfVertex} {db : SrDatabase} {lsdb : LinkStateDatabase}
    {heap : LsaHeap} {areaId : IPv4Address} {route : SrRoute}
    (h : route ∈ computeSrRoutes tree (db.rebuild lsdb heap areaId)) :
    route.outgoingLabel < 4294967296 + 16777216 := by
  obtain ⟨vertex, psid, -, ⟨node, hnode, hsid, hout⟩, -, -⟩ := mem_computeSrRoutes.1 h
  obtain ⟨hsids, hsrgb⟩ := SrDatabase.getNode_rebuild_sids hnode
  obtain ⟨-, label, hlabel, ⟨-, hlast⟩ | ⟨-, hlast⟩⟩ := computeOutgoingLabel_eq_some.1 hout
  · rw [hlast]
    decide
  · rw [hlast]
    cases hv : psid.isValue with
    | true =>
      obtain ⟨value, hvalue⟩ := SrDatabase.exists_deserialize (hsids ▸ hsid)
      have hlt : psid.sid < 16777216 := PrefixSid.sid_lt hvalue hv
      rw [labelForPrefixSid_value hv] at hlabel
      cases hlabel
      omega
    | false =>
      obtain ⟨r, hr, hin, rfl⟩ := (labelForPrefixSid_index hv).1 hlabel
      rw [hsrgb, SrDatabase.srgb] at hr
      obtain ⟨lsa, -, hlsa⟩ := List.exists_of_findSome?_eq_some hr
      rw [NodeSrInfo.srgbOf] at hlsa
      split at hlsa
      · obtain ⟨hstart, hsize⟩ := RouterInfoLsa.srgb_lt hlsa
        simp only [SidLabelRange.contains, decide_eq_true_eq] at hin
        rw [SidLabelRange.labelForIndex]
        omega
      · cases hlsa

/-! ### A label of 24 bits -/

/-- Router 2 advertises the label 16777215. -/
def wideLabelLsa : Lsa where
  header := ⟨0, optE, lsaTypeOpaqueArea, makeOpaqueLsaId opaqueTypeExtendedPrefix 1, 2, initialSeqNum, 0, 44⟩
  body := some (.raw [0, 1, 0, 20, 1, 32, 0, 64, 192, 168, 1, 1, 0, 2, 0, 7, 72, 0, 0, 0, 255, 255, 255, 0])

/-- It is programmed. -/
theorem not_labelsValid : ¬∀ (tree : Dict IPv4Address SpfVertex) (db : SrDatabase) (lsdb : LinkStateDatabase)
    (heap : LsaHeap) (areaId : IPv4Address), ∀ route ∈ computeSrRoutes tree (db.rebuild lsdb heap areaId),
      ValidLabel route.outgoingLabel := by
  intro hall
  have hroutes : computeSrRoutes chainTree (({} : SrDatabase).rebuild
      { routerId := 1, areas := Dict.empty.set backboneArea (Dict.empty.set wideLabelLsa.key 0) }
      { obj := fun _ => wideLabelLsa, next := 1 } backboneArea) =
        [⟨⟨3232235777, 32⟩, 167772162, 0, 16777215, 2, 10⟩] := by
    decide +kernel
  have hvalid := hall chainTree {} _ _ backboneArea _ (hroutes ▸ List.mem_singleton_self _)
  exact absurd hvalid (by decide)

end Ospfd
