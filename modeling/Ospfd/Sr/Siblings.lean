import Ospfd.Sr.Database

/-!
# One malformed TLV among others

A value that is too short for an Adj-SID is a `ValueError`, which is caught; an index that is cut
off after three bytes is a `struct.error`, which is not, and costs the whole entry.

* `CutOff` — the TLVs that cost their entry.
* `adjSidOf`, `lanAdjSidOf` — what a TLV decodes to on its own.
* `readStlv_eq` — the step: what a TLV adds, or that it fails.
* `decodes_iff` — **an entry is exactly its well-formed TLVs unless one is cut off**.
* `siblings_kept_iff` — **so in an LSA and in the SR database**.
-/

namespace Ospfd

/-! ## On its own -/

/-- An index that is cut off after three bytes. -/
def AdjSid.Cut (data : Bytes) : Prop := data.length = 7 ∧ byteAt data 0 &&& adjSidFlagV = 0

theorem AdjSid.deserialize_of_cut {data : Bytes} (h : AdjSid.Cut data) :
    AdjSid.deserialize data = .error .structError := by
  have hlen : ¬data.length < 7 := by rw [h.1]; omega
  have hflag : ¬byteAt data 0 &&& adjSidFlagV ≠ 0 := by simpa using h.2
  have hshort : unpackFrom [.I] data 4 = .error .structError := by
    rw [unpackFrom, Struct.unpackFrom, if_neg (by rw [h.1]; decide)]
  simp only [deserialize, if_neg hlen, if_neg hflag, hshort]

theorem AdjSid.deserialize_of_not_cut {data : Bytes} (h : ¬AdjSid.Cut data) :
    (∃ asid, AdjSid.deserialize data = .ok asid) ∨
      ∃ msg, AdjSid.deserialize data = .error (.valueError msg) := by
  by_cases hlen : data.length < 7
  · exact Or.inr ⟨_, if_pos hlen⟩
  · refine Or.inl ?_
    by_cases hflag : byteAt data 0 &&& adjSidFlagV ≠ 0
    · simp only [deserialize, if_neg hlen, if_pos hflag]
      exact ⟨_, rfl⟩
    · have hlong : 4 + 4 ≤ data.length := by
        have hne : data.length ≠ 7 := fun h7 => h ⟨h7, by simpa using hflag⟩
        omega
      have hread : ∃ sid, unpackFrom [.I] data 4 = .ok [.nat sid] := by
        rw [unpackFrom, Struct.unpackFrom, if_pos (by exact hlong)]
        exact ⟨_, rfl⟩
      obtain ⟨sid, hsid⟩ := hread
      simp only [deserialize, if_neg hlen, if_neg hflag, hsid]
      exact ⟨_, rfl⟩

namespace ExtendedLinkEntry

/-- The Adj-SID in the value of a LAN Adj-SID, without the neighbor. -/
def lanValue (value : Bytes) : Bytes := value.take 4 ++ value.drop 8

/-- The Adj-SID that a TLV decodes to on its own. -/
def adjSidOf (stlv : Nat × Bytes) : Option AdjSid :=
  if stlv.1 = srStlvAdjSid then (AdjSid.deserialize stlv.2).toOption else none

/-- The neighbor and the Adj-SID that a TLV decodes to on its own. -/
def lanAdjSidOf (stlv : Nat × Bytes) : Option (IPv4Address × AdjSid) :=
  if stlv.1 = srStlvLanAdjSid then
    ((AdjSid.deserialize (lanValue stlv.2)).toOption).map fun asid => (addressField (Bytes.slice stlv.2 4 8), asid)
  else none

/-- A TLV whose index is cut off after three bytes. -/
def CutOff (stlv : Nat × Bytes) : Prop :=
  byteAt stlv.2 0 &&& adjSidFlagV = 0 ∧
    (stlv.1 = srStlvAdjSid ∧ stlv.2.length = 7 ∨ stlv.1 = srStlvLanAdjSid ∧ stlv.2.length = 11)

instance (stlv : Nat × Bytes) : Decidable (CutOff stlv) := inferInstanceAs (Decidable (_ ∧ _))

/-- An entry with what a TLV decodes to. -/
def add (entry : ExtendedLinkEntry) (stlv : Nat × Bytes) : ExtendedLinkEntry :=
  { entry with
    adjSids := entry.adjSids ++ (adjSidOf stlv).toList
    lanAdjSids := entry.lanAdjSids ++ (lanAdjSidOf stlv).toList }

section Reading

variable (entry : ExtendedLinkEntry) {stlv : Nat × Bytes}

theorem cut_lanValue {value : Bytes} (h : 10 ≤ value.length) :
    AdjSid.Cut (lanValue value) ↔ byteAt value 0 &&& adjSidFlagV = 0 ∧ value.length = 11 := by
  have hlen : (lanValue value).length = value.length - 4 := by
    rw [lanValue, List.length_append, List.length_take, List.length_drop]
    omega
  have hfst : byteAt (lanValue value) 0 = byteAt value 0 := by
    rw [byteAt, byteAt, lanValue, List.getD_append _ _ _ _ (by rw [List.length_take]; omega)]
    simp [List.getD]
  rw [AdjSid.Cut, hlen, hfst]
  omega

/-- An Adj-SID is added, a malformed one passed over, and one that is cut off fails the entry. -/
theorem readAdjSid_eq (data : Bytes) (f : AdjSid → ExtendedLinkEntry) :
    (AdjSid.Cut data → entry.readAdjSid data f = .error .structError) ∧
      (¬AdjSid.Cut data → entry.readAdjSid data f = .ok ((AdjSid.deserialize data).toOption.elim entry f)) := by
  refine ⟨fun hcut => ?_, fun hcut => ?_⟩
  · rw [readAdjSid, AdjSid.deserialize_of_cut hcut]
  · rcases AdjSid.deserialize_of_not_cut hcut with ⟨asid, h⟩ | ⟨msg, h⟩
    · rw [readAdjSid, h]
      rfl
    · rw [readAdjSid, h]
      rfl

/-- Without a neighbor and an Adj-SID there is nothing to decode. -/
theorem lanAdjSidOf_of_short (h : stlv.2.length < 10) : lanAdjSidOf stlv = none := by
  have hlen : (lanValue stlv.2).length < 7 := by
    rw [lanValue, List.length_append, List.length_take, List.length_drop]
    omega
  have hshort : (AdjSid.deserialize (lanValue stlv.2)).toOption = none := by
    rw [AdjSid.deserialize]
    dsimp only
    rw [if_pos hlen]
    rfl
  rw [lanAdjSidOf, hshort]
  simp

/-- **One TLV**: it adds what it decodes to, or fails the entry if it is cut off. -/
theorem readStlv_eq :
    (CutOff stlv → entry.readStlv stlv = .error .structError) ∧
      (¬CutOff stlv → entry.readStlv stlv = .ok (entry.add stlv)) := by
  have hne : srStlvLanAdjSid ≠ srStlvAdjSid := by decide
  by_cases hadj : stlv.1 = srStlvAdjSid
  · -- an Adj-SID
    have hlan : stlv.1 ≠ srStlvLanAdjSid := fun h => hne (h.symm.trans hadj)
    have hcut : CutOff stlv ↔ AdjSid.Cut stlv.2 := by
      rw [CutOff, AdjSid.Cut]
      simp [hadj, hne.symm, and_comm]
    rw [readStlv, if_pos hadj, hcut]
    refine ⟨(entry.readAdjSid_eq _ _).1, fun h => ?_⟩
    rw [(entry.readAdjSid_eq _ _).2 h, add, adjSidOf, if_pos hadj, lanAdjSidOf, if_neg hlan]
    cases (AdjSid.deserialize stlv.2).toOption <;> simp
  · have hnone : adjSidOf stlv = none := if_neg hadj
    rw [readStlv, if_neg hadj]
    by_cases hlan : stlv.1 = srStlvLanAdjSid
    · by_cases hlen : 10 ≤ stlv.2.length
      · -- a LAN Adj-SID
        have hcut : CutOff stlv ↔ AdjSid.Cut (lanValue stlv.2) := by
          rw [CutOff, cut_lanValue hlen]
          simp [hlan, hne]
        rw [if_pos ⟨hlan, hlen⟩, hcut]
        refine ⟨(entry.readAdjSid_eq _ _).1, fun h => ?_⟩
        have hread := (entry.readAdjSid_eq (lanValue stlv.2) fun asid => { entry with
          lanAdjSids := entry.lanAdjSids ++ [(addressField (Bytes.slice stlv.2 4 8), asid)] }).2 h
        refine hread.trans ?_
        rw [add, hnone, lanAdjSidOf, if_pos hlan]
        cases (AdjSid.deserialize (lanValue stlv.2)).toOption <;> simp
      · have hcut : ¬CutOff stlv := by
          rintro ⟨-, ⟨h, -⟩ | ⟨-, h⟩⟩
          · exact hadj h
          · omega
        rw [if_neg fun h => hlen h.2]
        refine ⟨fun h => absurd h hcut, fun _ => ?_⟩
        rw [add, hnone, lanAdjSidOf_of_short (not_le.1 hlen)]
        simp
    · have hcut : ¬CutOff stlv := by
        rintro ⟨-, ⟨h, -⟩ | ⟨h, -⟩⟩
        · exact hadj h
        · exact hlan h
      rw [if_neg fun h => hlan h.1]
      refine ⟨fun h => absurd h hcut, fun _ => ?_⟩
      rw [add, hnone, lanAdjSidOf, if_neg hlan]
      simp

/-- All TLVs of an entry. -/
theorem foldlM_readStlv (stlvs : List (Nat × Bytes)) :
    ((∃ stlv ∈ stlvs, CutOff stlv) → stlvs.foldlM readStlv entry = .error .structError) ∧
      ((∀ stlv ∈ stlvs, ¬CutOff stlv) → stlvs.foldlM readStlv entry = .ok { entry with
        adjSids := entry.adjSids ++ stlvs.filterMap adjSidOf
        lanAdjSids := entry.lanAdjSids ++ stlvs.filterMap lanAdjSidOf }) := by
  induction stlvs generalizing entry with
  | nil => exact ⟨by simp, fun _ => by simp [pure, Except.pure]⟩
  | cons stlv stlvs ih =>
    rw [List.foldlM_cons]
    by_cases hcut : CutOff stlv
    · rw [(readStlv_eq entry).1 hcut]
      exact ⟨fun _ => rfl, fun h => absurd hcut (h stlv (List.mem_cons_self ..))⟩
    · rw [(readStlv_eq entry).2 hcut]
      obtain ⟨hfail, hok⟩ := ih (entry.add stlv)
      constructor
      · rintro ⟨stlv', hmem, hcut'⟩
        rcases List.mem_cons.1 hmem with rfl | hmem
        · exact absurd hcut' hcut
        · exact hfail ⟨stlv', hmem, hcut'⟩
      · intro h
        refine (hok fun stlv' hmem => h stlv' (List.mem_cons_of_mem _ hmem)).trans ?_
        have hsplit : ∀ {β : Type} (f : Nat × Bytes → Option β),
            (stlv :: stlvs).filterMap f = (f stlv).toList ++ stlvs.filterMap f := by
          intro β f
          rw [List.filterMap_cons]
          cases f stlv <;> rfl
        simp only [add, hsplit, List.append_assoc]

end Reading

/-! ## An entry -/

/-- A value with a TLV that is cut off. -/
def HasCut (data : Bytes) : Prop := ∃ stlv ∈ parseTlvs (data.drop 12), CutOff stlv

instance (data : Bytes) : Decidable (HasCut data) :=
  inferInstanceAs (Decidable (∃ stlv ∈ parseTlvs (data.drop 12), CutOff stlv))

/-- The entry with the TLVs that decode on their own. -/
def wellFormed (data : Bytes) : ExtendedLinkEntry where
  linkType := byteAt data 0
  linkId := addressField (Bytes.slice data 4 8)
  linkData := addressField (Bytes.slice data 8 12)
  adjSids := (parseTlvs (data.drop 12)).filterMap adjSidOf
  lanAdjSids := (parseTlvs (data.drop 12)).filterMap lanAdjSidOf

/-- **What becomes of a value**: its well-formed TLVs, or nothing. -/
theorem deserialize_eq {data : Bytes} (h : 12 ≤ data.length) :
    deserialize data = if HasCut data then .error .structError else .ok (wellFormed data) := by
  rw [deserialize, if_neg (not_lt.2 h)]
  by_cases hcut : HasCut data
  · rw [if_pos hcut]
    exact (foldlM_readStlv _ _).1 hcut
  · rw [if_neg hcut]
    have hall : ∀ stlv ∈ parseTlvs (data.drop 12), ¬CutOff stlv := fun stlv hmem h => hcut ⟨stlv, hmem, h⟩
    exact (foldlM_readStlv _ _).2 hall

/-- The entry is there, with exactly the TLVs that decode on their own. -/
def Decodes (data : Bytes) : Prop :=
  ∃ entry, deserialize data = .ok entry ∧
    entry.adjSids = (parseTlvs (data.drop 12)).filterMap adjSidOf ∧
    entry.lanAdjSids = (parseTlvs (data.drop 12)).filterMap lanAdjSidOf

/-- **An entry is exactly its well-formed TLVs unless one is cut off.** -/
theorem decodes_iff {data : Bytes} (h : 12 ≤ data.length) : Decodes data ↔ ¬HasCut data := by
  rw [Decodes, deserialize_eq h]
  by_cases hcut : HasCut data
  · rw [if_pos hcut]
    simp [hcut]
  · rw [if_neg hcut]
    exact ⟨fun _ => hcut, fun _ => ⟨_, rfl, rfl, rfl⟩⟩

end ExtendedLinkEntry

/-! ## An LSA -/

namespace ExtendedLinkLsa

/-- The values of the Extended Link TLVs in a body. -/
def values (data : Bytes) : List Bytes :=
  (parseTlvs data).filterMap fun tlv =>
    if tlv.1 = elTlvExtendedLink ∧ 12 ≤ tlv.2.length then some tlv.2 else none

/-- Only values with a TLV that is cut off are lost. -/
theorem links_deserialize (data : Bytes) : (deserialize data).links =
    ((values data).filter fun value => ¬ExtendedLinkEntry.HasCut value).map ExtendedLinkEntry.wellFormed := by
  rw [deserialize, values]
  generalize parseTlvs data = tlvs
  induction tlvs with
  | nil => rfl
  | cons tlv tlvs ih =>
    rw [List.filterMap_cons, List.filterMap_cons]
    by_cases htype : tlv.1 = elTlvExtendedLink
    · by_cases hlen : 12 ≤ tlv.2.length
      · rw [if_pos htype, if_pos ⟨htype, hlen⟩, ExtendedLinkEntry.deserialize_eq hlen]
        by_cases hcut : ExtendedLinkEntry.HasCut tlv.2
        · rw [if_pos hcut, List.filter_cons_of_neg (by simpa using hcut), ← ih]
          rfl
        · rw [if_neg hcut, List.filter_cons_of_pos (by simpa using hcut), List.map_cons, ← ih]
          rfl
      · rw [if_pos htype, if_neg fun h => hlen h.2, ExtendedLinkEntry.deserialize, if_pos (not_le.1 hlen), ← ih]
        rfl
    · rw [if_neg htype, if_neg fun h => htype h.1, ← ih]

/-- Every well-formed TLV is there, in order. -/
def KeepsSiblings (data : Bytes) : Prop :=
  (deserialize data).links.flatMap ExtendedLinkEntry.adjSids =
      (values data).flatMap (fun value => (ExtendedLinkEntry.wellFormed value).adjSids) ∧
    (deserialize data).links.flatMap ExtendedLinkEntry.lanAdjSids =
      (values data).flatMap fun value => (ExtendedLinkEntry.wellFormed value).lanAdjSids

theorem keepsSiblings_iff {data : Bytes} : KeepsSiblings data ↔
    ∀ value ∈ values data, ExtendedLinkEntry.HasCut value →
      (ExtendedLinkEntry.wellFormed value).adjSids = [] ∧
        (ExtendedLinkEntry.wellFormed value).lanAdjSids = [] := by
  rw [KeepsSiblings, links_deserialize, List.flatMap_map, List.flatMap_map]
  refine (and_congr flatMap_filter_eq_iff flatMap_filter_eq_iff).trans ?_
  simp only [decide_not, Bool.not_eq_false', decide_eq_true_eq]
  exact ⟨fun h value hmem hcut => ⟨h.1 value hmem hcut, h.2 value hmem hcut⟩,
    fun h => ⟨fun value hmem hcut => (h value hmem hcut).1, fun value hmem hcut => (h value hmem hcut).2⟩⟩

end ExtendedLinkLsa

/-! ## The SR database -/

/-- Link ID, link data and SID of the Adj-SIDs of an entry. -/
def ExtendedLinkEntry.items (link : ExtendedLinkEntry) : List (IPv4Address × IPv4Address × AdjSid) :=
  link.adjSids.map fun asid => (link.linkId, link.linkData, asid)

namespace NodeSrInfo

/-- The values of the Extended Link TLVs in an opaque LSA. -/
def linkValues (lsa : Lsa) : List Bytes :=
  if opaqueTypeFromLsaId lsa.header.linkStateId = opaqueTypeExtendedLink then
    ExtendedLinkLsa.values lsa.rawData
  else []

theorem adjSidsOf_eq (lsa : Lsa) : adjSidsOf lsa =
    ((linkValues lsa).filter fun value => ¬ExtendedLinkEntry.HasCut value).flatMap fun value =>
      (ExtendedLinkEntry.wellFormed value).items := by
  rw [adjSidsOf, linkValues]
  split
  · rw [ExtendedLinkLsa.links_deserialize, List.flatMap_map]
    rfl
  · rfl

/-- The Adj-SIDs of some LSAs are those of the values that are kept. -/
theorem flatMap_adjSidsOf (lsas : List Lsa) : lsas.flatMap adjSidsOf =
    ((lsas.flatMap linkValues).filter fun value => ¬ExtendedLinkEntry.HasCut value).flatMap fun value =>
      (ExtendedLinkEntry.wellFormed value).items := by
  induction lsas with
  | nil => rfl
  | cons lsa lsas ih =>
    rw [List.flatMap_cons, List.flatMap_cons, List.filter_append, List.flatMap_append, ← ih, ← adjSidsOf_eq]

end NodeSrInfo

namespace SrDatabase

/-- The Adj-SIDs of a router. -/
def adjSids (db : SrDatabase) (routerId : IPv4Address) : List (IPv4Address × IPv4Address × AdjSid) :=
  ((db.getNode routerId).map NodeSrInfo.adjSids).getD []

/-- The values of the Extended Link TLVs that a router advertises. -/
def linkValues (lsdb : LinkStateDatabase) (heap : LsaHeap) (areaId routerId : IPv4Address) : List Bytes :=
  (advertised lsdb heap areaId routerId).flatMap NodeSrInfo.linkValues

theorem adjSids_rebuild (db : SrDatabase) (lsdb : LinkStateDatabase) (heap : LsaHeap)
    (areaId routerId : IPv4Address) : (db.rebuild lsdb heap areaId).adjSids routerId =
      ((linkValues lsdb heap areaId routerId).filter fun value => ¬ExtendedLinkEntry.HasCut value).flatMap
        fun value => (ExtendedLinkEntry.wellFormed value).items := by
  rw [adjSids, getNode_rebuild, linkValues]
  cases advertised lsdb heap areaId routerId with
  | nil => rfl
  | cons lsa lsas =>
    rw [nodeOf_cons, Option.map_some, Option.getD_some, NodeSrInfo.adjSids_foldl,
      ← NodeSrInfo.flatMap_adjSidsOf]
    rfl

/-- Every well-formed Adj-SID that the routers of an area advertise is in the database, in order. -/
def KeepsSiblings (db : SrDatabase) (lsdb : LinkStateDatabase) (heap : LsaHeap) (areaId : IPv4Address) : Prop :=
  ∀ routerId, (db.rebuild lsdb heap areaId).adjSids routerId =
    (linkValues lsdb heap areaId routerId).flatMap fun value => (ExtendedLinkEntry.wellFormed value).items

theorem keepsSiblings_iff {db : SrDatabase} {lsdb : LinkStateDatabase} {heap : LsaHeap} {areaId : IPv4Address} :
    db.KeepsSiblings lsdb heap areaId ↔ ∀ routerId, ∀ value ∈ linkValues lsdb heap areaId routerId,
      ExtendedLinkEntry.HasCut value → (ExtendedLinkEntry.wellFormed value).adjSids = [] := by
  refine forall_congr' fun routerId => ?_
  rw [adjSids_rebuild]
  refine flatMap_filter_eq_iff.trans ?_
  simp only [decide_not, Bool.not_eq_false', decide_eq_true_eq, ExtendedLinkEntry.items, List.map_eq_nil_iff]

end SrDatabase

/-- **A malformed TLV costs only itself, unless its index is cut off after three bytes**: in the value of
an Extended Link TLV, in an LSA and in the SR database. -/
theorem siblings_kept_iff (data : Bytes) (db : SrDatabase) (lsdb : LinkStateDatabase) (heap : LsaHeap)
    (areaId : IPv4Address) :
    (12 ≤ data.length → (ExtendedLinkEntry.Decodes data ↔ ¬ExtendedLinkEntry.HasCut data)) ∧
    (ExtendedLinkLsa.KeepsSiblings data ↔ ∀ value ∈ ExtendedLinkLsa.values data,
      ExtendedLinkEntry.HasCut value → (ExtendedLinkEntry.wellFormed value).adjSids = [] ∧
        (ExtendedLinkEntry.wellFormed value).lanAdjSids = []) ∧
    (db.KeepsSiblings lsdb heap areaId ↔
      ∀ routerId, ∀ value ∈ SrDatabase.linkValues lsdb heap areaId routerId,
        ExtendedLinkEntry.HasCut value → (ExtendedLinkEntry.wellFormed value).adjSids = []) :=
  ⟨ExtendedLinkEntry.decodes_iff, ExtendedLinkLsa.keepsSiblings_iff, SrDatabase.keepsSiblings_iff⟩

/-! ### An index that is cut off -/

/-- An entry with an Adj-SID, and one that is cut off. -/
def cutValue : Bytes :=
  [1, 0, 0, 0, 10, 0, 0, 2, 10, 0, 0, 1] ++
    tlvBytes srStlvAdjSid [0x60, 0, 0, 0, 0, 62, 128] ++ tlvBytes srStlvAdjSid [0, 0, 0, 0, 0, 0, 5]

theorem parseTlvs_cutValue : parseTlvs (cutValue.drop 12) =
    [(srStlvAdjSid, [0x60, 0, 0, 0, 0, 62, 128]), (srStlvAdjSid, [0, 0, 0, 0, 0, 0, 5])] := by
  have hdrop : cutValue.drop 12 = tlvBytes srStlvAdjSid [0x60, 0, 0, 0, 0, 62, 128] ++
      tlvBytes srStlvAdjSid [0, 0, 0, 0, 0, 0, 5] := by
    rw [cutValue, List.append_assoc]
    rfl
  rw [hdrop, parseTlvs_tlvBytes (by decide) (by decide), parseTlvs_single (by decide) (by decide)]

/-- The Adj-SID with a label does not survive the one without. -/
theorem not_decodes : ¬∀ data : Bytes, 12 ≤ data.length → ExtendedLinkEntry.Decodes data := by
  intro h
  have hcut : ExtendedLinkEntry.HasCut cutValue := by
    rw [ExtendedLinkEntry.HasCut, parseTlvs_cutValue]
    decide
  exact (ExtendedLinkEntry.decodes_iff (by decide)).1 (h cutValue (by decide)) hcut

end Ospfd
