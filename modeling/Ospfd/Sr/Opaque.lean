import Ospfd.Packet.Lsa
import Ospfd.Sr.Tlv

/-!
# Opaque LSAs

* `opaqueTypeFromLsaId`, `makeOpaqueLsaId` — the type and ID in the Link State ID.
* `RouterInfoLsa`, `ExtendedPrefixLsa`, `ExtendedLinkLsa` — the bodies, and how they are parsed.
* `RouterInfoLsa.deserialize_bytes` — **what is serialized is parsed, but for the ranges of the
  capabilities**.
* `RouterInfoLsa.srgb_deserialize` — **the range that is advertised is parsed**.
-/

namespace Ospfd

/-! ## Link State IDs -/

def opaqueTypeRi : Nat := 4
def opaqueTypeExtendedPrefix : Nat := 7
def opaqueTypeExtendedLink : Nat := 8

def opaqueTypeFromLsaId (linkStateId : IPv4Address) : Nat := linkStateId.val / 16777216

def makeOpaqueLsaId (opaqueType opaqueId : Nat) : IPv4Address :=
  Fin.ofNat 4294967296 (opaqueType * 16777216 + opaqueId % 16777216)

/-- The type of an opaque ID is one byte. -/
theorem opaqueTypeFromLsaId_makeOpaqueLsaId {opaqueType : Nat} (h : opaqueType < 256) (opaqueId : Nat) :
    opaqueTypeFromLsaId (makeOpaqueLsaId opaqueType opaqueId) = opaqueType := by
  change (opaqueType * 16777216 + opaqueId % 16777216) % 4294967296 / 16777216 = opaqueType
  omega

theorem makeOpaqueLsaId_inj {opaqueType i j : Nat} :
    makeOpaqueLsaId opaqueType i = makeOpaqueLsaId opaqueType j ↔ i % 16777216 = j % 16777216 := by
  rw [Fin.ext_iff]
  change (opaqueType * 16777216 + i % 16777216) % 4294967296 =
    (opaqueType * 16777216 + j % 16777216) % 4294967296 ↔ _
  omega

/-! ## Router Information -/


def riTlvSrCapabilities : Nat := 2
def riTlvSrAlgorithm : Nat := 19
def riTlvSidLabelRange : Nat := 9
def epTlvExtendedPrefix : Nat := 1
def elTlvExtendedLink : Nat := 1

/-- A Router Information LSA. -/
structure RouterInfoLsa where
  srCapabilities : Option SrCapabilities := none
  srAlgorithms : List Nat := [srAlgSpf]
  srgb : Option SidLabelRange := none
  deriving DecidableEq, Repr

/-- The ranges of an SR-Capabilities TLV; a label is not followed by padding here. -/
def readRanges (data : Bytes) : List SidLabelRange :=
  if data.length < 3 then []
  else
    let size := Bytes.toNat (Bytes.slice data 0 3)
    if data.length < 7 then []
    else
      let stLen := Bytes.toNat (Bytes.slice data 5 7)
      if Bytes.toNat (Bytes.slice data 3 5) = srStlvSidLabel ∧ stLen = 3 ∧ 10 ≤ data.length then
        { start := Bytes.toNat (Bytes.slice data 7 10), size } :: readRanges (data.drop 10)
      else readRanges (data.drop (7 + stLen))
termination_by data.length
decreasing_by
  all_goals
    rw [List.length_drop]
    omega

/-- `_parse_sr_capabilities` -/
def parseSrCapabilities (data : Bytes) : Except PyError SrCapabilities :=
  if data.length < 2 then .error (.valueError "SR-Capabilities too short")
  else .ok { flags := byteAt data 0, ranges := readRanges (data.drop 2) }

/-- `_parse_sid_label_range`; without a label the range starts at zero. -/
def parseSidLabelRange (data : Bytes) : Except PyError SidLabelRange :=
  if data.length < 3 then .error (.valueError "SID/Label Range TLV too short")
  else
    let size := Bytes.toNat (Bytes.slice data 0 3)
    if data.length < 7 then .ok { start := 0, size }
    else
      let stLen := Bytes.toNat (Bytes.slice data 5 7)
      if Bytes.toNat (Bytes.slice data 3 5) = srStlvSidLabel ∧ 7 + stLen ≤ data.length ∧
          (stLen = 3 ∨ stLen = 4) then
        .ok { start := Bytes.toNat (Bytes.slice data 7 (7 + stLen)), size }
      else .ok { start := 0, size }

/-- The fields of an encoded range. -/
theorem SidLabelRange.fields_bytes {r : SidLabelRange} (h : r.Fits) :
    Bytes.toNat (Bytes.slice r.bytes 0 3) = r.size ∧
      Bytes.toNat (Bytes.slice r.bytes 3 5) = srStlvSidLabel ∧
      Bytes.toNat (Bytes.slice r.bytes 5 7) = 3 ∧ Bytes.toNat (Bytes.slice r.bytes 7 10) = r.start := by
  refine ⟨?_, rfl, ?_, ?_⟩
  · have hs : Bytes.slice r.bytes 0 3 = Bytes.ofNat 3 r.size := List.take_left' (Bytes.length_ofNat ..)
    rw [hs, Bytes.toNat_ofNat_of_lt h.size]
  · have hs : Bytes.slice r.bytes 5 7 = Bytes.ofNat 2 3 := rfl
    rw [hs, Bytes.toNat_ofNat_of_lt (by decide)]
  · have hs : Bytes.slice r.bytes 7 10 = Bytes.ofNat 3 r.start := rfl
    rw [hs, Bytes.toNat_ofNat_of_lt h.start]

/-- **A range that is encoded is parsed.** -/
theorem parseSidLabelRange_bytes {r : SidLabelRange} (h : r.Fits) : parseSidLabelRange r.bytes = .ok r := by
  obtain ⟨hsize, htype, hlen, hstart⟩ := SidLabelRange.fields_bytes h
  simp only [parseSidLabelRange, SidLabelRange.length_bytes, hsize, htype, hlen]
  rw [if_neg (by decide), if_neg (by decide), if_pos (by decide), hstart]

namespace RouterInfoLsa

/-- One TLV of the body; a malformed one is passed over. -/
def readTlv (lsa : RouterInfoLsa) (tlv : Nat × Bytes) : RouterInfoLsa :=
  if tlv.1 = riTlvSrCapabilities then
    match parseSrCapabilities tlv.2 with
    | .ok cap => { lsa with srCapabilities := some cap }
    | .error _ => lsa
  else if tlv.1 = riTlvSrAlgorithm then { lsa with srAlgorithms := tlv.2.map UInt8.toNat }
  else if tlv.1 = riTlvSidLabelRange then
    match parseSidLabelRange tlv.2 with
    | .ok r => { lsa with srgb := some r }
    | .error _ => lsa
  else lsa

def deserialize (data : Bytes) : RouterInfoLsa := (parseTlvs data).foldl readTlv {}

def serialize (lsa : RouterInfoLsa) : Except PyError Bytes := do
  let capabilities ←
    match lsa.srCapabilities with
    | some cap => do encodeTlv riTlvSrCapabilities (← cap.serialize)
    | none => pure []
  let algorithms ←
    if lsa.srAlgorithms = [] then pure [] else do encodeTlv riTlvSrAlgorithm (← bytesOf lsa.srAlgorithms)
  let srgb ←
    match lsa.srgb with
    | some r => do encodeTlv riTlvSidLabelRange (← r.serialize)
    | none => pure []
  pure (capabilities ++ algorithms ++ srgb)

/-- A body whose fields fit their places. -/
structure Fits (lsa : RouterInfoLsa) : Prop where
  srCapabilities : ∀ cap, lsa.srCapabilities = some cap → cap.Fits
  nonempty : lsa.srAlgorithms ≠ []
  srAlgorithms : ∀ a ∈ lsa.srAlgorithms, a < 256
  srgb : ∀ r, lsa.srgb = some r → r.Fits

/-- The TLVs of a body. -/
def tlvs (lsa : RouterInfoLsa) : List (Nat × Bytes) :=
  (lsa.srCapabilities.map fun cap => (riTlvSrCapabilities, cap.bytes)).toList ++
    (riTlvSrAlgorithm, lsa.srAlgorithms.map UInt8.ofNat) ::
      (lsa.srgb.map fun r => (riTlvSidLabelRange, r.bytes)).toList

/-- The bytes of a body. -/
def bytes (lsa : RouterInfoLsa) : Bytes := (lsa.tlvs.map fun tlv => tlvBytes tlv.1 tlv.2).flatten

/-- The capabilities with the ranges that are parsed in their place. -/
def reread (lsa : RouterInfoLsa) : RouterInfoLsa :=
  { lsa with srCapabilities := lsa.srCapabilities.map fun cap =>
      { cap with ranges := readRanges (cap.ranges.map SidLabelRange.bytes).flatten } }

section Bytes

variable {lsa : RouterInfoLsa}

theorem type_of_mem_tlvs {tlv : Nat × Bytes} (h : tlv ∈ lsa.tlvs) : tlv.1 < 65536 := by
  simp only [tlvs, List.mem_append, List.mem_cons, Option.mem_toList, Option.map_eq_some_iff] at h
  rcases h with ⟨cap, -, rfl⟩ | rfl | ⟨r, -, rfl⟩
  · exact (by decide : riTlvSrCapabilities < 65536)
  · exact (by decide : riTlvSrAlgorithm < 65536)
  · exact (by decide : riTlvSidLabelRange < 65536)

/-- A body is serialized TLV by TLV. -/
theorem serialize_eq_encodeTlvs (h : lsa.Fits) : lsa.serialize = encodeTlvs lsa.tlvs := by
  have halgorithms : bytesOf lsa.srAlgorithms = .ok (lsa.srAlgorithms.map UInt8.ofNat) :=
    if_pos (by simpa using h.srAlgorithms)
  have hcaps := fun cap hcap => SrCapabilities.serialize_eq (h.srCapabilities cap hcap)
  have hranges := fun r hr => SidLabelRange.serialize_eq (h.srgb r hr)
  simp only [serialize, tlvs, encodeTlvs, if_neg h.nonempty, halgorithms]
  generalize lsa.srAlgorithms.map UInt8.ofNat = algorithms
  cases hcap : lsa.srCapabilities with
  | none =>
    cases hsrgb : lsa.srgb with
    | none =>
      simp only [Option.map_none, Option.toList_none, List.nil_append, List.mapM_cons, List.mapM_nil, bind,
        Except.bind, pure, Except.pure]
      cases encodeTlv riTlvSrAlgorithm algorithms <;> simp [Except.map]
    | some r =>
      simp only [Option.map_none, Option.toList_none, List.nil_append, List.mapM_cons, List.mapM_nil, bind,
        Except.bind, pure, Except.pure, Option.map_some, Option.toList_some, hranges r hsrgb]
      cases encodeTlv riTlvSrAlgorithm algorithms <;> cases encodeTlv riTlvSidLabelRange r.bytes <;>
        simp [Except.map]
  | some cap =>
    cases hsrgb : lsa.srgb with
    | none =>
      simp only [Option.map_none, Option.toList_none, List.singleton_append, List.mapM_cons, List.mapM_nil, bind,
        Except.bind, pure, Except.pure, Option.map_some, Option.toList_some, hcaps cap hcap]
      cases encodeTlv riTlvSrCapabilities cap.bytes <;> cases encodeTlv riTlvSrAlgorithm algorithms <;>
        simp [Except.map]
    | some r =>
      simp only [List.singleton_append, List.mapM_cons, List.mapM_nil, bind, Except.bind, pure, Except.pure,
        Option.map_some, Option.toList_some, hcaps cap hcap, hranges r hsrgb]
      cases encodeTlv riTlvSrCapabilities cap.bytes <;> cases encodeTlv riTlvSrAlgorithm algorithms <;>
        cases encodeTlv riTlvSidLabelRange r.bytes <;> simp [Except.map]

/-- **What is serialized**: the TLVs, if the length of each fits its two bytes. -/
theorem serialize_eq_ok_iff (h : lsa.Fits) {data : Bytes} :
    lsa.serialize = .ok data ↔ (∀ tlv ∈ lsa.tlvs, tlv.2.length < 65536) ∧ data = lsa.bytes := by
  rw [serialize_eq_encodeTlvs h, encodeTlvs_eq_ok_iff fun tlv htlv => type_of_mem_tlvs htlv, bytes]

/-- **What is parsed again**: the body as it was, but for the ranges of its capabilities. -/
theorem deserialize_bytes (h : lsa.Fits) (hlen : ∀ tlv ∈ lsa.tlvs, tlv.2.length < 65536) :
    deserialize lsa.bytes = lsa.reread := by
  have htlvs : parseTlvs lsa.bytes = lsa.tlvs := by
    have hempty : ([] : Bytes).length < tlvHdrLen := by decide
    have hparse := parseTlvs_encoded (fun tlv htlv => ⟨type_of_mem_tlvs htlv, hlen tlv htlv⟩) hempty
    rwa [List.append_nil] at hparse
  have halgorithms : (lsa.srAlgorithms.map UInt8.ofNat).map UInt8.toNat = lsa.srAlgorithms := by
    rw [List.map_map]
    refine (List.map_congr_left fun a ha => ?_).trans (List.map_id _)
    simp [Nat.mod_eq_of_lt (h.srAlgorithms a ha)]
  have hcap : ∀ cap, lsa.srCapabilities = some cap → parseSrCapabilities cap.bytes =
      .ok { cap with ranges := readRanges (cap.ranges.map SidLabelRange.bytes).flatten } := by
    intro cap hcap
    rw [parseSrCapabilities, if_neg (by simp [SrCapabilities.bytes]),
      SrCapabilities.byteAt_bytes (h.srCapabilities cap hcap)]
    rfl
  have hrange := fun r hr => parseSidLabelRange_bytes (h.srgb r hr)
  rw [deserialize, htlvs, tlvs, List.foldl_append, List.foldl_cons]
  have hfst : (lsa.srCapabilities.map fun cap => (riTlvSrCapabilities, cap.bytes)).toList.foldl readTlv {} =
      { srCapabilities := lsa.reread.srCapabilities } := by
    cases hc : lsa.srCapabilities with
    | none => simp [reread, hc]
    | some cap =>
      simp [reread, hc, readTlv, hcap cap hc]
  have hsnd : readTlv { srCapabilities := lsa.reread.srCapabilities }
      (riTlvSrAlgorithm, lsa.srAlgorithms.map UInt8.ofNat) =
      { srCapabilities := lsa.reread.srCapabilities, srAlgorithms := lsa.srAlgorithms } := by
    rw [readTlv, if_neg (show ¬riTlvSrAlgorithm = riTlvSrCapabilities by decide), if_pos rfl, halgorithms]
  rw [hfst, hsnd]
  cases hr : lsa.srgb with
  | none => simp [reread, hr]
  | some r =>
    rw [Option.map_some, Option.toList_some, List.foldl_cons, List.foldl_nil, readTlv,
      if_neg (show ¬riTlvSidLabelRange = riTlvSrCapabilities by decide),
      if_neg (show ¬riTlvSidLabelRange = riTlvSrAlgorithm by decide), if_pos rfl]
    simp [hrange r hr, reread, hr]

end Bytes

/-- The body that advertises a range and nothing else. -/
def ofRange (r : SidLabelRange) : RouterInfoLsa where
  srCapabilities := some { flags := 0, ranges := [r] }
  srgb := some r

/-- Its bytes. -/
def rangeBytes (r : SidLabelRange) : Bytes :=
  tlvBytes riTlvSrCapabilities ([0, 0] ++ r.bytes) ++ tlvBytes riTlvSrAlgorithm [0] ++
    tlvBytes riTlvSidLabelRange r.bytes

section Range

variable {r : SidLabelRange}

@[simp] theorem length_rangeBytes : (rangeBytes r).length = 44 := by
  simp [rangeBytes, pad4, tlvHdrLen]

theorem bytes_ofRange (r : SidLabelRange) : (ofRange r).bytes = rangeBytes r := by
  simp [bytes, tlvs, ofRange, rangeBytes, SrCapabilities.bytes, srAlgSpf]

theorem fits_ofRange (h : r.Fits) : (ofRange r).Fits where
  srCapabilities := by
    rintro cap ⟨⟩
    exact ⟨Nat.zero_lt_succ _, by simpa using h⟩
  nonempty := List.cons_ne_nil _ _
  srAlgorithms := by simp [ofRange, srAlgSpf]
  srgb := by
    rintro r' ⟨⟩
    exact h

theorem length_of_mem_ofRange {tlv : Nat × Bytes} (h : tlv ∈ (ofRange r).tlvs) : tlv.2.length < 65536 := by
  simp only [tlvs, ofRange, Option.map_some, Option.toList_some, List.singleton_append, List.mem_cons,
    List.not_mem_nil, or_false] at h
  rcases h with rfl | rfl | rfl
  · simp [SrCapabilities.bytes]
  · simp
  · simp

theorem serialize_ofRange (h : r.Fits) : (ofRange r).serialize = .ok (rangeBytes r) :=
  (serialize_eq_ok_iff (fits_ofRange h)).2 ⟨fun _ => length_of_mem_ofRange, (bytes_ofRange r).symm⟩

/-- **The range that is advertised is parsed.** -/
theorem srgb_deserialize (h : r.Fits) : (deserialize (rangeBytes r)).srgb = some r := by
  rw [← bytes_ofRange, deserialize_bytes (fits_ofRange h) fun _ => length_of_mem_ofRange]
  rfl

end Range

end RouterInfoLsa

/-! ## Extended Prefix and Extended Link -/

structure ExtendedPrefixLsa where
  prefixes : List ExtendedPrefixEntry := []
  deriving DecidableEq, Repr

/-- The entries; a malformed one is passed over. -/
def ExtendedPrefixLsa.deserialize (data : Bytes) : ExtendedPrefixLsa where
  prefixes := (parseTlvs data).filterMap fun tlv =>
    if tlv.1 = epTlvExtendedPrefix then (ExtendedPrefixEntry.deserialize tlv.2).toOption else none

structure ExtendedLinkLsa where
  links : List ExtendedLinkEntry := []
  deriving DecidableEq, Repr

/-- The entries; a malformed one is passed over. -/
def ExtendedLinkLsa.deserialize (data : Bytes) : ExtendedLinkLsa where
  links := (parseTlvs data).filterMap fun tlv =>
    if tlv.1 = elTlvExtendedLink then (ExtendedLinkEntry.deserialize tlv.2).toOption else none

end Ospfd
