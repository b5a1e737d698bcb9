import Ospfd.Packet.Header

/-!
# TLVs

* `parseTlvs`, `encodeTlv` — sequences of type, length and padded value; `parseTlvsFrom` — from an
  offset on.
* `SidLabelRange`, `SrCapabilities`, `PrefixSid`, `AdjSid` — the contents of TLVs.
* `ExtendedPrefixEntry`, `ExtendedLinkEntry` — TLVs with TLVs inside.
* `parseTlvs_tlvBytes`, `PrefixSid.deserialize_indexBytes` — **what is encoded is parsed**.
* `parseTlvsFrom_codec` — **at any offset**, and whatever is parsed lies in the data, in order and apart.
-/

namespace Ospfd

/-! ## Sequences -/

def tlvHdrLen : Nat := 4

/-- Round up to a multiple of four. -/
def pad4 (length : Nat) : Nat := (length + 3) / 4 * 4

/-- The types and values of the TLVs in `data`, up to the first that is cut off. -/
def parseTlvs (data : Bytes) : List (Nat × Bytes) :=
  if data.length < tlvHdrLen then []
  else
    let tlvLen := Bytes.toNat (Bytes.slice data 2 4)
    if data.length < tlvHdrLen + tlvLen then []
    else
      (Bytes.toNat (Bytes.slice data 0 2), Bytes.slice data tlvHdrLen (tlvHdrLen + tlvLen)) ::
        parseTlvs (data.drop (tlvHdrLen + pad4 tlvLen))
termination_by data.length
decreasing_by
  rw [List.length_drop, tlvHdrLen] at *
  omega

/-- A TLV with its value padded. -/
def encodeTlv (tlvType : Nat) (value : Bytes) : Except PyError Bytes := do
  let hdr ← pack [.H, .H] [.nat tlvType, .nat value.length]
  .ok (hdr ++ value ++ List.replicate (pad4 value.length - value.length) 0)

/-- `bytes(xs)` -/
def bytesOf (xs : List Nat) : Except PyError Bytes :=
  if xs.all (· < 256) then .ok (xs.map UInt8.ofNat)
  else .error (.valueError "bytes must be in range(0, 256)")

/-- `struct.pack("!I", n)[1:]` -/
def packLow24 (n : Nat) : Except PyError Bytes := (pack [.I] [.nat n]).map (List.drop 1)

/-- The bytes of a TLV. -/
def tlvBytes (tlvType : Nat) (value : Bytes) : Bytes :=
  Bytes.ofNat 2 tlvType ++ Bytes.ofNat 2 value.length ++ value ++
    List.replicate (pad4 value.length - value.length) 0

section Sequences

variable {tlvType : Nat} {value : Bytes}

theorem le_pad4 (n : Nat) : n ≤ pad4 n := by
  rw [pad4]
  omega

theorem encodeTlv_eq (htype : tlvType < 65536) (hlen : value.length < 65536) :
    encodeTlv tlvType value = .ok (tlvBytes tlvType value) := by
  simp only [encodeTlv, pack, Struct.pack, Struct.pack1, if_pos htype, if_pos hlen, List.append_nil]
  rfl

@[simp] theorem length_tlvBytes : (tlvBytes tlvType value).length = tlvHdrLen + pad4 value.length := by
  have hle := le_pad4 value.length
  simp only [tlvBytes, List.length_append, Bytes.length_ofNat, List.length_replicate, tlvHdrLen]
  omega

theorem packLow24_eq {n : Nat} (h : n < 16777216) : packLow24 n = .ok (Bytes.ofNat 3 n) := by
  have hn : n < 4294967296 := by omega
  simp only [packLow24, pack, Struct.pack, Struct.pack1, if_pos hn, List.append_nil]
  rfl

@[simp] theorem parseTlvs_nil : parseTlvs [] = [] := by
  rw [parseTlvs, if_pos (by decide)]

/-- **What is encoded is parsed.** -/
theorem parseTlvs_tlvBytes (htype : tlvType < 65536) (hlen : value.length < 65536) (rest : Bytes) :
    parseTlvs (tlvBytes tlvType value ++ rest) = (tlvType, value) :: parseTlvs rest := by
  have hle := le_pad4 value.length
  have htotal : (tlvBytes tlvType value ++ rest).length = 4 + pad4 value.length + rest.length := by
    rw [List.length_append, length_tlvBytes, tlvHdrLen]
  have htlvType : Bytes.toNat (Bytes.slice (tlvBytes tlvType value ++ rest) 0 2) = tlvType := by
    have hs := Bytes.slice_append_append [] (Bytes.ofNat 2 tlvType) (Bytes.ofNat 2 value.length ++ value ++
      List.replicate (pad4 value.length - value.length) 0 ++ rest)
    simp only [List.nil_append, List.length_nil, Bytes.length_ofNat, Nat.zero_add,
      ← List.append_assoc] at hs
    rw [tlvBytes, hs, Bytes.toNat_ofNat_of_lt htype]
  have htlvLen : Bytes.toNat (Bytes.slice (tlvBytes tlvType value ++ rest) 2 4) = value.length := by
    have hs := Bytes.slice_append_append (Bytes.ofNat 2 tlvType) (Bytes.ofNat 2 value.length) (value ++
      List.replicate (pad4 value.length - value.length) 0 ++ rest)
    simp only [Bytes.length_ofNat, ← List.append_assoc] at hs
    rw [tlvBytes, hs, Bytes.toNat_ofNat_of_lt hlen]
  have hvalue : Bytes.slice (tlvBytes tlvType value ++ rest) 4 (4 + value.length) = value := by
    have hs := Bytes.slice_append_append (Bytes.ofNat 2 tlvType ++ Bytes.ofNat 2 value.length) value
      (List.replicate (pad4 value.length - value.length) 0 ++ rest)
    simp only [List.length_append, Bytes.length_ofNat, ← List.append_assoc] at hs
    rw [tlvBytes]
    exact hs
  have hdrop : (tlvBytes tlvType value ++ rest).drop (4 + pad4 value.length) = rest := by
    rw [List.drop_left' (by rw [length_tlvBytes, tlvHdrLen])]
  rw [parseTlvs, if_neg (by rw [htotal, tlvHdrLen]; omega)]
  simp only [htlvType, htlvLen, tlvHdrLen, hvalue, hdrop]
  rw [if_neg (by rw [htotal]; omega)]

/-- A TLV by itself. -/
theorem parseTlvs_single (htype : tlvType < 65536) (hlen : value.length < 65536) :
    parseTlvs (tlvBytes tlvType value) = [(tlvType, value)] := by
  have h := parseTlvs_tlvBytes htype hlen []
  rwa [List.append_nil, parseTlvs_nil] at h

end Sequences

/-! ### From a position on -/

/-- `parse_tlvs`, with the position it has reached. -/
def parseTlvsFrom (data : Bytes) (pos : Nat) : List (Nat × Bytes) :=
  if pos + tlvHdrLen ≤ data.length then
    let tlvType := Bytes.toNat (Bytes.slice data pos (pos + 2))
    let tlvLen := Bytes.toNat (Bytes.slice data (pos + 2) (pos + 4))
    let start := pos + tlvHdrLen
    if data.length < start + tlvLen then []
    else (tlvType, Bytes.slice data start (start + tlvLen)) :: parseTlvsFrom data (start + pad4 tlvLen)
  else []
termination_by data.length - pos
decreasing_by
  rw [tlvHdrLen] at *
  omega

theorem slice_drop (data : Bytes) (pos lo hi : Nat) :
    Bytes.slice (data.drop pos) lo hi = Bytes.slice data (pos + lo) (pos + hi) := by
  rw [Bytes.slice, Bytes.slice, List.drop_drop, Nat.add_sub_add_left]

/-- It is the rest of the data that is parsed. -/
theorem parseTlvsFrom_eq (data : Bytes) (pos : Nat) : parseTlvsFrom data pos = parseTlvs (data.drop pos) := by
  have hlen : tlvHdrLen = 4 := rfl
  fun_induction parseTlvsFrom data pos with
  | case1 pos hhdr tlvLen start hcut =>
    rw [parseTlvs, if_neg (by rw [List.length_drop]; omega)]
    simp only [slice_drop]
    rw [if_pos (by rw [List.length_drop]; omega)]
  | case2 pos hhdr tlvType tlvLen start hcut ih =>
    rw [parseTlvs, if_neg (by rw [List.length_drop]; omega)]
    simp only [slice_drop]
    rw [if_neg (by rw [List.length_drop]; omega), ih, List.drop_drop, ← Nat.add_assoc, ← Nat.add_assoc]
    rfl
  | case3 pos hhdr => rw [parseTlvs, if_pos (by rw [List.length_drop]; omega)]

/-- A TLV in the data: its header, and its value right behind. -/
structure TlvAt (data : Bytes) (pos : Nat) (tlv : Nat × Bytes) : Prop where
  tlvType : Bytes.slice data pos (pos + 2) = Bytes.ofNat 2 tlv.1
  tlvLen : Bytes.slice data (pos + 2) (pos + 4) = Bytes.ofNat 2 tlv.2.length
  value : Bytes.slice data (pos + tlvHdrLen) (pos + tlvHdrLen + tlv.2.length) = tlv.2
  bound : pos + tlvHdrLen + tlv.2.length ≤ data.length

/-- TLVs in the data, each with its position: from an offset on, in order, and apart from each
other. -/
structure LaidOut (data : Bytes) (offset : Nat) (placed : List (Nat × Nat × Bytes)) : Prop where
  tlvAt : ∀ x ∈ placed, TlvAt data x.1 x.2
  offset_le : ∀ x ∈ placed, offset ≤ x.1
  apart : placed.Pairwise fun x y => x.1 + tlvHdrLen + x.2.2.length ≤ y.1

/-- What lies between two positions is as long as they are apart. -/
theorem length_slice_of_le {data : Bytes} {lo hi : Nat} (hle : lo ≤ hi) (h : hi ≤ data.length) :
    (Bytes.slice data lo hi).length = hi - lo := by
  rw [Bytes.slice, List.length_take, List.length_drop]
  omega

/-- The two bytes of a number that was read. -/
theorem slice_eq_ofNat_two {data : Bytes} (pos : Nat) (h : pos + 2 ≤ data.length) :
    Bytes.slice data pos (pos + 2) = Bytes.ofNat 2 (Bytes.toNat (Bytes.slice data pos (pos + 2))) := by
  have hnat := Bytes.ofNat_toNat (Bytes.slice data pos (pos + 2))
  rw [length_slice_of_le (Nat.le_add_right ..) h, Nat.add_sub_cancel_left] at hnat
  exact hnat.symm

/-- **The values that are parsed lie in the data**, from the offset on, in order and apart, each behind
its header. -/
theorem laidOut_parseTlvsFrom (data : Bytes) (offset : Nat) : ∃ placed : List (Nat × Nat × Bytes),
    placed.map Prod.snd = parseTlvsFrom data offset ∧ LaidOut data offset placed := by
  have hhdrLen : tlvHdrLen = 4 := rfl
  fun_induction parseTlvsFrom data offset with
  | case1 pos hhdr tlvLen start hcut => exact ⟨[], rfl, by simp, by simp, .nil⟩
  | case2 pos hhdr tlvType tlvLen start hcut ih =>
    obtain ⟨placed, hplaced, hat, hfrom, hapart⟩ := ih
    have hle := le_pad4 tlvLen
    have hvalue : (Bytes.slice data start (start + tlvLen)).length = tlvLen := by
      rw [length_slice_of_le (Nat.le_add_right ..) (not_lt.1 hcut), Nat.add_sub_cancel_left]
    refine ⟨(pos, tlvType, Bytes.slice data start (start + tlvLen)) :: placed, ?_, ?_, ?_, ?_⟩
    · rw [List.map_cons, hplaced]
    · refine List.forall_mem_cons.2 ⟨⟨?_, ?_, ?_, ?_⟩, hat⟩
      · exact slice_eq_ofNat_two pos (by omega)
      · dsimp only
        rw [hvalue]
        exact slice_eq_ofNat_two (pos + 2) (by omega)
      · dsimp only
        rw [hvalue]
      · dsimp only
        rw [hvalue]
        exact not_lt.1 hcut
    · refine List.forall_mem_cons.2 ⟨le_rfl, fun x hx => ?_⟩
      have hx := hfrom x hx
      omega
    · refine List.Pairwise.cons (fun x hx => ?_) hapart
      have hx := hfrom x hx
      dsimp only
      rw [hvalue]
      omega
  | case3 pos hhdr => exact ⟨[], rfl, by simp, by simp, .nil⟩

/-- TLVs one behind the other. -/
def encodeTlvs (tlvs : List (Nat × Bytes)) : Except PyError Bytes :=
  (tlvs.mapM fun tlv => encodeTlv tlv.1 tlv.2).map List.flatten

theorem encodeTlv_eq_ok_iff {tlvType : Nat} (htype : tlvType < 65536) {value data : Bytes} :
    encodeTlv tlvType value = .ok data ↔ value.length < 65536 ∧ data = tlvBytes tlvType value := by
  by_cases hlen : value.length < 65536
  · rw [encodeTlv_eq htype hlen]
    simp [hlen, eq_comm]
  · simp [encodeTlv, pack, Struct.pack, Struct.pack1, htype, hlen, bind, Except.bind]

theorem mapM_encodeTlv_eq_ok_iff {tlvs : List (Nat × Bytes)} (htype : ∀ tlv ∈ tlvs, tlv.1 < 65536)
    {encoded : List Bytes} : tlvs.mapM (fun tlv => encodeTlv tlv.1 tlv.2) = .ok encoded ↔
      (∀ tlv ∈ tlvs, tlv.2.length < 65536) ∧ encoded = tlvs.map fun tlv => tlvBytes tlv.1 tlv.2 := by
  induction tlvs generalizing encoded with
  | nil => simp [pure, Except.pure, eq_comm]
  | cons tlv tlvs ih =>
    obtain ⟨htlv, hrest⟩ := List.forall_mem_cons.1 htype
    rw [List.mapM_cons, List.forall_mem_cons, List.map_cons]
    constructor
    · intro h
      obtain ⟨b, hb, h⟩ := bind_eq_ok h
      obtain ⟨bs, hbs, h⟩ := bind_eq_ok h
      obtain ⟨hlen, rfl⟩ := (encodeTlv_eq_ok_iff htlv).1 hb
      obtain ⟨hlens, rfl⟩ := (ih hrest).1 hbs
      cases h
      exact ⟨⟨hlen, hlens⟩, rfl⟩
    · rintro ⟨⟨hlen, hlens⟩, rfl⟩
      rw [encodeTlv_eq htlv hlen, (ih hrest).2 ⟨hlens, rfl⟩]
      rfl

theorem encodeTlvs_eq_ok_iff {tlvs : List (Nat × Bytes)} (htype : ∀ tlv ∈ tlvs, tlv.1 < 65536)
    {data : Bytes} : encodeTlvs tlvs = .ok data ↔
      (∀ tlv ∈ tlvs, tlv.2.length < 65536) ∧ data = (tlvs.map fun tlv => tlvBytes tlv.1 tlv.2).flatten := by
  rw [encodeTlvs]
  cases hmap : tlvs.mapM fun tlv => encodeTlv tlv.1 tlv.2 with
  | error e =>
    simp only [Except.map, reduceCtorEq, false_iff]
    rintro ⟨hlen, -⟩
    rw [(mapM_encodeTlv_eq_ok_iff htype).2 ⟨hlen, rfl⟩] at hmap
    cases hmap
  | ok encoded =>
    obtain ⟨hlen, rfl⟩ := (mapM_encodeTlv_eq_ok_iff htype).1 hmap
    simp only [Except.map, Except.ok.injEq]
    exact ⟨fun h => ⟨hlen, h.symm⟩, fun h => h.2.symm⟩

/-- Encoded TLVs are parsed back, up to what is too short for a header. -/
theorem parseTlvs_encoded {tlvs : List (Nat × Bytes)} {trailing : Bytes}
    (h : ∀ tlv ∈ tlvs, tlv.1 < 65536 ∧ tlv.2.length < 65536) (htrailing : trailing.length < tlvHdrLen) :
    parseTlvs ((tlvs.map fun tlv => tlvBytes tlv.1 tlv.2).flatten ++ trailing) = tlvs := by
  induction tlvs with
  | nil => rw [List.map_nil, List.flatten_nil, List.nil_append, parseTlvs, if_pos htrailing]
  | cons tlv tlvs ih =>
    obtain ⟨⟨htype, hlen⟩, hrest⟩ := List.forall_mem_cons.1 h
    rw [List.map_cons, List.flatten_cons, List.append_assoc, parseTlvs_tlvBytes htype hlen, ih hrest]

/-- **The TLV codec.**  TLVs that are encoded are parsed from where they begin, whatever stands before
them and however they are aligned; and whatever is parsed lies in the data, from the offset on, in
order and apart, each value behind its own header. -/
theorem parseTlvsFrom_codec :
    (∀ (tlvs : List (Nat × Bytes)) (front trailing : Bytes),
      (∀ tlv ∈ tlvs, tlv.1 < 65536 ∧ tlv.2.length ≤ 65535) → trailing.length < 4 →
      ∃ encoded, tlvs.mapM (fun tlv => encodeTlv tlv.1 tlv.2) = .ok encoded ∧
        parseTlvsFrom (front ++ encoded.flatten ++ trailing) front.length = tlvs) ∧
    ∀ (data : Bytes) (offset : Nat), ∃ placed : List (Nat × Nat × Bytes),
      placed.map Prod.snd = parseTlvsFrom data offset ∧ LaidOut data offset placed := by
  refine ⟨fun tlvs front trailing h htrailing => ?_, laidOut_parseTlvsFrom⟩
  have hfits : ∀ tlv ∈ tlvs, tlv.1 < 65536 ∧ tlv.2.length < 65536 :=
    fun tlv htlv => ⟨(h tlv htlv).1, Nat.lt_succ_of_le (h tlv htlv).2⟩
  refine ⟨_, (mapM_encodeTlv_eq_ok_iff fun tlv htlv => (h tlv htlv).1).2 ⟨fun tlv htlv => (hfits tlv htlv).2,
    rfl⟩, ?_⟩
  rw [parseTlvsFrom_eq, List.append_assoc, List.drop_left]
  exact parseTlvs_encoded hfits htrailing

/-! ## Labels -/

def srStlvSidLabel : Nat := 1
def srStlvPrefixSid : Nat := 2
def srStlvAdjSid : Nat := 2
def srStlvLanAdjSid : Nat := 3

def srAlgSpf : Nat := 0

def prefixSidFlagNP : Nat := 0x40
def prefixSidFlagV : Nat := 0x08
def adjSidFlagV : Nat := 0x40

/-- A range of labels: the first, and how many there are. -/
structure SidLabelRange where
  start : Nat
  size : Nat
  deriving DecidableEq, Repr

namespace SidLabelRange

def contains (r : SidLabelRange) (index : Nat) : Bool := index < r.size

def labelForIndex (r : SidLabelRange) (index : Nat) : Nat := r.start + index

/-- `_encode_sid_label_range`: the size, and the first label in a TLV. -/
def serialize (r : SidLabelRange) : Except PyError Bytes := do
  let rangeBytes ← packLow24 r.size
  let labelBytes ← packLow24 r.start
  let stlv ← encodeTlv srStlvSidLabel labelBytes
  .ok (rangeBytes ++ stlv)

/-- The bytes of a range. -/
def bytes (r : SidLabelRange) : Bytes :=
  Bytes.ofNat 3 r.size ++ tlvBytes srStlvSidLabel (Bytes.ofNat 3 r.start)

/-- A range that fits its place. -/
structure Fits (r : SidLabelRange) : Prop where
  start : r.start < 16777216
  size : r.size < 16777216

@[simp] theorem length_bytes (r : SidLabelRange) : r.bytes.length = 11 := by
  rw [bytes, List.length_append, length_tlvBytes, Bytes.length_ofNat, Bytes.length_ofNat]
  rfl

theorem serialize_eq {r : SidLabelRange} (h : r.Fits) : r.serialize = .ok r.bytes := by
  have htlv : encodeTlv srStlvSidLabel (Bytes.ofNat 3 r.start) =
      .ok (tlvBytes srStlvSidLabel (Bytes.ofNat 3 r.start)) :=
    encodeTlv_eq (by decide) (by rw [Bytes.length_ofNat]; omega)
  simp only [serialize, packLow24_eq h.start, packLow24_eq h.size, bind, Except.bind, htlv]
  rfl

end SidLabelRange

/-- The content of an SR-Capabilities TLV. -/
structure SrCapabilities where
  flags : Nat := 0
  ranges : List SidLabelRange := []
  deriving DecidableEq, Repr

/-- `SrCapabilities.serialize` -/
def SrCapabilities.serialize (cap : SrCapabilities) : Except PyError Bytes := do
  let value ← bytesOf [cap.flags, 0]
  let ranges ← cap.ranges.mapM SidLabelRange.serialize
  .ok (value ++ ranges.flatten)

/-- The loop of `SrCapabilities.deserialize` goes over the TLVs and keeps nothing of them. -/
def SrCapabilities.passStlvs (cap : SrCapabilities) (data : Bytes) (pos : Nat) : SrCapabilities :=
  if pos + tlvHdrLen ≤ data.length then
    let stLen := Bytes.toNat (Bytes.slice data (pos + 2) (pos + 4))
    cap.passStlvs data (pos + tlvHdrLen + pad4 stLen)
  else cap
termination_by data.length - pos
decreasing_by
  rw [tlvHdrLen] at *
  omega

/-- `SrCapabilities.deserialize` -/
def SrCapabilities.deserialize (data : Bytes) : Except PyError SrCapabilities :=
  if data.length < 2 then .error (.valueError "SR-Capabilities too short")
  else .ok (SrCapabilities.passStlvs { flags := byteAt data 0 } data 2)

namespace SrCapabilities

/-- The bytes of the capabilities. -/
def bytes (cap : SrCapabilities) : Bytes :=
  [UInt8.ofNat cap.flags, 0] ++ (cap.ranges.map SidLabelRange.bytes).flatten

/-- Capabilities that fit their place. -/
structure Fits (cap : SrCapabilities) : Prop where
  flags : cap.flags < 256
  ranges : ∀ r ∈ cap.ranges, r.Fits

variable {cap : SrCapabilities}

theorem serialize_eq (h : cap.Fits) : cap.serialize = .ok cap.bytes := by
  have hranges : ∀ ranges : List SidLabelRange, (∀ r ∈ ranges, r.Fits) →
      ranges.mapM SidLabelRange.serialize = .ok (ranges.map SidLabelRange.bytes) := by
    intro ranges hfits
    induction ranges with
    | nil => rfl
    | cons r ranges ih =>
      obtain ⟨hr, hrest⟩ := List.forall_mem_cons.1 hfits
      rw [List.mapM_cons, SidLabelRange.serialize_eq hr, ih hrest]
      rfl
  have hflags : bytesOf [cap.flags, 0] = .ok [UInt8.ofNat cap.flags, 0] := if_pos (by simp [h.flags])
  rw [serialize, hflags, hranges _ h.ranges]
  rfl

theorem byteAt_bytes (h : cap.Fits) : byteAt cap.bytes 0 = cap.flags := by
  simp [byteAt, bytes, Nat.mod_eq_of_lt h.flags]

theorem passStlvs_eq (cap : SrCapabilities) (data : Bytes) (pos : Nat) : cap.passStlvs data pos = cap := by
  fun_induction passStlvs cap data pos with
  | case1 pos hhdr stLen ih => exact ih
  | case2 pos hhdr => rfl

/-- **The class decoder knows no ranges.** -/
theorem deserialize_bytes (h : cap.Fits) : deserialize cap.bytes = .ok { flags := cap.flags } := by
  rw [deserialize, if_neg (by simp [bytes]), passStlvs_eq, byteAt_bytes h]

end SrCapabilities

/-! ## Segment identifiers -/

/-- A Prefix-SID: an index, or a label if the V flag is set. -/
structure PrefixSid where
  flags : Nat
  algorithm : Nat
  sid : Nat
  deriving DecidableEq, Repr

namespace PrefixSid

def isValue (psid : PrefixSid) : Bool := psid.flags &&& prefixSidFlagV ≠ 0

def noPhp (psid : PrefixSid) : Bool := psid.flags &&& prefixSidFlagNP ≠ 0

def deserialize (data : Bytes) : Except PyError PrefixSid :=
  let len := data.length
  if len < 7 then .error (.valueError s!"Prefix-SID sub-TLV too short: {len}")
  else
    let flags := byteAt data 0
    let algorithm := byteAt data 2
    if flags &&& prefixSidFlagV ≠ 0 then .ok { flags, algorithm, sid := Bytes.toNat (Bytes.slice data 4 7) }
    else if len < 8 then .error (.valueError "Prefix-SID index requires 8 bytes")
    else .ok { flags, algorithm, sid := Bytes.toNat (Bytes.slice data 4 8) }

def serialize (psid : PrefixSid) : Except PyError Bytes := do
  let sidBytes ←
    if psid.flags &&& prefixSidFlagV ≠ 0 then packLow24 psid.sid else pack [.I] [.nat psid.sid]
  let hdr ← bytesOf [psid.flags, 0, psid.algorithm, 0]
  .ok (hdr ++ sidBytes)

/-- The bytes of an index. -/
def indexBytes (psid : PrefixSid) : Bytes :=
  [psid.flags, 0, psid.algorithm, 0].map UInt8.ofNat ++ Bytes.ofNat 4 psid.sid

/-- An index that fits its place. -/
structure FitsIndex (psid : PrefixSid) : Prop where
  isValue : psid.isValue = false
  flags : psid.flags < 256
  algorithm : psid.algorithm < 256
  sid : psid.sid < 4294967296

section Index

variable {psid : PrefixSid}

theorem FitsIndex.flag (h : psid.FitsIndex) : ¬psid.flags &&& prefixSidFlagV ≠ 0 := by
  simpa [PrefixSid.isValue] using h.isValue

@[simp] theorem length_indexBytes : psid.indexBytes.length = 8 := by simp [indexBytes]

theorem serialize_index (h : psid.FitsIndex) : psid.serialize = .ok psid.indexBytes := by
  have hbytes : bytesOf [psid.flags, 0, psid.algorithm, 0] =
      .ok ([psid.flags, 0, psid.algorithm, 0].map UInt8.ofNat) :=
    if_pos (by simp [h.flags, h.algorithm])
  simp only [serialize, if_neg h.flag, pack, Struct.pack, Struct.pack1, if_pos h.sid, List.append_nil, hbytes]
  rfl

/-- **An index that is encoded is parsed.** -/
theorem deserialize_indexBytes (h : psid.FitsIndex) : deserialize psid.indexBytes = .ok psid := by
  have hflags : byteAt psid.indexBytes 0 = psid.flags := by
    simp [byteAt, indexBytes, Nat.mod_eq_of_lt h.flags]
  have halgorithm : byteAt psid.indexBytes 2 = psid.algorithm := by
    simp [byteAt, indexBytes, Nat.mod_eq_of_lt h.algorithm]
  have hsid : Bytes.toNat (Bytes.slice psid.indexBytes 4 8) = psid.sid := by
    have hdrop : Bytes.slice psid.indexBytes 4 8 = Bytes.ofNat 4 psid.sid :=
      List.take_of_length_le (Bytes.length_ofNat ..).le
    rw [hdrop, Bytes.toNat_ofNat_of_lt h.sid]
  simp only [deserialize, length_indexBytes, hflags, halgorithm, hsid, if_neg h.flag]
  rfl

end Index

end PrefixSid

/-- An Adj-SID: a label if the V flag is set, or an index. -/
structure AdjSid where
  flags : Nat
  weight : Nat
  sid : Nat
  deriving DecidableEq, Repr

/-- `AdjSid.deserialize`; an index that is cut off is not a `ValueError`. -/
def AdjSid.deserialize (data : Bytes) : Except PyError AdjSid :=
  let len := data.length
  if len < 7 then .error (.valueError s!"Adj-SID sub-TLV too short: {len}")
  else
    let flags := byteAt data 0
    let weight := byteAt data 2
    if flags &&& adjSidFlagV ≠ 0 then .ok { flags, weight, sid := Bytes.toNat (Bytes.slice data 4 7) }
    else
      match unpackFrom [.I] data 4 with
      | .ok [.nat sid] => .ok { flags, weight, sid }
      | .ok _ => .error .structError
      | .error e => .error e

/-! ## Entries -/

/-- An entry of an Extended Prefix LSA. -/
structure ExtendedPrefixEntry where
  routeType : Nat
  prefixLen : Nat
  af : Nat
  flags : Nat
  address : IPv4Address
  prefixSid : Option PrefixSid := none
  deriving DecidableEq, Repr

namespace ExtendedPrefixEntry

/-- One TLV of an entry; a malformed Prefix-SID is passed over. -/
def readStlv (entry : ExtendedPrefixEntry) (stlv : Nat × Bytes) : ExtendedPrefixEntry :=
  if stlv.1 = srStlvPrefixSid then
    match PrefixSid.deserialize stlv.2 with
    | .ok psid => { entry with prefixSid := some psid }
    | .error _ => entry
  else entry

def deserialize (data : Bytes) : Except PyError ExtendedPrefixEntry :=
  if data.length < 8 then .error (.valueError "ExtendedPrefix TLV too short")
  else
    let entry : ExtendedPrefixEntry :=
      { routeType := byteAt data 0, prefixLen := byteAt data 1, af := byteAt data 2, flags := byteAt data 3,
        address := addressField (Bytes.slice data 4 8) }
    .ok ((parseTlvs (data.drop 8)).foldl readStlv entry)

end ExtendedPrefixEntry

/-- An entry of an Extended Link LSA. -/
structure ExtendedLinkEntry where
  linkType : Nat
  linkId : IPv4Address
  linkData : IPv4Address
  adjSids : List AdjSid := []
  lanAdjSids : List (IPv4Address × AdjSid) := []
  deriving DecidableEq, Repr

namespace ExtendedLinkEntry

/-- What `except ValueError` makes of an Adj-SID. -/
def readAdjSid (entry : ExtendedLinkEntry) (data : Bytes) (add : AdjSid → ExtendedLinkEntry) :
    Except PyError ExtendedLinkEntry :=
  match AdjSid.deserialize data with
  | .ok asid => .ok (add asid)
  | .error (.valueError _) => .ok entry
  | .error e => .error e

/-- One TLV of an entry. -/
def readStlv (entry : ExtendedLinkEntry) (stlv : Nat × Bytes) : Except PyError ExtendedLinkEntry :=
  if stlv.1 = srStlvAdjSid then
    entry.readAdjSid stlv.2 fun asid => { entry with adjSids := entry.adjSids ++ [asid] }
  else if stlv.1 = srStlvLanAdjSid ∧ 10 ≤ stlv.2.length then
    entry.readAdjSid (stlv.2.take 4 ++ stlv.2.drop 8) fun asid =>
      { entry with lanAdjSids := entry.lanAdjSids ++ [(addressField (Bytes.slice stlv.2 4 8), asid)] }
  else .ok entry

def deserialize (data : Bytes) : Except PyError ExtendedLinkEntry :=
  if data.length < 12 then .error (.valueError "ExtendedLink TLV too short")
  else
    let entry : ExtendedLinkEntry :=
      { linkType := byteAt data 0, linkId := addressField (Bytes.slice data 4 8),
        linkData := addressField (Bytes.slice data 8 12) }
    (parseTlvs (data.drop 12)).foldlM readStlv entry

end ExtendedLinkEntry

end Ospfd
