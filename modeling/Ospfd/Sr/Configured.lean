import Ospfd.Lsdb.RouterLinks
import Ospfd.Sr.Origination
import Ospfd.Sr.RouterInfo

/-!
# The SR LSAs of configured numbers

The label range and the index come from the configuration as integers, and are packed into three
and four bytes.

* `riBody`, `sidBody` — the bodies for numbers of any size and sign.
* `SidLabelRange.low` — the range that is read where another is written.
* `riConveys_iff` — **a label range is conveyed** exactly when its numbers fit three bytes.
* `sidConveys_iff` — **an index is conveyed** exactly when it fits four bytes.
-/

namespace Ospfd

variable {s : Instance} {start size index : Int} {network : IPv4Network}

/-! ## Opaque LSAs -/

/-- An opaque LSA survives with a body that is there and fits. -/
theorem opaqueLsa_survives (s : Instance) (opaqueType opaqueId : Nat) {body : Bytes} (hbody : body ≠ [])
    (hlen : LsaHeader.size + body.length < 65536) (now : Time) :
    (opaqueLsa s opaqueType opaqueId body).Survives now := by
  refine Lsa.WellFormed.survives ?_ now
  refine ⟨?_, Nat.zero_le _, rfl, rfl, ⟨_, rfl, show lsaTypeExternal < lsaTypeOpaqueArea by decide, hbody⟩, ?_⟩
  · constructor <;> simp [opaqueLsa, lsaTypeOpaqueArea, initialSeqNum]
  · rintro b ⟨⟩
    exact Nat.le_of_lt_succ hlen

/-! ## Label ranges -/

namespace SidLabelRange

/-- What three bytes hold of a range. -/
def low (r : SidLabelRange) : SidLabelRange := ⟨r.start % 16777216, r.size % 16777216⟩

theorem fits_low (r : SidLabelRange) : r.low.Fits :=
  ⟨Nat.mod_lt _ (by decide), Nat.mod_lt _ (by decide)⟩

theorem low_eq_iff {r : SidLabelRange} : r.low = r ↔ r.Fits := by
  obtain ⟨start, size⟩ := r
  simp only [low, mk.injEq]
  constructor
  · exact fun h => ⟨by rw [← h.1]; exact Nat.mod_lt _ (by decide), by rw [← h.2]; exact Nat.mod_lt _ (by decide)⟩
  · exact fun h => ⟨Nat.mod_eq_of_lt h.start, Nat.mod_eq_of_lt h.size⟩

end SidLabelRange

theorem lt_of_packLow24 {n : Nat} {b : Bytes} (h : packLow24 n = .ok b) : n < 4294967296 := by
  by_contra hn
  simp only [packLow24, pack, Struct.pack, Struct.pack1, if_neg hn] at h
  cases h

/-- The upper byte is dropped without a word. -/
theorem packLow24_mod {n : Nat} (h : n < 4294967296) : packLow24 n = packLow24 (n % 16777216) := by
  have hn : n = n / 16777216 * 256 ^ 3 + n % 16777216 := by omega
  rw [packLow24_eq (Nat.mod_lt n (by decide)), ← Bytes.ofNat_mul_add 3 (n / 16777216) (n % 16777216), ← hn]
  simp only [packLow24, pack, Struct.pack, Struct.pack1, if_pos h, List.append_nil]
  rfl

theorem SidLabelRange.serialize_low {r : SidLabelRange} (hstart : r.start < 4294967296)
    (hsize : r.size < 4294967296) : r.serialize = r.low.serialize := by
  rw [serialize, serialize, packLow24_mod hstart, packLow24_mod hsize]
  rfl

theorem SidLabelRange.lt_of_serialize {r : SidLabelRange} {b : Bytes} (h : r.serialize = .ok b) :
    r.start < 4294967296 ∧ r.size < 4294967296 := by
  obtain ⟨rangeBytes, hrange, h⟩ := bind_eq_ok h
  obtain ⟨labelBytes, hlabel, -⟩ := bind_eq_ok h
  exact ⟨lt_of_packLow24 hlabel, lt_of_packLow24 hrange⟩

namespace RouterInfoLsa

/-- A range that is advertised is serialized. -/
theorem range_of_serialize {r : SidLabelRange} {b : Bytes} (h : (ofRange r).serialize = .ok b) :
    ∃ data, r.serialize = .ok data := by
  obtain ⟨capabilities, hcap, -⟩ := bind_eq_ok h
  obtain ⟨value, -, hcap⟩ := bind_eq_ok hcap
  obtain ⟨ranges, hranges, -⟩ := bind_eq_ok hcap
  rw [List.mapM_cons] at hranges
  obtain ⟨data, hdata, -⟩ := bind_eq_ok hranges
  exact ⟨data, hdata⟩

theorem serialize_ofRange_low {r : SidLabelRange} (hstart : r.start < 4294967296) (hsize : r.size < 4294967296) :
    (ofRange r).serialize = .ok (rangeBytes r.low) := by
  have hlow := SidLabelRange.serialize_low hstart hsize
  rw [← serialize_ofRange r.fits_low]
  simp only [serialize, ofRange, SrCapabilities.serialize, List.mapM_cons, List.mapM_nil, hlow]
  rfl

/-- **What a router reads of it.** -/
theorem deserialize_rangeBytes {r : SidLabelRange} (h : r.Fits) : deserialize (rangeBytes r) = ofRange r := by
  rw [← bytes_ofRange, deserialize_bytes (fits_ofRange h) fun _ => length_of_mem_ofRange,
    reread_eq_iff (fits_ofRange h)]
  rintro cap ⟨⟩
  exact le_rfl

theorem ofRange_inj {r r' : SidLabelRange} (h : ofRange r = ofRange r') : r = r' :=
  Option.some.inj (congrArg srgb h)

end RouterInfoLsa

/-- The body of the Router Information LSA for a configured range; a negative number is not packed. -/
def riBody (start size : Int) : Except PyError Bytes :=
  if 0 ≤ start ∧ 0 ≤ size then (RouterInfoLsa.ofRange ⟨start.toNat, size.toNat⟩).serialize
  else .error .structError

/-- `originate_ri_lsa` floods that body. -/
theorem originateRiLsa_eq (srgb : SidLabelRange) (areaId : IPv4Address) :
    originateRiLsa srgb areaId = (do
      let body ← Eff.lift (riBody srgb.start srgb.size)
      originateOpaque areaId opaqueTypeRi 0 body) := by
  rw [riBody, if_pos ⟨Int.natCast_nonneg _, Int.natCast_nonneg _⟩]
  rfl

/-- The Router Information LSA of this router survives, and a range is read from it that is the
configured one. -/
def RiConveys (s : Instance) (start size : Int) : Prop :=
  ∃ body r, riBody start size = .ok body ∧ (opaqueLsa s opaqueTypeRi 0 body).Survives s.now ∧
    RouterInfoLsa.deserialize body = .ofRange r ∧ start = r.start ∧ size = r.size

/-- **A label range is conveyed** exactly when its numbers fit three bytes. -/
theorem riConveys_iff : RiConveys s start size ↔
    (0 ≤ start ∧ start < 16777216) ∧ 0 ≤ size ∧ size < 16777216 := by
  constructor
  · rintro ⟨body, r, hbody, -, hread, rfl, rfl⟩
    rw [riBody, if_pos ⟨Int.natCast_nonneg _, Int.natCast_nonneg _⟩] at hbody
    obtain ⟨data, hdata⟩ := RouterInfoLsa.range_of_serialize hbody
    obtain ⟨hstart, hsize⟩ := SidLabelRange.lt_of_serialize hdata
    -- what is written is the low part of the range, and that is read
    have hlow := RouterInfoLsa.serialize_ofRange_low hstart hsize
    rw [hbody, Except.ok.injEq] at hlow
    rw [hlow, RouterInfoLsa.deserialize_rangeBytes (SidLabelRange.fits_low _)] at hread
    have hfits := SidLabelRange.low_eq_iff.1 (RouterInfoLsa.ofRange_inj hread)
    have hstart' : (r.start : Int).toNat < 16777216 := hfits.start
    have hsize' : (r.size : Int).toNat < 16777216 := hfits.size
    omega
  · rintro ⟨⟨hstart, hstart'⟩, hsize, hsize'⟩
    have hfits : SidLabelRange.Fits ⟨start.toNat, size.toNat⟩ := ⟨by dsimp only; omega, by dsimp only; omega⟩
    refine ⟨_, _, (if_pos ⟨hstart, hsize⟩).trans (RouterInfoLsa.serialize_ofRange hfits), ?_,
      RouterInfoLsa.deserialize_rangeBytes hfits, (Int.toNat_of_nonneg hstart).symm, (Int.toNat_of_nonneg hsize).symm⟩
    refine opaqueLsa_survives s opaqueTypeRi 0 (fun hnil => ?_) ?_ s.now
    · have hlen := congrArg List.length hnil
      rw [RouterInfoLsa.length_rangeBytes] at hlen
      cases hlen
    · rw [RouterInfoLsa.length_rangeBytes]
      decide

/-! ## Indexes -/

theorem lt_of_prefixSidBody {sidIndex : Nat} {b : Bytes} (h : prefixSidBody network sidIndex = .ok b) :
    sidIndex < 4294967296 := by
  obtain ⟨prefixHdr, -, h⟩ := bind_eq_ok h
  obtain ⟨sid, hsid, -⟩ := bind_eq_ok h
  by_contra hlt
  have hflags : ¬prefixSidFlagNP &&& prefixSidFlagV ≠ 0 := by decide
  simp only [PrefixSid.serialize, if_neg hflags, pack, Struct.pack, Struct.pack1, if_neg hlt] at hsid
  cases hsid

/-- The body of the Extended Prefix LSA for a configured index; a negative one is not packed. -/
def sidBody (network : IPv4Network) (index : Int) : Except PyError Bytes :=
  if 0 ≤ index then prefixSidBody network index.toNat else .error .structError

/-- `originate_prefix_sid_lsa` floods that body. -/
theorem originatePrefixSidLsa_eq (areaId : IPv4Address) (network : IPv4Network) (sidIndex : Nat) :
    originatePrefixSidLsa areaId network sidIndex = (do
      let body ← Eff.lift (sidBody network sidIndex)
      originateOpaque areaId opaqueTypeExtendedPrefix (prefixOpaqueId network) body) := by
  rw [sidBody, if_pos (Int.natCast_nonneg _)]
  rfl

/-- The Extended Prefix LSA of a network survives, and a Prefix-SID of the network is read from it
with the configured index. -/
def SidConveys (s : Instance) (network : IPv4Network) (index : Int) : Prop :=
  ∃ body psid, sidBody network index = .ok body ∧
    (opaqueLsa s opaqueTypeExtendedPrefix (prefixOpaqueId network) body).Survives s.now ∧
    prefixSids (ExtendedPrefixLsa.deserialize body).prefixes = [(network, psid)] ∧ index = psid.sid

/-- **An index is conveyed** exactly when it fits four bytes. -/
theorem sidConveys_iff (hnet : network.Valid) : SidConveys s network index ↔ 0 ≤ index ∧ index < 4294967296 := by
  constructor
  · rintro ⟨body, psid, hbody, -, -, rfl⟩
    rw [sidBody, if_pos (Int.natCast_nonneg _)] at hbody
    have hlt := lt_of_prefixSidBody hbody
    omega
  · rintro ⟨hlo, hhi⟩
    have hsid : index.toNat < 4294967296 := by omega
    refine ⟨_, _, (if_pos hlo).trans (prefixSidBody_eq hnet hsid), ?_, prefixSids_prefixSidBytes hnet hsid,
      (Int.toNat_of_nonneg hlo).symm⟩
    refine opaqueLsa_survives s opaqueTypeExtendedPrefix (prefixOpaqueId network) (fun hnil => ?_) ?_ s.now
    · have hlen := congrArg List.length hnil
      rw [length_prefixSidBytes] at hlen
      cases hlen
    · rw [length_prefixSidBytes]
      decide

end Ospfd
