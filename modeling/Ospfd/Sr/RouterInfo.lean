import Mathlib.Tactic.IntervalCases
import Ospfd.Sr.Opaque

/-!
# Router Information is written and read again

The writer pads the label of a range to four bytes, the reader of capabilities does not pass over
the padding, and is out of step from the second range on.

* `fixedByte`, `Banded` — the bytes that are the same in every range, and where they stand.
* `LabelAt` — where the reader would take a label; `LabelAt.mod` — one place in eleven, or two that
  only sizes and labels can make up.
* `length_readRanges_le` — no two ranges are read one right behind the other.
* `readRanges_eq_iff` — **at most one range is read back**.
* `roundTrips_iff` — **when a body survives, and when capabilities survive their own decoder**.
-/

namespace Ospfd

/-! ## The bytes of ranges -/

/-- The bytes of a range that do not depend on it. -/
def fixedByte : Nat → Option Nat
  | 3 => some 0
  | 4 => some 1
  | 5 => some 0
  | 6 => some 3
  | 10 => some 0
  | _ => none

/-- The bytes repeat those of a range every eleven bytes. -/
def Banded (data : Bytes) : Prop :=
  ∀ i < data.length, ∀ b, fixedByte (i % 11) = some b → byteAt data i = b

theorem SidLabelRange.bytes_eq (r : SidLabelRange) :
    r.bytes = Bytes.ofNat 3 r.size ++ [0, 1, 0, 3] ++ Bytes.ofNat 3 r.start ++ [0] := by
  rw [bytes, tlvBytes, Bytes.length_ofNat, ← List.append_assoc, ← List.append_assoc]
  rfl

theorem byteAt_bytes (r : SidLabelRange) {i b : Nat} (h : fixedByte i = some b) : byteAt r.bytes i = b := by
  rw [SidLabelRange.bytes_eq]
  unfold fixedByte at h
  split at h <;> cases h <;> rfl

theorem banded_bytes (ranges : List SidLabelRange) : Banded (ranges.map SidLabelRange.bytes).flatten := by
  induction ranges with
  | nil =>
    intro i hi
    cases hi
  | cons r ranges ih =>
    intro i hi b hb
    rw [List.map_cons, List.flatten_cons] at hi ⊢
    rw [List.length_append, SidLabelRange.length_bytes] at hi
    by_cases hfst : i < 11
    · rw [Nat.mod_eq_of_lt hfst] at hb
      rw [byteAt, List.getD_append _ _ _ _ (by rwa [SidLabelRange.length_bytes])]
      exact byteAt_bytes r hb
    · rw [byteAt, List.getD_append_right _ _ _ _ (by rw [SidLabelRange.length_bytes]; omega),
        SidLabelRange.length_bytes]
      exact ih (i - 11) (by omega) b (by rw [← Nat.mod_eq_sub_mod (not_lt.1 hfst)]; exact hb)

theorem length_ranges (ranges : List SidLabelRange) :
    (ranges.map SidLabelRange.bytes).flatten.length = 11 * ranges.length := by
  induction ranges with
  | nil => rfl
  | cons r ranges ih =>
    rw [List.map_cons, List.flatten_cons, List.length_append, ih, SidLabelRange.length_bytes,
      List.length_cons]
    omega

/-! ## Where labels are read -/

/-- The reader takes a label here: three bytes on, the header of one, and the label in the data. -/
def LabelAt (data : Bytes) (pos : Nat) : Prop :=
  Bytes.toNat (Bytes.slice data (pos + 3) (pos + 5)) = srStlvSidLabel ∧
    Bytes.toNat (Bytes.slice data (pos + 5) (pos + 7)) = 3 ∧ pos + 10 ≤ data.length

theorem labelAt_drop {data : Bytes} {n pos : Nat} (hn : n ≤ data.length) :
    LabelAt (data.drop n) pos ↔ LabelAt data (n + pos) := by
  simp only [LabelAt, slice_drop, List.length_drop, ← Nat.add_assoc]
  omega

/-- A number of two bytes. -/
theorem toNat_slice_two {data : Bytes} {pos : Nat} (h : pos + 2 ≤ data.length) :
    Bytes.toNat (Bytes.slice data pos (pos + 2)) = byteAt data pos * 256 + byteAt data (pos + 1) := by
  have hslice : Bytes.slice data pos (pos + 2) = [data[pos], data[pos + 1]] := by
    rw [Bytes.slice, List.drop_eq_getElem_cons (by omega), List.drop_eq_getElem_cons (by omega),
      Nat.add_sub_cancel_left]
    rfl
  rw [hslice, byteAt, byteAt, List.getD_eq_getElem _ _ (by omega), List.getD_eq_getElem _ _ (by omega)]
  simp [Bytes.toNat]

/-- A label is taken where one is, or where sizes and labels happen to look like the header of one. -/
theorem LabelAt.mod {data : Bytes} {pos : Nat} (hb : Banded data) (h : LabelAt data pos) :
    pos % 11 = 0 ∨ pos % 11 = 5 ∨ pos % 11 = 7 := by
  obtain ⟨htype, hlen, hbound⟩ := h
  rw [toNat_slice_two (by omega), srStlvSidLabel] at htype
  rw [toNat_slice_two (by omega)] at hlen
  have h3 := hb (pos + 3) (by omega)
  have h4 := hb (pos + 3 + 1) (by omega)
  have h5 := hb (pos + 5) (by omega)
  have h6 := hb (pos + 5 + 1) (by omega)
  have hlt : pos % 11 < 11 := Nat.mod_lt _ (by omega)
  interval_cases hr : pos % 11 <;> simp [Nat.add_mod, hr, fixedByte] at h3 h4 h5 h6 ⊢ <;> omega

/-- No two labels are taken ten bytes apart. -/
theorem LabelAt.not_next {data : Bytes} {pos : Nat} (hb : Banded data) (h : LabelAt data pos) :
    ¬LabelAt data (pos + 10) := by
  intro h'
  have hmod := h.mod hb
  have hmod' := h'.mod hb
  omega

/-- Where no two labels are taken ten bytes apart, a range takes seventeen bytes, but for the last. -/
theorem length_readRanges_le (data : Bytes) (h : ∀ pos, LabelAt data pos → ¬LabelAt data (pos + 10)) :
    17 * (readRanges data).length ≤ data.length + 7 ∧
      (¬LabelAt data 0 → 17 * (readRanges data).length ≤ data.length) := by
  fun_induction readRanges data with
  | case1 data hshort => simp
  | case2 data hshort hshort' => simp
  | case3 data hshort size hshort' stLen hlabel ih =>
    have hat : LabelAt data 0 := ⟨hlabel.1, hlabel.2.1, by simpa using hlabel.2.2⟩
    have hrest : ¬LabelAt (data.drop 10) 0 := by
      rw [labelAt_drop hlabel.2.2, Nat.add_zero]
      exact Nat.zero_add 10 ▸ h 0 hat
    have hle := (ih fun pos hpos => by
      rw [labelAt_drop hlabel.2.2] at hpos ⊢
      exact h _ hpos).2 hrest
    rw [List.length_drop] at hle
    rw [List.length_cons]
    exact ⟨by omega, fun hnot => absurd hat hnot⟩
  | case4 data hshort hshort' stLen hlabel ih =>
    by_cases hn : 7 + stLen ≤ data.length
    · have hle := (ih fun pos hpos => by
        rw [labelAt_drop hn] at hpos ⊢
        exact h _ hpos).1
      rw [List.length_drop] at hle
      exact ⟨by omega, fun _ => by omega⟩
    · rw [List.drop_of_length_le (by omega), readRanges]
      simp

/-- A range by itself. -/
theorem readRanges_bytes {r : SidLabelRange} (h : r.Fits) : readRanges r.bytes = [r] := by
  have hrest : readRanges (r.bytes.drop 10) = [] := by
    rw [readRanges, if_pos (by rw [List.length_drop, SidLabelRange.length_bytes]; omega)]
  obtain ⟨hsize, htype, hlen, hstart⟩ := SidLabelRange.fields_bytes h
  rw [readRanges, SidLabelRange.length_bytes, if_neg (by decide), if_neg (by decide)]
  simp only [hsize, htype, hlen, hstart, hrest]
  rw [if_pos (by decide)]

/-- **At most one range is read back.** -/
theorem readRanges_eq_iff {ranges : List SidLabelRange} (h : ∀ r ∈ ranges, r.Fits) :
    readRanges (ranges.map SidLabelRange.bytes).flatten = ranges ↔ ranges.length ≤ 1 := by
  constructor
  · intro heq
    have hb := banded_bytes ranges
    have hle := (length_readRanges_le _ fun pos hpos => hpos.not_next hb).1
    rw [heq, length_ranges] at hle
    omega
  · intro hle
    rcases ranges with _ | ⟨r, _ | ⟨r', ranges⟩⟩
    · rw [List.map_nil, List.flatten_nil, readRanges, if_pos (by decide)]
    · rw [List.map_singleton, List.flatten_singleton]
      exact readRanges_bytes (h r (List.mem_singleton_self r))
    · simp at hle

/-! ## What survives -/

/-- What is serialized is parsed as the same capabilities by their own decoder. -/
def SrCapabilities.RoundTrips (cap : SrCapabilities) : Prop :=
  ∃ data, cap.serialize = .ok data ∧ SrCapabilities.deserialize data = .ok cap

theorem SrCapabilities.roundTrips_iff_nil {cap : SrCapabilities} (h : cap.Fits) :
    cap.RoundTrips ↔ cap.ranges = [] := by
  rw [RoundTrips, serialize_eq h]
  simp only [Except.ok.injEq, exists_eq_left', deserialize_bytes h]
  constructor
  · intro heq
    rw [← heq]
  · intro hnil
    obtain ⟨flags, ranges⟩ := cap
    subst hnil
    rfl

namespace RouterInfoLsa

/-- What is serialized is parsed as the same body. -/
def RoundTrips (lsa : RouterInfoLsa) : Prop := ∃ data, lsa.serialize = .ok data ∧ deserialize data = lsa

variable {lsa : RouterInfoLsa}

theorem reread_eq_iff (h : lsa.Fits) :
    lsa.reread = lsa ↔ ∀ cap, lsa.srCapabilities = some cap → cap.ranges.length ≤ 1 := by
  obtain ⟨caps, algorithms, srgb⟩ := lsa
  cases caps with
  | none => simp [reread]
  | some cap =>
    have hiff := readRanges_eq_iff (h.srCapabilities cap rfl).ranges
    simp only [reread, Option.map_some, mk.injEq, Option.some.injEq, and_true, forall_eq']
    rw [← hiff]
    exact ⟨fun heq => congrArg SrCapabilities.ranges heq, fun heq => by rw [heq]⟩

/-- With at most one range only the list of algorithms can be too long. -/
theorem short_iff (hranges : ∀ cap, lsa.srCapabilities = some cap → cap.ranges.length ≤ 1) :
    (∀ tlv ∈ lsa.tlvs, tlv.2.length < 65536) ↔ lsa.srAlgorithms.length ≤ 65535 := by
  constructor
  · intro hall
    have halg := hall (riTlvSrAlgorithm, lsa.srAlgorithms.map UInt8.ofNat) (by simp [tlvs])
    rw [List.length_map] at halg
    omega
  · intro hle tlv htlv
    simp only [tlvs, List.mem_append, List.mem_cons, Option.mem_toList, Option.map_eq_some_iff] at htlv
    rcases htlv with ⟨cap, hcap, rfl⟩ | rfl | ⟨r, -, rfl⟩
    · have hone := hranges cap hcap
      simp only [SrCapabilities.bytes, List.length_append, length_ranges, List.length_cons, List.length_nil]
      omega
    · simp only [List.length_map]
      omega
    · simp

theorem roundTrips_iff_ranges (h : lsa.Fits) : lsa.RoundTrips ↔
    lsa.srAlgorithms.length ≤ 65535 ∧ ∀ cap, lsa.srCapabilities = some cap → cap.ranges.length ≤ 1 := by
  constructor
  · rintro ⟨data, hser, hdes⟩
    obtain ⟨hlen, rfl⟩ := (serialize_eq_ok_iff h).1 hser
    rw [deserialize_bytes h hlen, reread_eq_iff h] at hdes
    exact ⟨(short_iff hdes).1 hlen, hdes⟩
  · rintro ⟨halg, hranges⟩
    have hlen := (short_iff hranges).2 halg
    refine ⟨lsa.bytes, (serialize_eq_ok_iff h).2 ⟨hlen, rfl⟩, ?_⟩
    rw [deserialize_bytes h hlen, reread_eq_iff h]
    exact hranges

/-- **A body survives exactly with at most one range** and a list of algorithms that fits its TLV,
**capabilities survive their own decoder exactly without ranges**. -/
theorem roundTrips_iff (h : lsa.Fits) :
    (lsa.RoundTrips ↔ lsa.srAlgorithms.length ≤ 65535 ∧
      ∀ cap, lsa.srCapabilities = some cap → cap.ranges.length ≤ 1) ∧
    ((lsa.RoundTrips ∧ ∀ cap, lsa.srCapabilities = some cap → cap.RoundTrips) ↔
      lsa.srAlgorithms.length ≤ 65535 ∧ ∀ cap, lsa.srCapabilities = some cap → cap.ranges = []) := by
  refine ⟨roundTrips_iff_ranges h, ?_⟩
  rw [roundTrips_iff_ranges h]
  constructor
  · rintro ⟨⟨halg, -⟩, hcaps⟩
    exact ⟨halg, fun cap hcap => (SrCapabilities.roundTrips_iff_nil (h.srCapabilities cap hcap)).1 (hcaps cap hcap)⟩
  · rintro ⟨halg, hnil⟩
    refine ⟨⟨halg, fun cap hcap => ?_⟩, fun cap hcap => ?_⟩
    · rw [hnil cap hcap]
      exact Nat.zero_le 1
    · exact (SrCapabilities.roundTrips_iff_nil (h.srCapabilities cap hcap)).2 (hnil cap hcap)

/-- A body that advertises ranges. -/
def ofRanges (ranges : List SidLabelRange) : RouterInfoLsa where
  srCapabilities := some { flags := 0, ranges }

theorem fits_ofRanges {ranges : List SidLabelRange} (h : ∀ r ∈ ranges, r.Fits) : (ofRanges ranges).Fits where
  srCapabilities := by
    rintro cap ⟨⟩
    exact ⟨Nat.zero_lt_succ _, h⟩
  nonempty := List.cons_ne_nil _ _
  srAlgorithms := by simp [ofRanges, srAlgSpf]
  srgb := by
    rintro r ⟨⟩

/-- Of two ranges the second is lost. -/
theorem not_roundTrips : ¬∀ lsa : RouterInfoLsa, lsa.Fits →
    lsa.RoundTrips ∧ ∀ cap, lsa.srCapabilities = some cap → cap.RoundTrips := by
  intro h
  have hfits : (ofRanges [⟨16000, 8000⟩, ⟨24000, 1000⟩]).Fits := fits_ofRanges (by
    intro r hr
    simp only [List.mem_cons, List.not_mem_nil, or_false] at hr
    rcases hr with rfl | rfl
    · exact ⟨by decide, by decide⟩
    · exact ⟨by decide, by decide⟩)
  have htwo := ((roundTrips_iff_ranges hfits).1 (h _ hfits).1).2 _ rfl
  exact absurd htwo (by decide)

/-- One range survives in a body, and no range is needed for the other decoder. -/
theorem roundTrips_ofRanges : (ofRanges [⟨16000, 8000⟩]).RoundTrips ∧
    ((ofRanges []).RoundTrips ∧ ∀ cap, (ofRanges []).srCapabilities = some cap → cap.RoundTrips) := by
  have hone : ∀ r ∈ [(⟨16000, 8000⟩ : SidLabelRange)], r.Fits := by
    intro r hr
    obtain rfl := List.mem_singleton.1 hr
    exact ⟨by decide, by decide⟩
  refine ⟨(roundTrips_iff (fits_ofRanges hone)).1.2 ⟨by decide, ?_⟩,
    (roundTrips_iff (fits_ofRanges (List.forall_mem_nil _))).2.2 ⟨by decide, ?_⟩⟩
  · rintro cap ⟨⟩
    exact le_rfl
  · rintro cap ⟨⟩
    rfl

end RouterInfoLsa

end Ospfd
