import Ospfd.Packet.Body
import Ospfd.Packet.Fletcher

/-!
# Link state updates survive the wire

The encoders of the LSA bodies undo the decoders, whatever stands before and after them
in the buffer they are decoded from.

* `LsaBody.Matches` — a body of the constructor its type requires, every field in the
  range it has on the wire.
* `deserializeBody_serialize` — **a body is read back from where it was put**.
* `Lsa.filled` — an LSA with the length and the checksum of its bytes filled in.
* `LsaHeader.serialize_eq` — the bytes of a header, the checksum field apart.
* `serialize_wellFormed` — **what `serialize` returns, and what it writes into the LSA**.
* `LsuPacket.serialize` — the encoder of an update.
* `lsu_survives_wire` — **updates, and LSAs anywhere in a buffer, survive the wire**.
-/

namespace Ospfd

/-! ## Fields in wire range -/

/-- Every field fits the bytes it is given, and the counts are those of the lists. -/
structure RouterLsaLink.WireRange (l : RouterLsaLink) : Prop where
  type : l.type < 256
  numTos : l.numTos = l.tosMetrics.length
  numTos_lt : l.numTos < 256
  metric : 0 ≤ l.metric ∧ l.metric < 65536
  tosMetrics : ∀ p ∈ l.tosMetrics, p.1 < 256 ∧ p.2 < 65536

/-- The same of a Router-LSA. -/
structure RouterLsa.WireRange (r : RouterLsa) : Prop where
  flags : r.flags < 256
  numLinks : r.numLinks = r.links.length
  numLinks_lt : r.numLinks < 65536
  links : ∀ l ∈ r.links, l.WireRange

/-- A body of the constructor its type requires, in wire range. -/
def LsaBody.Matches (lsType : Nat) : LsaBody → Prop
  | .router b => lsType = lsaTypeRouter ∧ b.WireRange
  | .network _ => lsType = lsaTypeNetwork
  | .summary b => (lsType = lsaTypeSummary ∨ lsType = lsaTypeAsbrSummary) ∧ b.metric < 16777216
  | .external b => lsType = lsaTypeExternal ∧ b.metric < 16777216 ∧ b.externalRouteTag < 4294967296
  | .raw data => lsaTypeExternal < lsType ∧ data ≠ []

/-! ## Reading at a position -/

theorem slice_at (pre b post : Bytes) {n : Nat} (h : b.length = n) :
    Bytes.slice (pre ++ b ++ post) pre.length (pre.length + n) = b := by
  subst h
  exact Bytes.slice_append_append pre b post

/-- A packed record is unpacked where it stands. -/
theorem unpackFrom_at (fmt : List Struct.Code) (vs : List Struct.Value)
    (h : List.Forall₂ Struct.Fits fmt vs) :
    ∃ b, pack fmt vs = .ok b ∧ b.length = Struct.calcsize fmt ∧
      ∀ pre post, unpackFrom fmt (pre ++ b ++ post) pre.length = .ok vs := by
  obtain ⟨b, hb, hlen, hun⟩ := Struct.unpackFrom_pack h
  refine ⟨b, by rw [pack, hb], hlen, ?_⟩
  intro pre post
  rw [unpackFrom, hun]

/-- A number that fits four bytes is unpacked where it stands. -/
theorem word_at {n : Nat} (h : n < 4294967296) :
    ∃ b, pack [.I] [.nat n] = .ok b ∧ b.length = 4 ∧
      ∀ pre post, unpackFrom [.I] (pre ++ b ++ post) pre.length = .ok [.nat n] := by
  apply unpackFrom_at [.I] [.nat n]
  simp [Struct.Fits, h]

theorem address_at (a : IPv4Address) (pre post : Bytes) :
    addressOfBytes (Bytes.slice (pre ++ packed a ++ post) pre.length (pre.length + 4)) = .ok a := by
  rw [slice_at pre (packed a) post (length_packed a), addressOfBytes_packed]

/-- A list of addresses is read back. -/
theorem addresses_at (as : List IPv4Address) (pre post : Bytes) :
    readRecords (fun p => addressOfBytes (Bytes.slice (pre ++ (as.map packed).flatten ++ post) p (p + 4)))
      4 as.length pre.length = .ok as := by
  induction as generalizing pre with
  | nil => rfl
  | cons a as ih =>
    have hcut : pre ++ ((a :: as).map packed).flatten ++ post =
        pre ++ packed a ++ ((as.map packed).flatten ++ post) := by
      simp [List.append_assoc]
    have hrest := ih (pre ++ packed a)
    rw [List.length_append, length_packed, List.append_assoc (pre ++ packed a)] at hrest
    simp only [List.length_cons, readRecords, hcut, address_at, hrest]

@[simp] theorem length_addresses (as : List IPv4Address) :
    (as.map packed).flatten.length = 4 * as.length := by
  induction as with
  | nil => rfl
  | cons a as ih =>
    simp only [List.map_cons, List.flatten_cons, List.length_append, length_packed, ih,
      List.length_cons]
    omega

/-! ## Router-LSAs -/

theorem RouterLsaLink.deserialize_serialize {l : RouterLsaLink} (hw : l.WireRange) :
    ∃ b, l.serialize = .ok b ∧ b.length = 12 + 4 * l.numTos ∧
      ∀ pre post, deserialize (pre ++ b ++ post) pre.length = .ok (l, b.length) := by
  obtain ⟨m, hm⟩ := Int.eq_ofNat_of_zero_le hw.metric.1
  have hmetric : unsignedField l.metric = .nat m := by
    simp [unsignedField, hm]
  have hlt : m < 65536 := by
    have := hw.metric.2
    omega
  -- the fixed part
  obtain ⟨b, hb, hlen, hun⟩ := unpackFrom_at format
    [.bytes (packed l.linkId), .bytes (packed l.linkData), .nat l.type, .nat l.numTos, .nat m]
    (by simp [format, Struct.Fits, hw.type, hw.numTos_lt, hlt])
  -- the TOS metrics
  have htos : ∀ p ∈ l.tosMetrics, ∃ b, pack tosFormat [.nat p.1, .nat 0, .nat p.2] = .ok b ∧
      b.length = 4 ∧ ∀ pre post, readTos (pre ++ b ++ post) pre.length = .ok p := by
    intro p hp
    obtain ⟨h1, h2⟩ := hw.tosMetrics p hp
    obtain ⟨c, hc, hclen, hcun⟩ := unpackFrom_at tosFormat [.nat p.1, .nat 0, .nat p.2]
      (by simp [tosFormat, Struct.Fits, h1, h2])
    refine ⟨c, hc, hclen, ?_⟩
    intro pre post
    rw [readTos, hcun]
  obtain ⟨bs, hbs, hlens, hread⟩ := readRecords_serializeAll l.tosMetrics htos
  have hlen12 : b.length = 12 := hlen
  have hser : l.serialize = .ok (b ++ bs) := by
    rw [RouterLsaLink.serialize, hmetric, hb]
    change (serializeAll _ l.tosMetrics >>= fun tos => Except.ok (b ++ tos)) = _
    rw [hbs]
    rfl
  have htotal : (b ++ bs).length = 12 + 4 * l.numTos := by
    rw [List.length_append, hlen12, hlens, hw.numTos]
  refine ⟨b ++ bs, hser, htotal, ?_⟩
  intro pre post
  have h0 := hun pre (bs ++ post)
  have h1 := hread (pre ++ b) post
  rw [List.length_append, hlen12, ← hw.numTos] at h1
  have hcut : pre ++ (b ++ bs) ++ post = pre ++ b ++ (bs ++ post) := by
    simp only [List.append_assoc]
  have hcut' : pre ++ b ++ bs ++ post = pre ++ b ++ (bs ++ post) := by
    simp only [List.append_assoc]
  rw [hcut'] at h1
  have hroom : ¬l.numTos * 4 > (pre ++ b ++ (bs ++ post)).length - (pre.length + 12) := by
    simp only [List.length_append, hlen12, hlens, ← hw.numTos]
    omega
  rw [deserialize, hcut, h0]
  simp only [if_neg hroom, h1, addressField_packed]
  rw [htotal, ← hm]

/-- The links of a Router-LSA are read back one after the other. -/
theorem RouterLsa.readLinks_serializeAll : ∀ links : List RouterLsaLink, (∀ l ∈ links, l.WireRange) →
    ∃ b, serializeAll RouterLsaLink.serialize links = .ok b ∧ 12 * links.length ≤ b.length ∧
      ∀ pre post, readLinks (pre ++ b ++ post) links.length pre.length = .ok links := by
  intro links
  induction links with
  | nil =>
    intro _
    exact ⟨[], rfl, by simp, fun _ _ => rfl⟩
  | cons l links ih =>
    intro hw
    obtain ⟨b, hb, hlen, hde⟩ := RouterLsaLink.deserialize_serialize (hw l (List.mem_cons_self ..))
    obtain ⟨bs, hbs, hlens, hread⟩ := ih fun k hk => hw k (List.mem_cons_of_mem _ hk)
    refine ⟨b ++ bs, by rw [serializeAll, hb, hbs], ?_, ?_⟩
    · simp only [List.length_append, List.length_cons]
      omega
    · intro pre post
      have h0 := hde pre (bs ++ post)
      have h1 := hread (pre ++ b) post
      have hcut : pre ++ (b ++ bs) ++ post = pre ++ b ++ (bs ++ post) := by
        simp only [List.append_assoc]
      have hcut' : pre ++ b ++ bs ++ post = pre ++ b ++ (bs ++ post) := by
        simp only [List.append_assoc]
      rw [hcut', List.length_append] at h1
      rw [hcut, List.length_cons, readLinks, h0]
      simp only [h1]

theorem RouterLsa.deserialize_serialize {r : RouterLsa} (hw : r.WireRange) :
    ∃ b, r.serialize = .ok b ∧ 4 ≤ b.length ∧
      ∀ pre post, deserialize (pre ++ b ++ post) pre.length = .ok r := by
  obtain ⟨b, hb, hlen, hun⟩ := unpackFrom_at format [.nat r.flags, .nat 0, .nat r.numLinks]
    (by simp [format, Struct.Fits, hw.flags, hw.numLinks_lt])
  obtain ⟨bs, hbs, hlens, hread⟩ := readLinks_serializeAll r.links hw.links
  have hlen4 : b.length = 4 := hlen
  have hser : r.serialize = .ok (b ++ bs) := by
    rw [RouterLsa.serialize, hb]
    change (serializeAll _ r.links >>= fun links => Except.ok (b ++ links)) = _
    rw [hbs]
    rfl
  refine ⟨b ++ bs, hser, by simp [hlen4], ?_⟩
  intro pre post
  have h0 := hun pre (bs ++ post)
  have h1 := hread (pre ++ b) post
  rw [List.length_append, hlen4, ← hw.numLinks] at h1
  have hcut : pre ++ (b ++ bs) ++ post = pre ++ b ++ (bs ++ post) := by
    simp only [List.append_assoc]
  have hcut' : pre ++ b ++ bs ++ post = pre ++ b ++ (bs ++ post) := by
    simp only [List.append_assoc]
  rw [hcut'] at h1
  have hroom : ¬(0 < r.numLinks ∧
      r.numLinks * 12 > (pre ++ b ++ (bs ++ post)).length - pre.length - 4) := by
    simp only [List.length_append, hlen4, hw.numLinks]
    omega
  rw [deserialize, hcut, h0]
  simp only [if_neg hroom, h1]

/-! ## The other bodies -/

theorem NetworkLsa.deserialize_serialize (n : NetworkLsa) (pre post : Bytes) :
    deserialize (pre ++ n.serialize ++ post) pre.length n.serialize.length = .ok n := by
  have hlen : n.serialize.length = 4 + 4 * n.attachedRouters.length := by
    rw [serialize, List.length_append, length_packed, length_addresses]
  have hcut : pre ++ n.serialize ++ post =
      pre ++ packed n.networkMask ++ ((n.attachedRouters.map packed).flatten ++ post) := by
    simp [serialize, List.append_assoc]
  have hcut' : pre ++ packed n.networkMask ++ ((n.attachedRouters.map packed).flatten ++ post) =
      pre ++ packed n.networkMask ++ (n.attachedRouters.map packed).flatten ++ post := by
    simp only [List.append_assoc]
  have hmask := address_at n.networkMask pre ((n.attachedRouters.map packed).flatten ++ post)
  have hrouters := addresses_at n.attachedRouters (pre ++ packed n.networkMask) post
  rw [List.length_append, length_packed, ← hcut'] at hrouters
  have hcount : (pre.length + n.serialize.length - (pre.length + 4)) / 4 = n.attachedRouters.length := by
    rw [hlen]
    omega
  unfold deserialize
  rw [hcut, hmask]
  simp only [if_pos (show n.serialize.length ≠ 0 by omega), hcount, hrouters]

theorem SummaryLsa.deserialize_serialize {x : SummaryLsa} (h : x.metric < 16777216) :
    ∃ b, x.serialize = .ok b ∧ b.length = 8 ∧
      ∀ pre post, deserialize (pre ++ b ++ post) pre.length = .ok x := by
  have hmod : x.metric % 16777216 = x.metric := Nat.mod_eq_of_lt h
  obtain ⟨w, hw, hlen, hun⟩ := word_at (n := x.metric) (by omega)
  have hser : x.serialize = .ok (packed x.networkMask ++ w) := by
    rw [SummaryLsa.serialize, hmod, hw]
    rfl
  refine ⟨packed x.networkMask ++ w, hser, by simp [hlen], ?_⟩
  intro pre post
  have hmask := address_at x.networkMask pre (w ++ post)
  have hword := hun (pre ++ packed x.networkMask) post
  have hcut : pre ++ (packed x.networkMask ++ w) ++ post = pre ++ packed x.networkMask ++ (w ++ post) := by
    simp only [List.append_assoc]
  rw [List.length_append, length_packed, List.append_assoc (pre ++ packed x.networkMask)] at hword
  rw [deserialize, hcut, hmask]
  change (unpackFrom [.I] _ _ >>= _) = _
  rw [hword]
  change Except.ok _ = _
  rw [hmod]

theorem metricWord_lt (x : ExternalLsa) (h : x.metric < 16777216) :
    (if x.eBit then x.metric ||| 0x80000000 else x.metric) < 4294967296 := by
  split
  · exact Nat.or_lt_two_pow (n := 32) (by omega) (by omega)
  · omega

/-- The E bit and the metric share one word, and are told apart again. -/
theorem metricWord_split (e : Bool) {m : Nat} (h : m < 16777216) :
    ((if e then m ||| 0x80000000 else m) &&& 0x80000000 != 0) = e ∧
      (if e then m ||| 0x80000000 else m) % 16777216 = m := by
  have hmod : ∀ n : Nat, n % 16777216 = n &&& 16777215 := fun n =>
    (Nat.and_two_pow_sub_one_eq_mod n 24).symm
  have hand : m &&& 0x80000000 = 0 := by
    apply Nat.eq_of_testBit_eq
    intro i
    rw [Nat.testBit_and, Nat.zero_testBit]
    by_cases hi : i = 31
    · subst hi
      rw [Nat.testBit_lt_two_pow (show m < 2 ^ 31 by omega)]
      rfl
    · have hbit : Nat.testBit 0x80000000 i = false := by
        rw [show (0x80000000 : Nat) = 2 ^ 31 from rfl, Nat.testBit_two_pow]
        simpa using fun hc => hi hc.symm
      rw [hbit, Bool.and_false]
  cases e with
  | true =>
    refine ⟨?_, ?_⟩
    · rw [if_pos rfl, Nat.and_or_distrib_right, hand]
      decide
    · rw [if_pos rfl, hmod, Nat.and_or_distrib_right,
        show (0x80000000 &&& 16777215 : Nat) = 0 from rfl, Nat.or_zero, ← hmod m, Nat.mod_eq_of_lt h]
  | false =>
    refine ⟨?_, ?_⟩
    · rw [if_neg (by simp), hand]
      rfl
    · rw [if_neg (by simp), Nat.mod_eq_of_lt h]

theorem ExternalLsa.deserialize_serialize {x : ExternalLsa} (h : x.metric < 16777216)
    (htag : x.externalRouteTag < 4294967296) :
    ∃ b, x.serialize = .ok b ∧ b.length = 16 ∧
      ∀ pre post, deserialize (pre ++ b ++ post) pre.length = .ok x := by
  have hmod : x.metric % 16777216 = x.metric := Nat.mod_eq_of_lt h
  obtain ⟨hbit, hmetric⟩ := metricWord_split x.eBit h
  obtain ⟨w, hw, hwlen, hwun⟩ := word_at (metricWord_lt x h)
  obtain ⟨t, ht, htlen, htun⟩ := word_at htag
  have hser : x.serialize = .ok (packed x.networkMask ++ w ++ packed x.forwardingAddress ++ t) := by
    rw [ExternalLsa.serialize]
    simp only [hmod, hw, ht]
    rfl
  refine ⟨_, hser, by simp [hwlen, htlen], ?_⟩
  intro pre post
  -- the four fields, each at its offset
  have hmask := address_at x.networkMask pre (w ++ packed x.forwardingAddress ++ t ++ post)
  have hword := hwun (pre ++ packed x.networkMask) (packed x.forwardingAddress ++ t ++ post)
  have haddr := address_at x.forwardingAddress (pre ++ packed x.networkMask ++ w) (t ++ post)
  have htag := htun (pre ++ packed x.networkMask ++ w ++ packed x.forwardingAddress) post
  simp only [List.append_assoc, List.length_append, length_packed, hwlen] at hmask hword haddr htag
  simp only [Nat.add_assoc, Nat.reduceAdd] at haddr htag
  rw [deserialize]
  simp only [List.append_assoc, hmask, hword, haddr, htag, bind, Except.bind, hbit, hmetric]

/-- **A body is read back from where it was put.** -/
theorem deserializeBody_serialize {lsType : Nat} {body : LsaBody} (h : body.Matches lsType) :
    ∃ b, body.serialize = .ok b ∧ b ≠ [] ∧
      ∀ pre post, Lsa.deserializeBody lsType (pre ++ b ++ post) pre.length b.length = .ok (some body) := by
  cases body with
  | router r =>
    obtain ⟨rfl, hw⟩ := h
    obtain ⟨b, hb, hlen, hde⟩ := RouterLsa.deserialize_serialize hw
    have hne : b.length ≠ 0 := by omega
    refine ⟨b, hb, fun hnil => hne (by simp [hnil]), ?_⟩
    intro pre post
    rw [Lsa.deserializeBody, if_neg hne, if_pos rfl, hde]
    rfl
  | network n =>
    obtain rfl : lsType = lsaTypeNetwork := h
    have hlen : n.serialize.length ≠ 0 := by simp [NetworkLsa.serialize]
    refine ⟨n.serialize, rfl, fun hnil => hlen (by simp [hnil]), ?_⟩
    intro pre post
    rw [Lsa.deserializeBody, if_neg hlen, if_neg (by decide), if_pos rfl,
      NetworkLsa.deserialize_serialize]
    rfl
  | summary x =>
    obtain ⟨htype, hm⟩ := h
    obtain ⟨b, hb, hlen, hde⟩ := SummaryLsa.deserialize_serialize hm
    have hne : b.length ≠ 0 := by omega
    have hnot : lsType ≠ lsaTypeRouter ∧ lsType ≠ lsaTypeNetwork := by
      rcases htype with rfl | rfl <;> decide
    refine ⟨b, hb, fun hnil => hne (by simp [hnil]), ?_⟩
    intro pre post
    rw [Lsa.deserializeBody, if_neg hne, if_neg hnot.1, if_neg hnot.2, if_pos htype, hde]
    rfl
  | external x =>
    obtain ⟨rfl, hm, ht⟩ := h
    obtain ⟨b, hb, hlen, hde⟩ := ExternalLsa.deserialize_serialize hm ht
    have hne : b.length ≠ 0 := by omega
    refine ⟨b, hb, fun hnil => hne (by simp [hnil]), ?_⟩
    intro pre post
    rw [Lsa.deserializeBody, if_neg hne, if_neg (by decide), if_neg (by decide), if_neg (by decide),
      if_pos rfl, hde]
    rfl
  | raw data =>
    obtain ⟨htype, hne⟩ := h
    have hlen : data.length ≠ 0 := fun hz => hne (List.length_eq_zero_iff.1 hz)
    have hrouter : lsType ≠ lsaTypeRouter := by
      rintro rfl
      exact absurd htype (by decide)
    have hnetwork : lsType ≠ lsaTypeNetwork := by
      rintro rfl
      exact absurd htype (by decide)
    have hsummary : ¬(lsType = lsaTypeSummary ∨ lsType = lsaTypeAsbrSummary) := by
      rintro (rfl | rfl)
      · exact absurd htype (by decide)
      · exact absurd htype (by decide)
    have hexternal : lsType ≠ lsaTypeExternal := Nat.ne_of_gt htype
    refine ⟨data, rfl, hne, ?_⟩
    intro pre post
    rw [Lsa.deserializeBody, if_neg hlen, if_neg hrouter, if_neg hnetwork, if_neg hsummary,
      if_neg hexternal, slice_at pre data post rfl]

/-! ## LSAs -/

/-- The bytes of a header between the age and the checksum. -/
def LsaHeader.middle (h : LsaHeader) : Bytes :=
  Bytes.ofNat 1 h.options ++ Bytes.ofNat 1 h.lsType ++ packed h.linkStateId ++
    packed h.advertisingRouter ++ Bytes.ofNat 4 h.lsSequenceNumber

theorem LsaHeader.length_middle (h : LsaHeader) : h.middle.length = 14 := by
  simp [middle]

/-- The bytes of a header, the checksum field apart. -/
theorem LsaHeader.serialize_eq {h : LsaHeader} (hw : h.WireRange) :
    h.serialize = .ok (Bytes.ofNat 2 h.lsAge ++ h.middle ++ Bytes.ofNat 2 h.lsChecksum ++
      Bytes.ofNat 2 h.length) := by
  have htake : ∀ a : IPv4Address, (packed a).take 4 = packed a := fun a =>
    List.take_of_length_le (by rw [length_packed])
  unfold serialize pack
  simp only [format, fields, Struct.pack, Struct.pack1, hw.lsAge, hw.options, hw.lsType,
    hw.lsSequenceNumber, hw.lsChecksum, hw.length, if_true, htake, length_packed]
  simp [middle, List.append_assoc]

/-- A header with checksum and length filled in. -/
def LsaHeader.completed (h : LsaHeader) (checksum length : Nat) : LsaHeader :=
  { h with lsChecksum := checksum, length }

theorem LsaHeader.WireRange.completed {h : LsaHeader} (hw : h.WireRange) {c n : Nat} (hc : c < 65536)
    (hn : n < 65536) : (h.completed c n).WireRange :=
  ⟨hw.lsAge, hw.options, hw.lsType, hw.lsSequenceNumber, hc, hn⟩

/-- The bytes of a completed header. -/
def LsaHeader.bytes (h : LsaHeader) (checksum length : Nat) : Bytes :=
  Bytes.ofNat 2 h.lsAge ++ h.middle ++ Bytes.ofNat 2 checksum ++ Bytes.ofNat 2 length

theorem LsaHeader.length_bytes (h : LsaHeader) (c n : Nat) : (h.bytes c n).length = size := by
  simp [bytes, length_middle, size]

theorem LsaHeader.serialize_completed {h : LsaHeader} (hw : h.WireRange) {c n : Nat} (hc : c < 65536)
    (hn : n < 65536) : (h.completed c n).serialize = .ok (h.bytes c n) :=
  serialize_eq (hw.completed hc hn)

/-- The checksum over a header and a body does not depend on the checksum in the header, and
the header that carries it makes the whole verify. -/
theorem LsaHeader.fletcherChecksum_bytes (h : LsaHeader) (c n : Nat) (body : Bytes) :
    let c' := fletcherChecksum (h.bytes c n ++ body)
    fletcherChecksum (h.bytes c' n ++ body) = c' ∧
      verifyFletcherChecksum (h.bytes c' n ++ body) = true := by
  have hcut : ∀ f, h.bytes f n ++ body =
      Bytes.ofNat 2 h.lsAge ++ h.middle ++ Bytes.ofNat 2 f ++ (Bytes.ofNat 2 n ++ body) := by
    intro f
    simp [bytes, List.append_assoc]
  obtain ⟨x, y, hxy, -, -, hverify⟩ := fletcherChecksum_field (Bytes.ofNat 2 n ++ body)
    (Bytes.length_ofNat 2 h.lsAge) h.length_middle (Bytes.ofNat 2 c) (Bytes.length_ofNat 2 c)
  intro c'
  have hfield : Bytes.ofNat 2 c' = [x, y] := by
    have hc' : c' = x.toNat * 256 + y.toNat := by
      simp only [c', hcut]
      exact hxy
    rw [hc', ofNat_two_toNat]
  constructor
  · simp only [c', hcut]
    exact fletcherChecksum_congr _ (Bytes.length_ofNat 2 h.lsAge) h.length_middle
      (Bytes.length_ofNat 2 _) (Bytes.length_ofNat 2 c)
  · rw [hcut, hfield]
    exact hverify

/-- An LSA with the length and the checksum of its bytes `b` filled in. -/
def Lsa.filled (lsa : Lsa) (b : Bytes) : Lsa :=
  { lsa with header := lsa.header.completed (fletcherChecksum b) b.length }

/-- A header with another age. -/
def LsaHeader.aged (h : LsaHeader) (age : Nat) : LsaHeader := { h with lsAge := age }

/-- **Serialization.**  It returns the completed header, of the age that counts, and the body,
which verify, and leaves age, length and checksum in the LSA. -/
theorem Lsa.serialize_eq {lsa : Lsa} {body : Bytes} (now : Time) (hw : lsa.header.WireRange)
    (hbody : lsa.bodyBytes = .ok body) (hlen : LsaHeader.size + body.length < 65536) :
    ∃ h c, h = lsa.header.aged (min (lsa.currentAge now) maxAge) ∧ c < 65536 ∧
      fletcherChecksum (h.bytes c (LsaHeader.size + body.length) ++ body) = c ∧
      verifyFletcherChecksum (h.bytes c (LsaHeader.size + body.length) ++ body) = true ∧
      lsa.serialize now = (.ok (h.bytes c (LsaHeader.size + body.length) ++ body),
        { lsa with header := h.completed c (LsaHeader.size + body.length) }) := by
  obtain ⟨h, hh⟩ : ∃ h, h = lsa.header.aged (min (lsa.currentAge now) maxAge) := ⟨_, rfl⟩
  have hwh : h.WireRange := by
    rw [hh]
    exact ⟨lt_of_le_of_lt (Nat.min_le_right ..) (by decide), hw.options, hw.lsType, hw.lsSequenceNumber,
      hw.lsChecksum, hw.length⟩
  have hstamped : (lsa.stamped now body.length).withChecksum 0 =
      { lsa with header := h.completed 0 (LsaHeader.size + body.length) } := by
    rw [hh]
    rfl
  have hdone : ∀ c, ({ lsa with header := h.completed 0 (LsaHeader.size + body.length) } :
      Lsa).withChecksum c = { lsa with header := h.completed c (LsaHeader.size + body.length) } :=
    fun _ => rfl
  obtain ⟨hc, hverify⟩ := h.fletcherChecksum_bytes 0 (LsaHeader.size + body.length) body
  refine ⟨h, _, hh, fletcherChecksum_lt _ _, hc, hverify, ?_⟩
  unfold serialize
  rw [hbody]
  simp only [hstamped, hdone, LsaHeader.serialize_completed hwh (Nat.zero_lt_succ _) hlen,
    LsaHeader.serialize_completed hwh (fletcherChecksum_lt _ _) hlen]

/-- An LSA that can be sent: the header in wire range, the body of the constructor its type
requires, not yet installed and no longer than the length field can say. -/
structure Lsa.WellFormed (lsa : Lsa) : Prop where
  header : lsa.header.WireRange
  lsAge : lsa.header.lsAge ≤ maxAge
  installTime : lsa.installTime = none
  installedAge : lsa.installedAge = 0
  body : ∃ body, lsa.body = some body ∧ body.Matches lsa.header.lsType
  length : ∀ b, lsa.bodyBytes = .ok b → LsaHeader.size + b.length ≤ 65535

/-- Decoding behind the checks of the length. -/
theorem Lsa.deserialize_eq {data : Bytes} {offset : Nat} {header : LsaHeader}
    (hh : LsaHeader.deserialize (data.drop offset) = .ok header)
    (hmin : LsaHeader.size ≤ header.length) (hmax : header.length ≤ data.length - offset) :
    deserialize data offset = (deserializeBody header.lsType data (offset + LsaHeader.size)
      (header.length - LsaHeader.size)).map fun body => ({ header, body }, header.length) := by
  unfold deserialize
  rw [hh]
  simp only [if_neg (Nat.not_lt.2 hmin), if_neg (Nat.not_lt.2 hmax)]
  cases deserializeBody header.lsType data (offset + LsaHeader.size) (header.length - LsaHeader.size)
  · rfl
  · rfl

/-- **An LSA is read back from anywhere in a buffer**, with length and checksum filled in. -/
theorem Lsa.deserialize_serialize {lsa : Lsa} (h : lsa.WellFormed) (now : Time) :
    ∃ b, lsa.serialize now = (.ok b, lsa.filled b) ∧ LsaHeader.size ≤ b.length ∧
      ∀ pre post, deserialize (pre ++ b ++ post) pre.length = .ok (lsa.filled b, b.length) := by
  obtain ⟨body, hsome, hmatch⟩ := h.body
  obtain ⟨bb, hser, hne, hde⟩ := deserializeBody_serialize hmatch
  have hbytes : lsa.bodyBytes = .ok bb := by
    unfold bodyBytes
    rw [hsome]
    exact hser
  have hlen : LsaHeader.size + bb.length < 65536 := Nat.lt_succ_of_le (h.length bb hbytes)
  have hage : lsa.header.aged (min (lsa.currentAge now) maxAge) = lsa.header := by
    unfold currentAge LsaHeader.aged
    rw [h.installTime]
    show { lsa.header with lsAge := min lsa.header.lsAge maxAge } = lsa.header
    rw [Nat.min_eq_left h.lsAge]
  obtain ⟨hdr, c, hhdr, hc, hsum, -, heq⟩ := serialize_eq now h.header hbytes hlen
  obtain rfl : hdr = lsa.header := hhdr.trans hage
  have htotal : (lsa.header.bytes c (LsaHeader.size + bb.length) ++ bb).length =
      LsaHeader.size + bb.length := by
    rw [List.length_append, LsaHeader.length_bytes]
  have hfilled : lsa.filled (lsa.header.bytes c (LsaHeader.size + bb.length) ++ bb) =
      { lsa with header := lsa.header.completed c (LsaHeader.size + bb.length) } := by
    unfold filled
    rw [hsum, htotal]
  refine ⟨_, by rw [heq, hfilled], by rw [htotal]; omega, ?_⟩
  intro pre post
  -- the header, read off the start of what is left
  have hheader : LsaHeader.deserialize ((pre ++ (lsa.header.bytes c (LsaHeader.size + bb.length) ++ bb) ++
      post).drop pre.length) = .ok (lsa.header.completed c (LsaHeader.size + bb.length)) := by
    obtain ⟨b, hb, -, hread⟩ := LsaHeader.deserialize_serialize (h.header.completed hc hlen)
    rw [LsaHeader.serialize_completed h.header hc hlen] at hb
    cases hb
    rw [List.append_assoc, List.drop_left, List.append_assoc, hread]
  -- the body behind it
  have hbody := hde (pre ++ lsa.header.bytes c (LsaHeader.size + bb.length)) post
  rw [List.length_append, LsaHeader.length_bytes] at hbody
  have hcut : pre ++ (lsa.header.bytes c (LsaHeader.size + bb.length) ++ bb) ++ post =
      pre ++ lsa.header.bytes c (LsaHeader.size + bb.length) ++ bb ++ post := by
    simp only [List.append_assoc]
  have hroom : LsaHeader.size + bb.length ≤ (pre ++ (lsa.header.bytes c (LsaHeader.size + bb.length) ++ bb) ++
      post).length - pre.length := by
    rw [List.length_append, List.length_append, htotal]
    omega
  have hstrip : (lsa.header.completed c (LsaHeader.size + bb.length)).length - LsaHeader.size =
      bb.length := Nat.add_sub_cancel_left ..
  rw [deserialize_eq hheader (Nat.le_add_right ..) hroom, hstrip, hcut, hfilled, htotal]
  show (deserializeBody lsa.header.lsType _ _ _).map _ = _
  rw [hbody, ← hsome]
  show Except.ok _ = Except.ok _
  rw [← h.installTime, ← h.installedAge]
  rfl

/-! ## Updates -/

/-- `LsuPacket.serialize`: the number of LSAs, then each of them. -/
def LsuPacket.serialize (p : LsuPacket) (now : Time) : Except PyError Bytes := do
  let count ← pack [.I] [.nat p.lsas.length]
  let lsas ← serializeAll (fun lsa : Lsa => (lsa.serialize now).1) p.lsas
  .ok (count ++ lsas)

/-- The byte strings the LSAs of an update are sent as. -/
def LsuPacket.SentAs (p : LsuPacket) (now : Time) (bs : List Bytes) : Prop :=
  List.Forall₂ (fun lsa b => lsa.serialize now = (.ok b, lsa.filled b)) p.lsas bs

/-- The update with length and checksum of every LSA filled in. -/
def LsuPacket.filled (p : LsuPacket) (bs : List Bytes) : LsuPacket :=
  { lsas := List.zipWith Lsa.filled p.lsas bs }

/-- The loop over the LSAs reads back what was written, and stops behind it. -/
theorem LsuPacket.readLsas_serializeAll (now : Time) (lsas : List Lsa) (h : ∀ lsa ∈ lsas, lsa.WellFormed) :
    ∃ bs, SentAs { lsas } now bs ∧
      serializeAll (fun lsa : Lsa => (lsa.serialize now).1) lsas = .ok bs.flatten ∧
      bs.flatten.length = ((filled { lsas } bs).lsas.map fun lsa => lsa.header.length).sum ∧
      ∀ pre post, readLsas (pre ++ bs.flatten ++ post) lsas.length pre.length =
        .ok (filled { lsas } bs).lsas := by
  induction lsas with
  | nil => exact ⟨[], .nil, rfl, rfl, fun _ _ => rfl⟩
  | cons lsa lsas ih =>
    obtain ⟨b, hser, hmin, hde⟩ := Lsa.deserialize_serialize (h lsa (List.mem_cons_self ..)) now
    obtain ⟨bs, hsent, hall, hsum, hread⟩ := ih fun x hx => h x (List.mem_cons_of_mem _ hx)
    unfold LsaHeader.size at hmin
    refine ⟨b :: bs, .cons hser hsent, ?_, ?_, ?_⟩
    · rw [serializeAll, hser, hall]
      rfl
    · rw [List.flatten_cons, List.length_append, hsum]
      rfl
    · intro pre post
      have h0 := hde pre (bs.flatten ++ post)
      have h1 := hread (pre ++ b) post
      have hcut : pre ++ (b :: bs).flatten ++ post = pre ++ b ++ (bs.flatten ++ post) := by
        simp only [List.flatten_cons, List.append_assoc]
      have hcut' : pre ++ b ++ bs.flatten ++ post = pre ++ b ++ (bs.flatten ++ post) := by
        simp only [List.append_assoc]
      rw [hcut', List.length_append] at h1
      have hmore : ¬(pre ++ b ++ (bs.flatten ++ post)).length ≤ pre.length := by
        simp only [List.length_append]
        omega
      have hne : ¬b.length = 0 := by omega
      rw [hcut, List.length_cons, readLsas, if_neg hmore, h0]
      simp only [if_neg hne, h1]
      rfl

/-- **An update survives the wire.**  The LSAs are decoded in order, each with its length and
checksum filled in, and their lengths add up to all that was sent. -/
theorem LsuPacket.deserialize_serialize {p : LsuPacket} (hcount : p.lsas.length ≤ 1000)
    (h : ∀ lsa ∈ p.lsas, lsa.WellFormed) (now : Time) :
    ∃ bs b, p.SentAs now bs ∧ p.serialize now = .ok b ∧ deserialize b = .ok (p.filled bs) ∧
      b.length = 4 + ((p.filled bs).lsas.map fun lsa => lsa.header.length).sum := by
  obtain ⟨bs, hsent, hall, hsum, hread⟩ := readLsas_serializeAll now p.lsas h
  obtain ⟨count, hpack, hlen, hun⟩ := word_at (n := p.lsas.length) (by omega)
  refine ⟨bs, count ++ bs.flatten, hsent, ?_, ?_, ?_⟩
  · unfold serialize
    rw [hpack]
    show (serializeAll _ p.lsas >>= fun lsas => Except.ok (count ++ lsas)) = _
    rw [hall]
    rfl
  · have h0 := hun [] bs.flatten
    have h1 := hread count []
    rw [List.nil_append, List.length_nil] at h0
    rw [List.append_nil, hlen] at h1
    unfold deserialize
    rw [h0]
    simp only [if_neg (Nat.not_lt.2 hcount), h1]
    rfl
  · rw [List.length_append, hlen, hsum]

/-- **Updates and single LSAs survive the wire.**  An update of at most 1000 well-formed LSAs
is decoded to the same list, length and checksum filled in, and read to its end; an LSA put
anywhere in a buffer is read back with its exact length. -/
theorem lsu_survives_wire (now : Time) :
    (∀ p : LsuPacket, p.lsas.length ≤ 1000 → (∀ lsa ∈ p.lsas, lsa.WellFormed) →
      ∃ bs b, p.SentAs now bs ∧ p.serialize now = .ok b ∧
        LsuPacket.deserialize b = .ok (p.filled bs) ∧
        b.length = 4 + ((p.filled bs).lsas.map fun lsa => lsa.header.length).sum) ∧
      ∀ lsa : Lsa, lsa.WellFormed → ∃ b, lsa.serialize now = (.ok b, lsa.filled b) ∧
        ∀ pre post, Lsa.deserialize (pre ++ b ++ post) pre.length = .ok (lsa.filled b, b.length) := by
  refine ⟨?_, ?_⟩
  · intro p hcount hwell
    exact p.deserialize_serialize hcount hwell now
  · intro lsa hwell
    obtain ⟨b, hser, -, hde⟩ := Lsa.deserialize_serialize hwell now
    exact ⟨b, hser, hde⟩

/-- A Router-LSA with one link that has a TOS metric. -/
def tosRouterLsa : Lsa where
  header :=
    { lsAge := 1, options := 2, lsType := 1, linkStateId := 16843009, advertisingRouter := 16843009
      lsSequenceNumber := 2147483649, lsChecksum := 0, length := 0 }
  body := some (.router
    { flags := 0, numLinks := 1
      links := [{ linkId := 0, linkData := 0, type := 3, numTos := 1, metric := 10, tosMetrics := [(2, 5)] }] })

theorem lsu_survives_wire_tos : ∃ bs b, LsuPacket.SentAs { lsas := [tosRouterLsa] } 0 bs ∧
    LsuPacket.serialize { lsas := [tosRouterLsa] } 0 = .ok b ∧
    LsuPacket.deserialize b = .ok (LsuPacket.filled { lsas := [tosRouterLsa] } bs) ∧
    b.length = 4 + ((LsuPacket.filled { lsas := [tosRouterLsa] } bs).lsas.map
      fun lsa => lsa.header.length).sum := by
  apply (lsu_survives_wire 0).1
  · decide
  · intro lsa hlsa
    obtain rfl := List.mem_singleton.1 hlsa
    exact
      { header := by constructor <;> decide
        lsAge := by decide
        installTime := rfl
        installedAge := rfl
        body := by
          refine ⟨_, rfl, rfl, by decide, rfl, by decide, ?_⟩
          intro l hl
          obtain rfl := List.mem_singleton.1 hl
          exact ⟨by decide, rfl, by decide, by decide, by decide⟩
        length := by
          intro b hb
          have hlen : tosRouterLsa.bodyBytes.toOption.map List.length = some 20 := by rfl
          rw [hb] at hlen
          have h20 : b.length = 20 := Option.some.inj hlen
          rw [h20]
          decide }

end Ospfd
