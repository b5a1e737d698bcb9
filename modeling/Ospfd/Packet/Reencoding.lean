import Ospfd.Packet.Locality

/-!
# What flooding sends of a received LSA

A router floods an LSA by serializing what it decoded.  The bytes it received come back, the
age apart, just where they are canonical: where they hold nothing the decoded LSA has no
field for, and a checksum without zero bytes.

* `Repacks` — what is packed has a known length, and is what stood at a place on a condition.
* `CanonicalBody`, `Canonical` — the bytes an encoder writes.
* `repacks_body` — **a decoded body is encoded to what it was decoded from just where that
  is canonical**.
* `reserialize_iff` — the same of whole LSAs, with header, length and checksum.
-/

namespace Ospfd

/-! ## Packing what was read -/

theorem length_slice {data : Bytes} {pos n : Nat} (h : pos + n ≤ data.length) :
    (Bytes.slice data pos (pos + n)).length = n := by
  simp only [Bytes.slice, List.length_take, List.length_drop]
  omega

/-- A number that was read is written as the bytes it was read from. -/
theorem ofNat_natAt {data : Bytes} {pos w : Nat} (h : pos + w ≤ data.length) :
    Bytes.ofNat w (natAt data pos w) = Bytes.slice data pos (pos + w) := by
  have hback := Bytes.ofNat_toNat (Bytes.slice data pos (pos + w))
  rw [length_slice h] at hback
  exact hback

/-- Of the numbers in range, only the one that stands at a place is written as its bytes. -/
theorem ofNat_eq_slice_iff {data : Bytes} {pos w n : Nat} (h : pos + w ≤ data.length) (hn : n < 256 ^ w) :
    Bytes.ofNat w n = Bytes.slice data pos (pos + w) ↔ n = natAt data pos w := by
  rw [← ofNat_natAt h]
  constructor
  · intro he
    have hnat := congrArg Bytes.toNat he
    rwa [Bytes.toNat_ofNat_of_lt hn, Bytes.toNat_ofNat_of_lt (natAt_lt data pos w)] at hnat
  · intro he
    rw [he]

theorem packed_addressAt {data : Bytes} {pos : Nat} (h : pos + 4 ≤ data.length) :
    packed (addressAt data pos) = Bytes.slice data pos (pos + 4) := by
  have hlt : Bytes.toNat (Bytes.slice data pos (pos + 4)) < 4294967296 := natAt_lt data pos 4
  have hval : (addressAt data pos).val = natAt data pos 4 := Nat.mod_eq_of_lt hlt
  unfold packed
  rw [hval, ofNat_natAt h]

theorem slice_append {data : Bytes} {pos n k : Nat} :
    Bytes.slice data pos (pos + (n + k)) =
      Bytes.slice data pos (pos + n) ++ Bytes.slice data (pos + n) (pos + n + k) := by
  simp only [Bytes.slice, Nat.add_sub_cancel_left]
  rw [List.take_add, List.drop_drop]

/-- Encoding the `n` bytes that stood at `pos` succeeds with as many bytes, which are the same
just where `C` holds. -/
def Repacks (r : Except PyError Bytes) (data : Bytes) (pos n : Nat) (C : Prop) : Prop :=
  ∃ b, r = .ok b ∧ b.length = n ∧ (b = Bytes.slice data pos (pos + n) ↔ C)

namespace Repacks

variable {r r' : Except PyError Bytes} {data : Bytes} {pos n k : Nat} {C C' : Prop}

theorem congr (h : Repacks r data pos n C) (hC : C ↔ C') : Repacks r data pos n C' := by
  obtain ⟨b, hb, hlen, heq⟩ := h
  exact ⟨b, hb, hlen, heq.trans hC⟩

/-- What is encoded in two parts is the same just where both parts are. -/
theorem append (h : Repacks r data pos n C) (h' : Repacks r' data (pos + n) k C')
    (hin : pos + n ≤ data.length) :
    Repacks (r >>= fun a => r' >>= fun b => .ok (a ++ b)) data pos (n + k) (C ∧ C') := by
  obtain ⟨a, ha, hlen, heq⟩ := h
  obtain ⟨b, hb, hlen', heq'⟩ := h'
  refine ⟨a ++ b, ?_, ?_, ?_⟩
  · rw [ha, hb]
    rfl
  · rw [List.length_append, hlen, hlen']
  · rw [slice_append, ← heq, ← heq']
    constructor
    · intro he
      exact List.append_inj he (by rw [hlen, length_slice hin])
    · rintro ⟨h1, h2⟩
      rw [h1, h2]

/-- A record that is packed as it was read. -/
theorem record {fmt : List Struct.Code} {vs : List Struct.Value}
    (hin : pos + Struct.calcsize fmt ≤ data.length) (hvs : vs = Struct.unpackAll fmt (data.drop pos)) :
    Repacks (pack fmt vs) data pos (Struct.calcsize fmt) True := by
  have hroom : Struct.calcsize fmt ≤ (data.drop pos).length := by
    rw [List.length_drop]
    omega
  refine ⟨(data.drop pos).take (Struct.calcsize fmt), ?_, List.length_take_of_le hroom, ?_⟩
  · unfold pack
    rw [hvs, Struct.pack_unpackAll hroom]
  · simp [Bytes.slice]

theorem number {w m : Nat} (hin : pos + w ≤ data.length) (hm : m < 256 ^ w) :
    Repacks (.ok (Bytes.ofNat w m)) data pos w (m = natAt data pos w) :=
  ⟨_, rfl, Bytes.length_ofNat w m, ofNat_eq_slice_iff hin hm⟩

theorem address (hin : pos + 4 ≤ data.length) :
    Repacks (.ok (packed (addressAt data pos))) data pos 4 True :=
  ⟨_, rfl, length_packed _, iff_true_intro (packed_addressAt hin)⟩

theorem nothing : Repacks (.ok []) data pos 0 True :=
  ⟨[], rfl, rfl, by simp [Bytes.slice]⟩

/-- What is encoded is what stood in `n` bytes just where it has their number and `C` holds. -/
theorem eq_slice (hin : pos + n ≤ data.length) (h : Repacks r data pos k C) :
    ∃ b, r = .ok b ∧ b.length = k ∧ (b = Bytes.slice data pos (pos + n) ↔ k = n ∧ C) := by
  obtain ⟨b, hb, hlen, heq⟩ := h
  refine ⟨b, hb, hlen, ?_⟩
  constructor
  · intro he
    have hk : k = n := by rw [← hlen, he, length_slice hin]
    subst hk
    exact ⟨rfl, heq.1 he⟩
  · rintro ⟨rfl, hC⟩
    exact heq.2 hC

end Repacks

/-! ## Canonical bodies -/

/-- The reserved bytes of `n` TOS metrics from `pos` on are zero. -/
def TosCanonical (data : Bytes) : Nat → Nat → Prop
  | 0, _ => True
  | n + 1, pos => natAt data (pos + 1) 1 = 0 ∧ TosCanonical data n (pos + 4)

/-- The reserved bytes of `n` links from `pos` on are zero. -/
def LinksCanonical (data : Bytes) : Nat → Nat → Prop
  | 0, _ => True
  | n + 1, pos => TosCanonical data (numTosAt data pos) (pos + 12) ∧
      LinksCanonical data n (pos + (12 + 4 * numTosAt data pos))

/-- The length of `n` links from `pos` on. -/
def linksLen (data : Bytes) : Nat → Nat → Nat
  | 0, _ => 0
  | n + 1, pos => 12 + 4 * numTosAt data pos + linksLen data n (pos + (12 + 4 * numTosAt data pos))

/-- The length of what the body of `len` bytes at `pos` is encoded to. -/
def encodedLen (lsType : Nat) (data : Bytes) (pos len : Nat) : Nat :=
  if lsType = lsaTypeRouter then 4 + linksLen data (natAt data (pos + 2) 2) (pos + 4)
  else if lsType = lsaTypeNetwork then 4 + 4 * ((len - 4) / 4)
  else if lsType = lsaTypeSummary ∨ lsType = lsaTypeAsbrSummary then 8
  else if lsType = lsaTypeExternal then 16
  else len

/-- What the body at `pos` has no field for is zero. -/
def ReservedZero (lsType : Nat) (data : Bytes) (pos : Nat) : Prop :=
  if lsType = lsaTypeRouter then
    natAt data (pos + 1) 1 = 0 ∧ LinksCanonical data (natAt data (pos + 2) 2) (pos + 4)
  else if lsType = lsaTypeNetwork then True
  else if lsType = lsaTypeSummary ∨ lsType = lsaTypeAsbrSummary then natAt data (pos + 4) 1 = 0
  else if lsType = lsaTypeExternal then natAt data (pos + 4) 1 % 128 = 0
  else True

theorem serializeAll_cons {α : Type} (f : α → Except PyError Bytes) (x : α) (xs : List α) :
    serializeAll f (x :: xs) = f x >>= fun a => serializeAll f xs >>= fun b => .ok (a ++ b) := by
  rw [serializeAll]
  cases f x with
  | error e => rfl
  | ok a =>
    cases serializeAll f xs with
    | error e => rfl
    | ok b => rfl

theorem repacks_tos (data : Bytes) : ∀ n pos, pos + 4 * n ≤ data.length →
    Repacks (serializeAll (fun p : Nat × Nat => pack RouterLsaLink.tosFormat [.nat p.1, .nat 0, .nat p.2])
      (tosMetricsAt data n pos)) data pos (4 * n) (TosCanonical data n pos)
  | 0, _, _ => Repacks.nothing
  | n + 1, pos, h => by
    have h1 : natAt data pos 1 < 256 := natAt_lt data pos 1
    have h2 : natAt data (pos + 2) 2 < 65536 := natAt_lt data (pos + 2) 2
    -- the three fields of one metric
    have hone : Repacks (pack RouterLsaLink.tosFormat [.nat (natAt data pos 1), .nat 0,
        .nat (natAt data (pos + 2) 2)]) data pos (1 + (1 + 2))
        (natAt data pos 1 = natAt data pos 1 ∧ 0 = natAt data (pos + 1) 1 ∧
          natAt data (pos + 2) 2 = natAt data (pos + 2) 2) := by
      have htos : Repacks (.ok (Bytes.ofNat 1 (natAt data pos 1))) data pos 1 _ :=
        Repacks.number (by omega) h1
      have hzero : Repacks (.ok (Bytes.ofNat 1 0)) data (pos + 1) 1 _ :=
        Repacks.number (by omega) (by omega)
      have hmetric : Repacks (.ok (Bytes.ofNat 2 (natAt data (pos + 2) 2))) data (pos + 1 + 1) 2 _ :=
        Repacks.number (by omega) h2
      have hall := htos.append (hzero.append hmetric (by omega)) (by omega)
      have hpack : pack RouterLsaLink.tosFormat [.nat (natAt data pos 1), .nat 0,
          .nat (natAt data (pos + 2) 2)] = .ok (Bytes.ofNat 1 (natAt data pos 1) ++
            (Bytes.ofNat 1 0 ++ Bytes.ofNat 2 (natAt data (pos + 2) 2))) := by
        unfold pack RouterLsaLink.tosFormat
        simp only [Struct.pack, Struct.pack1]
        rw [if_pos h1, if_pos (by omega), if_pos h2]
        simp
      rw [hpack]
      exact hall
    have hrest := repacks_tos data n (pos + 4) (by omega)
    have hall := hone.append hrest (by omega)
    rw [tosMetricsAt, serializeAll_cons]
    have hlen : 1 + (1 + 2) + 4 * n = 4 * (n + 1) := by omega
    rw [hlen] at hall
    apply hall.congr
    rw [TosCanonical]
    constructor
    · rintro ⟨⟨-, hz, -⟩, hr⟩
      exact ⟨hz.symm, hr⟩
    · rintro ⟨hz, hr⟩
      exact ⟨⟨rfl, hz.symm, rfl⟩, hr⟩

theorem unsignedField_natCast (n : Nat) : unsignedField (n : Int) = .nat n := by
  simp [unsignedField]

theorem repacks_link {data : Bytes} {pos : Nat} (h : pos + 12 ≤ data.length)
    (htos : pos + (12 + 4 * numTosAt data pos) ≤ data.length) :
    Repacks (linkAt data pos).serialize data pos (12 + 4 * numTosAt data pos)
      (TosCanonical data (numTosAt data pos) (pos + 12)) := by
  have hfixed : Repacks (pack RouterLsaLink.format [.bytes (packed (linkAt data pos).linkId),
      .bytes (packed (linkAt data pos).linkData), .nat (linkAt data pos).type,
      .nat (linkAt data pos).numTos, unsignedField (linkAt data pos).metric]) data pos 12 True := by
    apply Repacks.record h
    simp only [linkAt, packed_addressAt (show pos + 4 ≤ data.length by omega),
      packed_addressAt (show pos + 4 + 4 ≤ data.length by omega), unsignedField_natCast,
      RouterLsaLink.format, Struct.unpackAll, Struct.unpack1, Struct.Code.size, List.drop_drop, natAt_eq]
    simp [Bytes.slice, numTosAt]
  have hall := hfixed.append (repacks_tos data (numTosAt data pos) (pos + 12) (by omega)) (by omega)
  exact hall.congr (iff_of_eq (true_and _))

theorem repacks_links (data : Bytes) : ∀ n pos, LinksFit data data.length n pos →
    Repacks (serializeAll RouterLsaLink.serialize (linksAt data n pos)) data pos (linksLen data n pos)
      (LinksCanonical data n pos)
  | 0, _, _ => Repacks.nothing
  | n + 1, pos, h => by
    have hall := (repacks_link h.1 h.2.1).append (repacks_links data n _ h.2.2) h.2.1
    rw [linksAt, serializeAll_cons]
    exact hall

theorem repacks_addresses (data : Bytes) : ∀ n pos, pos + 4 * n ≤ data.length →
    Repacks (.ok ((addressesAt data n pos).map packed).flatten) data pos (4 * n) True
  | 0, _, _ => Repacks.nothing
  | n + 1, pos, h => by
    have hone : Repacks (.ok (packed (addressAt data pos))) data pos 4 True := Repacks.address (by omega)
    have hall := hone.append (repacks_addresses data n (pos + 4) (by omega)) (by omega)
    rw [show 4 * (n + 1) = 4 + 4 * n by omega]
    exact hall.congr (iff_of_eq (true_and _))

theorem repacks_router {data : Bytes} {pos : Nat} (h : pos + 4 ≤ data.length)
    (hlinks : LinksFit data data.length (natAt data (pos + 2) 2) (pos + 4)) :
    Repacks (RouterLsa.serialize
        { flags := natAt data pos 1, numLinks := natAt data (pos + 2) 2,
          links := linksAt data (natAt data (pos + 2) 2) (pos + 4) })
      data pos (4 + linksLen data (natAt data (pos + 2) 2) (pos + 4))
      (natAt data (pos + 1) 1 = 0 ∧ LinksCanonical data (natAt data (pos + 2) 2) (pos + 4)) := by
  have h1 : natAt data pos 1 < 256 := natAt_lt data pos 1
  have h2 : natAt data (pos + 2) 2 < 65536 := natAt_lt data (pos + 2) 2
  have hflags : Repacks (.ok (Bytes.ofNat 1 (natAt data pos 1))) data pos 1 _ :=
    Repacks.number (by omega) h1
  have hzero : Repacks (.ok (Bytes.ofNat 1 0)) data (pos + 1) 1 _ := Repacks.number (by omega) (by omega)
  have hnum : Repacks (.ok (Bytes.ofNat 2 (natAt data (pos + 2) 2))) data (pos + 1 + 1) 2 _ :=
    Repacks.number (by omega) h2
  have hhead := hflags.append (hzero.append hnum (by omega)) (by omega)
  have hpack : pack RouterLsa.format [.nat (natAt data pos 1), .nat 0, .nat (natAt data (pos + 2) 2)] =
      .ok (Bytes.ofNat 1 (natAt data pos 1) ++ (Bytes.ofNat 1 0 ++ Bytes.ofNat 2 (natAt data (pos + 2) 2))) := by
    unfold pack RouterLsa.format
    simp only [Struct.pack, Struct.pack1]
    rw [if_pos h1, if_pos (by omega), if_pos h2]
    simp
  have hall := hhead.append (repacks_links data _ (pos + 4) hlinks) (by omega)
  unfold RouterLsa.serialize
  rw [hpack]
  apply hall.congr
  constructor
  · rintro ⟨⟨-, hz, -⟩, hc⟩
    exact ⟨hz.symm, hc⟩
  · rintro ⟨hz, hc⟩
    exact ⟨⟨rfl, hz.symm, rfl⟩, hc⟩

theorem pack_word {n : Nat} (h : n < 4294967296) : pack [.I] [.nat n] = .ok (Bytes.ofNat 4 n) := by
  unfold pack
  simp only [Struct.pack, Struct.pack1]
  rw [if_pos h]
  simp

/-- The byte on top of a word. -/
theorem natAt_word {data : Bytes} {pos : Nat} (h : pos + 4 ≤ data.length) :
    natAt data pos 1 = natAt data pos 4 / 16777216 := by
  have hcut : Bytes.slice data pos (pos + 4) =
      Bytes.slice data pos (pos + 1) ++ Bytes.slice data (pos + 1) (pos + 1 + 3) :=
    slice_append (n := 1) (k := 3)
  obtain ⟨x, hx⟩ : ∃ x, Bytes.slice data pos (pos + 1) = [x] :=
    List.length_eq_one_iff.1 (length_slice (by omega))
  have hlow := natAt_lt data (pos + 1) 3
  unfold natAt at hlow ⊢
  rw [hcut, hx, List.singleton_append, Bytes.toNat_cons, Bytes.toNat_cons, length_slice (by omega)]
  simp only [List.length_nil, Bytes.toNat, List.foldl_nil] at hlow ⊢
  omega

theorem repacks_summary {data : Bytes} {pos : Nat} (h : pos + 8 ≤ data.length) :
    Repacks (SummaryLsa.serialize
        { networkMask := addressAt data pos, metric := natAt data (pos + 4) 4 % 16777216 })
      data pos 8 (natAt data (pos + 4) 1 = 0) := by
  have hmask : Repacks (.ok (packed (addressAt data pos))) data pos 4 True := Repacks.address (by omega)
  have hlt : natAt data (pos + 4) 4 < 4294967296 := natAt_lt data (pos + 4) 4
  have hword : Repacks (.ok (Bytes.ofNat 4 (natAt data (pos + 4) 4 % 16777216))) data (pos + 4) 4 _ :=
    Repacks.number (by omega) (by omega)
  have hall := hmask.append hword (by omega)
  unfold SummaryLsa.serialize
  rw [Nat.mod_mod, pack_word (by omega)]
  apply hall.congr
  rw [true_and, natAt_word (by omega)]
  omega

/-- The E bit and the metric make the word again just where the bits between them are zero. -/
theorem externalWord_iff {w : Nat} (h : w < 4294967296) :
    (if w &&& 0x80000000 != 0 then w % 16777216 ||| 0x80000000 else w % 16777216) = w ↔
      w / 16777216 % 128 = 0 := by
  have hbit : (w &&& 0x80000000 != 0) = decide (2147483648 ≤ w) := by
    have hand : w &&& 0x80000000 = (w.testBit 31).toNat * 2147483648 := Nat.and_two_pow w 31
    have htest : w.testBit 31 = decide (2147483648 ≤ w) := by
      rw [Nat.testBit_eq_decide_div_mod_eq]
      apply decide_eq_decide.2
      omega
    rw [hand, htest]
    by_cases hge : 2147483648 ≤ w
    · simp [hge]
    · simp [hge]
  have hor : w % 16777216 ||| 0x80000000 = w % 16777216 + 2147483648 := by
    have hlt : w % 16777216 < 2 ^ 31 := by omega
    have hsum := Nat.two_pow_add_eq_or_of_lt hlt 1
    rw [Nat.mul_one] at hsum
    rw [Nat.or_comm, ← hsum]
    omega
  rw [hbit, hor]
  by_cases hge : 2147483648 ≤ w
  · rw [if_pos (by simpa using hge)]
    omega
  · rw [if_neg (by simpa using hge)]
    omega

theorem repacks_external {data : Bytes} {pos : Nat} (h : pos + 16 ≤ data.length) :
    Repacks (ExternalLsa.serialize
        { networkMask := addressAt data pos,
          eBit := natAt data (pos + 4) 4 &&& 0x80000000 != 0,
          metric := natAt data (pos + 4) 4 % 16777216,
          forwardingAddress := addressAt data (pos + 8),
          externalRouteTag := natAt data (pos + 12) 4 })
      data pos 16 (natAt data (pos + 4) 1 % 128 = 0) := by
  have hmask : Repacks (.ok (packed (addressAt data pos))) data pos 4 True := Repacks.address (by omega)
  have hlt : natAt data (pos + 4) 4 < 4294967296 := natAt_lt data (pos + 4) 4
  have htagLt : natAt data (pos + 12) 4 < 4294967296 := natAt_lt data (pos + 12) 4
  have hword := metricWord_lt
    { networkMask := addressAt data pos, eBit := natAt data (pos + 4) 4 &&& 0x80000000 != 0,
      metric := natAt data (pos + 4) 4 % 16777216, forwardingAddress := addressAt data (pos + 8),
      externalRouteTag := natAt data (pos + 12) 4 } (Nat.mod_lt _ (by omega))
  have hmetric : Repacks (.ok (Bytes.ofNat 4 (if natAt data (pos + 4) 4 &&& 0x80000000 != 0 then
      natAt data (pos + 4) 4 % 16777216 ||| 0x80000000 else natAt data (pos + 4) 4 % 16777216)))
      data (pos + 4) 4 _ := Repacks.number (by omega) hword
  have hforward : Repacks (.ok (packed (addressAt data (pos + 8)))) data (pos + 4 + 4) 4 True :=
    Repacks.address (by omega)
  have htag : Repacks (.ok (Bytes.ofNat 4 (natAt data (pos + 12) 4))) data (pos + 4 + 4 + 4) 4 _ :=
    Repacks.number (by omega) htagLt
  have hall := hmask.append (hmetric.append (hforward.append htag (by omega)) (by omega)) (by omega)
  unfold ExternalLsa.serialize
  simp only [Nat.mod_mod, pack_word hword, pack_word htagLt]
  obtain ⟨b, hb, hlen, heq⟩ := hall
  refine ⟨b, ?_, hlen, heq.trans ?_⟩
  · rw [← hb]
    show Except.ok _ = Except.ok _
    rw [List.append_assoc, List.append_assoc]
  · rw [externalWord_iff hlt, natAt_word (by omega)]
    simp

/-- **A decoded body is encoded to as many bytes as its fields take, which are those it was
decoded from just where the reserved ones are zero.** -/
theorem repacks_body {lsType : Nat} {data : Bytes} {pos len : Nat} (hin : pos + len ≤ data.length)
    (hfits : BodyFits lsType data pos data.length) :
    Repacks (bodyAt lsType data pos len).serialize data pos (encodedLen lsType data pos len)
      (ReservedZero lsType data pos) := by
  have hfixed := hfits.fixed
  unfold bodyAt encodedLen ReservedZero
  by_cases hr : lsType = lsaTypeRouter
  · subst hr
    rw [fixedLen_router] at hfixed
    rw [if_pos rfl, if_pos rfl, if_pos rfl]
    exact repacks_router hfixed (hfits.links rfl)
  rw [if_neg hr, if_neg hr, if_neg hr]
  by_cases hn : lsType = lsaTypeNetwork
  · subst hn
    rw [fixedLen_network] at hfixed
    rw [if_pos rfl, if_pos rfl, if_pos rfl]
    have hrouters : Repacks (.ok ((addressesAt data ((len - 4) / 4) (pos + 4)).map packed).flatten) data
        (pos + 4) (4 * ((len - 4) / 4)) True := repacks_addresses data _ _ (by omega)
    have hmask : Repacks (.ok (packed (addressAt data pos))) data pos 4 True := Repacks.address hfixed
    exact (hmask.append hrouters hfixed).congr (iff_of_eq (true_and _))
  rw [if_neg hn, if_neg hn, if_neg hn]
  by_cases hs : lsType = lsaTypeSummary ∨ lsType = lsaTypeAsbrSummary
  · rw [fixedLen_summary hs] at hfixed
    rw [if_pos hs, if_pos hs, if_pos hs]
    exact repacks_summary hfixed
  rw [if_neg hs, if_neg hs, if_neg hs]
  by_cases he : lsType = lsaTypeExternal
  · subst he
    rw [fixedLen_external] at hfixed
    rw [if_pos rfl, if_pos rfl, if_pos rfl]
    exact repacks_external hfixed
  · rw [if_neg he, if_neg he, if_neg he]
    exact ⟨_, rfl, length_slice hin, iff_of_true rfl trivial⟩

theorem linksLen_le {data : Bytes} {stop : Nat} : ∀ {n pos}, pos ≤ stop → LinksFit data stop n pos →
    pos + linksLen data n pos ≤ stop
  | 0, _, hpos, _ => hpos
  | n + 1, pos, _, h => by
    have hrest := linksLen_le h.2.1 h.2.2
    rw [linksLen]
    omega

/-- A body is not encoded to more than there is room for where it was decoded from. -/
theorem encodedLen_le {lsType : Nat} {data : Bytes} {pos len stop : Nat} (hstop : pos + len ≤ stop)
    (hfits : BodyFits lsType data pos stop) : pos + encodedLen lsType data pos len ≤ stop := by
  have hfixed := hfits.fixed
  unfold encodedLen
  by_cases hr : lsType = lsaTypeRouter
  · subst hr
    rw [fixedLen_router] at hfixed
    have hlinks := linksLen_le hfixed (hfits.links rfl)
    rw [if_pos rfl]
    omega
  rw [if_neg hr]
  by_cases hn : lsType = lsaTypeNetwork
  · subst hn
    rw [fixedLen_network] at hfixed
    rw [if_pos rfl]
    omega
  rw [if_neg hn]
  by_cases hs : lsType = lsaTypeSummary ∨ lsType = lsaTypeAsbrSummary
  · rw [fixedLen_summary hs] at hfixed
    rw [if_pos hs]
    omega
  rw [if_neg hs]
  by_cases he : lsType = lsaTypeExternal
  · subst he
    rw [fixedLen_external] at hfixed
    rw [if_pos rfl]
    omega
  · rw [if_neg he]
    exact hstop

/-! ## LSAs -/

/-- The bytes of one LSA as an encoder writes them: no zero byte in the checksum, and a body
that ends with its fields and has nothing in its reserved bytes. -/
structure Canonical (data : Bytes) : Prop where
  checksum : natAt data 16 1 ≠ 0 ∧ natAt data 17 1 ≠ 0
  body : data.length = 20 ∨ encodedLen (typeAt data 0) data 20 (data.length - 20) = data.length - 20 ∧
    ReservedZero (typeAt data 0) data 20

/-- A buffer is its header, field by field, and what follows it. -/
theorem bytes_headerAt {data : Bytes} (h : 20 ≤ data.length) :
    data = (headerAt data 0).bytes (natAt data 16 2) (lengthAt data 0) ++ data.drop 20 := by
  have hdr : LsaHeader.deserialize (data.drop 0) = .ok (headerAt data 0) := headerAt_of_le h
  have hser := LsaHeader.serialize_eq (LsaHeader.wireRange_of_deserialize hdr)
  have hpack : (headerAt data 0).serialize = .ok (data.take 20) := by
    have hsize : Struct.calcsize LsaHeader.format = 20 := rfl
    have hfields : (headerAt data 0).fields = Struct.unpackAll LsaHeader.format data := by
      simp only [LsaHeader.fields, headerAt, packed_addressAt (show 0 + 4 + 4 ≤ data.length by omega),
        packed_addressAt (show 0 + 8 + 4 ≤ data.length by omega), LsaHeader.format, Struct.unpackAll,
        Struct.unpack1, Struct.Code.size, List.drop_drop, natAt_eq]
      simp [Bytes.slice, natAt]
    unfold LsaHeader.serialize pack
    rw [hfields, Struct.pack_unpackAll (by rw [hsize]; exact h), hsize]
  rw [hpack, Except.ok.injEq] at hser
  have hcut := (List.take_append_drop 20 data).symm
  rw [hser] at hcut
  exact hcut

/-- The two bytes of the checksum field. -/
theorem checksum_bytes {data : Bytes} (h : 18 ≤ data.length) :
    ∃ x y : UInt8, natAt data 16 1 = x.toNat ∧ natAt data 17 1 = y.toNat ∧
      natAt data 16 2 = x.toNat * 256 + y.toNat ∧ Bytes.ofNat 2 (natAt data 16 2) = [x, y] := by
  obtain ⟨x, hx⟩ : ∃ x, Bytes.slice data 16 (16 + 1) = [x] :=
    List.length_eq_one_iff.1 (length_slice (by omega))
  obtain ⟨y, hy⟩ : ∃ y, Bytes.slice data 17 (17 + 1) = [y] :=
    List.length_eq_one_iff.1 (length_slice (by omega))
  have hcut : Bytes.slice data 16 (16 + 2) = [x, y] := by
    rw [show 16 + 2 = 16 + (1 + 1) from rfl, slice_append, hx, hy]
    rfl
  refine ⟨x, y, ?_, ?_, ?_, ?_⟩
  · unfold natAt
    rw [hx]
    simp [Bytes.toNat]
  · unfold natAt
    rw [hy]
    simp [Bytes.toNat]
  · unfold natAt
    rw [hcut]
    simp [Bytes.toNat]
  · rw [ofNat_natAt (by omega), hcut]

/-- The body of a decoded LSA is encoded to the bytes behind the header just where they are
canonical. -/
theorem bodyBytes_eq_iff {data : Bytes} {lsa : Lsa} (h : Lsa.deserialize data 0 = .ok (lsa, data.length)) :
    ∃ bb, lsa.bodyBytes = .ok bb ∧ LsaHeader.size + bb.length < 65536 ∧
      (bb = data.drop 20 ↔ data.length = 20 ∨
        encodedLen (typeAt data 0) data 20 (data.length - 20) = data.length - 20 ∧
          ReservedZero (typeAt data 0) data 20) := by
  obtain ⟨hlen, hmin, -, -, hbody⟩ := Lsa.of_deserialize h
  have hmax : lengthAt data 0 < 65536 := natAt_lt data (0 + 18) 2
  unfold Lsa.bodyBytes
  by_cases hzero : data.length - 20 = 0
  · unfold Lsa.deserializeBody at hbody
    rw [if_pos hzero, Except.ok.injEq] at hbody
    rw [← hbody]
    refine ⟨[], rfl, by decide, ?_⟩
    have h20 : data.length = 20 := by omega
    rw [List.drop_of_length_le (by omega)]
    simp [h20]
  · have hfits := fits_of_deserializeBody hzero (by omega) hbody
    rw [deserializeBody_of_fits hzero (by omega) hfits, Except.ok.injEq] at hbody
    rw [← hbody]
    have hrepacks := repacks_body (show 20 + (data.length - 20) ≤ data.length by omega) hfits
    obtain ⟨bb, hbb, hk, heq⟩ := hrepacks.eq_slice (show 20 + (data.length - 20) ≤ data.length by omega)
    have hslice : Bytes.slice data 20 (20 + (data.length - 20)) = data.drop 20 := by
      unfold Bytes.slice
      rw [Nat.add_sub_cancel_left, List.take_of_length_le (by rw [List.length_drop])]
    have hle := encodedLen_le (show 20 + (data.length - 20) ≤ data.length by omega) hfits
    rw [hslice] at heq
    refine ⟨bb, hbb, ?_, heq.trans ?_⟩
    · rw [hk, LsaHeader.size]
      omega
    · constructor
      · exact fun hc => .inr hc
      · exact fun hc => hc.resolve_left (by omega)

theorem ofNat_two_inj {m n : Nat} (hm : m < 65536) (hn : n < 65536)
    (h : Bytes.ofNat 2 m = Bytes.ofNat 2 n) : m = n := by
  have hnat := congrArg Bytes.toNat h
  rwa [Bytes.toNat_ofNat_of_lt hm, Bytes.toNat_ofNat_of_lt hn] at hnat

/-- The bytes of a header and a body, cut at the checksum field. -/
theorem bytes_append (h : LsaHeader) (c n : Nat) (body : Bytes) :
    h.bytes c n ++ body =
      Bytes.ofNat 2 h.lsAge ++ h.middle ++ Bytes.ofNat 2 c ++ (Bytes.ofNat 2 n ++ body) := by
  unfold LsaHeader.bytes
  simp only [List.append_assoc]

/-- Two LSAs that differ at most in age, checksum, length and body agree behind the age just
where they agree in all the others. -/
theorem drop_bytes_eq_iff (h : LsaHeader) (age : Nat) {c c' n n' : Nat} {body body' : Bytes} (hc : c < 65536)
    (hc' : c' < 65536) (hn : n < 65536) (hn' : n' < 65536) :
    ((h.aged age).bytes c n ++ body).drop 2 = (h.bytes c' n' ++ body').drop 2 ↔
      c = c' ∧ n = n' ∧ body = body' := by
  rw [bytes_append, bytes_append]
  simp only [List.append_assoc]
  rw [List.drop_left' (Bytes.length_ofNat 2 _), List.drop_left' (Bytes.length_ofNat 2 _)]
  show h.middle ++ _ = h.middle ++ _ ↔ _
  rw [List.append_cancel_left_eq]
  constructor
  · intro heq
    obtain ⟨h1, h2⟩ := List.append_inj heq (by rw [Bytes.length_ofNat, Bytes.length_ofNat])
    obtain ⟨h3, h4⟩ := List.append_inj h2 (by rw [Bytes.length_ofNat, Bytes.length_ofNat])
    exact ⟨ofNat_two_inj hc hc' h1, ofNat_two_inj hn hn' h3, h4⟩
  · rintro ⟨rfl, rfl, rfl⟩
    rfl

/-- **What a router sends of an LSA it received.**  The LSA is decoded from a buffer of its
own length that verifies, installed, and serialized later on.  The bytes behind the age are
those received, and length and checksum in the stored header too, just where the buffer is
canonical. -/
theorem reserialize_iff {data : Bytes} {lsa : Lsa} (h : Lsa.deserialize data 0 = .ok (lsa, data.length))
    (hverify : verifyFletcherChecksum data = true) (t now : Time) :
    ∃ b stored, (lsa.markInstalled t).serialize now = (.ok b, stored) ∧
      (b.drop 2 = data.drop 2 ↔ Canonical data) ∧
      (Canonical data → stored.header = lsa.header.aged stored.header.lsAge) := by
  obtain ⟨hlen, hmin, -, hheader, -⟩ := Lsa.of_deserialize h
  obtain ⟨bb, hbb, hsize, hbody⟩ := bodyBytes_eq_iff h
  have hrange : (lsa.markInstalled t).header.WireRange := (Lsa.fresh_of_deserialize h).wireRange
  obtain ⟨hdr, c, hhdr, hc, hsum, -, hser⟩ := Lsa.serialize_eq now hrange hbb hsize
  obtain rfl : hdr = lsa.header.aged _ := hhdr
  have hdata := bytes_headerAt hmin
  have h18 : 18 ≤ data.length := by omega
  obtain ⟨x, y, hx, hy, hxy, hfield⟩ := checksum_bytes h18
  have hx0 : natAt data 16 1 ≠ 0 ↔ x ≠ 0 := by
    rw [hx]
    exact (UInt8.toNat_inj (b := 0)).not
  have hy0 : natAt data 17 1 ≠ 0 ↔ y ≠ 0 := by
    rw [hy]
    exact (UInt8.toNat_inj (b := 0)).not
  have hck : natAt data 16 2 < 65536 := natAt_lt data 16 2
  have hL : lengthAt data 0 < 65536 := natAt_lt data (0 + 18) 2
  -- once length and body are those received, the checksum is, unless it has a zero byte
  have hchecksum : LsaHeader.size + bb.length = lengthAt data 0 → bb = data.drop 20 →
      (c = natAt data 16 2 ↔ x ≠ 0 ∧ y ≠ 0) := by
    intro hn hb
    rw [hdata, bytes_append, hfield] at hverify
    have hiff := fletcherChecksum_eq_iff _ (Bytes.length_ofNat 2 _) (LsaHeader.length_middle _)
      (Bytes.length_ofNat 2 (min ((lsa.markInstalled t).currentAge now) maxAge)) (Bytes.length_ofNat 2 c)
      hverify
    rw [hn, hb, hheader, bytes_append] at hsum
    rw [hxy, ← hiff]
    exact Eq.congr_left hsum.symm
  have hiff : ((lsa.header.aged (min ((lsa.markInstalled t).currentAge now) maxAge)).bytes c
      (LsaHeader.size + bb.length) ++ bb).drop 2 = data.drop 2 ↔ Canonical data := by
    have hdrop : data.drop 2 =
        (lsa.header.bytes (natAt data 16 2) (lengthAt data 0) ++ data.drop 20).drop 2 := by
      rw [hheader]
      exact congrArg (List.drop 2) hdata
    rw [hdrop, drop_bytes_eq_iff _ _ hc hck hsize hL]
    constructor
    · rintro ⟨h1, h2, h3⟩
      obtain ⟨hx', hy'⟩ := (hchecksum h2 h3).1 h1
      exact ⟨⟨hx0.2 hx', hy0.2 hy'⟩, hbody.1 h3⟩
    · intro hcan
      have h3 := hbody.2 hcan.body
      have h2 : LsaHeader.size + bb.length = lengthAt data 0 := by
        rw [h3, List.length_drop, hlen, LsaHeader.size]
        omega
      exact ⟨(hchecksum h2 h3).2 ⟨hx0.1 hcan.checksum.1, hy0.1 hcan.checksum.2⟩, h2, h3⟩
  refine ⟨_, _, hser, hiff, ?_⟩
  intro hcan
  -- the completed header has the checksum and the length that were received
  have h3 := hbody.2 hcan.body
  have h2 : LsaHeader.size + bb.length = lengthAt data 0 := by
    rw [h3, List.length_drop, hlen, LsaHeader.size]
    omega
  have h1 := (hchecksum h2 h3).2 ⟨hx0.1 hcan.checksum.1, hy0.1 hcan.checksum.2⟩
  show LsaHeader.completed _ c (LsaHeader.size + bb.length) = _
  rw [h1, h2, hheader]
  rfl

/-- A Summary-LSA on the wire. -/
def summaryLsa : Bytes :=
  [0, 1, 2, 3, 10, 0, 1, 0, 1, 1, 1, 1, 128, 0, 0, 1, 36, 32, 0, 28, 255, 255, 255, 0, 0, 0, 0, 10]

/-- What it is decoded to. -/
def summary : Lsa where
  header := headerAt summaryLsa 0
  body := some (bodyAt lsaTypeSummary summaryLsa 20 8)

theorem reserialize_iff_summary : ∃ b stored, (summary.markInstalled 0).serialize 0 = (.ok b, stored) ∧
    (b.drop 2 = summaryLsa.drop 2 ↔ Canonical summaryLsa) ∧
    (Canonical summaryLsa → stored.header = summary.header.aged stored.header.lsAge) :=
  reserialize_iff (by decide) (by decide) 0 0

/-- A Summary-LSA that carries a metric for one more type of service. -/
def tosSummaryLsa : Bytes :=
  [0, 1, 2, 3, 10, 0, 1, 0, 1, 1, 1, 1, 128, 0, 0, 1, 202, 104, 0, 32, 255, 255, 255, 0, 0, 0, 0, 10,
    8, 0, 0, 5]

/-- What it is decoded to. -/
def tosSummary : Lsa where
  header := headerAt tosSummaryLsa 0
  body := some (bodyAt lsaTypeSummary tosSummaryLsa 20 12)

/-- The further metric is dropped. -/
theorem not_all_reserialized : ¬∀ data lsa, Lsa.deserialize data 0 = .ok (lsa, data.length) →
    verifyFletcherChecksum data = true → typeAt data 0 ∈ [1, 2, 3, 4, 5, 9, 10, 11] → ∀ t now : Time, t ≤ now →
      ∃ b stored, (lsa.markInstalled t).serialize now = (.ok b, stored) ∧ b.drop 2 = data.drop 2 := by
  intro h
  obtain ⟨b, stored, hser, hsame⟩ := h tosSummaryLsa tosSummary (by decide) (by decide) (by decide) 0 0
    (le_refl 0)
  have hshort : ((tosSummary.markInstalled 0).serialize 0).1.toOption.map List.length = some 28 := by decide
  rw [hser] at hshort
  have hlen : b.length = 28 := Option.some.inj hshort
  have hdrop := congrArg List.length hsame
  rw [List.length_drop, hlen] at hdrop
  exact absurd hdrop (by decide)

end Ospfd
