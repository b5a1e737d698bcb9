import Ospfd.Packet.Checksum
import Mathlib.Tactic.Linarith
import Mathlib.Tactic.LinearCombination
import Mathlib.Tactic.Set

/-!
# The Fletcher checksum of an LSA

The running sums of `fletcherSums` are a plain and a weighted sum of the bytes modulo
255.  Each pair of sums is reached by exactly one pair of field bytes between 1 and 255.

* `byteSum`, `weightedSum` — the two sums; `fletcherSums_eq` reads them off the loop.
* `verifyFletcherChecksum_field` — what verification says of the two field bytes.
* `fletcherChecksum_field` — **the checksum makes a string verify, and has no zero byte**.
* `field_unique` — two field bytes that verify are known modulo 255.
* `fletcherChecksum_eq_iff` — a string that verifies carries the checksum computed for it just
  where its field has no zero byte.
* `fletcherChecksum_detects` — **a string with the checksum filled in verifies, and none that
  differs from it in one byte or in the order of two neighbors**.
-/

namespace Ospfd

/-! ## The two sums -/

/-- The sum of the bytes of a string. -/
def byteSum : Bytes → Nat
  | [] => 0
  | b :: l => b.toNat + byteSum l

/-- The sum of the bytes, each as often as there are bytes from it on. -/
def weightedSum : Bytes → Nat
  | [] => 0
  | b :: l => (l.length + 1) * b.toNat + weightedSum l

theorem byteSum_append (a b : Bytes) : byteSum (a ++ b) = byteSum a + byteSum b := by
  induction a with
  | nil => simp [byteSum]
  | cons x a ih =>
    simp only [List.cons_append, byteSum, ih]
    omega

theorem weightedSum_append (a b : Bytes) :
    weightedSum (a ++ b) = weightedSum a + b.length * byteSum a + weightedSum b := by
  induction a with
  | nil => simp [weightedSum, byteSum]
  | cons x a ih =>
    simp only [List.cons_append, weightedSum, byteSum, ih, List.length_append]
    ring

/-- The loop computes the two sums modulo 255, each added to what it started from. -/
theorem foldl_fletcherStep (l : Bytes) (c : Nat × Nat) :
    (l.foldl fletcherStep c).1 % 255 = (c.1 + byteSum l) % 255 ∧
      (l.foldl fletcherStep c).2 % 255 = (c.2 + l.length * c.1 + weightedSum l) % 255 := by
  induction l generalizing c with
  | nil => simp [byteSum, weightedSum]
  | cons b l ih =>
    obtain ⟨h1, h2⟩ := ih (fletcherStep c b)
    have hmul : l.length * ((c.1 + b.toNat) % 255) % 255 = l.length * (c.1 + b.toNat) % 255 :=
      Nat.mul_mod_mod ..
    rw [List.foldl_cons, h1, h2]
    simp only [fletcherStep, byteSum, weightedSum, List.length_cons]
    refine ⟨by omega, ?_⟩
    have hdist : l.length * (c.1 + b.toNat) = l.length * c.1 + l.length * b.toNat := Nat.mul_add ..
    have hc : (l.length + 1) * c.1 = l.length * c.1 + c.1 := Nat.succ_mul ..
    have hb : (l.length + 1) * b.toNat = l.length * b.toNat + b.toNat := Nat.succ_mul ..
    rw [hc, hb]
    omega

/-- What the loop returns, from the bytes behind the age. -/
theorem fletcherSums_eq (buf : Bytes) :
    fletcherSums buf = (byteSum (buf.drop 2) % 255, weightedSum (buf.drop 2) % 255) := by
  obtain ⟨h1, h2⟩ := foldl_fletcherStep (buf.drop 2) (0, 0)
  obtain ⟨hlt1, hlt2⟩ := fletcherSums_lt buf
  unfold fletcherSums at hlt1 hlt2 ⊢
  rw [Nat.mod_eq_of_lt hlt1, Nat.zero_add] at h1
  rw [Nat.mod_eq_of_lt hlt2, Nat.mul_zero, Nat.zero_add] at h2
  exact Prod.ext h1 h2

/-! ## The field -/

section Field

variable {age mid : Bytes} (rest : Bytes) (hage : age.length = 2) (hmid : mid.length = 14)

include hage in
theorem fletcherSums_field (x y : UInt8) :
    fletcherSums (age ++ mid ++ [x, y] ++ rest) =
      ((byteSum (mid ++ rest) + x.toNat + y.toNat) % 255,
        (weightedSum (mid ++ [0, 0] ++ rest) + (rest.length + 2) * x.toNat +
          (rest.length + 1) * y.toNat) % 255) := by
  have hdrop : (age ++ mid ++ [x, y] ++ rest).drop 2 = mid ++ [x, y] ++ rest := by
    rw [List.append_assoc, List.append_assoc, List.drop_left' hage, List.append_assoc]
  rw [fletcherSums_eq, hdrop]
  simp only [byteSum_append, weightedSum_append, byteSum, weightedSum, List.length_cons,
    List.length_nil, UInt8.toNat_zero]
  refine Prod.ext ?_ ?_
  · show _ % 255 = _ % 255
    congr 1
    omega
  · show _ % 255 = _ % 255
    congr 1
    ring

include hage in
/-- Verification is two congruences on the bytes of the field. -/
theorem verifyFletcherChecksum_field (x y : UInt8) :
    verifyFletcherChecksum (age ++ mid ++ [x, y] ++ rest) = true ↔
      (byteSum (mid ++ rest) + x.toNat + y.toNat) % 255 = 0 ∧
        (weightedSum (mid ++ [0, 0] ++ rest) + (rest.length + 2) * x.toNat +
          (rest.length + 1) * y.toNat) % 255 = 0 := by
  unfold verifyFletcherChecksum
  rw [fletcherSums_field rest hage, beq_iff_eq, Prod.mk.injEq]

include hage hmid in
/-- What the field holds makes no difference to the checksum. -/
theorem zeroed_field (f : Bytes) (hf : f.length = 2) :
    ((age ++ mid ++ f ++ rest).set 16 0).set 17 0 = age ++ mid ++ [0, 0] ++ rest := by
  obtain ⟨x, y, rfl⟩ : ∃ x y, f = [x, y] := by
    match f, hf with
    | [x, y], _ => exact ⟨x, y, rfl⟩
  have hpre : (age ++ mid).length = 16 := by
    rw [List.length_append, hage, hmid]
  have hset : ∀ (l r : Bytes) (b c : UInt8) (n : Nat), l.length = n →
      (l ++ b :: r).set n c = l ++ c :: r := by
    intro l r b c n hn
    rw [List.set_append_right _ _ (by omega), hn, Nat.sub_self, List.set_cons_zero]
  rw [List.append_assoc (age ++ mid), List.cons_append, hset _ _ _ _ _ hpre]
  have hcut : age ++ mid ++ (0 : UInt8) :: ([y] ++ rest) = (age ++ mid ++ [0]) ++ y :: rest := by
    simp
  rw [hcut, hset _ _ _ _ _ (by rw [List.length_append, hpre]; rfl)]
  simp

include hage hmid in
theorem fletcherChecksum_congr {f g : Bytes} (hf : f.length = 2) (hg : g.length = 2) :
    fletcherChecksum (age ++ mid ++ f ++ rest) = fletcherChecksum (age ++ mid ++ g ++ rest) := by
  simp only [fletcherChecksum]
  rw [zeroed_field rest hage hmid f hf, zeroed_field rest hage hmid g hg]

/-- Two bytes between 1 and 255 that complete given sums. -/
theorem complete_sums (c0 c1 r : Nat) (h0 : c0 < 255) :
    let x : Int := (((r : Int) + 1) * c0 - c1) % 255
    let x := if x ≤ 0 then x + 255 else x
    let y := 510 - (c0 : Int) - x
    let y := if 255 < y then y - 255 else y
    (0 < x ∧ x < 256) ∧ (0 < y ∧ y < 256) ∧ (255 : Int) ∣ c0 + x + y ∧
      (255 : Int) ∣ c1 + (r + 2) * x + (r + 1) * y := by
  intro x0 x y0 y
  have hx0 : 0 ≤ x0 ∧ x0 < 255 :=
    ⟨Int.emod_nonneg _ (by omega), Int.emod_lt_of_pos _ (by omega)⟩
  obtain ⟨q, hq⟩ : (255 : Int) ∣ (((r : Int) + 1) * c0 - c1) - x0 := Int.dvd_self_sub_emod
  have hx : 0 < x ∧ x < 256 := by
    simp only [x]
    split <;> omega
  have hxq : ∃ q, (((r : Int) + 1) * c0 - c1) - x = 255 * q := by
    simp only [x]
    split
    · exact ⟨q - 1, by linarith⟩
    · exact ⟨q, hq⟩
  obtain ⟨q', hq'⟩ := hxq
  have hy : 0 < y ∧ y < 256 := by
    simp only [y, y0]
    split <;> omega
  obtain ⟨m, hm⟩ : ∃ m : Int, c0 + x + y = 255 * m := by
    simp only [y, y0]
    split
    · exact ⟨1, by ring⟩
    · exact ⟨2, by ring⟩
  refine ⟨hx, hy, ⟨m, hm⟩, ((r + 1) * m - q'), ?_⟩
  have hyeq : y = 255 * m - c0 - x := by linarith
  rw [hyeq]
  linear_combination -hq'

include hage hmid in
/-- **The checksum makes a string verify, and has no zero byte.** -/
theorem fletcherChecksum_field (f : Bytes) (hf : f.length = 2) :
    ∃ x y : UInt8, fletcherChecksum (age ++ mid ++ f ++ rest) = x.toNat * 256 + y.toNat ∧
      x ≠ 0 ∧ y ≠ 0 ∧ verifyFletcherChecksum (age ++ mid ++ [x, y] ++ rest) = true := by
  have hzero : fletcherSums (age ++ mid ++ [0, 0] ++ rest) = _ := fletcherSums_field rest hage 0 0
  have hlen : ((age ++ mid ++ [(0 : UInt8), 0] ++ rest).length : Int) - 2 - ((16 : Nat) - 2) - 1 =
      rest.length + 1 := by
    simp only [List.length_append, hage, hmid, List.length_cons, List.length_nil]
    omega
  simp only [UInt8.toNat_zero, Nat.mul_zero, Nat.add_zero] at hzero
  -- the sums of the string with a zero field
  set c0 := byteSum (mid ++ rest) % 255 with hc0
  set c1 := weightedSum (mid ++ [0, 0] ++ rest) % 255 with hc1
  obtain ⟨hx, hy, hsum, hweighted⟩ := complete_sums c0 c1 rest.length (Nat.mod_lt _ (by omega))
  simp only [fletcherChecksum, zeroed_field rest hage hmid f hf, hzero, hlen]
  set x : Int := if (((rest.length : Int) + 1) * c0 - c1) % 255 ≤ 0 then
    (((rest.length : Int) + 1) * c0 - c1) % 255 + 255
    else (((rest.length : Int) + 1) * c0 - c1) % 255
  set y : Int := if 255 < 510 - (c0 : Int) - x then 510 - (c0 : Int) - x - 255 else 510 - (c0 : Int) - x
  obtain ⟨a, ha⟩ := Int.eq_ofNat_of_zero_le (show 0 ≤ x by omega)
  obtain ⟨b, hb⟩ := Int.eq_ofNat_of_zero_le (show 0 ≤ y by omega)
  rw [ha, hb] at hsum hweighted
  have hxa : (UInt8.ofNat a).toNat = a := by
    simp only [UInt8.toNat_ofNat']
    omega
  have hyb : (UInt8.ofNat b).toNat = b := by
    simp only [UInt8.toNat_ofNat']
    omega
  refine ⟨UInt8.ofNat a, UInt8.ofNat b, ?_, ?_, ?_, ?_⟩
  · rw [hxa, hyb, ha, hb, Int.toNat_natCast, Int.toNat_natCast,
      ← Nat.shiftLeft_add_eq_or_of_lt (show b < 2 ^ 8 by omega) a, Nat.shiftLeft_eq]
  · intro h0
    rw [h0] at hxa
    simp only [UInt8.toNat_zero] at hxa
    omega
  · intro h0
    rw [h0] at hyb
    simp only [UInt8.toNat_zero] at hyb
    omega
  · rw [verifyFletcherChecksum_field rest hage, hxa, hyb]
    have hs : 255 ∣ c0 + a + b := by exact_mod_cast hsum
    have hw : 255 ∣ c1 + (rest.length + 2) * a + (rest.length + 1) * b := by exact_mod_cast hweighted
    refine ⟨by omega, ?_⟩
    generalize (rest.length + 2) * a = p at hw ⊢
    generalize (rest.length + 1) * b = q at hw ⊢
    omega

/-- Two pairs of field bytes that both complete the sums agree modulo 255. -/
theorem field_unique {s w r x y x' y' : Nat} (h0 : (s + x + y) % 255 = 0)
    (h1 : (w + (r + 2) * x + (r + 1) * y) % 255 = 0) (h0' : (s + x' + y') % 255 = 0)
    (h1' : (w + (r + 2) * x' + (r + 1) * y') % 255 = 0) : x % 255 = x' % 255 ∧ y % 255 = y' % 255 := by
  obtain ⟨a, ha⟩ := Nat.dvd_of_mod_eq_zero h0
  obtain ⟨b, hb⟩ := Nat.dvd_of_mod_eq_zero h1
  obtain ⟨a', ha'⟩ := Nat.dvd_of_mod_eq_zero h0'
  obtain ⟨b', hb'⟩ := Nat.dvd_of_mod_eq_zero h1'
  have hsum : ((x : Int) - x') + (y - y') = 255 * (a - a') := by
    have h := congrArg (fun n : Nat => (n : Int)) ha
    have h' := congrArg (fun n : Nat => (n : Int)) ha'
    push_cast at h h'
    linarith
  have hx : (x : Int) - x' = 255 * ((b - b') - (r + 1) * (a - a')) := by
    have h := congrArg (fun n : Nat => (n : Int)) hb
    have h' := congrArg (fun n : Nat => (n : Int)) hb'
    push_cast at h h'
    linear_combination h - h' - (r + 1 : Int) * hsum
  generalize ((b : Int) - b') - (r + 1) * (a - a') = k at hx
  omega

include hage hmid in
/-- **A string that verifies carries the checksum computed for it just where its field has no
zero byte**, whatever the age is when it is computed. -/
theorem fletcherChecksum_eq_iff {age' f : Bytes} (hage' : age'.length = 2) (hf : f.length = 2) {x y : UInt8}
    (hverify : verifyFletcherChecksum (age ++ mid ++ [x, y] ++ rest) = true) :
    fletcherChecksum (age' ++ mid ++ f ++ rest) = x.toNat * 256 + y.toNat ↔ x ≠ 0 ∧ y ≠ 0 := by
  obtain ⟨x', y', hc, hx', hy', hverify'⟩ := fletcherChecksum_field rest hage' hmid f hf
  rw [verifyFletcherChecksum_field rest hage] at hverify
  rw [verifyFletcherChecksum_field rest hage'] at hverify'
  obtain ⟨hx, hy⟩ := field_unique hverify.1 hverify.2 hverify'.1 hverify'.2
  have hlt := x.toNat_lt
  have hlt' := y.toNat_lt
  have hlt₁ := x'.toNat_lt
  have hlt₂ := y'.toNat_lt
  have hzero : ∀ z : UInt8, z ≠ 0 ↔ z.toNat ≠ 0 := fun z => (UInt8.toNat_inj (b := 0)).not.symm
  rw [hzero] at hx' hy'
  rw [hc, hzero, hzero]
  omega

end Field

/-! ## Filling in -/

theorem ofNat_two_toNat (x y : UInt8) : Bytes.ofNat 2 (x.toNat * 256 + y.toNat) = [x, y] := by
  have hx := x.toNat_lt
  have hy := y.toNat_lt
  rw [Bytes.ofNat_two, show (x.toNat * 256 + y.toNat) / 256 = x.toNat by omega,
    show (x.toNat * 256 + y.toNat) % 256 = y.toNat by omega, UInt8.ofNat_toNat, UInt8.ofNat_toNat]

/-- `data[16:18] = fletcher_checksum(data)`, big-endian. -/
def withFletcherChecksum (data : Bytes) : Bytes :=
  Bytes.overwrite data 16 (Bytes.ofNat 2 (fletcherChecksum data))

/-- A string that reaches beyond the field. -/
theorem exists_field {data : Bytes} (h : 18 ≤ data.length) : ∃ age mid field rest : Bytes,
    data = age ++ mid ++ field ++ rest ∧ age.length = 2 ∧ mid.length = 14 ∧ field.length = 2 := by
  refine ⟨data.take 2, (data.drop 2).take 14, (data.drop 16).take 2, data.drop 18, ?_, ?_, ?_, ?_⟩
  · have hmid : data.take 2 ++ (data.drop 2).take 14 = data.take 16 := (List.take_add (j := 14)).symm
    have hfield : data.take 16 ++ (data.drop 16).take 2 = data.take 18 := (List.take_add (j := 2)).symm
    rw [hmid, hfield, List.take_append_drop]
  · rw [List.length_take]
    omega
  · rw [List.length_take, List.length_drop]
    omega
  · rw [List.length_take, List.length_drop]
    omega

/-- **A string with the checksum filled in verifies**, whatever its age is or becomes, and the
checksum has no zero byte. -/
theorem verify_withFletcherChecksum {data : Bytes} (h : 18 ≤ data.length) :
    (0 < fletcherChecksum data / 256 ∧ fletcherChecksum data / 256 < 256 ∧ 0 < fletcherChecksum data % 256) ∧
      verifyFletcherChecksum (withFletcherChecksum data) = true ∧
      ∀ age : Bytes, age.length = 2 →
        fletcherChecksum (Bytes.overwrite data 0 age) = fletcherChecksum data ∧
        verifyFletcherChecksum (Bytes.overwrite (withFletcherChecksum data) 0 age) = true := by
  obtain ⟨age, mid, field, rest, rfl, hage, hmid, hfield⟩ := exists_field h
  obtain ⟨x, y, hc, hx, hy, hverify⟩ := fletcherChecksum_field rest hage hmid field hfield
  have hfilled : withFletcherChecksum (age ++ mid ++ field ++ rest) = age ++ mid ++ [x, y] ++ rest := by
    have hpre : (age ++ mid).length = 16 := by rw [List.length_append, hage, hmid]
    have hlen : [x, y].length = field.length := hfield.symm
    have hover := Bytes.overwrite_append_append (age ++ mid) field rest hlen
    rw [hpre] at hover
    rw [withFletcherChecksum, hc, ofNat_two_toNat, hover]
  have haged : ∀ age' f : Bytes, age'.length = 2 →
      Bytes.overwrite (age ++ mid ++ f ++ rest) 0 age' = age' ++ mid ++ f ++ rest := by
    intro age' f hage'
    have hover := Bytes.overwrite_append_append [] age (mid ++ f ++ rest) (hage'.trans hage.symm)
    simpa only [List.nil_append, List.length_nil, List.append_assoc] using hover
  have hx0 : x.toNat ≠ 0 := fun h0 => hx (UInt8.toNat_inj.1 h0)
  have hy0 : y.toNat ≠ 0 := fun h0 => hy (UInt8.toNat_inj.1 h0)
  have hxlt := x.toNat_lt
  have hylt := y.toNat_lt
  rw [hfilled]
  refine ⟨by omega, hverify, fun age' hage' => ?_⟩
  rw [haged age' field hage', haged age' [x, y] hage', hc,
    fletcherChecksum_eq_iff rest hage hmid hage' hfield hverify, verifyFletcherChecksum_field rest hage',
    ← verifyFletcherChecksum_field rest hage]
  exact ⟨⟨hx, hy⟩, hverify⟩

/-! ## What is detected -/

/-- Verification is two congruences on the bytes behind the age. -/
theorem verifyFletcherChecksum_iff {data : Bytes} : verifyFletcherChecksum data = true ↔
    byteSum (data.drop 2) % 255 = 0 ∧ weightedSum (data.drop 2) % 255 = 0 := by
  rw [verifyFletcherChecksum, fletcherSums_eq, beq_iff_eq, Prod.mk.injEq]

/-- The string from a byte behind the age on, and what stands before it. -/
theorem exists_byte {data : Bytes} {i : Nat} (hi : 2 ≤ i) (h : i < data.length) :
    ∃ age mid : Bytes, data = age ++ mid ++ data[i] :: data.drop (i + 1) ∧ age.length = 2 ∧
      (age ++ mid).length = i := by
  refine ⟨data.take 2, (data.drop 2).take (i - 2), ?_, ?_, ?_⟩
  · have hmid : data.take 2 ++ (data.drop 2).take (i - 2) = data.take i := by
      rw [← List.take_add, Nat.add_sub_cancel' hi]
    rw [hmid, List.getElem_cons_drop, List.take_append_drop]
  · rw [List.length_take]
    omega
  · rw [List.length_append, List.length_take, List.length_take, List.length_drop]
    omega

theorem set_append_cons {pre : Bytes} {n : Nat} (h : pre.length = n) (post : Bytes) (x y : UInt8) :
    (pre ++ x :: post).set n y = pre ++ y :: post := by
  rw [List.set_append_right _ _ h.le, h, Nat.sub_self, List.set_cons_zero]

section Detected

variable {age : Bytes} (mid rest : Bytes) {x y : UInt8} (hage : age.length = 2)
  (hne : x.toNat % 255 ≠ y.toNat % 255)

include hage hne

/-- One byte for another changes the sum. -/
theorem not_verify_replace (h : verifyFletcherChecksum (age ++ mid ++ x :: rest) = true) :
    verifyFletcherChecksum (age ++ mid ++ y :: rest) = false := by
  rw [Bool.eq_false_iff]
  intro h'
  rw [verifyFletcherChecksum_iff, List.append_assoc, List.drop_left' hage, byteSum_append, byteSum] at h h'
  omega

/-- Two bytes in the other order change the weighted sum by their difference. -/
theorem not_verify_swap (h : verifyFletcherChecksum (age ++ mid ++ x :: y :: rest) = true) :
    verifyFletcherChecksum (age ++ mid ++ y :: x :: rest) = false := by
  rw [Bool.eq_false_iff]
  intro h'
  rw [verifyFletcherChecksum_iff, List.append_assoc, List.drop_left' hage, weightedSum_append] at h h'
  simp only [weightedSum, List.length_cons, Nat.succ_mul] at h h'
  omega

end Detected

/-- **The Fletcher checksum.**  A string with the checksum filled in verifies, whatever its age is or
becomes, and the checksum has no zero byte; a string that verifies does not any more when one byte
behind the age, or the order of two neighbors there, changes by more than zero against 255. -/
theorem fletcherChecksum_detects (data : Bytes) :
    (18 ≤ data.length →
      (0 < fletcherChecksum data / 256 ∧ fletcherChecksum data / 256 < 256 ∧
        0 < fletcherChecksum data % 256) ∧
      verifyFletcherChecksum (withFletcherChecksum data) = true ∧
      ∀ age : Bytes, age.length = 2 →
        fletcherChecksum (Bytes.overwrite data 0 age) = fletcherChecksum data ∧
        verifyFletcherChecksum (Bytes.overwrite (withFletcherChecksum data) 0 age) = true) ∧
    (verifyFletcherChecksum data = true → ∀ i, 2 ≤ i → ∀ h : i < data.length,
      (∀ b : UInt8, data[i].toNat % 255 ≠ b.toNat % 255 → verifyFletcherChecksum (data.set i b) = false) ∧
      ∀ h' : i + 1 < data.length, data[i].toNat % 255 ≠ data[i + 1].toNat % 255 →
        verifyFletcherChecksum ((data.set i data[i + 1]).set (i + 1) data[i]) = false) := by
  refine ⟨verify_withFletcherChecksum, fun hverify i hi h => ⟨fun b hne => ?_, fun h' hne => ?_⟩⟩
  · obtain ⟨age, mid, hcut, hage, hpre⟩ := exists_byte hi h
    generalize data[i] = x at hcut hne
    generalize data.drop (i + 1) = rest at hcut
    subst hcut
    rw [set_append_cons hpre]
    exact not_verify_replace mid rest hage hne hverify
  · obtain ⟨age, mid, hcut, hage, hpre⟩ := exists_byte hi h
    rw [List.drop_eq_getElem_cons h'] at hcut
    generalize data[i] = x at hcut hne ⊢
    generalize data[i + 1] = y at hcut hne ⊢
    generalize data.drop (i + 1 + 1) = rest at hcut
    subst hcut
    have hpre' : (age ++ mid ++ [y]).length = i + 1 := by rw [List.length_append, hpre]; rfl
    have hsnd : age ++ mid ++ y :: y :: rest = age ++ mid ++ [y] ++ y :: rest := by simp
    rw [set_append_cons hpre, hsnd, set_append_cons hpre', List.append_assoc _ [y],
      List.singleton_append]
    exact not_verify_swap mid rest hage hne hverify

/-- A string whose bytes are all the age and the checksum. -/
theorem fletcherChecksum_detects_zeros :
    (0 < fletcherChecksum (List.replicate 18 0) / 256 ∧ fletcherChecksum (List.replicate 18 0) / 256 < 256 ∧
      0 < fletcherChecksum (List.replicate 18 0) % 256) ∧
    verifyFletcherChecksum ((List.replicate 18 0).set 5 1) = false :=
  ⟨((fletcherChecksum_detects (List.replicate 18 0)).1 (by decide)).1,
    ((fletcherChecksum_detects (List.replicate 18 0)).2 (by decide) 5 (by decide) (by decide)).1 1
      (by decide)⟩

end Ospfd
