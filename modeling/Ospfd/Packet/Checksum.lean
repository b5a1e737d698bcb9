import Ospfd.Lib.Struct
import Mathlib.Data.Nat.Bitwise

/-!
# Checksums

The ones-complement checksum of the packet header and the Fletcher checksum of
an LSA.

* `ipChecksum`, `verifyIpChecksum` — with the carry-folding loop `foldCarries`.
* `fletcherChecksum`, `verifyFletcherChecksum` — the LSA checksum; the age field,
  bytes 0 and 1, is left out of it.
* `verifyIpChecksum_of_field` — **filling in the checksum makes a packet verify**.
* `fletcherChecksum_lt` — the Fletcher checksum fits its two bytes.
-/

namespace Ospfd

/-! ## The ones-complement checksum -/

/-- Append a zero byte to a string of odd length. -/
def padEven (data : Bytes) : Bytes := if data.length % 2 = 1 then data ++ [0] else data

/-- The big-endian 16-bit words of a string of even length. -/
def words16 : Bytes → List Nat
  | [] => []
  | [_] => []
  | a :: b :: rest => (a.toNat * 256 + b.toNat) :: words16 rest

/-- `while total >> 16: total = (total & 0xFFFF) + (total >> 16)`. -/
def foldCarries (total : Nat) : Nat :=
  if 65536 ≤ total then foldCarries (total % 65536 + total / 65536) else total
termination_by total
decreasing_by omega

/-- The folded sum of the words of a string. -/
def onesSum (data : Bytes) : Nat := foldCarries (words16 (padEven data)).sum

/-- `ip_checksum`. -/
def ipChecksum (data : Bytes) : Nat := 65535 - onesSum data

/-- `verify_ip_checksum`. -/
def verifyIpChecksum (data : Bytes) : Bool := onesSum data == 65535

theorem foldCarries_of_lt {total : Nat} (h : total < 65536) : foldCarries total = total := by
  rw [foldCarries, if_neg (by omega)]

theorem foldCarries_lt (total : Nat) : foldCarries total < 65536 := by
  fun_induction foldCarries total with
  | case1 total h ih => exact ih
  | case2 total h => omega

/-- Folding keeps the sum modulo `2 ^ 16 - 1`. -/
theorem foldCarries_mod (total : Nat) : foldCarries total % 65535 = total % 65535 := by
  fun_induction foldCarries total with
  | case1 total h ih => omega
  | case2 total h => rfl

/-- A sum is folded to zero only when it is zero. -/
theorem foldCarries_pos {total : Nat} (h : 0 < total) : 0 < foldCarries total := by
  fun_induction foldCarries total with
  | case1 total hge ih => exact ih (by omega)
  | case2 total hlt => exact h

/-- A nonzero multiple of `2 ^ 16 - 1` is folded to `0xFFFF`. -/
theorem foldCarries_eq_65535 {total : Nat} (hpos : 0 < total) (hmod : total % 65535 = 0) :
    foldCarries total = 65535 := by
  have hlt := foldCarries_lt total
  have h0 := foldCarries_pos hpos
  have hm := foldCarries_mod total
  omega

theorem ipChecksum_lt (data : Bytes) : ipChecksum data < 65536 := by
  rw [ipChecksum]
  omega

theorem words16_append {a b : Bytes} (h : a.length % 2 = 0) :
    words16 (a ++ b) = words16 a ++ words16 b := by
  fun_induction words16 a with
  | case1 => rfl
  | case2 x => simp at h
  | case3 x y rest ih =>
    simp only [List.length_cons] at h
    simp only [List.cons_append, words16]
    rw [ih (by omega)]

theorem padEven_append {a b : Bytes} (h : a.length % 2 = 0) :
    padEven (a ++ b) = a ++ padEven b := by
  have hlen : (a ++ b).length % 2 = b.length % 2 := by
    rw [List.length_append]
    omega
  rw [padEven, padEven, hlen]
  split
  · rw [List.append_assoc]
  · rfl

/-- The word sum of a string is that of an even prefix plus that of the rest. -/
theorem sum_words16_append {a b : Bytes} (h : a.length % 2 = 0) :
    (words16 (padEven (a ++ b))).sum = (words16 a).sum + (words16 (padEven b)).sum := by
  rw [padEven_append h, words16_append h, List.sum_append]

/-- The two bytes a checksum is written as are one word of that value. -/
theorem words16_field {c : Nat} (h : c < 65536) :
    words16 [UInt8.ofNat (c / 256), UInt8.ofNat (c % 256)] = [c] := by
  have hhi : (UInt8.ofNat (c / 256)).toNat = c / 256 := by
    simp only [UInt8.toNat_ofNat']
    omega
  have hlo : (UInt8.ofNat (c % 256)).toNat = c % 256 := by
    simp only [UInt8.toNat_ofNat']
    omega
  rw [words16, hhi, hlo, words16]
  congr 1
  omega

/-- The word sum of a string with a field at an even position. -/
theorem sum_words16_field {pre f : Bytes} (post : Bytes) (hpre : pre.length % 2 = 0) (hf : f.length % 2 = 0) :
    (words16 (padEven (pre ++ f ++ post))).sum =
      (words16 pre).sum + (words16 f).sum + (words16 (padEven post)).sum := by
  rw [sum_words16_append (by rw [List.length_append]; omega), words16_append hpre, List.sum_append]

/-- A string verifies when its words sum up to a nonzero multiple of `2 ^ 16 - 1`. -/
theorem verifyIpChecksum_iff (data : Bytes) : verifyIpChecksum data = true ↔
    0 < (words16 (padEven data)).sum ∧ (words16 (padEven data)).sum % 65535 = 0 := by
  rw [verifyIpChecksum, onesSum, beq_iff_eq]
  constructor
  · intro h
    have hmod := foldCarries_mod (words16 (padEven data)).sum
    rw [h] at hmod
    refine ⟨Nat.pos_of_ne_zero fun h0 => ?_, hmod.symm⟩
    rw [h0, foldCarries_of_lt (by omega)] at h
    omega
  · rintro ⟨hpos, hmod⟩
    exact foldCarries_eq_65535 hpos hmod

/-- The checksum is what the words miss to a multiple of `2 ^ 16 - 1`. -/
theorem ipChecksum_add_mod (data : Bytes) :
    (ipChecksum data + (words16 (padEven data)).sum) % 65535 = 0 := by
  have hlt := foldCarries_lt (words16 (padEven data)).sum
  have hmod := foldCarries_mod (words16 (padEven data)).sum
  rw [ipChecksum, onesSum]
  omega

/-- **Filling in the checksum makes a packet verify.**  A string with a zero
16-bit field at an even position, whose checksum is then written into the field,
verifies. -/
theorem verifyIpChecksum_of_field {pre : Bytes} (post : Bytes) (hpre : pre.length % 2 = 0) :
    let c := ipChecksum (pre ++ [0, 0] ++ post)
    verifyIpChecksum (pre ++ [UInt8.ofNat (c / 256), UInt8.ofNat (c % 256)] ++ post) = true := by
  intro c
  have hc : c < 65536 := ipChecksum_lt _
  have hzero := sum_words16_field (f := [0, 0]) post hpre rfl
  have hfull := sum_words16_field (f := [UInt8.ofNat (c / 256), UInt8.ofNat (c % 256)]) post hpre (by simp)
  rw [words16_field hc, List.sum_singleton] at hfull
  have hz : (words16 ([0, 0] : Bytes)).sum = 0 := rfl
  rw [hz] at hzero
  have hmod : (c + (words16 (padEven (pre ++ [0, 0] ++ post))).sum) % 65535 = 0 := ipChecksum_add_mod _
  have hpos : 0 < c ∨ 0 < (words16 (padEven (pre ++ [0, 0] ++ post))).sum := by
    by_cases h0 : (words16 (padEven (pre ++ [0, 0] ++ post))).sum = 0
    · left
      have hdef : c = 65535 - foldCarries (words16 (padEven (pre ++ [0, 0] ++ post))).sum := rfl
      rw [hdef, h0, foldCarries_of_lt (by omega)]
      omega
    · right
      omega
  rw [verifyIpChecksum_iff, hfull]
  omega

/-! ## The Fletcher checksum -/

/-- One byte of the running sums `c0` and `c1`. -/
def fletcherStep (c : Nat × Nat) (b : UInt8) : Nat × Nat :=
  let c0 := (c.1 + b.toNat) % 255
  (c0, (c.2 + c0) % 255)

/-- The sums over a string, its first two bytes (the age) left out. -/
def fletcherSums (buf : Bytes) : Nat × Nat := (buf.drop 2).foldl fletcherStep (0, 0)

/-- `fletcher_checksum`, of a string that reaches beyond the checksum field. -/
def fletcherChecksum (data : Bytes) (checksumOffset : Nat := 16) : Nat :=
  let buf := (data.set checksumOffset 0).set (checksumOffset + 1) 0
  let (c0, c1) := fletcherSums buf
  let pos : Int := (checksumOffset : Int) - 2
  let x := (((buf.length : Int) - 2 - pos - 1) * c0 - c1) % 255
  let x := if x ≤ 0 then x + 255 else x
  let y := 510 - (c0 : Int) - x
  let y := if 255 < y then y - 255 else y
  (x.toNat <<< 8) ||| y.toNat

/-- `verify_fletcher_checksum`. -/
def verifyFletcherChecksum (data : Bytes) : Bool := fletcherSums data == (0, 0)

theorem fletcherStep_lt (c : Nat × Nat) (b : UInt8) :
    (fletcherStep c b).1 < 255 ∧ (fletcherStep c b).2 < 255 :=
  ⟨Nat.mod_lt _ (by omega), Nat.mod_lt _ (by omega)⟩

theorem fletcherSums_lt (buf : Bytes) : (fletcherSums buf).1 < 255 ∧ (fletcherSums buf).2 < 255 := by
  have key : ∀ (l : Bytes) (c : Nat × Nat), c.1 < 255 ∧ c.2 < 255 →
      (l.foldl fletcherStep c).1 < 255 ∧ (l.foldl fletcherStep c).2 < 255 := by
    intro l
    induction l with
    | nil => exact fun c h => h
    | cons b l ih => exact fun c _ => ih _ (fletcherStep_lt c b)
  exact key _ _ ⟨by omega, by omega⟩

/-- The Fletcher checksum fits its two bytes. -/
theorem fletcherChecksum_lt (data : Bytes) (off : Nat) : fletcherChecksum data off < 65536 := by
  have hc := fletcherSums_lt ((data.set off 0).set (off + 1) 0)
  simp only [fletcherChecksum]
  refine Nat.or_lt_two_pow (n := 16) ?_ ?_
  · rw [Nat.shiftLeft_eq]
    split <;> omega
  · split <;> split <;> omega

/-- The checksum does not depend on what the checksum field holds. -/
theorem fletcherChecksum_set (data : Bytes) (off : Nat) (a b : UInt8) :
    fletcherChecksum ((data.set off a).set (off + 1) b) off = fletcherChecksum data off := by
  have hbuf : (((data.set off a).set (off + 1) b).set off 0).set (off + 1) 0 =
      (data.set off 0).set (off + 1) 0 := by
    rw [List.set_comm _ _ (by omega : off + 1 ≠ off), List.set_set, List.set_set]
  simp only [fletcherChecksum, hbuf]

end Ospfd
