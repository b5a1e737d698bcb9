import Mathlib.Data.Nat.ModEq
import Mathlib.Tactic.Ring

/-!
# Packed binary records

Byte strings, and the packing of fixed-width records into them: the part of
Python's `struct` module for network (big-endian) formats.

* `Bytes.ofNat`, `Bytes.toNat` — a number as a fixed number of big-endian bytes,
  and back (`toNat_ofNat`, `ofNat_toNat`).
* `Struct.Code`, `Struct.Value` — the format codes `B`, `H`, `I`, `i`, `ns` and
  the values they carry; `Struct.pack`, `Struct.unpackFrom` — `struct.pack` and
  `struct.unpack_from`, where `none` stands for `struct.error`.
* `Struct.Fits` — the values a code carries exactly.
* `Struct.pack_unpackAll` — **the way back**: what is read is packed into the same bytes.
* `Struct.unpackFrom_pack` — **the round trip**: a record that fits its format is
  packed, and unpacked unchanged from any position in any byte string.
-/

/-- A byte string. -/
abbrev Bytes : Type := List UInt8

namespace Bytes

/-- The big-endian value of a byte string. -/
def toNat (b : Bytes) : Nat := b.foldl (fun acc x => acc * 256 + x.toNat) 0

/-- The lowest `w` bytes of a number, most significant first. -/
def ofNat : Nat → Nat → Bytes
  | 0, _ => []
  | w + 1, n => UInt8.ofNat (n / 256 ^ w) :: ofNat w n

/-- `b[lo:hi]`. -/
def slice (b : Bytes) (lo hi : Nat) : Bytes := (b.drop lo).take (hi - lo)

/-- `b[pos:pos + len(new)] = new`, within a string that long. -/
def overwrite (b : Bytes) (pos : Nat) (new : Bytes) : Bytes :=
  b.take pos ++ new ++ b.drop (pos + new.length)

@[simp] theorem length_ofNat (w n : Nat) : (ofNat w n).length = w := by
  induction w with
  | zero => rfl
  | succ w ih => rw [ofNat, List.length_cons, ih]

theorem foldl_ofNat (w n acc : Nat) :
    (ofNat w n).foldl (fun acc x => acc * 256 + x.toNat) acc = acc * 256 ^ w + n % 256 ^ w := by
  induction w generalizing acc with
  | zero => simp [ofNat, Nat.mod_one]
  | succ w ih =>
    have hbyte : (UInt8.ofNat (n / 256 ^ w)).toNat = n / 256 ^ w % 256 := by simp
    rw [ofNat, List.foldl_cons, ih, hbyte, Nat.pow_succ, Nat.mod_mul]
    ring

/-- The two bytes of a 16-bit number, high byte first. -/
theorem ofNat_two (n : Nat) : ofNat 2 n = [UInt8.ofNat (n / 256), UInt8.ofNat (n % 256)] := by
  have hlow : UInt8.ofNat (n % 256) = UInt8.ofNat n := by
    apply UInt8.toNat_inj.1
    simp
  simp [ofNat, hlow]

/-- Reading back the lowest `w` bytes gives the number modulo `256 ^ w`. -/
theorem toNat_ofNat (w n : Nat) : toNat (ofNat w n) = n % 256 ^ w := by
  rw [toNat, foldl_ofNat, Nat.zero_mul, Nat.zero_add]

theorem toNat_ofNat_of_lt {w n : Nat} (h : n < 256 ^ w) : toNat (ofNat w n) = n := by
  rw [toNat_ofNat, Nat.mod_eq_of_lt h]

theorem toNat_lt (b : Bytes) : toNat b < 256 ^ b.length := by
  have key : ∀ (b : Bytes) (acc : Nat),
      b.foldl (fun acc x => acc * 256 + x.toNat) acc < (acc + 1) * 256 ^ b.length := by
    intro b
    induction b with
    | nil => intro acc; simp
    | cons x b ih =>
      intro acc
      have hx : x.toNat < 256 := x.toNat_lt
      calc (x :: b).foldl (fun acc x => acc * 256 + x.toNat) acc
          < (acc * 256 + x.toNat + 1) * 256 ^ b.length := ih _
        _ ≤ ((acc + 1) * 256) * 256 ^ b.length := Nat.mul_le_mul_right _ (by omega)
        _ = (acc + 1) * 256 ^ (x :: b).length := by rw [List.length_cons, Nat.pow_succ]; ring
  simpa [toNat] using key b 0

/-- The value of a string read on from `acc`. -/
theorem foldl_toNat (b : Bytes) (acc : Nat) :
    b.foldl (fun acc x => acc * 256 + x.toNat) acc = acc * 256 ^ b.length + toNat b := by
  induction b generalizing acc with
  | nil => simp [toNat]
  | cons x b ih =>
    rw [toNat, List.foldl_cons, ih, List.foldl_cons, ih (0 * 256 + x.toNat), List.length_cons, Nat.pow_succ]
    ring

theorem toNat_cons (x : UInt8) (b : Bytes) : toNat (x :: b) = x.toNat * 256 ^ b.length + toNat b := by
  rw [toNat, List.foldl_cons, foldl_toNat, Nat.zero_mul, Nat.zero_add]

/-- Only the lowest `w` bytes of a number are written. -/
theorem ofNat_mul_add (w k n : Nat) : ofNat w (k * 256 ^ w + n) = ofNat w n := by
  induction w generalizing k n with
  | zero => rfl
  | succ w ih =>
    have hlow : k * 256 ^ (w + 1) + n = k * 256 * 256 ^ w + n := by
      rw [Nat.pow_succ]
      ring
    have hdiv : (k * 256 * 256 ^ w + n) / 256 ^ w = n / 256 ^ w + k * 256 := by
      rw [Nat.add_comm, Nat.add_mul_div_right _ _ (Nat.pow_pos (by omega))]
    have hbyte : UInt8.ofNat (n / 256 ^ w + k * 256) = UInt8.ofNat (n / 256 ^ w) := by
      apply UInt8.toNat_inj.1
      rw [UInt8.toNat_ofNat', UInt8.toNat_ofNat']
      omega
    rw [ofNat, hlow, hdiv, hbyte, ih, ofNat]

/-- A byte string is the lowest bytes of its value. -/
theorem ofNat_toNat (b : Bytes) : ofNat b.length (toNat b) = b := by
  induction b with
  | nil => rfl
  | cons x b ih =>
    have hdiv : (x.toNat * 256 ^ b.length + toNat b) / 256 ^ b.length = x.toNat := by
      rw [Nat.add_comm, Nat.add_mul_div_right _ _ (Nat.pow_pos (by omega)), Nat.div_eq_of_lt (toNat_lt b),
        Nat.zero_add]
    rw [toNat_cons, List.length_cons, ofNat, hdiv, UInt8.ofNat_toNat, ofNat_mul_add, ih]

theorem slice_append_append (pre b post : Bytes) :
    slice (pre ++ b ++ post) pre.length (pre.length + b.length) = b := by
  simp [slice]

/-- Overwriting the middle part of a string by one of the same length. -/
theorem overwrite_append_append (pre b post : Bytes) {new : Bytes} (h : new.length = b.length) :
    overwrite (pre ++ b ++ post) pre.length new = pre ++ new ++ post := by
  simp [overwrite, h]

end Bytes

namespace Struct

/-- The format codes in use: unsigned 1, 2 and 4 byte numbers, a signed 4 byte
number, and a fixed number of raw bytes. -/
inductive Code where
  | B | H | I | i
  | s (n : Nat)
  deriving DecidableEq, Repr

/-- What a record carries in one place. -/
inductive Value where
  | nat (n : Nat)
  | int (z : Int)
  | bytes (b : Bytes)
  deriving DecidableEq, Repr

/-- The number of bytes a code takes. -/
def Code.size : Code → Nat
  | .B => 1
  | .H => 2
  | .I => 4
  | .i => 4
  | .s n => n

/-- `struct.calcsize`. -/
def calcsize (fmt : List Code) : Nat := (fmt.map Code.size).sum

/-- The bytes of one value, or `none` where `struct.pack` raises. -/
def pack1 : Code → Value → Option Bytes
  | .B, .nat n => if n < 256 then some (Bytes.ofNat 1 n) else none
  | .H, .nat n => if n < 65536 then some (Bytes.ofNat 2 n) else none
  | .I, .nat n => if n < 4294967296 then some (Bytes.ofNat 4 n) else none
  | .i, .int z =>
      if -2147483648 ≤ z ∧ z < 2147483648 then some (Bytes.ofNat 4 (z % 4294967296).toNat) else none
  | .s n, .bytes b => some (b.take n ++ List.replicate (n - b.length) 0)
  | _, _ => none

/-- `struct.pack(fmt, *values)`. -/
def pack : List Code → List Value → Option Bytes
  | [], [] => some []
  | c :: cs, v :: vs =>
      match pack1 c v, pack cs vs with
      | some b, some bs => some (b ++ bs)
      | _, _ => none
  | _, _ => none

/-- The value of one code, read from the bytes it takes. -/
def unpack1 : Code → Bytes → Value
  | .B, b => .nat (Bytes.toNat b)
  | .H, b => .nat (Bytes.toNat b)
  | .I, b => .nat (Bytes.toNat b)
  | .i, b =>
      if Bytes.toNat b < 2147483648 then .int (Bytes.toNat b)
      else .int ((Bytes.toNat b : Int) - 4294967296)
  | .s _, b => .bytes b

/-- The values of a format at the start of a byte string. -/
def unpackAll : List Code → Bytes → List Value
  | [], _ => []
  | c :: cs, b => unpack1 c (b.take c.size) :: unpackAll cs (b.drop c.size)

/-- `struct.unpack_from(fmt, data, offset)`. -/
def unpackFrom (fmt : List Code) (data : Bytes) (offset : Nat) : Option (List Value) :=
  if offset + calcsize fmt ≤ data.length then some (unpackAll fmt (data.drop offset)) else none

/-- The values a code carries without loss. -/
def Fits : Code → Value → Prop
  | .B, .nat n => n < 256
  | .H, .nat n => n < 65536
  | .I, .nat n => n < 4294967296
  | .i, .int z => -2147483648 ≤ z ∧ z < 2147483648
  | .s n, .bytes b => b.length = n
  | _, _ => False

theorem pack1_of_fits {c : Code} {v : Value} (h : Fits c v) :
    ∃ b, pack1 c v = some b ∧ b.length = c.size ∧ unpack1 c b = v := by
  cases c <;> cases v <;> simp only [Fits] at h <;> try contradiction
  case B.nat n =>
    exact ⟨_, if_pos h, by simp [Code.size], by
      rw [unpack1, Bytes.toNat_ofNat_of_lt (by omega)]⟩
  case H.nat n =>
    exact ⟨_, if_pos h, by simp [Code.size], by
      rw [unpack1, Bytes.toNat_ofNat_of_lt (by omega)]⟩
  case I.nat n =>
    exact ⟨_, if_pos h, by simp [Code.size], by
      rw [unpack1, Bytes.toNat_ofNat_of_lt (by omega)]⟩
  case i.int z =>
    refine ⟨_, if_pos h, by simp [Code.size], ?_⟩
    rw [unpack1, Bytes.toNat_ofNat_of_lt (by omega)]
    by_cases hz : 0 ≤ z
    · rw [if_pos (by omega)]
      congr 1
      omega
    · rw [if_neg (by omega)]
      congr 1
      omega
  case s.bytes n b =>
    refine ⟨b, ?_, h, rfl⟩
    subst h
    simp [pack1]

theorem pack_of_fits : ∀ {fmt : List Code} {vs : List Value}, List.Forall₂ Fits fmt vs →
    ∃ b, pack fmt vs = some b ∧ b.length = calcsize fmt ∧
      ∀ post, unpackAll fmt (b ++ post) = vs
  | [], _, .nil => ⟨[], rfl, rfl, fun _ => rfl⟩
  | c :: cs, v :: vs, .cons h hs => by
    obtain ⟨b, hb, hlen, hun⟩ := pack1_of_fits h
    obtain ⟨bs, hbs, hlens, huns⟩ := pack_of_fits hs
    refine ⟨b ++ bs, by rw [pack, hb, hbs], ?_, fun post => ?_⟩
    · rw [List.length_append, hlen, hlens]
      simp [calcsize]
    · rw [List.append_assoc, unpackAll, List.take_left' hlen, List.drop_left' hlen, hun, huns]

/-- A byte string has the length of its place. -/
def Filled (c : Code) (v : Value) : Prop := ∀ n bs, c = .s n → v = .bytes bs → bs.length = n

theorem fits_of_pack1 {c : Code} {v : Value} {b : Bytes} (h : pack1 c v = some b) (hlen : Filled c v) :
    Fits c v := by
  cases c with
  | s n =>
    cases v with
    | bytes bs => exact hlen n bs rfl rfl
    | _ => cases h
  | i =>
    cases v with
    | int z =>
      simp only [pack1] at h
      split at h
      · assumption
      · cases h
    | _ => cases h
  | _ =>
    cases v with
    | nat n =>
      simp only [pack1] at h
      split at h
      · assumption
      · cases h
    | _ => cases h

/-- A record that is packed fits its format, where its byte strings have the length of their
places. -/
theorem fits_of_pack : ∀ {fmt : List Code} {vs : List Value} {b : Bytes}, pack fmt vs = some b →
    List.Forall₂ Filled fmt vs → List.Forall₂ Fits fmt vs
  | [], [], _, _, _ => .nil
  | c :: cs, v :: vs, b, h, .cons hf hfs => by
    rw [pack] at h
    split at h
    · rename_i b1 bs h1 h2
      exact .cons (fits_of_pack1 h1 hf) (fits_of_pack h2 hfs)
    · cases h

/-- A value read from the bytes of its code is packed into them again. -/
theorem pack1_unpack1 {c : Code} {b : Bytes} (h : b.length = c.size) : pack1 c (unpack1 c b) = some b := by
  have hlt := Bytes.toNat_lt b
  have hback := Bytes.ofNat_toNat b
  rw [h] at hlt hback
  cases c with
  | B => exact (if_pos hlt).trans (congrArg some hback)
  | H => exact (if_pos hlt).trans (congrArg some hback)
  | I => exact (if_pos hlt).trans (congrArg some hback)
  | i =>
    simp only [Code.size] at hlt hback
    simp only [unpack1]
    split
    · rename_i hpos
      simp only [pack1]
      rw [if_pos (by omega), show ((Bytes.toNat b : Int) % 4294967296).toNat = Bytes.toNat b by omega, hback]
    · rename_i hneg
      simp only [pack1]
      rw [if_pos (by omega),
        show (((Bytes.toNat b : Int) - 4294967296) % 4294967296).toNat = Bytes.toNat b by omega, hback]
  | s n =>
    simp only [Code.size] at h
    simp only [unpack1, pack1, h, Nat.sub_self, List.replicate_zero, List.append_nil]
    rw [List.take_of_length_le (by omega)]

/-- **The way back.**  A record read from a byte string is packed into the bytes it was read from. -/
theorem pack_unpackAll : ∀ {fmt : List Code} {b : Bytes}, calcsize fmt ≤ b.length →
    pack fmt (unpackAll fmt b) = some (b.take (calcsize fmt))
  | [], b, _ => by simp [pack, unpackAll, calcsize]
  | c :: cs, b, h => by
    have hsize : calcsize (c :: cs) = c.size + calcsize cs := by simp [calcsize]
    rw [hsize] at h ⊢
    have hrest : calcsize cs ≤ (b.drop c.size).length := by
      rw [List.length_drop]
      omega
    rw [unpackAll, pack, pack1_unpack1 (List.length_take_of_le (by omega)), pack_unpackAll hrest]
    simp only [List.take_add]

/-- What is read fits its format. -/
theorem fits_unpackAll : ∀ {fmt : List Code} {b : Bytes}, calcsize fmt ≤ b.length →
    List.Forall₂ Fits fmt (unpackAll fmt b)
  | [], _, _ => .nil
  | c :: cs, b, h => by
    have hsize : calcsize (c :: cs) = c.size + calcsize cs := by simp [calcsize]
    rw [hsize] at h
    have hone : (b.take c.size).length = c.size := List.length_take_of_le (by omega)
    refine .cons (fits_of_pack1 (pack1_unpack1 hone) ?_) (fits_unpackAll ?_)
    · rintro n bs rfl ⟨⟩
      exact hone
    · rw [List.length_drop]
      omega

theorem fits_of_unpackFrom {fmt : List Code} {data : Bytes} {offset : Nat} {vs : List Value}
    (h : unpackFrom fmt data offset = some vs) : List.Forall₂ Fits fmt vs := by
  rw [unpackFrom] at h
  split at h
  · cases h
    refine fits_unpackAll ?_
    rw [List.length_drop]
    omega
  · cases h

/-- **The round trip.**  A record that fits its format is packed, and unpacking
it from where it stands in any byte string gives it back. -/
theorem unpackFrom_pack {fmt : List Code} {vs : List Value} (h : List.Forall₂ Fits fmt vs) :
    ∃ b, pack fmt vs = some b ∧ b.length = calcsize fmt ∧
      ∀ pre post, unpackFrom fmt (pre ++ b ++ post) pre.length = some vs := by
  obtain ⟨b, hb, hlen, hun⟩ := pack_of_fits h
  refine ⟨b, hb, hlen, fun pre post => ?_⟩
  rw [unpackFrom, if_pos (by simp only [List.length_append]; omega), List.append_assoc,
    List.drop_left, hun]

end Struct
