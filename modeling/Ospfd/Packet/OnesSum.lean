import Mathlib.Logic.Function.Iterate
import Ospfd.Packet.Fletcher

/-!
# The ones-complement checksum of a packet

Folding carries is addition modulo `2 ^ 16 - 1`, and a byte of a string counts in its sum by its
place in the word.

* `carryStep`, `foldCarries_eq_iterate` — the rounds of the folding loop, which come to an end.
* `placeValue`, `sum_words16_replace` — one byte for another changes the sum by their difference,
  shifted by eight bits for the high byte of a word.
* `not_verify_of_replace` — **one byte for another is detected**.
* `verify_filled` — **a string with the checksum filled in verifies**.
* `ipChecksum_detects` — both, for every string.
-/

namespace Ospfd

/-! ## The folding loop -/

/-- One round of the folding loop. -/
def carryStep (total : Nat) : Nat := total % 65536 + total / 65536

/-- **The folding loop ends**, after as many rounds as there is a carry. -/
theorem foldCarries_eq_iterate (total : Nat) : ∃ n, foldCarries total = carryStep^[n] total ∧
    carryStep^[n] total < 65536 ∧ ∀ k < n, 65536 ≤ carryStep^[k] total := by
  fun_induction foldCarries total with
  | case1 total hcarry ih =>
    obtain ⟨n, heq, hlt, hge⟩ := ih
    refine ⟨n + 1, heq, hlt, fun k hk => ?_⟩
    cases k with
    | zero => exact hcarry
    | succ k => exact hge k (Nat.lt_of_succ_lt_succ hk)
  | case2 total hlt => exact ⟨0, rfl, Nat.not_le.1 hlt, fun k hk => absurd hk (Nat.not_lt_zero k)⟩

/-! ## One byte for another -/

/-- What a byte at a position counts by: the bytes at even positions are the high ones. -/
def placeValue (i : Nat) : Nat := if i % 2 = 0 then 256 else 1

theorem placeValue_eq (i : Nat) : placeValue i = 256 ∨ placeValue i = 1 := by
  rw [placeValue]
  split
  · exact Or.inl rfl
  · exact Or.inr rfl

theorem sum_words16_cons_cons (x y : UInt8) (rest : Bytes) :
    (words16 (padEven (x :: y :: rest))).sum = x.toNat * 256 + y.toNat + (words16 (padEven rest)).sum := by
  have hsplit := sum_words16_append (a := [x, y]) (b := rest) (by simp)
  rw [List.cons_append, List.singleton_append] at hsplit
  rw [hsplit]
  simp [words16]

/-- The first byte of a string counts as a high one. -/
theorem sum_words16_cons (rest : Bytes) : ∃ c, ∀ x : UInt8,
    (words16 (padEven (x :: rest))).sum = x.toNat * 256 + c := by
  cases rest with
  | nil => exact ⟨0, fun x => by simp [padEven, words16]⟩
  | cons y rest =>
    refine ⟨y.toNat + (words16 (padEven rest)).sum, fun x => ?_⟩
    rw [sum_words16_cons_cons, Nat.add_assoc]

/-- **What a byte counts in the sum of a string.** -/
theorem sum_words16_replace (pre rest : Bytes) : ∃ c, ∀ x : UInt8,
    (words16 (padEven (pre ++ x :: rest))).sum = x.toNat * placeValue pre.length + c := by
  rcases Nat.mod_two_eq_zero_or_one pre.length with heven | hodd
  · obtain ⟨c, hc⟩ := sum_words16_cons rest
    refine ⟨(words16 pre).sum + c, fun x => ?_⟩
    rw [sum_words16_append heven, hc, placeValue, if_pos heven]
    omega
  · -- the byte is the low one of the word that the last byte before it begins
    obtain ⟨pre, w, rfl⟩ : ∃ (pre' : Bytes) (w : UInt8), pre = pre' ++ [w] :=
      ⟨pre.dropLast, pre.getLast (by rintro rfl; simp at hodd), (List.dropLast_concat_getLast _).symm⟩
    rw [List.length_append, List.length_singleton] at hodd
    refine ⟨(words16 pre).sum + w.toNat * 256 + (words16 (padEven rest)).sum, fun x => ?_⟩
    rw [List.append_assoc, List.singleton_append, sum_words16_append (by omega), sum_words16_cons_cons,
      placeValue, List.length_append, List.length_singleton, if_neg (by omega)]
    omega

/-- **One byte for another is detected.** -/
theorem not_verify_of_replace {pre rest : Bytes} {x y : UInt8} (hne : x ≠ y)
    (h : verifyIpChecksum (pre ++ x :: rest) = true) : verifyIpChecksum (pre ++ y :: rest) = false := by
  obtain ⟨c, hc⟩ := sum_words16_replace pre rest
  have hx := x.toNat_lt
  have hy := y.toNat_lt
  have hdiff : x.toNat ≠ y.toNat := fun heq => hne (UInt8.toNat_inj.1 heq)
  rw [Bool.eq_false_iff]
  intro h'
  rw [verifyIpChecksum_iff, hc] at h h'
  -- neither 1 nor 256 times a difference of bytes is a multiple of 65535
  rcases placeValue_eq pre.length with hplace | hplace
  · rw [hplace] at h h'
    omega
  · rw [hplace] at h h'
    omega

/-! ## Filling in -/

/-- A string is cut at a field of two bytes. -/
theorem eq_append_slice (data : Bytes) (o : Nat) :
    data = data.take o ++ Bytes.slice data o (o + 2) ++ data.drop (o + 2) := by
  have hfield : data.take o ++ Bytes.slice data o (o + 2) = data.take (o + 2) := by
    rw [Bytes.slice, Nat.add_sub_cancel_left]
    exact (List.take_add (j := 2)).symm
  rw [hfield, List.take_append_drop]

/-- **A string with the checksum filled in verifies.** -/
theorem verify_filled {data : Bytes} {o : Nat} (heven : o % 2 = 0) (h : o + 2 ≤ data.length)
    (hzero : Bytes.slice data o (o + 2) = [0, 0]) :
    verifyIpChecksum (Bytes.overwrite data o (Bytes.ofNat 2 (ipChecksum data))) = true := by
  have hlen : (data.take o).length = o := List.length_take_of_le (by omega)
  have hcut := eq_append_slice data o
  rw [hzero] at hcut
  have hwritten := Bytes.overwrite_append_append (data.take o) [0, 0] (data.drop (o + 2))
    (show (Bytes.ofNat 2 (ipChecksum data)).length = ([0, 0] : Bytes).length by simp)
  rw [← hcut, hlen] at hwritten
  have hfront : (data.take o).length % 2 = 0 := by rw [hlen, heven]
  have hverify := verifyIpChecksum_of_field (data.drop (o + 2)) hfront
  dsimp only at hverify
  rw [← hcut] at hverify
  rw [hwritten, Bytes.ofNat_two]
  exact hverify

/-- **The ones-complement checksum.**  Written big-endian into a zero field at an even position it
makes a string verify; its carries are folded in finitely many rounds; and a string that verifies
does not any more when a single byte of it is changed. -/
theorem ipChecksum_detects (data : Bytes) :
    (∀ o, o % 2 = 0 → o + 2 ≤ data.length → Bytes.slice data o (o + 2) = [0, 0] →
      verifyIpChecksum (Bytes.overwrite data o (Bytes.ofNat 2 (ipChecksum data))) = true) ∧
    (∃ n, onesSum data = carryStep^[n] (words16 (padEven data)).sum ∧
      carryStep^[n] (words16 (padEven data)).sum < 65536 ∧
      ∀ k < n, 65536 ≤ carryStep^[k] (words16 (padEven data)).sum) ∧
    (verifyIpChecksum data = true → ∀ i, ∀ h : i < data.length, ∀ b : UInt8, data[i] ≠ b →
      verifyIpChecksum (data.set i b) = false) := by
  refine ⟨fun o => verify_filled, foldCarries_eq_iterate _, fun hverify i h b hne => ?_⟩
  have hpre : (data.take i).length = i := List.length_take_of_le h.le
  have hcut : data = data.take i ++ data[i] :: data.drop (i + 1) := by
    rw [List.getElem_cons_drop, List.take_append_drop]
  have hset : data.set i b = data.take i ++ b :: data.drop (i + 1) := by
    rw [← set_append_cons hpre (data.drop (i + 1)) data[i] b, ← hcut]
  rw [hcut] at hverify
  rw [hset]
  exact not_verify_of_replace hne hverify

/-- A packet of zeros of odd length, and the same with the checksum filled in. -/
theorem ipChecksum_detects_zeros :
    verifyIpChecksum (Bytes.overwrite (List.replicate 5 0) 2 (Bytes.ofNat 2 (ipChecksum (List.replicate 5 0)))) =
      true ∧ verifyIpChecksum (([1, 0, 254, 255] : Bytes).set 1 3) = false :=
  ⟨(ipChecksum_detects (List.replicate 5 0)).1 2 (by decide) (by decide) (by decide),
    (ipChecksum_detects [1, 0, 254, 255]).2.2
      ((verifyIpChecksum_iff _).2 (by decide)) 1 (by decide) 3 (by decide)⟩

end Ospfd
