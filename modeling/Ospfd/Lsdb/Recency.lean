import Mathlib.Data.Prod.Lex
import Ospfd.Lsdb.Database

/-!
# Which instance is more recent

* `recency` — signed sequence number, then checksum; the order of the instances of
  one LSA that differ in one of them.
* `compareLsa_pos_iff` — on such instances, `compare_lsa` decides that order.
* `Fresher` — what the ages decide where the rest agrees; `compareLsa_pos_iff_lex` — the whole order.
* `compareLsa_pos_trans_le` — **newer than something at least as recent is at least
  as recent**, ages included.
* `compareLsa_sound` — **`compare_lsa` is a sound order of recency**.
-/

namespace Ospfd

theorem signed32_injOn {a b : Nat} (ha : a < 4294967296) (hb : b < 4294967296)
    (h : signed32 a = signed32 b) : a = b := by
  unfold signed32 at h
  split at h <;> split at h <;> omega

/-- Signed sequence number, then checksum. -/
def recency (h : LsaHeader) : Int ×ₗ Nat := toLex (signed32 h.lsSequenceNumber, h.lsChecksum)

/-- Sequence number and checksum decide between two instances. -/
def SameRank (a b : LsaHeader) : Prop :=
  a.lsSequenceNumber = b.lsSequenceNumber ∧ a.lsChecksum = b.lsChecksum

instance (a b : LsaHeader) : Decidable (SameRank a b) := inferInstanceAs (Decidable (_ ∧ _))

theorem recency_lt_iff {a b : LsaHeader} : recency a < recency b ↔
    signed32 a.lsSequenceNumber < signed32 b.lsSequenceNumber ∨
      signed32 a.lsSequenceNumber = signed32 b.lsSequenceNumber ∧ a.lsChecksum < b.lsChecksum :=
  Prod.Lex.lt_iff

theorem compareLsa_self (h : LsaHeader) : compareLsa h h = 0 := by
  have hage : ((h.lsAge : Int) - h.lsAge).natAbs = 0 := by simp
  simp only [compareLsa, hage, maxAgeDiff]
  split_ifs <;> first | rfl | omega

/-- On instances that differ in sequence number or checksum, `compare_lsa` decides
their recency. -/
theorem compareLsa_pos_iff {a b : LsaHeader} (ha : a.lsSequenceNumber < 4294967296)
    (hb : b.lsSequenceNumber < 4294967296) (hne : ¬SameRank a b) :
    0 < compareLsa a b ↔ recency b < recency a := by
  rw [recency_lt_iff, compareLsa]
  by_cases hseq : a.lsSequenceNumber = b.lsSequenceNumber
  · have hck : a.lsChecksum ≠ b.lsChecksum := fun h => hne ⟨hseq, h⟩
    rw [if_neg (by simpa using hseq), if_pos hck, hseq]
    omega
  · have hs : signed32 a.lsSequenceNumber ≠ signed32 b.lsSequenceNumber :=
      fun h => hseq (signed32_injOn ha hb h)
    rw [if_pos hseq]
    split
    · exact ⟨fun _ => Or.inl (by omega), fun _ => by omega⟩
    · refine ⟨fun h => by omega, fun h => ?_⟩
      rcases h with h | h
      · omega
      · exact absurd h.1.symm hs

/-! ## The order as a whole -/

/-- Of two instances of one rank, the first is newer by its age: it alone has reached MaxAge,
or it is younger by more than MaxAgeDiff. -/
def Fresher (a b : LsaHeader) : Prop :=
  maxAge ≤ a.lsAge ∧ b.lsAge < maxAge ∨
    (maxAge ≤ a.lsAge ↔ maxAge ≤ b.lsAge) ∧ a.lsAge + maxAgeDiff < b.lsAge

section Order

variable {a b c : LsaHeader}

theorem Fresher.trans (hab : Fresher a b) (hbc : Fresher b c) : Fresher a c := by
  simp only [Fresher, maxAge, maxAgeDiff] at *
  omega

/-- The gap of MaxAgeDiff is not lost between instances of which neither is fresher. -/
theorem Fresher.not_of_same (hab : Fresher a b) (hbc : ¬Fresher b c) (hcb : ¬Fresher c b) :
    ¬Fresher c a := by
  simp only [Fresher, maxAge, maxAgeDiff] at *
  omega

theorem recency_eq_iff (ha : a.lsSequenceNumber < 4294967296) (hb : b.lsSequenceNumber < 4294967296) :
    recency a = recency b ↔ SameRank a b := by
  rw [recency, recency, toLex_inj, Prod.mk.injEq, SameRank]
  refine and_congr_left fun _ => ⟨signed32_injOn ha hb, fun h => ?_⟩
  rw [h]

/-- Instances of one rank are compared by age. -/
theorem compareLsa_pos_iff_fresher (h : SameRank a b) : 0 < compareLsa a b ↔ Fresher a b := by
  rw [compareLsa, if_neg (by simpa using h.1), if_neg (by simpa using h.2)]
  simp only [Fresher, maxAge, maxAgeDiff]
  split_ifs <;> omega

/-- **The newer of two instances**: by rank, then by age. -/
theorem compareLsa_pos_iff_lex (ha : a.lsSequenceNumber < 4294967296)
    (hb : b.lsSequenceNumber < 4294967296) :
    0 < compareLsa a b ↔ recency b < recency a ∨ recency a = recency b ∧ Fresher a b := by
  by_cases h : SameRank a b
  · rw [compareLsa_pos_iff_fresher h, (recency_eq_iff ha hb).2 h]
    simp
  · rw [compareLsa_pos_iff ha hb h, recency_eq_iff ha hb]
    simp [h]

/-- Turned round, a comparison comes out the other way. -/
theorem compareLsa_neg_iff (ha : a.lsSequenceNumber < 4294967296)
    (hb : b.lsSequenceNumber < 4294967296) : compareLsa a b < 0 ↔ 0 < compareLsa b a := by
  by_cases hseq : a.lsSequenceNumber = b.lsSequenceNumber
  · simp only [compareLsa, hseq, ne_eq, not_true_eq_false, if_false, maxAge, maxAgeDiff]
    split_ifs <;> omega
  · have hs : signed32 a.lsSequenceNumber ≠ signed32 b.lsSequenceNumber :=
      fun h => hseq (signed32_injOn ha hb h)
    rw [compareLsa, compareLsa, if_pos hseq, if_pos (Ne.symm hseq)]
    split_ifs <;> omega

theorem compareLsa_eq_zero_iff (ha : a.lsSequenceNumber < 4294967296)
    (hb : b.lsSequenceNumber < 4294967296) :
    compareLsa a b = 0 ↔ ¬0 < compareLsa a b ∧ ¬0 < compareLsa b a := by
  rw [← compareLsa_neg_iff ha hb]
  omega

theorem compareLsa_pos_trans (ha : a.lsSequenceNumber < 4294967296)
    (hb : b.lsSequenceNumber < 4294967296) (hc : c.lsSequenceNumber < 4294967296)
    (hab : 0 < compareLsa a b) (hbc : 0 < compareLsa b c) : 0 < compareLsa a c := by
  rw [compareLsa_pos_iff_lex ha hb] at hab
  rw [compareLsa_pos_iff_lex hb hc] at hbc
  rw [compareLsa_pos_iff_lex ha hc]
  rcases hab with hab | ⟨heq, hab⟩
  · refine Or.inl ?_
    rcases hbc with hbc | ⟨heq, -⟩
    · exact hbc.trans hab
    · rwa [← heq]
  · rcases hbc with hbc | ⟨heq', hbc⟩
    · exact Or.inl (heq ▸ hbc)
    · exact Or.inr ⟨heq.trans heq', hab.trans hbc⟩

/-- **Newer than something at least as recent is at least as recent.** -/
theorem compareLsa_pos_trans_le (ha : a.lsSequenceNumber < 4294967296)
    (hb : b.lsSequenceNumber < 4294967296) (hc : c.lsSequenceNumber < 4294967296)
    (hab : 0 < compareLsa a b) (hbc : 0 ≤ compareLsa b c) : 0 ≤ compareLsa a c := by
  rw [← not_lt, compareLsa_neg_iff hb hc] at hbc
  rw [← not_lt, compareLsa_neg_iff ha hc]
  exact fun hca => hbc (compareLsa_pos_trans hc ha hb hca hab)

/-- An instance that is newer than another is not older than one that counts as the other. -/
theorem compareLsa_not_cycle (ha : a.lsSequenceNumber < 4294967296)
    (hb : b.lsSequenceNumber < 4294967296) (hc : c.lsSequenceNumber < 4294967296)
    (hab : 0 < compareLsa a b) (hbc : compareLsa b c = 0) : ¬0 < compareLsa c a := by
  rw [compareLsa_eq_zero_iff hb hc, compareLsa_pos_iff_lex hb hc, compareLsa_pos_iff_lex hc hb] at hbc
  obtain ⟨hnew, hold⟩ := hbc
  -- the two that count as the same are of one rank
  have hrank : recency b = recency c :=
    le_antisymm (not_lt.1 fun h => hnew (Or.inl h)) (not_lt.1 fun h => hold (Or.inl h))
  have hbc : ¬Fresher b c := fun h => hnew (Or.inr ⟨hrank, h⟩)
  have hcb : ¬Fresher c b := fun h => hold (Or.inr ⟨hrank.symm, h⟩)
  rw [compareLsa_pos_iff_lex ha hb, hrank] at hab
  rw [compareLsa_pos_iff_lex hc ha]
  rintro (hca | ⟨heq, hca⟩)
  · rcases hab with hab | ⟨heq, -⟩
    · exact hab.asymm hca
    · exact hca.ne heq
  · rcases hab with hab | ⟨-, hab⟩
    · exact hab.ne heq
    · exact hab.not_of_same hbc hcb hca

/-- **`compare_lsa` is a sound order of recency.**  Turned round it changes its sign, what is newer
than something newer is newer, two instances that differ in sequence number or checksum have
a newer one, and no instance is newer than one that counts as newer than it. -/
theorem compareLsa_sound (ha : a.WireRange) (hb : b.WireRange) (hc : c.WireRange) :
    (compareLsa a b).sign = -(compareLsa b a).sign ∧
    (0 < compareLsa a b → 0 < compareLsa b c → 0 < compareLsa a c) ∧
    (a.lsSequenceNumber ≠ b.lsSequenceNumber ∨ a.lsChecksum ≠ b.lsChecksum →
      Xor (0 < compareLsa a b) (0 < compareLsa b a)) ∧
    ¬(0 < compareLsa a b ∧ compareLsa b c = 0 ∧ 0 < compareLsa c a) := by
  have hseqa := ha.lsSequenceNumber
  have hseqb := hb.lsSequenceNumber
  have hseqc := hc.lsSequenceNumber
  have hneg := compareLsa_neg_iff hseqa hseqb
  have hneg' := compareLsa_neg_iff hseqb hseqa
  refine ⟨?_, compareLsa_pos_trans hseqa hseqb hseqc, fun hne => ?_, ?_⟩
  · rcases lt_trichotomy (compareLsa a b) 0 with h | h | h
    · rw [Int.sign_eq_neg_one_of_neg h, Int.sign_eq_one_of_pos (hneg.1 h)]
    · have h' : compareLsa b a = 0 := by omega
      rw [h, h']
      rfl
    · rw [Int.sign_eq_one_of_pos h, Int.sign_eq_neg_one_of_neg (hneg'.2 h)]
      rfl
  · have hrank : ¬SameRank a b := fun h => hne.elim (fun hs => hs h.1) fun hck => hck h.2
    have hrank' : ¬SameRank b a := fun h => hrank ⟨h.1.symm, h.2.symm⟩
    rw [compareLsa_pos_iff hseqa hseqb hrank, compareLsa_pos_iff hseqb hseqa hrank']
    rcases lt_or_gt_of_ne fun h => hrank ((recency_eq_iff hseqa hseqb).1 h) with h | h
    · exact Or.inr ⟨h, h.asymm⟩
    · exact Or.inl ⟨h, h.asymm⟩
  · exact fun h => compareLsa_not_cycle hseqa hseqb hseqc h.1 h.2.1 h.2.2

end Order

/-- An instance of a given age, all else equal. -/
def agedHeader (lsAge : Nat) : LsaHeader := ⟨lsAge, optE, lsaTypeRouter, 1, 1, 5, 7, 24⟩

theorem wireRange_agedHeader {lsAge : Nat} (h : lsAge < 65536) : (agedHeader lsAge).WireRange where
  lsAge := h
  options := by simp [agedHeader, optE]
  lsType := by simp [agedHeader, lsaTypeRouter]
  lsSequenceNumber := by simp [agedHeader]
  lsChecksum := by simp [agedHeader]
  length := by simp [agedHeader]

/-- Counting as the same is not passed on, but makes no cycle. -/
theorem compareLsa_sound_ages :
    (0 < compareLsa (agedHeader 500) (agedHeader 1900) ∧
      compareLsa (agedHeader 1900) (agedHeader 1000) = 0 ∧
      compareLsa (agedHeader 1000) (agedHeader 500) = 0) ∧
    ¬(0 < compareLsa (agedHeader 500) (agedHeader 1900) ∧
      compareLsa (agedHeader 1900) (agedHeader 1000) = 0 ∧
      0 < compareLsa (agedHeader 1000) (agedHeader 500)) :=
  ⟨by decide, (compareLsa_sound (wireRange_agedHeader (by decide)) (wireRange_agedHeader (by decide))
    (wireRange_agedHeader (by decide))).2.2.2⟩

end Ospfd
