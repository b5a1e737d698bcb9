import Ospfd.Lsdb.FightBack
import Ospfd.Lsdb.Packable

/-!
# Renewal of an LSA

The next instance of an LSA of this router has the next sequence number, in the signed order in
which instances are compared.

* `Renewable` — an LSA that may be renewed: not the last of its numbers, and not renewed just now.
* `Renewed` — a newer instance, with the next number, took its place.
* `nextSeqNum_eq` — the number that follows, up to the largest one as an unsigned number.
* `originate_renews` — with this number the LSA is renewed.
* `renewed_iff` — **exactly the LSAs with a number that is not negative are renewed**.
-/

namespace Ospfd

/-- An LSA of this router in the database, with a number below the largest one, when nothing was
installed or originated under its key for a while. -/
structure Renewable (s : Instance) (areaId : IPv4Address) (r : LsaRef) : Prop where
  allocated : r < s.heap.next
  stored : s.lsdb.lookup areaId (s.heap.obj r).key = some r
  packable : (s.heap.obj r).Packable
  own : (s.heap.obj r).header.advertisingRouter = s.routerId
  owner : s.lsdb.routerId = s.routerId
  below : signed32 (s.heap.obj r).header.lsSequenceNumber < maxSeqNum
  origination : minLsInterval ≤ s.now - lastOriginationOf s (s.heap.obj r).key
  arrival : minLsArrival ≤ s.now - s.lsdb.arrivalOf (s.heap.obj r).key

/-- The body can be encoded, and fits an LSA. -/
def Encodable (lsa : Lsa) : Prop := ∃ b, lsa.bodyBytes = .ok b ∧ LsaHeader.size + b.length < 65536

/-- A newer instance with the next number, stored as an unsigned 32-bit one, took the place of `r`. -/
def Renewed (s t : Instance) (areaId : IPv4Address) (r : LsaRef) : Prop :=
  ∃ x, t.lsdb.lookup areaId (s.heap.obj r).key = some x ∧
    (t.heap.obj x).header.lsSequenceNumber < 4294967296 ∧
    signed32 (t.heap.obj x).header.lsSequenceNumber =
      signed32 (s.heap.obj r).header.lsSequenceNumber + 1 ∧
    0 < compareLsa (t.heap.obj x).header (s.heap.obj r).header

/-! ## The number -/

theorem nextSeqNum_eq_some {n : Nat} (h : signed32 n < maxSeqNum) (hpos : 0 ≤ signed32 n)
    (hn : n < 4294967296) :
    nextSeqNum n = some (n + 1) ∧ n + 1 < 4294967296 ∧ signed32 (n + 1) = signed32 n + 1 := by
  simp only [signed32, maxSeqNum] at h hpos
  have hmax : n + 1 ≤ 2147483647 := by
    split at h <;> split at hpos <;> omega
  refine ⟨if_neg (Nat.not_lt.2 hmax), by omega, ?_⟩
  rw [signed32, signed32, if_pos (by omega), if_pos (by omega)]
  omega

/-- After a negative number there is none. -/
theorem nextSeqNum_eq_none {n : Nat} (hneg : signed32 n < 0) : nextSeqNum n = none := by
  have hn : 2147483647 < n + 1 := by
    simp only [signed32] at hneg
    split at hneg <;> omega
  exact if_pos hn

/-- The next number makes a newer instance. -/
theorem compareLsa_pos_of_succ {a b : LsaHeader}
    (h : signed32 a.lsSequenceNumber = signed32 b.lsSequenceNumber + 1) : 0 < compareLsa a b := by
  have hne : a.lsSequenceNumber ≠ b.lsSequenceNumber := by
    intro heq
    rw [heq] at h
    omega
  rw [compareLsa, if_pos hne, if_pos (by omega)]
  decide

/-! ## The next instance -/

section Draft

variable {s : Instance} {areaId : IPv4Address} {lsa : Lsa}

/-- Drafting leaves the other objects alone. -/
theorem obj_drafted {r : LsaRef} (h : r < s.heap.next) : (s.drafted lsa).heap.obj r = s.heap.obj r := by
  have hne : r ≠ s.heap.next := Nat.ne_of_lt h
  rw [Instance.drafted]
  dsimp only
  rw [LsaHeap.obj_set_of_ne _ hne]
  exact Function.update_of_ne hne ..

/-- An origination that is not refused puts the draft into its place. -/
theorem lookup_originated
    (h : (s.lsdb.decision (s.drafted lsa).heap s.now areaId (lsa.serialize s.now).2).1 = true) :
    (s.originated areaId lsa).lsdb.lookup areaId lsa.key = some s.heap.next ∧
      ((s.originated areaId lsa).heap.obj s.heap.next).header = (lsa.serialize s.now).2.header ∧
      s.heap.next < (s.originated areaId lsa).heap.next := by
  have hnew := s.obj_drafted_self lsa
  have hkey := (Lsa.serialize_sameInstance lsa s.now).key
  have hanswer : (s.lsdb.install (s.drafted lsa).heap s.now areaId s.heap.next).1.1 = true := by
    rw [LinkStateDatabase.install_answer, hnew, h]
  refine ⟨?_, ?_, ?_⟩
  · change (s.lsdb.install _ s.now areaId s.heap.next).2.1.lookup areaId _ = _
    rw [LinkStateDatabase.lookup_install, hnew, hkey, if_pos ⟨hanswer, rfl, .inr rfl⟩]
  · change ((s.lsdb.install _ s.now areaId s.heap.next).2.2.obj s.heap.next).header = _
    rw [LinkStateDatabase.obj_install, if_pos ⟨hanswer, rfl⟩, hnew]
    rfl
  · change s.heap.next < (s.lsdb.install _ s.now areaId s.heap.next).2.2.next
    rw [LinkStateDatabase.next_install]
    exact Nat.lt_succ_self _

end Draft

/-- The draft of the next instance of an LSA. -/
def nextDraft (s : Instance) (r : LsaRef) (body : Option LsaBody) (n : Nat) : Lsa :=
  { header := originatedHeader s (s.heap.obj r).header.lsType (s.heap.obj r).header.linkStateId n, body }

namespace Renewable

variable {s : Instance} {areaId : IPv4Address} {r : LsaRef} {body : Option LsaBody} {n : Nat}

theorem key_eq (h : Renewable s areaId r) : (s.heap.obj r).key =
    ⟨(s.heap.obj r).header.lsType, (s.heap.obj r).header.linkStateId, s.routerId⟩ := by
  rw [← h.own]
  rfl

theorem key_nextDraft (h : Renewable s areaId r) : (nextDraft s r body n).key = (s.heap.obj r).key := by
  rw [h.key_eq]
  rfl

theorem serialize_nextDraft (h : Renewable s areaId r) (hbody : Encodable (nextDraft s r body n))
    (hn : n < 4294967296) : ∃ bytes, ((nextDraft s r body n).serialize s.now).1 = .ok bytes := by
  have hwire : (nextDraft s r body n).header.WireRange :=
    ⟨Nat.zero_lt_succ _, Nat.lt_of_sub_eq_succ rfl, h.packable.header.lsType, hn, Nat.zero_lt_succ _,
      Nat.zero_lt_succ _⟩
  obtain ⟨b, hb, hlen⟩ := hbody
  obtain ⟨hdr, c, -, -, -, -, hser⟩ := Lsa.serialize_eq s.now hwire hb hlen
  rw [hser]
  exact ⟨_, rfl⟩

/-- With the next number the draft is installed. -/
theorem decision_nextDraft (h : Renewable s areaId r)
    (hnext : signed32 n = signed32 (s.heap.obj r).header.lsSequenceNumber + 1) :
    (s.lsdb.decision (s.drafted (nextDraft s r body n)).heap s.now areaId
      ((nextDraft s r body n).serialize s.now).2).1 = true := by
  have hsame := Lsa.serialize_sameInstance (nextDraft s r body n) s.now
  have hkey : ((nextDraft s r body n).serialize s.now).2.key = (s.heap.obj r).key := by
    rw [hsame.key, h.key_nextDraft]
  have hstored : s.lsdb.lookup areaId ((nextDraft s r body n).serialize s.now).2.key = some r := by
    rw [hkey, h.stored]
  refine (LinkStateDatabase.decision_of_some hstored).2 ⟨?_, ?_⟩
  · rw [obj_drafted h.allocated]
    refine compareLsa_pos_of_succ ?_
    rw [hsame.lsSequenceNumber]
    exact hnext
  · rw [hkey]
    exact h.arrival

/-- **With the next number the LSA is renewed.** -/
theorem originateWith_renews (h : Renewable s areaId r) (hbody : Encodable (nextDraft s r body n))
    (hn : n < 4294967296) (hnext : signed32 n = signed32 (s.heap.obj r).header.lsSequenceNumber + 1) :
    Renewed s (originateWith areaId (s.heap.obj r).header.lsType (s.heap.obj r).header.linkStateId body n
      s).2 areaId r := by
  obtain ⟨bytes, hser⟩ := h.serialize_nextDraft hbody hn
  have hdec : (s.lsdb.decision (s.drafted (nextDraft s r body n)).heap s.now areaId
      ((nextDraft s r body n).serialize s.now).2).1 = true := h.decision_nextDraft hnext
  obtain ⟨hlook, hobj, hlt⟩ := lookup_originated hdec
  have hrun : (originateWith areaId (s.heap.obj r).header.lsType (s.heap.obj r).header.linkStateId body n
      s).2 = (floodLsa s.heap.next areaId none (s.originated areaId (nextDraft s r body n))).2 := by
    rw [originateWith_eq areaId _ _ body n s rfl]
    rw [← nextDraft, hser]
    exact if_pos hdec
  -- flooding leaves it in place
  have hstore := floodLsa_sameStore s.heap.next areaId none (s.originated areaId (nextDraft s r body n))
  have hgrows := (floodLsa_within s.heap.next areaId none (s.originated areaId (nextDraft s r body n))).grows
  have hseq : ((floodLsa s.heap.next areaId none (s.originated areaId (nextDraft s r body n))).2.heap.obj
      s.heap.next).header.lsSequenceNumber = n := by
    rw [(hgrows.same _ hlt).lsSequenceNumber, hobj]
    exact (Lsa.serialize_sameInstance (nextDraft s r body n) s.now).lsSequenceNumber
  rw [hrun]
  refine ⟨s.heap.next, ?_, ?_, ?_, compareLsa_pos_of_succ ?_⟩
  · rw [hstore.lsdb, ← h.key_nextDraft, hlook]
  · rw [hseq]
    exact hn
  · rw [hseq]
    exact hnext
  · rw [hseq]
    exact hnext

theorem notSoon (h : Renewable s areaId r) : ¬s.now - lastOriginationOf s
    ⟨(s.heap.obj r).header.lsType, (s.heap.obj r).header.linkStateId, s.routerId⟩ < minLsInterval := by
  rw [← h.key_eq]
  exact Nat.not_lt.2 h.origination

theorem isSelfOriginated (h : Renewable s areaId r) : s.lsdb.isSelfOriginated (s.heap.obj r) = true := by
  rw [LinkStateDatabase.isSelfOriginated, h.owner]
  exact decide_eq_true h.own

/-- `_originate` with the number that a refresh gives it, or the one it chooses itself. -/
theorem originate_eq (h : Renewable s areaId r)
    (hnext : nextSeqNum (s.heap.obj r).header.lsSequenceNumber = some n) {seqNum : Option Nat}
    (hseq : seqNum = some n ∨ seqNum = none) :
    originate areaId (s.heap.obj r).header.lsType (s.heap.obj r).header.linkStateId body seqNum s =
      originateWith areaId (s.heap.obj r).header.lsType (s.heap.obj r).header.linkStateId body n s := by
  rw [originate, Eff.get_bind_apply, if_neg h.notSoon]
  rcases hseq with rfl | rfl
  · rfl
  · have hchoose : chooseSeqNum s areaId
        ⟨(s.heap.obj r).header.lsType, (s.heap.obj r).header.linkStateId, s.routerId⟩ = some n := by
      rw [chooseSeqNum, ← h.key_eq, h.stored]
      dsimp only
      rw [if_pos h.isSelfOriginated, hnext]
    dsimp only
    rw [hchoose]

theorem refreshLsa_eq (h : Renewable s areaId r) : refreshLsa areaId r s =
    (match nextSeqNum (s.heap.obj r).header.lsSequenceNumber with
      | none => pure none
      | some n => originate areaId (s.heap.obj r).header.lsType (s.heap.obj r).header.linkStateId
          (s.heap.obj r).body (some n) : Py (Option LsaRef)) s := by
  rw [refreshLsa, Eff.get_bind_apply, h.stored]
  dsimp only
  exact congrFun (if_neg (not_not.2 h.isSelfOriginated)) s

/-- **After a negative number the LSA stays as it is.** -/
theorem refused (h : Renewable s areaId r) (hneg : signed32 (s.heap.obj r).header.lsSequenceNumber < 0) :
    (refreshLsa areaId r s).2 = s := by
  rw [h.refreshLsa_eq, nextSeqNum_eq_none hneg]
  rfl

end Renewable

/-- **A refresh and an origination both renew the LSA exactly when its number is not negative.** -/
theorem renewed_iff {s : Instance} {areaId : IPv4Address} {r : LsaRef} (h : Renewable s areaId r)
    {body : Option LsaBody} (hbody : Encodable { s.heap.obj r with body }) :
    (Renewed s (refreshLsa areaId r s).2 areaId r ∧
      Renewed s (originate areaId (s.heap.obj r).header.lsType (s.heap.obj r).header.linkStateId body none
        s).2 areaId r) ↔
      0 ≤ signed32 (s.heap.obj r).header.lsSequenceNumber := by
  constructor
  · rintro ⟨hrefresh, -⟩
    by_contra hneg
    rw [h.refused (Int.not_le.1 hneg)] at hrefresh
    obtain ⟨x, hlook, -, hseq, -⟩ := hrefresh
    rw [h.stored] at hlook
    cases hlook
    omega
  · intro hpos
    obtain ⟨hnext, hn, hsucc⟩ := nextSeqNum_eq_some h.below hpos h.packable.header.lsSequenceNumber
    constructor
    · rw [h.refreshLsa_eq, hnext]
      dsimp only
      rw [h.originate_eq hnext (.inl rfl)]
      exact h.originateWith_renews h.packable.body hn hsucc
    · rw [h.originate_eq hnext (.inr rfl)]
      exact h.originateWith_renews hbody hn hsucc

/-! ### The first number -/

/-- A Router-LSA of router 1 without links. -/
def ownLsa (seqNum : Nat) : Lsa :=
  (Lsa.serialize
    { header := originatedHeader (linkRouter .none) lsaTypeRouter 1 seqNum,
      body := some (.router { flags := 0, numLinks := 0, links := [] }) } 0).2

/-- Router 1, six seconds after it was installed. -/
def ownStored (seqNum : Nat) : Instance :=
  { (installLsa backboneArea 0 (newLsa (ownLsa seqNum) (linkRouter .none)).2).2 with now := 6 * second }

theorem renewable_initial : Renewable (ownStored initialSeqNum) backboneArea 0 where
  allocated := by decide +kernel
  stored := by decide +kernel
  packable := ⟨⟨by decide +kernel, by decide +kernel, by decide +kernel, by decide +kernel, by decide +kernel,
    by decide +kernel⟩, _, rfl, by decide +kernel⟩
  own := by decide +kernel
  owner := by decide +kernel
  below := by decide +kernel
  origination := by decide +kernel
  arrival := by decide +kernel

theorem renewable_five : Renewable (ownStored 5) backboneArea 0 where
  allocated := by decide +kernel
  stored := by decide +kernel
  packable := ⟨⟨by decide +kernel, by decide +kernel, by decide +kernel, by decide +kernel, by decide +kernel,
    by decide +kernel⟩, _, rfl, by decide +kernel⟩
  own := by decide +kernel
  owner := by decide +kernel
  below := by decide +kernel
  origination := by decide +kernel
  arrival := by decide +kernel

/-- An LSA with the number it was first originated with is never renewed. -/
theorem not_renewed : ¬∀ (s : Instance) (areaId : IPv4Address) (r : LsaRef) (body : Option LsaBody),
    Renewable s areaId r → Encodable { s.heap.obj r with body } →
      Renewed s (refreshLsa areaId r s).2 areaId r ∧
        Renewed s (originate areaId (s.heap.obj r).header.lsType (s.heap.obj r).header.linkStateId body none
          s).2 areaId r := by
  intro hall
  obtain ⟨⟨x, hlook, -, hseq, -⟩, -⟩ := hall _ _ _ ((ownStored initialSeqNum).heap.obj 0).body
    renewable_initial renewable_initial.packable.body
  rw [renewable_initial.refused (by decide +kernel), renewable_initial.stored] at hlook
  rw [renewable_initial.refused (by decide +kernel)] at hseq
  cases hlook
  omega

theorem renewed_five : Renewed (ownStored 5) (refreshLsa backboneArea 0 (ownStored 5)).2 backboneArea 0 :=
  ((renewed_iff renewable_five renewable_five.packable.body).2 (by decide +kernel)).1

end Ospfd
