import Ospfd.Packet.RoundTrip
import Ospfd.Protocol.Access

/-!
# The two ages of an LSA

The age of a stored LSA is in its header, as of its last serialization, and follows from
its installation time.

* `OneAge` — everything that compares or sends the age goes by the second one.
* `oneAge_iff` — **whether there is one age**: just while the header is up to date.
-/

namespace Ospfd

/-- A header that differs from a stored LSA in the age only, and by no more than the ages of
one instance may. -/
structure Duplicate (s : Instance) (e : LsaRef) (h : LsaHeader) : Prop where
  key : h.key = (s.heap.obj e).key
  lsSequenceNumber : h.lsSequenceNumber = (s.heap.obj e).header.lsSequenceNumber
  lsChecksum : h.lsChecksum = (s.heap.obj e).header.lsChecksum
  young : h.lsAge < maxAge ∧ (s.heap.obj e).currentAge s.now < maxAge
  close : ((h.lsAge : Int) - (s.heap.obj e).currentAge s.now).natAbs ≤ maxAgeDiff

/-- Every place that compares or sends the age of a stored LSA goes by its current age: a
duplicate is the same instance to the reception of updates and is not requested, and
descriptions, acknowledgments and updates carry the current age. -/
structure OneAge (s : Instance) (areaId : IPv4Address) (e : LsaRef) : Prop where
  received : ∀ r n, Duplicate s e (s.heap.obj r).header → validLsaType (s.heap.obj r).header.lsType →
    processReceivedLsa r n areaId s = receivedSame r n s
  requested : ∀ h, Duplicate s e h → needsLsa s areaId h = false
  described : ∀ dd : SentDD, ∀ k : Nat, dd.lsaHeaders[k]? = some e →
    (dd.packet s.heap).lsaHeaders[k]?.map LsaHeader.lsAge = some ((s.heap.obj e).currentAge s.now)
  acknowledged : (serializeLsack [e] s).1 = LsackPacket.serialize
    { lsaHeaders := [(s.heap.obj e).header.aged ((s.heap.obj e).currentAge s.now)] }
  sent : ∀ b, ((s.heap.obj e).serialize s.now).1 = .ok b →
    ((s.heap.obj e).serialize s.now).2.header.lsAge = (s.heap.obj e).currentAge s.now

/-- The age in the header is the current one. -/
def UpToDate (s : Instance) (e : LsaRef) : Prop :=
  (s.heap.obj e).header.lsAge = (s.heap.obj e).currentAge s.now

section Age

variable {s : Instance} {areaId : IPv4Address} {e : LsaRef}

theorem compareLsa_of_duplicate (hup : UpToDate s e) {h : LsaHeader} (hd : Duplicate s e h) :
    compareLsa h (s.heap.obj e).header = 0 := by
  obtain ⟨hage, hstored⟩ := hd.young
  have hclose := hd.close
  rw [← hup] at hstored hclose
  rw [compareLsa, if_neg (not_not.2 hd.lsSequenceNumber), if_neg (not_not.2 hd.lsChecksum),
    if_neg (fun hc => absurd hc.1 (Nat.not_le.2 hage)), if_neg (fun hc => absurd hc.1 (Nat.not_le.2 hstored)),
    if_neg (Nat.not_lt.2 hclose)]

/-- The age that is sent in an update is the current one. -/
theorem Lsa.lsAge_of_serialize {lsa : Lsa} {now : Time} {b : Bytes} (h : (lsa.serialize now).1 = .ok b) :
    (lsa.serialize now).2.header.lsAge = min (lsa.currentAge now) maxAge := by
  rw [serialize] at h ⊢
  rcases hbody : lsa.bodyBytes with err | body
  · rw [hbody] at h
    cases h
  · dsimp only
    split
    · rfl
    · split <;> rfl

theorem Lsa.currentAge_le {lsa : Lsa} (h : lsa.installTime ≠ none) (now : Time) :
    lsa.currentAge now ≤ maxAge := by
  rw [currentAge]
  rcases ht : lsa.installTime with _ | t
  · exact absurd ht h
  · exact Nat.min_le_right ..

/-- **Whether a stored LSA has one age.** -/
theorem oneAge_iff (hstored : s.lsdb.lookup areaId (s.heap.obj e).key = some e)
    (hinst : (s.heap.obj e).installTime ≠ none) : OneAge s areaId e ↔ UpToDate s e := by
  constructor
  · intro h
    have hdescribed := h.described ⟨0, 0, 0, 0, [e]⟩ 0 rfl
    exact Option.some.inj hdescribed
  · intro hup
    refine ⟨fun r n hd hvalid => ?_, fun h hd => ?_, fun dd k hk => ?_, ?_, fun b hb => ?_⟩
    · have hsame : verdict s areaId (s.heap.obj r) = .same :=
        (verdict_eq_same_iff hvalid).2 ⟨e, (congrArg _ hd.key).trans hstored, compareLsa_of_duplicate hup hd⟩
      rw [processReceivedLsa_eq, hsame]
    · rw [needsLsa, hd.key, hstored]
      dsimp only
      rw [compareLsa_of_duplicate hup hd]
      rfl
    · rw [SentDD.packet]
      dsimp only
      rw [List.getElem?_map, hk, ← hup]
      rfl
    · rw [← hup]
      rfl
    · rw [Lsa.lsAge_of_serialize hb, Nat.min_eq_left (Lsa.currentAge_le hinst s.now)]

end Age

/-! ### A Summary-LSA that grows old -/

/-- The neighbor sent a Summary-LSA, some time ago. -/
def peerAged (d : Time) : Instance := exec (exec peerExchange (peerUpdate 3)) (.tick d)

/-- It has one age when it arrives. -/
theorem oneAge_peerAged : OneAge (peerAged 0) backboneArea 0 :=
  (oneAge_iff (by decide +kernel) (by decide +kernel)).2 (by unfold UpToDate; decide +kernel)

/-- A quarter of an hour later its header still says one second. -/
theorem not_all_oneAge : ¬∀ s, Reachable (fun _ _ => True) s → ∀ areaId e,
    s.lsdb.lookup areaId (s.heap.obj e).key = some e → (s.heap.obj e).installTime ≠ none →
    OneAge s areaId e := by
  intro hall
  have hreach : Reachable (fun _ _ => True) (peerAged (1000 * second)) :=
    .step (.step reachable_peerExchange trivial trivial) trivial trivial
  have hone := hall _ hreach backboneArea 0 (by decide +kernel) (by decide +kernel)
  have hdescribed := hone.described ⟨0, 0, 0, 0, [0]⟩ 0 rfl
  have hages : (((peerAged (1000 * second)).heap.obj 0).header.lsAge,
      ((peerAged (1000 * second)).heap.obj 0).currentAge (peerAged (1000 * second)).now) = (1, 1001) := by
    decide +kernel
  obtain ⟨hheader, hcurrent⟩ := Prod.mk.inj hages
  rw [hcurrent] at hdescribed
  have hage : ((peerAged (1000 * second)).heap.obj 0).header.lsAge = 1001 := Option.some.inj hdescribed
  rw [hheader] at hage
  exact absurd hage (by decide)

end Ospfd
