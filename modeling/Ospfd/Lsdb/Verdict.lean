import Ospfd.Lsdb.Recency
import Ospfd.Protocol.Procedures

/-!
# What becomes of a received LSA

The decisions `_process_received_lsa` takes about one LSA depend on the LSA and the
database only, and all of them are taken before anything is changed.

* `Verdict`, `verdict` — the decision.
* `processReceivedLsa_eq` — **reception by verdict**: an LSA that is unknown or refused
  changes nothing at all.
-/

namespace Ospfd

/-- What becomes of a received LSA. -/
inductive Verdict where
  /-- Its type is not known. -/
  | unknown
  /-- It is new, or newer than the stored instance, and `install` refuses it. -/
  | refused
  /-- It is new, or newer than the stored instance, and is installed. -/
  | installed
  /-- It is the stored instance. -/
  | same
  /-- It is older than the stored instance. -/
  | older (stored : LsaRef)
  deriving DecidableEq, Repr

/-- The decision about a new or newer LSA. -/
def admission (s : Instance) (areaId : IPv4Address) (lsa : Lsa) : Verdict :=
  if (s.lsdb.decision s.heap s.now areaId lsa).1 then .installed else .refused

/-- The decision about a received LSA. -/
def verdict (s : Instance) (areaId : IPv4Address) (lsa : Lsa) : Verdict :=
  if ¬validLsaType lsa.header.lsType then .unknown
  else
    match s.lsdb.lookup areaId lsa.key with
    | none => admission s areaId lsa
    | some e =>
        if 0 < compareLsa lsa.header (s.heap.obj e).header then admission s areaId lsa
        else if compareLsa lsa.header (s.heap.obj e).header = 0 then .same
        else .older e

/-! ## Reception by verdict -/

namespace LinkStateDatabase

theorem ensureArea_of_get? {db : LinkStateDatabase} {areaId : IPv4Address} {key : LsaKey} {r : LsaRef}
    (h : (db.area areaId).get? key = some r) : db.ensureArea areaId = db := by
  rw [ensureArea, if_pos]
  rw [Dict.contains]
  rcases hno : db.areas.get? areaId with _ | part
  · rw [area, hno] at h
    cases h
  · rfl

theorem ensureArea_of_size {db : LinkStateDatabase} {areaId : IPv4Address}
    (h : 0 < (db.area areaId).size) : db.ensureArea areaId = db := by
  rw [ensureArea, if_pos]
  rw [Dict.contains]
  rcases hno : db.areas.get? areaId with _ | part
  · rw [area, hno] at h
    cases h
  · rfl

/-- An LSA that is refused leaves the database as it is. -/
theorem install_of_refused {db : LinkStateDatabase} {heap : LsaHeap} {now : Time}
    {areaId : IPv4Address} {r : LsaRef} (h : (db.decision heap now areaId (heap.obj r)).1 = false) :
    db.install heap now areaId r = (db.decision heap now areaId (heap.obj r), db, heap) := by
  have hsame : (if asWide (heap.obj r).key.lsType then db else db.ensureArea areaId) = db := by
    by_cases hw : asWide (heap.obj r).key.lsType = true
    · rw [if_pos hw]
    · rw [if_neg hw]
      rcases hlook : db.lookup areaId (heap.obj r).key with _ | e
      · have hfull := mt (decision_of_none hlook).2 (by rw [h]; exact Bool.false_ne_true)
        rw [partitionFor, if_neg hw] at hfull
        exact ensureArea_of_size (lt_of_lt_of_le (by decide : 0 < maxLsdbSizePerArea) (Nat.not_lt.1 hfull))
      · rw [lookup, if_neg hw] at hlook
        exact ensureArea_of_get? hlook
  simp only [install, hsame, h, Bool.false_eq_true, if_false]

end LinkStateDatabase

section Reception

variable {s : Instance} {areaId : IPv4Address} {r : LsaRef}

/-- The state once an LSA is installed. -/
def Instance.installed (s : Instance) (areaId : IPv4Address) (r : LsaRef) : Instance :=
  { s with
    lsdb := (s.lsdb.install s.heap s.now areaId r).2.1
    heap := (s.lsdb.install s.heap s.now areaId r).2.2 }

/-- What `install` answers, and the state after it. -/
theorem installLsa_eq (areaId : IPv4Address) (r : LsaRef) (s : Instance) : installLsa areaId r s =
    if (s.lsdb.decision s.heap s.now areaId (s.heap.obj r)).1 then (.ok true, s.installed areaId r)
    else (.ok false, s) := by
  by_cases hdec : (s.lsdb.decision s.heap s.now areaId (s.heap.obj r)).1 = true
  · rw [if_pos hdec, installLsa, Instance.installed]
    dsimp only
    rw [LinkStateDatabase.install_answer, hdec]
  · have hno : (s.lsdb.decision s.heap s.now areaId (s.heap.obj r)).1 = false := by simpa using hdec
    rw [if_neg hdec, installLsa, LinkStateDatabase.install_of_refused hno]
    dsimp only
    rw [hno]

theorem admission_eq_refused : admission s areaId (s.heap.obj r) = .refused ↔
    (s.lsdb.decision s.heap s.now areaId (s.heap.obj r)).1 = false := by
  rw [admission]
  split
  · rename_i h
    simp [h]
  · rename_i h
    simpa using h

theorem receivedNewer_of_refused (n : NbrRef) (h : admission s areaId (s.heap.obj r) = .refused) :
    receivedNewer r n areaId s = (.ok (), s) := by
  have hinst : installLsa areaId r s = (.ok false, s) := by
    rw [installLsa_eq, admission_eq_refused.1 h]
    rfl
  rw [receivedNewer, Eff.bind_apply_ok hinst]
  rfl

theorem receivedNewer_of_installed (n : NbrRef) (h : admission s areaId (s.heap.obj r) = .installed) :
    receivedNewer r n areaId s = (do
      floodLsa r areaId (some n.intf)
      afterInstall r n areaId) (s.installed areaId r) := by
  have hdec : (s.lsdb.decision s.heap s.now areaId (s.heap.obj r)).1 = true := by
    by_contra hno
    rw [admission, if_neg hno] at h
    cases h
  have hinst : installLsa areaId r s = (.ok true, s.installed areaId r) :=
    (installLsa_eq areaId r s).trans (if_pos hdec)
  rw [receivedNewer, Eff.bind_apply_ok hinst]
  rfl

/-- **Reception by verdict.** -/
theorem processReceivedLsa_eq (r : LsaRef) (n : NbrRef) (areaId : IPv4Address) (s : Instance) :
    processReceivedLsa r n areaId s = match verdict s areaId (s.heap.obj r) with
      | .unknown => (.ok (), s)
      | .refused => (.ok (), s)
      | .installed => (do
          floodLsa r areaId (some n.intf)
          afterInstall r n areaId) (s.installed areaId r)
      | .same => receivedSame r n s
      | .older e => sendLsUpdate n [e] s := by
  have hadm : receivedNewer r n areaId s = match admission s areaId (s.heap.obj r) with
      | .unknown => (.ok (), s)
      | .refused => (.ok (), s)
      | .installed => (do
          floodLsa r areaId (some n.intf)
          afterInstall r n areaId) (s.installed areaId r)
      | .same => receivedSame r n s
      | .older e => sendLsUpdate n [e] s := by
    rcases hv : admission s areaId (s.heap.obj r) with _ | _ | _ | _ | e
    case refused => exact receivedNewer_of_refused n hv
    case installed => exact receivedNewer_of_installed n hv
    all_goals
      rw [admission] at hv
      split at hv <;> cases hv
  rw [processReceivedLsa, Eff.get_bind_apply, verdict]
  by_cases hvalid : validLsaType (s.heap.obj r).header.lsType = true
  · rw [Eff.when_pos hvalid, if_neg (not_not.2 hvalid)]
    rcases s.lsdb.lookup areaId (s.heap.obj r).key with _ | e
    · exact hadm
    · dsimp only
      split
      · exact hadm
      · split <;> rfl
  · rw [Eff.when_neg hvalid, if_pos hvalid]
    rfl

/-- The state with an own LSA drafted: a new object, serialized once. -/
def Instance.drafted (s : Instance) (lsa : Lsa) : Instance :=
  { s with heap := (s.heap.alloc lsa).2.set s.heap.next (lsa.serialize s.now).2 }

theorem Instance.obj_drafted_self (s : Instance) (lsa : Lsa) :
    (s.drafted lsa).heap.obj s.heap.next = (lsa.serialize s.now).2 := LsaHeap.obj_set_self ..

/-- **Drafting and installing**: a draft that cannot be serialized raises, and `k` goes on from the
answer of `install`. -/
theorem draft_install_eq {α : Type} (lsa : Lsa) (areaId : IPv4Address) (k : LsaRef → Bool → Py α)
    (s : Instance) :
    (newLsa lsa >>= fun r => serializeLsa r >>= fun _ => installLsa areaId r >>= k r) s =
      match (lsa.serialize s.now).1 with
      | .error e => (.error e, s.drafted lsa)
      | .ok _ =>
          if (s.lsdb.decision (s.drafted lsa).heap s.now areaId (lsa.serialize s.now).2).1 then
            k s.heap.next true ((s.drafted lsa).installed areaId s.heap.next)
          else k s.heap.next false (s.drafted lsa) := by
  have hobj : (s.heap.alloc lsa).2.obj s.heap.next = lsa := Function.update_self ..
  have hself := s.obj_drafted_self lsa
  have hnew : newLsa lsa s = (.ok s.heap.next, { s with heap := (s.heap.alloc lsa).2 }) := rfl
  have hwrite : serializeLsa s.heap.next { s with heap := (s.heap.alloc lsa).2 } =
      ((lsa.serialize s.now).1, s.drafted lsa) := by
    rw [serializeLsa, Eff.get_bind_apply, Eff.modify_bind_apply, Eff.lift_apply]
    dsimp only
    rw [hobj]
    rfl
  have hinst := installLsa_eq areaId s.heap.next (s.drafted lsa)
  rw [hself] at hinst
  rw [Eff.bind_apply_ok hnew, Eff.bind_apply, hwrite]
  rcases (lsa.serialize s.now).1 with e | b
  · rfl
  · dsimp only
    by_cases hdec : (s.lsdb.decision (s.drafted lsa).heap s.now areaId (lsa.serialize s.now).2).1 = true
    · rw [if_pos hdec]
      exact Eff.bind_apply_ok (hinst.trans (if_pos hdec))
    · rw [if_neg hdec]
      exact Eff.bind_apply_ok (hinst.trans (if_neg hdec))

/-- The state once the draft is installed, and the time of its origination known. -/
def Instance.originated (s : Instance) (areaId : IPv4Address) (lsa : Lsa) : Instance :=
  { (s.drafted lsa).installed areaId s.heap.next with
    lastOrigination := s.lastOrigination.set lsa.key s.now }

/-- **An origination**: the draft is installed and flooded, or it stays without effect. -/
theorem originateWith_eq (areaId : IPv4Address) (lsType : Nat) (linkStateId : IPv4Address)
    (body : Option LsaBody) (seqNum : Nat) (s : Instance) {lsa : Lsa}
    (hlsa : lsa = { header := originatedHeader s lsType linkStateId seqNum, body }) :
    (originateWith areaId lsType linkStateId body seqNum s).2 = match (lsa.serialize s.now).1 with
      | .error _ => s.drafted lsa
      | .ok _ =>
          if (s.lsdb.decision (s.drafted lsa).heap s.now areaId (lsa.serialize s.now).2).1 then
            (floodLsa s.heap.next areaId none (s.originated areaId lsa)).2
          else s.drafted lsa := by
  have hkey : (originatedHeader s lsType linkStateId seqNum).key = lsa.key := by rw [hlsa]; rfl
  rw [originateWith, Eff.get_bind_apply, ← hlsa, draft_install_eq, hkey]
  rcases (lsa.serialize s.now).1 with e | b
  · rfl
  · dsimp only
    split
    · rw [Eff.when_pos rfl]
      change ((floodLsa s.heap.next areaId none >>= fun _ => pure (some s.heap.next))
        (s.originated areaId lsa)).2 = _
      rw [Eff.bind_apply]
      rcases floodLsa s.heap.next areaId none (s.originated areaId lsa) with ⟨r, t⟩
      cases r <;> rfl
    · rfl

/-- An origination that is not refused goes its way with a sequence number. -/
theorem originate_cases (areaId : IPv4Address) (lsType : Nat) (linkStateId : IPv4Address)
    (body : Option LsaBody) (seqNum : Option Nat) (s : Instance) :
    originate areaId lsType linkStateId body seqNum s = (.ok none, s) ∨
      ∃ n, originate areaId lsType linkStateId body seqNum s =
        originateWith areaId lsType linkStateId body n s := by
  rw [originate, Eff.get_bind_apply, Eff.ite_apply]
  split
  · exact Or.inl rfl
  · cases seqNum with
    | some n => exact Or.inr ⟨n, rfl⟩
    | none =>
      dsimp only
      rcases chooseSeqNum s areaId ⟨lsType, linkStateId, s.routerId⟩ with _ | n
      · exact Or.inl rfl
      · exact Or.inr ⟨n, rfl⟩

theorem admission_cases (s : Instance) (areaId : IPv4Address) (lsa : Lsa) :
    admission s areaId lsa = .installed ∧ (s.lsdb.decision s.heap s.now areaId lsa).1 = true ∨
      admission s areaId lsa = .refused := by
  rw [admission]
  split
  · rename_i h
    exact Or.inl ⟨rfl, h⟩
  · exact Or.inr rfl

theorem decision_of_installed {lsa : Lsa} (h : verdict s areaId lsa = .installed) :
    (s.lsdb.decision s.heap s.now areaId lsa).1 = true := by
  have hadm : admission s areaId lsa = .installed →
      (s.lsdb.decision s.heap s.now areaId lsa).1 = true := fun h => by
    rcases admission_cases s areaId lsa with ⟨-, hdec⟩ | hno
    · exact hdec
    · rw [hno] at h
      cases h
  rw [verdict] at h
  split at h
  · cases h
  · split at h
    · exact hadm h
    · split at h
      · exact hadm h
      · split at h <;> cases h

theorem verdict_eq_same_iff {lsa : Lsa} (h : validLsaType lsa.header.lsType = true) :
    verdict s areaId lsa = .same ↔
      ∃ e ∈ s.lsdb.lookup areaId lsa.key, compareLsa lsa.header (s.heap.obj e).header = 0 := by
  have hadm : admission s areaId lsa ≠ .same := fun heq => by
    rcases admission_cases s areaId lsa with ⟨hno, -⟩ | hno
    all_goals
      rw [hno] at heq
      cases heq
  rw [verdict, if_neg (not_not.2 h)]
  rcases s.lsdb.lookup areaId lsa.key with _ | e
  · exact ⟨fun heq => absurd heq hadm, fun ⟨_, he, _⟩ => by cases he⟩
  · dsimp only
    constructor
    · intro heq
      split at heq
      · exact absurd heq hadm
      · split at heq
        · exact ⟨e, rfl, by assumption⟩
        · cases heq
    · rintro ⟨_, ⟨⟩, hcmp⟩
      rw [hcmp]
      rfl

/-- An older LSA has a more recent instance stored. -/
theorem stored_of_older {lsa : Lsa} {e : LsaRef} (h : verdict s areaId lsa = .older e) :
    s.lsdb.lookup areaId lsa.key = some e ∧ compareLsa lsa.header (s.heap.obj e).header ≠ 0 := by
  have hadm : admission s areaId lsa ≠ .older e := fun h => by
    rcases admission_cases s areaId lsa with ⟨hno, -⟩ | hno
    all_goals
      rw [hno] at h
      cases h
  rw [verdict] at h
  split at h
  · cases h
  · rcases hlook : s.lsdb.lookup areaId lsa.key with _ | stored
    · rw [hlook] at h
      exact absurd h hadm
    · rw [hlook] at h
      dsimp only at h
      split at h
      · exact absurd h hadm
      · split at h
        · cases h
        · rename_i hne
          cases h
          exact ⟨rfl, hne⟩

/-- An LSA is not older than itself. -/
theorem ne_of_older {e : LsaRef} (h : verdict s areaId (s.heap.obj r) = .older e) : e ≠ r := by
  rintro rfl
  exact (stored_of_older h).2 (compareLsa_self _)

end Reception

end Ospfd
