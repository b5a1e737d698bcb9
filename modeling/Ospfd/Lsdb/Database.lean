import Ospfd.Lib.Dict
import Ospfd.Packet.Lsa

/-!
# The link state database

LSA objects are shared: the database, the retransmission lists, the queued
acknowledgments and the summary lists refer to the same object, and serializing it
through one of them changes what the others see.  So an LSA lives in a heap, and
all of them hold references.

* `LsaHeap` — the LSA objects.
* `compareLsa` — which of two instances is more recent.
* `LinkStateDatabase.lookup`, `install`, `remove` and the queries of the daemon.
-/

namespace Ospfd

/-! ## The objects -/

/-- A reference to an LSA object. -/
abbrev LsaRef : Type := Nat

/-- The LSA objects; those from `next` on are not allocated yet. -/
structure LsaHeap where
  obj : LsaRef → Lsa
  next : LsaRef

namespace LsaHeap

/-- No object yet. -/
def empty : LsaHeap :=
  { obj := fun _ => { header := ⟨0, 0, 0, 0, 0, 0, 0, 0⟩ }, next := 0 }

/-- Replace the object behind a reference. -/
def set (h : LsaHeap) (r : LsaRef) (lsa : Lsa) : LsaHeap :=
  { h with obj := Function.update h.obj r lsa }

/-- Create an object. -/
def alloc (h : LsaHeap) (lsa : Lsa) : LsaRef × LsaHeap :=
  (h.next, { obj := Function.update h.obj h.next lsa, next := h.next + 1 })

@[simp] theorem obj_set_self (h : LsaHeap) (r : LsaRef) (lsa : Lsa) : (h.set r lsa).obj r = lsa :=
  Function.update_self ..

theorem obj_set_of_ne (h : LsaHeap) {r r' : LsaRef} (hne : r' ≠ r) (lsa : Lsa) :
    (h.set r lsa).obj r' = h.obj r' := Function.update_of_ne hne ..

theorem obj_set (h : LsaHeap) (r r' : LsaRef) (lsa : Lsa) :
    (h.set r lsa).obj r' = if r' = r then lsa else h.obj r' := Function.update_apply ..

@[simp] theorem next_set (h : LsaHeap) (r : LsaRef) (lsa : Lsa) : (h.set r lsa).next = h.next := rfl

end LsaHeap

/-! ## Recency -/

/-- An unsigned 32-bit number read as a signed one. -/
def signed32 (n : Nat) : Int := if n < 0x80000000 then n else (n : Int) - 0x100000000

/-- `compare_lsa`: positive when `a` is more recent, negative when `b` is, zero when
they are the same instance. -/
def compareLsa (a b : LsaHeader) : Int :=
  if a.lsSequenceNumber ≠ b.lsSequenceNumber then
    if signed32 a.lsSequenceNumber > signed32 b.lsSequenceNumber then 1 else -1
  else if a.lsChecksum ≠ b.lsChecksum then
    (a.lsChecksum : Int) - b.lsChecksum
  else if a.lsAge ≥ maxAge ∧ ¬b.lsAge ≥ maxAge then 1
  else if b.lsAge ≥ maxAge ∧ ¬a.lsAge ≥ maxAge then -1
  else if ((a.lsAge : Int) - b.lsAge).natAbs > maxAgeDiff then
    if a.lsAge < b.lsAge then 1 else -1
  else 0

/-! ## The database -/

def maxLsdbSizePerArea : Nat := 10000
def maxLsdbExternalSize : Nat := 10000

/-- One partition of the database. -/
abbrev Partition : Type := Dict LsaKey LsaRef

/-- LSAs by area, and the AS-wide ones. -/
structure LinkStateDatabase where
  routerId : IPv4Address
  areas : Dict IPv4Address Partition := Dict.empty
  external : Partition := Dict.empty
  /-- For MinLSArrival. -/
  lastArrival : Dict LsaKey Time := Dict.empty

/-- The types stored in the AS-wide partition. -/
def asWide (lsType : Nat) : Bool := lsType = lsaTypeExternal ∨ lsType = lsaTypeOpaqueAs

namespace LinkStateDatabase

def ensureArea (db : LinkStateDatabase) (areaId : IPv4Address) : LinkStateDatabase :=
  if db.areas.contains areaId then db else { db with areas := db.areas.set areaId Dict.empty }

/-- `self._areas.get(area_id, {})`. -/
def area (db : LinkStateDatabase) (areaId : IPv4Address) : Partition :=
  (db.areas.get? areaId).getD Dict.empty

def lookup (db : LinkStateDatabase) (areaId : IPv4Address) (key : LsaKey) : Option LsaRef :=
  if asWide key.lsType then db.external.get? key else (db.area areaId).get? key

/-- `self._last_arrival.get(key, 0.0)`. -/
def arrivalOf (db : LinkStateDatabase) (key : LsaKey) : Time := (db.lastArrival.get? key).getD 0

/-- The partition an LSA of this type belongs to. -/
def partitionFor (db : LinkStateDatabase) (areaId : IPv4Address) (lsType : Nat) : Partition :=
  if asWide lsType then db.external else db.area areaId

/-- `db[key] = lsa` in the partition of the LSA's type. -/
def store (db : LinkStateDatabase) (areaId : IPv4Address) (key : LsaKey) (r : LsaRef) :
    LinkStateDatabase :=
  if asWide key.lsType then { db with external := db.external.set key r }
  else { db with areas := db.areas.set areaId ((db.area areaId).set key r) }

/-- What `install` decides, before it changes anything: the LSA is refused, or it
is installed; with the instance already there. -/
def decision (db : LinkStateDatabase) (heap : LsaHeap) (now : Time) (areaId : IPv4Address)
    (lsa : Lsa) : Bool × Option LsaRef :=
  let key := lsa.key
  let part := db.partitionFor areaId key.lsType
  match part.get? key with
  | none =>
      if maxLsdbSizePerArea ≤ part.size then (false, none)
      else if key.lsType = lsaTypeExternal ∧ maxLsdbExternalSize ≤ db.external.size then (false, none)
      else (true, none)
  | some old =>
      if compareLsa lsa.header (heap.obj old).header ≤ 0 then (false, some old)
      else if now - db.arrivalOf key < minLsArrival then (false, some old)
      else (true, some old)

/-- `install`: whether the LSA was installed, the previous instance, and what became
of the database and of the LSA object. -/
def install (db : LinkStateDatabase) (heap : LsaHeap) (now : Time) (areaId : IPv4Address)
    (r : LsaRef) : (Bool × Option LsaRef) × LinkStateDatabase × LsaHeap :=
  let lsa := heap.obj r
  let db := if asWide lsa.key.lsType then db else db.ensureArea areaId
  let answer := db.decision heap now areaId lsa
  if answer.1 then
    let db := db.store areaId lsa.key r
    (answer, { db with lastArrival := db.lastArrival.set lsa.key now },
      heap.set r (lsa.markInstalled now))
  else (answer, db, heap)

def remove (db : LinkStateDatabase) (areaId : IPv4Address) (key : LsaKey) : LinkStateDatabase :=
  if asWide key.lsType then { db with external := db.external.pop key }
  else
    match db.areas.get? areaId with
    | some part => { db with areas := db.areas.set areaId (part.pop key) }
    | none => db

/-- `get_all(area_id)`. -/
def getAll (db : LinkStateDatabase) (areaId : IPv4Address) : List LsaRef := (db.area areaId).values

/-- `get_all(area_id, ls_type)`. -/
def getAllOfType (db : LinkStateDatabase) (heap : LsaHeap) (areaId : IPv4Address) (lsType : Nat) :
    List LsaRef :=
  (db.getAll areaId).filter fun r => (heap.obj r).header.lsType = lsType

/-- `get_all_external`. -/
def getAllExternal (db : LinkStateDatabase) : List LsaRef := db.external.values

/-- `get_all_headers`: the objects whose headers make up a database summary. -/
def getAllHeaders (db : LinkStateDatabase) (areaId : IPv4Address) : List LsaRef :=
  (db.area areaId).values ++ db.external.values

def getMaxageLsas (db : LinkStateDatabase) (heap : LsaHeap) (now : Time) (areaId : IPv4Address) :
    List LsaRef :=
  (db.getAll areaId).filter fun r => maxAge ≤ (heap.obj r).currentAge now

def isSelfOriginated (db : LinkStateDatabase) (lsa : Lsa) : Bool :=
  lsa.header.advertisingRouter = db.routerId

def areaIds (db : LinkStateDatabase) : List IPv4Address := db.areas.keys

/-! ### What the operations do to lookups -/

@[simp] theorem area_ensureArea (db : LinkStateDatabase) (a a' : IPv4Address) :
    (db.ensureArea a').area a = db.area a := by
  rw [ensureArea]
  split
  · rfl
  · rename_i hno
    have hnone : db.areas.get? a' = none := by simpa [Dict.contains] using hno
    rw [area, area, Dict.get?_set]
    split
    · rename_i heq
      rw [← heq, hnone]
      rfl
    · rfl

@[simp] theorem external_ensureArea (db : LinkStateDatabase) (a : IPv4Address) :
    (db.ensureArea a).external = db.external := by
  rw [ensureArea]
  split <;> rfl

@[simp] theorem lastArrival_ensureArea (db : LinkStateDatabase) (a : IPv4Address) :
    (db.ensureArea a).lastArrival = db.lastArrival := by
  rw [ensureArea]
  split <;> rfl

@[simp] theorem routerId_ensureArea (db : LinkStateDatabase) (a : IPv4Address) :
    (db.ensureArea a).routerId = db.routerId := by
  rw [ensureArea]
  split <;> rfl

@[simp] theorem lookup_ensureArea (db : LinkStateDatabase) (a a' : IPv4Address) (k : LsaKey) :
    (db.ensureArea a').lookup a k = db.lookup a k := by
  simp [lookup]

theorem get?_partitionFor (db : LinkStateDatabase) (a : IPv4Address) (k : LsaKey) :
    (db.partitionFor a k.lsType).get? k = db.lookup a k := by
  rw [partitionFor, lookup]
  split <;> rfl

@[simp] theorem partitionFor_ensureArea (db : LinkStateDatabase) (a a' : IPv4Address) (t : Nat) :
    (db.ensureArea a').partitionFor a t = db.partitionFor a t := by
  simp [partitionFor]

/-- An LSA whose key is not there is installed while its partition has room. -/
theorem decision_of_none {db : LinkStateDatabase} {heap : LsaHeap} {now : Time} {a : IPv4Address}
    {lsa : Lsa} (h : db.lookup a lsa.key = none) :
    (db.decision heap now a lsa).1 = true ↔
      (db.partitionFor a lsa.key.lsType).size < maxLsdbSizePerArea := by
  rw [← get?_partitionFor] at h
  simp only [decision, h]
  by_cases hfull : maxLsdbSizePerArea ≤ (db.partitionFor a lsa.key.lsType).size
  · rw [if_pos hfull]
    exact ⟨fun h => (by cases h), fun h => absurd hfull (Nat.not_le.2 h)⟩
  · rw [if_neg hfull]
    -- the second limit is that of the same partition
    have hext : ¬(lsa.key.lsType = lsaTypeExternal ∧ maxLsdbExternalSize ≤ db.external.size) := by
      rintro ⟨ht, hsize⟩
      refine hfull ?_
      rw [partitionFor, if_pos (by simp [asWide, ht])]
      exact hsize
    rw [if_neg hext]
    exact ⟨fun _ => Nat.not_le.1 hfull, fun _ => rfl⟩

/-- An LSA whose key is there replaces an older instance that did not arrive just
before. -/
theorem decision_of_some {db : LinkStateDatabase} {heap : LsaHeap} {now : Time} {a : IPv4Address}
    {lsa : Lsa} {old : LsaRef} (h : db.lookup a lsa.key = some old) :
    (db.decision heap now a lsa).1 = true ↔
      0 < compareLsa lsa.header (heap.obj old).header ∧
        minLsArrival ≤ now - db.arrivalOf lsa.key := by
  rw [← get?_partitionFor] at h
  simp only [decision, h]
  by_cases hcmp : compareLsa lsa.header (heap.obj old).header ≤ 0
  · rw [if_pos hcmp]
    exact ⟨fun h => (by cases h), fun h => absurd h.1 (Int.not_lt.2 hcmp)⟩
  · rw [if_neg hcmp]
    by_cases hsoon : now - db.arrivalOf lsa.key < minLsArrival
    · rw [if_pos hsoon]
      exact ⟨fun h => (by cases h), fun h => absurd h.2 (Nat.not_le.2 hsoon)⟩
    · rw [if_neg hsoon]
      exact ⟨fun _ => ⟨Int.not_le.1 hcmp, Nat.not_lt.1 hsoon⟩, fun _ => rfl⟩

/-- Two places of the database: one key in one partition. -/
def SamePlace (a : IPv4Address) (k : LsaKey) (a' : IPv4Address) (k' : LsaKey) : Prop :=
  k = k' ∧ (asWide k.lsType ∨ a = a')

instance (a : IPv4Address) (k : LsaKey) (a' : IPv4Address) (k' : LsaKey) :
    Decidable (SamePlace a k a' k') := inferInstanceAs (Decidable (_ ∧ _))

theorem lookup_store (db : LinkStateDatabase) (a a' : IPv4Address) (k k' : LsaKey) (r : LsaRef) :
    (db.store a' k' r).lookup a k = if SamePlace a' k' a k then some r else db.lookup a k := by
  by_cases hk : k' = k
  · subst hk
    by_cases hw : asWide k'.lsType = true
    · simp [store, lookup, SamePlace, hw]
    · by_cases ha : a' = a
      · subst ha
        simp [store, lookup, area, SamePlace, hw]
      · simp [store, lookup, area, SamePlace, hw, ha, Dict.get?_set]
  · rw [if_neg fun h => hk h.1]
    rw [store, lookup, lookup]
    by_cases hw' : asWide k'.lsType = true
    · rw [if_pos hw']
      simp only [Dict.get?_set_of_ne _ hk]
      rfl
    · rw [if_neg hw']
      simp only [area, Dict.get?_set]
      split
      · rfl
      · by_cases ha : a' = a
        · subst ha
          simp [Dict.get?_set_of_ne _ hk]
        · simp [ha]

/-- Looking up after `install`: the LSA is there when it was installed, and
everything else is as it was. -/
theorem lookup_install (db : LinkStateDatabase) (heap : LsaHeap) (now : Time)
    (a a' : IPv4Address) (r : LsaRef) (k : LsaKey) :
    (db.install heap now a' r).2.1.lookup a k =
      if (db.install heap now a' r).1.1 = true ∧ SamePlace a' (heap.obj r).key a k then some r
      else db.lookup a k := by
  have hsame : ∀ d : LinkStateDatabase, (if asWide (heap.obj r).key.lsType then db
      else db.ensureArea a') = d → d.lookup a k = db.lookup a k := by
    rintro d rfl
    split <;> simp
  simp only [install]
  generalize hd : (if asWide (heap.obj r).key.lsType then db else db.ensureArea a') = d
  by_cases hadm : (d.decision heap now a' (heap.obj r)).1 = true
  · simp only [hadm, if_true, true_and]
    rw [← hsame d hd, ← lookup_store]
    rfl
  · simp [hadm, hsame d hd]

theorem decision_ensureArea (db : LinkStateDatabase) (heap : LsaHeap) (now : Time)
    (a a' : IPv4Address) (lsa : Lsa) :
    (db.ensureArea a').decision heap now a lsa = db.decision heap now a lsa := by
  simp only [decision, arrivalOf, partitionFor_ensureArea, lastArrival_ensureArea,
    external_ensureArea]
  rfl

/-- The answer of `install` is the decision taken before. -/
theorem install_answer (db : LinkStateDatabase) (heap : LsaHeap) (now : Time) (a : IPv4Address)
    (r : LsaRef) : (db.install heap now a r).1 = db.decision heap now a (heap.obj r) := by
  have hadm : (if asWide (heap.obj r).key.lsType then db else db.ensureArea a).decision heap now a
      (heap.obj r) = db.decision heap now a (heap.obj r) := by
    split
    · rfl
    · exact decision_ensureArea ..
  simp only [install]
  rw [hadm]
  split <;> rfl

theorem arrivalOf_install (db : LinkStateDatabase) (heap : LsaHeap) (now : Time) (a : IPv4Address)
    (r : LsaRef) (k : LsaKey) :
    (db.install heap now a r).2.1.arrivalOf k =
      if (db.install heap now a r).1.1 = true ∧ (heap.obj r).key = k then now
      else db.arrivalOf k := by
  have hsame : ∀ d : LinkStateDatabase, (if asWide (heap.obj r).key.lsType then db
      else db.ensureArea a) = d → d.lastArrival = db.lastArrival := by
    rintro d rfl
    split <;> simp
  simp only [install]
  generalize hd : (if asWide (heap.obj r).key.lsType then db else db.ensureArea a) = d
  by_cases hadm : (d.decision heap now a (heap.obj r)).1 = true
  · have hstore : (d.store a (heap.obj r).key r).lastArrival = db.lastArrival := by
      rw [← hsame d hd, store]
      split <;> rfl
    simp only [hadm, if_true, true_and, arrivalOf, hstore, Dict.get?_set]
    split <;> rfl
  · simp [hadm, arrivalOf, hsame d hd]

@[simp] theorem routerId_install (db : LinkStateDatabase) (heap : LsaHeap) (now : Time)
    (a : IPv4Address) (r : LsaRef) : (db.install heap now a r).2.1.routerId = db.routerId := by
  simp only [install, store]
  split_ifs <;> simp

/-- `install` writes the installation metadata of the LSA, and nothing else. -/
theorem obj_install (db : LinkStateDatabase) (heap : LsaHeap) (now : Time) (a : IPv4Address)
    (r r' : LsaRef) : (db.install heap now a r).2.2.obj r' =
      if (db.install heap now a r).1.1 = true ∧ r' = r then (heap.obj r).markInstalled now
      else heap.obj r' := by
  simp only [install]
  generalize (if asWide (heap.obj r).key.lsType then db else db.ensureArea a) = d
  by_cases hadm : (d.decision heap now a (heap.obj r)).1 = true
  · simp [hadm, LsaHeap.obj_set]
  · simp [hadm]

@[simp] theorem next_install (db : LinkStateDatabase) (heap : LsaHeap) (now : Time)
    (a : IPv4Address) (r : LsaRef) : (db.install heap now a r).2.2.next = heap.next := by
  simp only [install]
  split_ifs <;> simp

@[simp] theorem routerId_remove (db : LinkStateDatabase) (a : IPv4Address) (k : LsaKey) :
    (db.remove a k).routerId = db.routerId := by
  rw [remove]
  split
  · rfl
  · split <;> rfl

theorem lookup_remove (db : LinkStateDatabase) (a a' : IPv4Address) (k k' : LsaKey) :
    (db.remove a' k').lookup a k = if SamePlace a' k' a k then none else db.lookup a k := by
  rw [remove]
  by_cases hw' : asWide k'.lsType = true
  · rw [if_pos hw']
    by_cases hk : k' = k
    · subst hk
      simp [lookup, SamePlace, hw']
    · rw [if_neg fun h => hk h.1]
      simp only [lookup, Dict.get?_pop_of_ne _ hk]
      rfl
  · rw [if_neg hw']
    cases harea : db.areas.get? a' with
    | none =>
      dsimp only
      split
      · rename_i h
        obtain ⟨rfl, h | rfl⟩ := h
        · exact absurd h hw'
        · simp [lookup, hw', area, harea]
      · rfl
    | some part =>
      by_cases hk : k' = k
      · subst hk
        by_cases ha : a' = a
        · subst ha
          simp [lookup, area, SamePlace, hw']
        · simp [lookup, area, SamePlace, hw', ha, Dict.get?_set]
      · rw [if_neg fun h => hk h.1]
        simp only [lookup, area, Dict.get?_set]
        split
        · rfl
        · by_cases ha : a' = a
          · subst ha
            simp [harea, Dict.get?_pop_of_ne _ hk]
          · simp [ha]

end LinkStateDatabase
end Ospfd
