import Ospfd.Lib.Views
import Ospfd.Lsdb.Convergence

/-!
# The areas of the database

What an area sees of the database: a dictionary of its own, served by calls for the area.
The arrival times are kept for all areas together, so an area is served as if it were alone
just when no other area made one of its LSAs seem to arrive too soon.

* `LsdbCall`, `Store.perform` — calls of `install`, `remove` and `lookup`, with LSAs of
  their own, and what they return.
* `areaStep` — a database of a single area that knows only its LSAs.
* `Undisturbed` — the shared arrival time and that of the stored LSA give the same answer.
* `serves_area` — **a single call, seen from an area**.
* `areas_independent` — **an area is served as if it were alone just when its calls are
  undisturbed**.
-/

namespace Ospfd

/-! ## Calls -/

/-- What is asked of the database.  An LSA to install is an object of its own. -/
inductive LsdbOp where
  | install (lsa : Lsa)
  | remove (key : LsaKey)
  | lookup (key : LsaKey)
  deriving DecidableEq

/-- A call for an area, at a time of the clock. -/
structure LsdbCall where
  now : Time
  areaId : IPv4Address
  op : LsdbOp
  deriving DecidableEq

/-- What a call returns: whether the LSA was installed, with the previous instance; or the
LSA that was found. -/
inductive LsdbResult where
  | installed (newer : Bool) (old : Option Lsa)
  | found (lsa : Option Lsa)
  deriving DecidableEq

/-- The key a call is about. -/
def LsdbCall.key (c : LsdbCall) : LsaKey :=
  match c.op with
  | .install lsa => lsa.key
  | .remove key => key
  | .lookup key => key

/-- A call about an area-scoped LSA of the area. -/
def LsdbCall.concerns (a : IPv4Address) (c : LsdbCall) : Bool := !asWide c.key.lsType && c.areaId = a

namespace Store

/-- A new database. -/
def new (routerId : IPv4Address) : Store := ⟨{ routerId }, LsaHeap.empty⟩

/-- The LSA stored under a key. -/
def lookup (s : Store) (a : IPv4Address) (k : LsaKey) : Option Lsa := (s.db.lookup a k).map s.heap.obj

/-- The store with an LSA object more, and the call of `install` for it. -/
def admitted (s : Store) (c : LsdbCall) (lsa : Lsa) :
    (Bool × Option LsaRef) × LinkStateDatabase × LsaHeap :=
  s.db.install (s.heap.alloc lsa).2 c.now c.areaId (s.heap.alloc lsa).1

/-- What a call returns, and the store after it. -/
def perform (s : Store) (c : LsdbCall) : LsdbResult × Store :=
  match c.op with
  | .install lsa =>
      let r := s.admitted c lsa
      (.installed r.1.1 (r.1.2.map r.2.2.obj), ⟨r.2.1, r.2.2⟩)
  | .remove key => (.found (s.lookup c.areaId key), { s with db := s.db.remove c.areaId key })
  | .lookup key => (.found (s.lookup c.areaId key), s)

/-- The LSAs of an area. -/
def contents (a : IPv4Address) (s : Store) : Dict LsaKey Lsa := (s.db.area a).map s.heap.obj

end Store

/-- A database of a single area: it looks at the LSAs it has, and at nothing else. -/
def areaStep (d : Dict LsaKey Lsa) (c : LsdbCall) : LsdbResult × Dict LsaKey Lsa :=
  match c.op with
  | .install lsa =>
      match d.get? lsa.key with
      | none =>
          if maxLsdbSizePerArea ≤ d.size then (.installed false none, d)
          else (.installed true none, d.set lsa.key (lsa.markInstalled c.now))
      | some old =>
          if compareLsa lsa.header old.header ≤ 0 then (.installed false (some old), d)
          else if c.now - old.installTime.getD 0 < minLsArrival then (.installed false (some old), d)
          else (.installed true (some old), d.set lsa.key (lsa.markInstalled c.now))
  | .remove key => (.found (d.get? key), d.pop key)
  | .lookup key => (.found (d.get? key), d)

/-! ## A call, seen from an area -/

namespace LinkStateDatabase

theorem area_store (db : LinkStateDatabase) (a a' : IPv4Address) (k : LsaKey) (r : LsaRef) :
    (db.store a' k r).area a =
      if asWide k.lsType = false ∧ a' = a then (db.area a).set k r else db.area a := by
  unfold store
  by_cases hw : asWide k.lsType = true
  · rw [if_pos hw, if_neg (by simp [hw])]
    rfl
  · rw [if_neg hw]
    by_cases ha : a' = a
    · subst ha
      simp [area, hw]
    · simp [area, ha, Dict.get?_set]

theorem area_install (db : LinkStateDatabase) (heap : LsaHeap) (now : Time) (a a' : IPv4Address) (r : LsaRef) :
    (db.install heap now a' r).2.1.area a =
      if (db.install heap now a' r).1.1 = true ∧ asWide (heap.obj r).key.lsType = false ∧ a' = a then
        (db.area a).set (heap.obj r).key r
      else db.area a := by
  have hsame : ∀ d : LinkStateDatabase, (if asWide (heap.obj r).key.lsType then db
      else db.ensureArea a') = d → d.area a = db.area a := by
    rintro d rfl
    split <;> simp
  simp only [install]
  generalize hd : (if asWide (heap.obj r).key.lsType then db else db.ensureArea a') = d
  by_cases hadm : (d.decision heap now a' (heap.obj r)).1 = true
  · simp only [hadm, if_true, true_and]
    rw [← hsame d hd]
    exact area_store d a a' _ r
  · simp [hadm, hsame d hd]

theorem area_remove (db : LinkStateDatabase) (a a' : IPv4Address) (k : LsaKey) :
    (db.remove a' k).area a =
      if asWide k.lsType = false ∧ a' = a then (db.area a).pop k else db.area a := by
  unfold remove
  by_cases hw : asWide k.lsType = true
  · rw [if_pos hw, if_neg (by simp [hw])]
    rfl
  · rw [if_neg hw]
    cases hpart : db.areas.get? a' with
    | none =>
      by_cases ha : a' = a
      · subst ha
        rw [if_pos ⟨by simpa using hw, rfl⟩]
        unfold area
        rw [hpart]
        rfl
      · rw [if_neg fun h => ha h.2]
    | some part =>
      by_cases ha : a' = a
      · subst ha
        simp [area, hw, hpart]
      · simp [area, ha, Dict.get?_set]

/-- What is in an area after an installation is the LSA that is installed, or was there before. -/
theorem get?_area_of_install {db : LinkStateDatabase} {heap : LsaHeap} {now : Time} {a a' : IPv4Address}
    {r r' : LsaRef} {k : LsaKey} (h : ((db.install heap now a' r).2.1.area a).get? k = some r') :
    (r' = r ∧ (heap.obj r).key = k ∧ asWide k.lsType = false ∧ a' = a) ∨ (db.area a).get? k = some r' := by
  rw [area_install] at h
  split at h
  · rename_i hinst
    rcases Dict.get?_of_set h with ⟨rfl, rfl⟩ | hold
    · exact Or.inl ⟨rfl, rfl, hinst.2⟩
    · exact Or.inr hold
  · exact Or.inr h

/-- What is in an area after a removal was there before. -/
theorem get?_area_of_remove {db : LinkStateDatabase} {a a' : IPv4Address} {r : LsaRef} {k k' : LsaKey}
    (h : ((db.remove a' k').area a).get? k = some r) : (db.area a).get? k = some r := by
  rw [area_remove] at h
  split at h
  · exact Dict.get?_of_pop h
  · exact h

@[simp] theorem lastArrival_remove (db : LinkStateDatabase) (a : IPv4Address) (k : LsaKey) :
    (db.remove a k).lastArrival = db.lastArrival := by
  unfold remove
  split
  · rfl
  · split
    · rfl
    · rfl

/-- What `install` decides about an area-scoped LSA. -/
theorem decision_of_scoped (db : LinkStateDatabase) (heap : LsaHeap) (now : Time) (a : IPv4Address)
    {lsa : Lsa} (h : asWide lsa.key.lsType = false) :
    db.decision heap now a lsa =
      match (db.area a).get? lsa.key with
      | none => if maxLsdbSizePerArea ≤ (db.area a).size then (false, none) else (true, none)
      | some old =>
          if compareLsa lsa.header (heap.obj old).header ≤ 0 then (false, some old)
          else if now - db.arrivalOf lsa.key < minLsArrival then (false, some old)
          else (true, some old) := by
  have hpart : db.partitionFor a lsa.key.lsType = db.area a := by
    unfold partitionFor
    rw [if_neg (by simp [h])]
  have hext : ¬(lsa.key.lsType = lsaTypeExternal ∧ maxLsdbExternalSize ≤ db.external.size) := by
    rintro ⟨ht, -⟩
    rw [ht] at h
    cases h
  unfold decision
  simp only [hpart, if_neg hext]
  all_goals rfl

theorem lookup_of_scoped (db : LinkStateDatabase) (a : IPv4Address) {k : LsaKey}
    (h : asWide k.lsType = false) : db.lookup a k = (db.area a).get? k := by
  unfold lookup
  rw [if_neg (by simp [h])]

end LinkStateDatabase

namespace Store

/-- The areas hold objects that exist. -/
def Allocated (s : Store) : Prop := ∀ a k r, (s.db.area a).get? k = some r → r < s.heap.next

theorem obj_alloc_of_lt {s : Store} {r : LsaRef} (h : r < s.heap.next) (lsa : Lsa) :
    (s.heap.alloc lsa).2.obj r = s.heap.obj r := Function.update_of_ne (Nat.ne_of_lt h) ..

theorem obj_alloc_self (s : Store) (lsa : Lsa) : (s.heap.alloc lsa).2.obj (s.heap.alloc lsa).1 = lsa :=
  Function.update_self ..

/-- An object that exists is not touched by the installation of another. -/
theorem obj_admitted_of_lt {s : Store} {c : LsdbCall} {lsa : Lsa} {r : LsaRef} (h : r < s.heap.next) :
    (s.admitted c lsa).2.2.obj r = s.heap.obj r := by
  unfold admitted
  rw [LinkStateDatabase.obj_install, if_neg fun hc => Nat.ne_of_lt h hc.2, obj_alloc_of_lt h]

/-- The LSAs that were there are seen as before, when a new one is installed. -/
theorem map_admitted {s : Store} (hs : s.Allocated) (c : LsdbCall) (lsa : Lsa) (a : IPv4Address) :
    (s.db.area a).map (s.admitted c lsa).2.2.obj = s.contents a :=
  Dict.map_congr fun k r hr => obj_admitted_of_lt (hs a k r hr)

/-- The answer of `install` for an object of its own. -/
theorem answer_admitted (s : Store) (c : LsdbCall) (lsa : Lsa) :
    (s.admitted c lsa).1 = s.db.decision (s.heap.alloc lsa).2 c.now c.areaId lsa := by
  unfold admitted
  rw [LinkStateDatabase.install_answer, obj_alloc_self]

theorem area_admitted (s : Store) (c : LsdbCall) (lsa : Lsa) (a : IPv4Address) :
    (s.admitted c lsa).2.1.area a =
      if (s.admitted c lsa).1.1 = true ∧ asWide lsa.key.lsType = false ∧ c.areaId = a then
        (s.db.area a).set lsa.key (s.heap.alloc lsa).1
      else s.db.area a := by
  unfold admitted
  rw [LinkStateDatabase.area_install, obj_alloc_self]

/-- The area after `install`. -/
theorem contents_admitted {s : Store} (hs : s.Allocated) (c : LsdbCall) (lsa : Lsa) (a : IPv4Address) :
    contents a ⟨(s.admitted c lsa).2.1, (s.admitted c lsa).2.2⟩ =
      if (s.admitted c lsa).1.1 = true ∧ asWide lsa.key.lsType = false ∧ c.areaId = a then
        (s.contents a).set lsa.key (lsa.markInstalled c.now)
      else s.contents a := by
  have hobj : (s.admitted c lsa).1.1 = true →
      (s.admitted c lsa).2.2.obj (s.heap.alloc lsa).1 = lsa.markInstalled c.now := by
    intro hyes
    unfold admitted at hyes ⊢
    rw [LinkStateDatabase.obj_install, if_pos ⟨hyes, rfl⟩, obj_alloc_self]
  show ((s.admitted c lsa).2.1.area a).map (s.admitted c lsa).2.2.obj = _
  rw [area_admitted]
  by_cases h : (s.admitted c lsa).1.1 = true ∧ asWide lsa.key.lsType = false ∧ c.areaId = a
  · rw [if_pos h, if_pos h, Dict.map_set, map_admitted hs, hobj h.1]
  · rw [if_neg h, if_neg h, map_admitted hs]

theorem allocated_perform {s : Store} (hs : s.Allocated) (c : LsdbCall) : (s.perform c).2.Allocated := by
  intro a k r hr
  unfold perform at hr ⊢
  cases hop : c.op with
  | lookup key =>
    rw [hop] at hr
    exact hs a k r hr
  | remove key =>
    rw [hop] at hr
    exact hs a k r (LinkStateDatabase.get?_area_of_remove hr)
  | install lsa =>
    rw [hop] at hr
    have hnext : (s.admitted c lsa).2.2.next = s.heap.next + 1 := by
      unfold admitted
      rw [LinkStateDatabase.next_install]
      rfl
    show r < (s.admitted c lsa).2.2.next
    rw [hnext]
    have hr' : ((s.admitted c lsa).2.1.area a).get? k = some r := hr
    rw [area_admitted] at hr'
    split at hr'
    · rcases Dict.get?_of_set hr' with ⟨-, rfl⟩ | hold
      · exact Nat.lt_succ_self _
      · exact Nat.lt_succ_of_lt (hs a k r hold)
    · exact Nat.lt_succ_of_lt (hs a k r hr')

/-- Asked for a newer instance of an LSA the area has, the arrival time that all areas share
and the time the LSA was installed agree on whether MinLSArrival has passed. -/
def Undisturbed (s : Store) (c : LsdbCall) : Prop :=
  ∀ lsa old, c.op = .install lsa → (s.contents c.areaId).get? lsa.key = some old →
    0 < compareLsa lsa.header old.header →
      (c.now - s.db.arrivalOf lsa.key < minLsArrival ↔ c.now - old.installTime.getD 0 < minLsArrival)

theorem concerns_iff {a : IPv4Address} {c : LsdbCall} :
    c.concerns a = true ↔ asWide c.key.lsType = false ∧ c.areaId = a := by
  simp [LsdbCall.concerns]

theorem lookup_contents (s : Store) {k : LsaKey} (h : asWide k.lsType = false) (a : IPv4Address) :
    s.lookup a k = (s.contents a).get? k := by
  unfold lookup contents
  rw [s.db.lookup_of_scoped a h, Dict.get?_map]

/-- A call that is not about an LSA of the area leaves the area as it was. -/
theorem contents_of_other {s : Store} (hs : s.Allocated) {a : IPv4Address} {c : LsdbCall}
    (hc : ¬c.concerns a) : (s.perform c).2.contents a = s.contents a := by
  rw [concerns_iff] at hc
  unfold LsdbCall.key at hc
  unfold perform
  cases hop : c.op with
  | lookup key => rfl
  | remove key =>
    rw [hop] at hc
    show ((s.db.remove c.areaId key).area a).map s.heap.obj = _
    rw [LinkStateDatabase.area_remove, if_neg hc]
    rfl
  | install lsa =>
    rw [hop] at hc
    exact (contents_admitted hs c lsa a).trans (if_neg fun h => hc h.2)

/-- **A call about an LSA of the area**: what `install` answers, in terms of the LSAs of the
area and of the shared arrival time. -/
theorem perform_install {s : Store} (hs : s.Allocated) {c : LsdbCall} {lsa : Lsa}
    (hop : c.op = .install lsa) (hw : asWide lsa.key.lsType = false) :
    ((s.perform c).1, (s.perform c).2.contents c.areaId) =
      match (s.contents c.areaId).get? lsa.key with
      | none =>
          if maxLsdbSizePerArea ≤ (s.contents c.areaId).size then
            (.installed false none, s.contents c.areaId)
          else (.installed true none, (s.contents c.areaId).set lsa.key (lsa.markInstalled c.now))
      | some old =>
          if compareLsa lsa.header old.header ≤ 0 then (.installed false (some old), s.contents c.areaId)
          else if c.now - s.db.arrivalOf lsa.key < minLsArrival then
            (.installed false (some old), s.contents c.areaId)
          else
            (.installed true (some old), (s.contents c.areaId).set lsa.key (lsa.markInstalled c.now)) := by
  have hanswer := s.answer_admitted c lsa
  rw [s.db.decision_of_scoped _ _ _ hw] at hanswer
  have hcontents := contents_admitted hs c lsa c.areaId
  have hperform : s.perform c = (.installed (s.admitted c lsa).1.1
      ((s.admitted c lsa).1.2.map (s.admitted c lsa).2.2.obj),
      ⟨(s.admitted c lsa).2.1, (s.admitted c lsa).2.2⟩) := by
    unfold perform
    rw [hop]
  have hget : (s.contents c.areaId).get? lsa.key =
      ((s.db.area c.areaId).get? lsa.key).map s.heap.obj := Dict.get?_map ..
  have hsize : (s.contents c.areaId).size = (s.db.area c.areaId).size := Dict.size_map ..
  rw [hperform, hcontents, hget, hsize]
  cases hpart : (s.db.area c.areaId).get? lsa.key with
  | none =>
    rw [hpart] at hanswer
    simp only [Option.map_none] at hanswer ⊢
    by_cases hfull : maxLsdbSizePerArea ≤ (s.db.area c.areaId).size
    · rw [if_pos hfull] at hanswer ⊢
      simp [hanswer]
    · rw [if_neg hfull] at hanswer ⊢
      simp [hanswer, hw]
  | some old =>
    have hlt := hs c.areaId lsa.key old hpart
    rw [hpart] at hanswer
    simp only [Option.map_some, obj_alloc_of_lt hlt] at hanswer ⊢
    by_cases hcmp : compareLsa lsa.header (s.heap.obj old).header ≤ 0
    · rw [if_pos hcmp] at hanswer ⊢
      simp [hanswer, obj_admitted_of_lt hlt]
    · rw [if_neg hcmp] at hanswer ⊢
      by_cases hsoon : c.now - s.db.arrivalOf lsa.key < minLsArrival
      · rw [if_pos hsoon] at hanswer ⊢
        simp [hanswer, obj_admitted_of_lt hlt]
      · rw [if_neg hsoon] at hanswer ⊢
        simp [hanswer, obj_admitted_of_lt hlt, hw]

/-- **A single call, seen from an area.**  It is served as by a database of that area alone
just where it is undisturbed. -/
theorem serves_area (a : IPv4Address) : Views.Serves perform areaStep (contents a) (LsdbCall.concerns a)
    Allocated Undisturbed where
  keeps := fun _ c hs => allocated_perform hs c
  other := fun _ _ hs hc => contents_of_other hs hc
  agrees := by
    intro s c hs hc hcond
    obtain ⟨hw, rfl⟩ := concerns_iff.1 hc
    unfold LsdbCall.key at hw
    unfold areaStep
    cases hop : c.op with
    | lookup key =>
      rw [hop] at hw
      unfold perform
      rw [hop]
      exact ⟨congrArg LsdbResult.found (lookup_contents s hw _), rfl⟩
    | remove key =>
      rw [hop] at hw
      unfold perform
      rw [hop]
      refine ⟨congrArg LsdbResult.found (lookup_contents s hw _), ?_⟩
      show ((s.db.remove c.areaId key).area c.areaId).map s.heap.obj = _
      rw [LinkStateDatabase.area_remove, if_pos ⟨hw, rfl⟩, Dict.map_pop]
      rfl
    | install lsa =>
      rw [hop] at hw
      rw [← Prod.mk.injEq, Prod.mk.eta, perform_install hs hop hw]
      simp only
      cases hget : (s.contents c.areaId).get? lsa.key with
      | none => rfl
      | some old =>
        by_cases hcmp : compareLsa lsa.header old.header ≤ 0
        · simp only [if_pos hcmp]
        · have hiff := hcond lsa old hop hget (Int.not_le.1 hcmp)
          simp only [if_neg hcmp, hiff]
  exact := by
    intro s c hs hc hr lsa old hop hget hcmp
    obtain ⟨hw, rfl⟩ := concerns_iff.1 hc
    unfold LsdbCall.key at hw
    rw [hop] at hw
    have hperform := congrArg Prod.fst (perform_install hs hop hw)
    unfold areaStep at hr
    rw [hop] at hr
    simp only [hget, if_neg (Int.not_le.2 hcmp)] at hperform hr
    rw [hperform] at hr
    by_cases h1 : c.now - s.db.arrivalOf lsa.key < minLsArrival
    · by_cases h2 : c.now - old.installTime.getD 0 < minLsArrival
      · exact iff_of_true h1 h2
      · rw [if_pos h1, if_neg h2] at hr
        cases hr
    · by_cases h2 : c.now - old.installTime.getD 0 < minLsArrival
      · rw [if_neg h1, if_pos h2] at hr
        cases hr
      · exact iff_of_false h1 h2

/-! ## Runs -/

/-- The answers to the calls about the LSAs of an area. -/
def answers (a : IPv4Address) (s : Store) (cs : List LsdbCall) : List LsdbResult :=
  Views.results perform (LsdbCall.concerns a) s cs

/-- The store after a list of calls. -/
def after (s : Store) (cs : List LsdbCall) : Store := Views.run perform s cs

/-- Every call about an LSA of the area is undisturbed when it is made. -/
def UndisturbedAlong (a : IPv4Address) (s : Store) (cs : List LsdbCall) : Prop :=
  Views.Along perform (LsdbCall.concerns a) Undisturbed s cs

theorem allocated_new (routerId : IPv4Address) : (new routerId).Allocated := by
  intro a k r hr
  cases hr

/-- What the arrival times are of a database that only one area uses: the times its LSAs
were installed. -/
structure Alone (a : IPv4Address) (s : Store) : Prop where
  allocated : s.Allocated
  arrival : ∀ k lsa, (s.contents a).get? k = some lsa → lsa.installTime = some (s.db.arrivalOf k)

theorem Alone.undisturbed {a : IPv4Address} {s : Store} {c : LsdbCall} (hc : c.concerns a)
    (h : Alone a s) : s.Undisturbed c := by
  obtain ⟨-, rfl⟩ := concerns_iff.1 hc
  intro lsa old _ hget _
  rw [h.arrival _ _ hget]
  rfl

theorem arrivalOf_admitted (s : Store) (c : LsdbCall) (lsa : Lsa) (k : LsaKey) :
    (s.admitted c lsa).2.1.arrivalOf k =
      if (s.admitted c lsa).1.1 = true ∧ lsa.key = k then c.now else s.db.arrivalOf k := by
  unfold admitted
  rw [LinkStateDatabase.arrivalOf_install, obj_alloc_self]

theorem Alone.perform {a : IPv4Address} {s : Store} {c : LsdbCall} (hc : c.concerns a)
    (h : Alone a s) : Alone a (s.perform c).2 := by
  refine ⟨allocated_perform h.allocated c, ?_⟩
  obtain ⟨hw, rfl⟩ := concerns_iff.1 hc
  unfold LsdbCall.key at hw
  intro k lsa hget
  unfold Store.perform at hget ⊢
  cases hop : c.op with
  | lookup key =>
    rw [hop] at hget
    exact h.arrival k lsa hget
  | remove key =>
    rw [hop] at hget hw
    have hcontents : contents c.areaId ⟨s.db.remove c.areaId key, s.heap⟩ = (s.contents c.areaId).pop key := by
      show ((s.db.remove c.areaId key).area c.areaId).map s.heap.obj = _
      rw [LinkStateDatabase.area_remove, if_pos ⟨hw, rfl⟩, Dict.map_pop]
      rfl
    have hpop : ((s.contents c.areaId).pop key).get? k = some lsa := by
      rw [← hcontents]
      exact hget
    show lsa.installTime = some (LinkStateDatabase.arrivalOf (s.db.remove c.areaId key) k)
    unfold LinkStateDatabase.arrivalOf
    rw [LinkStateDatabase.lastArrival_remove]
    exact h.arrival k lsa (Dict.get?_of_pop hpop)
  | install new =>
    rw [hop] at hget hw
    have hset : (contents c.areaId ⟨(s.admitted c new).2.1, (s.admitted c new).2.2⟩).get? k = some lsa := hget
    rw [contents_admitted h.allocated] at hset
    show lsa.installTime = some ((s.admitted c new).2.1.arrivalOf k)
    rw [arrivalOf_admitted]
    by_cases hyes : (s.admitted c new).1.1 = true
    · rw [if_pos ⟨hyes, hw, rfl⟩, Dict.get?_set] at hset
      by_cases hk : new.key = k
      · rw [if_pos hk] at hset
        cases hset
        rw [if_pos ⟨hyes, hk⟩]
        rfl
      · rw [if_neg hk] at hset
        rw [if_neg fun hc => hk hc.2]
        exact h.arrival k lsa hset
    · rw [if_neg fun hc => hyes hc.1] at hset
      rw [if_neg fun hc => hyes hc.1]
      exact h.arrival k lsa hset

theorem Alone.new (a routerId : IPv4Address) : Alone a (Store.new routerId) := by
  refine ⟨allocated_new routerId, ?_⟩
  intro k lsa hget
  cases hget

/-- A database that gets the calls about the LSAs of one area serves it like a database of
that area alone. -/
theorem answers_filter (a routerId : IPv4Address) (cs : List LsdbCall) :
    answers a (new routerId) (cs.filter (LsdbCall.concerns a)) =
        Views.results areaStep (LsdbCall.concerns a) Dict.empty (cs.filter (LsdbCall.concerns a)) ∧
      ((new routerId).after (cs.filter (LsdbCall.concerns a))).contents a =
        Views.run areaStep Dict.empty (cs.filter (LsdbCall.concerns a)) := by
  have halong : UndisturbedAlong a (new routerId) (cs.filter (LsdbCall.concerns a)) := by
    unfold UndisturbedAlong
    apply Views.along_of_invariant (P := Alone a)
    · exact fun s c hc h => h.perform hc
    · exact fun s c hc h => h.undisturbed hc
    · exact Alone.new a routerId
    · exact fun c hc => (List.mem_filter.1 hc).2
  have h := (serves_area a).of_along (allocated_new routerId) halong
  rw [List.filter_filter] at h
  simp only [Bool.and_self] at h
  exact h

/-- **Areas are independent up to MinLSArrival.**  From a new database, the calls about the
LSAs of an area are answered, and leave the area, as if they were the only ones just when
they are undisturbed; so two runs with the same calls about the area, undisturbed in both,
give it the same answers and contents. -/
theorem areas_independent (routerId a : IPv4Address) :
    (∀ cs, answers a (new routerId) cs = answers a (new routerId) (cs.filter (LsdbCall.concerns a)) ∧
        ((new routerId).after cs).contents a =
          ((new routerId).after (cs.filter (LsdbCall.concerns a))).contents a ↔
      UndisturbedAlong a (new routerId) cs) ∧
    ∀ cs cs', cs.filter (LsdbCall.concerns a) = cs'.filter (LsdbCall.concerns a) →
      UndisturbedAlong a (new routerId) cs → UndisturbedAlong a (new routerId) cs' →
        answers a (new routerId) cs = answers a (new routerId) cs' ∧
          ((new routerId).after cs).contents a = ((new routerId).after cs').contents a := by
  constructor
  · intro cs
    obtain ⟨h1, h2⟩ := answers_filter a routerId cs
    rw [h1, h2]
    exact (serves_area a).along_iff (allocated_new routerId)
  · intro cs cs' hsame h h'
    obtain ⟨h1, h2⟩ := (serves_area a).of_along (allocated_new routerId) h
    obtain ⟨h1', h2'⟩ := (serves_area a).of_along (allocated_new routerId) h'
    rw [hsame] at h1 h2
    exact ⟨h1.trans h1'.symm, h2.trans h2'.symm⟩

/-- A peer's Router-LSA is installed into area 0 and, once MinLSArrival has passed, replaced
by a newer instance. -/
def backboneCalls : List LsdbCall :=
  [⟨10 * second, 0, .install (routerLsaWithSeq 1)⟩, ⟨12 * second, 0, .install (routerLsaWithSeq 2)⟩]

/-- Half a second before, the peer's Router-LSA arrives in area 1 as well. -/
def borderCalls : List LsdbCall :=
  [⟨10 * second, 0, .install (routerLsaWithSeq 1)⟩,
    ⟨11 * second + second / 2, 1, .install (routerLsaWithSeq 1)⟩,
    ⟨12 * second, 0, .install (routerLsaWithSeq 2)⟩]

/-- The newer instance is refused to area 0, for what arrived in area 1. -/
theorem not_areas_independent : ¬∀ (routerId a : IPv4Address) (cs cs' : List LsdbCall),
    cs.filter (LsdbCall.concerns a) = cs'.filter (LsdbCall.concerns a) →
      answers a (new routerId) cs = answers a (new routerId) cs' ∧
        ((new routerId).after cs).contents a = ((new routerId).after cs').contents a := by
  intro h
  have hsame := (h 2 0 backboneCalls borderCalls (by decide)).1
  exact absurd hsame (by decide)

/-- In area 1, the first instance of a Router-LSA is installed whatever area 0 does. -/
theorem areas_independent_first :
    answers 1 (new 2) borderCalls = answers 1 (new 2) (borderCalls.filter (LsdbCall.concerns 1)) ∧
      ((new 2).after borderCalls).contents 1 =
        ((new 2).after (borderCalls.filter (LsdbCall.concerns 1))).contents 1 := by
  apply (areas_independent 2 1).2 borderCalls (borderCalls.filter (LsdbCall.concerns 1)) (by decide)
  · refine ⟨fun h => absurd h (by decide), fun _ => ?_, fun h => absurd h (by decide), trivial⟩
    intro lsa old hop hget
    cases hop
    cases hget
  · refine ⟨fun _ => ?_, trivial⟩
    intro lsa old hop hget
    cases hop
    cases hget

end Store
end Ospfd
