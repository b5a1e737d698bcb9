import Ospfd.Lib.Latest
import Ospfd.Lsdb.Recency

/-!
# Convergence of the database

Whatever the order in which the instances of one LSA are installed into an area,
and whatever else is installed in between, the instance stored in the end is the
most recent one.

* `InstallCall`, `Store.run` — a run of `install` calls.
* `stored_run` — **the place of the LSA in the database is a latest-wins register**
  over the instances offered to it.
* `install_converges` — final content, answers and the fate of superseded instances.
-/

namespace Ospfd

/-! ## Runs of `install` -/

/-- One call of `install`, at a time of the clock. -/
structure InstallCall where
  now : Time
  areaId : IPv4Address
  lsa : LsaRef

/-- A database with the LSA objects it refers to. -/
structure Store where
  db : LinkStateDatabase
  heap : LsaHeap

/-- What makes an LSA object the instance it is: header and body. -/
def Lsa.content (lsa : Lsa) : LsaHeader × Option LsaBody := (lsa.header, lsa.body)

namespace Store

/-- The store after a call. -/
def call (s : Store) (c : InstallCall) : Store :=
  ⟨(s.db.install s.heap c.now c.areaId c.lsa).2.1, (s.db.install s.heap c.now c.areaId c.lsa).2.2⟩

/-- Whether a call installs its LSA. -/
def answer (s : Store) (c : InstallCall) : Bool := (s.db.install s.heap c.now c.areaId c.lsa).1.1

/-- The store after a list of calls. -/
def run (s : Store) (cs : List InstallCall) : Store := cs.foldl call s

/-- The instance stored for a key. -/
def stored (s : Store) (a : IPv4Address) (k : LsaKey) : Option (LsaHeader × Option LsaBody) :=
  (s.db.lookup a k).map fun r => (s.heap.obj r).content

/-- The instance a call offers. -/
def offered (s : Store) (c : InstallCall) : LsaHeader × Option LsaBody :=
  (s.heap.obj c.lsa).content

/-- The calls for one key. -/
def callsFor (s : Store) (k : LsaKey) (cs : List InstallCall) : List InstallCall :=
  cs.filter fun c => (s.heap.obj c.lsa).key = k

theorem run_concat (s : Store) (cs : List InstallCall) (c : InstallCall) :
    s.run (cs ++ [c]) = (s.run cs).call c := by
  rw [run, List.foldl_append]
  rfl

theorem callsFor_concat (s : Store) (k : LsaKey) (cs : List InstallCall) (c : InstallCall) :
    s.callsFor k (cs ++ [c]) =
      s.callsFor k cs ++ if (s.heap.obj c.lsa).key = k then [c] else [] := by
  rw [callsFor, List.filter_append, List.filter_singleton]
  simp [callsFor]

/-- Installing does not change what an object says. -/
theorem content_call (s : Store) (c : InstallCall) (r : LsaRef) :
    ((s.call c).heap.obj r).content = (s.heap.obj r).content := by
  simp only [call, LinkStateDatabase.obj_install]
  split
  · rename_i h
    rw [h.2]
    rfl
  · rfl

theorem content_run (s : Store) (cs : List InstallCall) (r : LsaRef) :
    ((s.run cs).heap.obj r).content = (s.heap.obj r).content := by
  induction cs using List.reverseRecOn with
  | nil => rfl
  | append_singleton cs c ih => rw [run_concat, content_call, ih]

theorem key_eq_of_content {a b : Lsa} (h : a.content = b.content) : a.key = b.key := by
  rw [Lsa.key, Lsa.key, show a.header = b.header from congrArg Prod.fst h]

theorem key_run (s : Store) (cs : List InstallCall) (r : LsaRef) :
    ((s.run cs).heap.obj r).key = (s.heap.obj r).key := key_eq_of_content (content_run s cs r)

/-- A call for another key leaves the stored instance and its arrival time. -/
theorem call_of_ne {s : Store} {c : InstallCall} {k : LsaKey} (a : IPv4Address)
    (h : (s.heap.obj c.lsa).key ≠ k) : (s.call c).stored a k = s.stored a k ∧
      (s.call c).db.arrivalOf k = s.db.arrivalOf k := by
  have hlook : (s.call c).db.lookup a k = s.db.lookup a k := by
    rw [call, LinkStateDatabase.lookup_install, if_neg fun hc => h hc.2.1]
  constructor
  · rw [stored, stored, hlook]
    congr 1
    funext r
    exact content_call s c r
  · rw [call, LinkStateDatabase.arrivalOf_install, if_neg fun hc => h hc.2]

/-- A call for the key stores the offered instance when it is installed, and leaves
the stored one otherwise. -/
theorem stored_call {s : Store} {c : InstallCall} {k : LsaKey} (h : (s.heap.obj c.lsa).key = k) :
    (s.call c).stored c.areaId k =
      if s.answer c = true then some (s.offered c) else s.stored c.areaId k := by
  have hlook : (s.call c).db.lookup c.areaId k =
      if s.answer c = true then some c.lsa else s.db.lookup c.areaId k := by
    rw [call, LinkStateDatabase.lookup_install]
    have hplace : LinkStateDatabase.SamePlace c.areaId (s.heap.obj c.lsa).key c.areaId k :=
      ⟨h, Or.inr rfl⟩
    simp only [hplace, and_true]
    rfl
  rw [stored, hlook]
  split
  · simp [content_call, offered]
  · rw [stored]
    congr 1
    funext r
    exact content_call s c r

/-- After a call for the key, it last arrived at the time of the call when the call
installed it, and as before otherwise. -/
theorem arrivalOf_call {s : Store} {c : InstallCall} {k : LsaKey} (h : (s.heap.obj c.lsa).key = k) :
    (s.call c).db.arrivalOf k = if s.answer c = true then c.now else s.db.arrivalOf k := by
  rw [call, LinkStateDatabase.arrivalOf_install]
  simp only [h, and_true]
  rfl

/-! ## The place of one LSA is a latest-wins register -/

/-- The rank of an instance: signed sequence number, then checksum. -/
def rank (x : LsaHeader × Option LsaBody) : Int ×ₗ Nat := recency x.1

/-- A run of calls in which the instances of one key, not stored before, are
offered to one area. -/
structure KeyRun (s : Store) (a : IPv4Address) (k : LsaKey) (cs : List InstallCall) : Prop where
  /-- The key is new to the area. -/
  absent : s.db.lookup a k = none
  /-- The instances go into that area. -/
  area : ∀ c ∈ s.callsFor k cs, c.areaId = a
  /-- Sequence numbers are stored unsigned. -/
  seqRange : ∀ c ∈ s.callsFor k cs, (s.offered c).1.lsSequenceNumber < 4294967296
  /-- Sequence number and checksum tell the instances apart. -/
  distinct : ∀ c ∈ s.callsFor k cs, ∀ c' ∈ s.callsFor k cs,
    SameRank (s.offered c).1 (s.offered c').1 → s.offered c = s.offered c'
  /-- They arrive at least MinLSArrival apart. -/
  spaced : (s.callsFor k cs).Pairwise fun c c' => c.now + minLsArrival ≤ c'.now
  /-- The first of them finds room in the partition. -/
  room : ∀ pre c, pre ++ [c] <+: cs → s.callsFor k pre = [] → (s.heap.obj c.lsa).key = k →
    ((s.run pre).db.partitionFor a k.lsType).size < maxLsdbSizePerArea

variable {s : Store} {a : IPv4Address} {k : LsaKey} {cs : List InstallCall} {c : InstallCall}

theorem callsFor_mono {pre : List InstallCall} (h : pre <+: cs) :
    s.callsFor k pre <+: s.callsFor k cs := List.IsPrefix.filter _ h

theorem KeyRun.mono {pre : List InstallCall} (h : KeyRun s a k cs) (hp : pre <+: cs) :
    KeyRun s a k pre := by
  have hsub := (callsFor_mono (s := s) (k := k) hp).subset
  exact ⟨h.absent, fun c hc => h.area c (hsub hc), fun c hc => h.seqRange c (hsub hc),
    fun c hc c' hc' => h.distinct c (hsub hc) c' (hsub hc'),
    h.spaced.sublist (callsFor_mono hp).sublist,
    fun p c hpc => h.room p c (hpc.trans hp)⟩

/-- What is known between two calls: the stored instance is the latest offer, and
the key last arrived no later than some offer. -/
structure Tracked (s : Store) (a : IPv4Address) (k : LsaKey) (cs : List InstallCall) : Prop where
  stored : (s.run cs).stored a k = Latest.after rank ((s.callsFor k cs).map s.offered)
  arrival : s.callsFor k cs ≠ [] → ∃ e ∈ s.callsFor k cs, (s.run cs).db.arrivalOf k ≤ e.now

/-- A call for the key is answered as an offer to the register. -/
theorem answer_eq (h : KeyRun s a k (cs ++ [c])) (ht : Tracked s a k cs)
    (hk : (s.heap.obj c.lsa).key = k) : (s.run cs).answer c =
      Latest.takes rank (Latest.after rank ((s.callsFor k cs).map s.offered)) (s.offered c) := by
  have hcalls : s.callsFor k (cs ++ [c]) = s.callsFor k cs ++ [c] := by
    rw [callsFor_concat, if_pos hk]
  have hc : c ∈ s.callsFor k (cs ++ [c]) := by simp [hcalls]
  have harea : c.areaId = a := h.area c hc
  have hk' : ((s.run cs).heap.obj c.lsa).key = k := by rw [key_run, hk]
  have hoff : ((s.run cs).heap.obj c.lsa).header = (s.offered c).1 :=
    congrArg Prod.fst (content_run s cs c.lsa)
  rw [Bool.eq_iff_iff, answer, LinkStateDatabase.install_answer]
  cases hheld : Latest.after rank ((s.callsFor k cs).map s.offered) with
  | none =>
    -- the first offer: there is nothing to compare it with, and there is room
    have hnil : s.callsFor k cs = [] := by simpa using Latest.after_eq_none_iff.1 hheld
    have hlook : (s.run cs).db.lookup c.areaId ((s.run cs).heap.obj c.lsa).key = none := by
      have hst := ht.stored
      rw [hheld, Store.stored, Option.map_eq_none_iff] at hst
      rw [hk', harea, hst]
    rw [LinkStateDatabase.decision_of_none hlook, hk', harea]
    simpa [Latest.takes] using h.room cs c List.prefix_rfl hnil hk
  | some x =>
    have hst := ht.stored
    rw [hheld, Store.stored, Option.map_eq_some_iff] at hst
    obtain ⟨old, hold, hx⟩ := hst
    have hlook : (s.run cs).db.lookup c.areaId ((s.run cs).heap.obj c.lsa).key = some old := by
      rw [hk', harea, hold]
    have hhdr : ((s.run cs).heap.obj old).header = x.1 := congrArg Prod.fst hx
    obtain ⟨e, he, hex⟩ := List.mem_map.1 (Latest.after_spec hheld).1
    have he' : e ∈ s.callsFor k (cs ++ [c]) := by simp [hcalls, he]
    -- MinLSArrival has passed since the last offer
    have hwait : minLsArrival ≤ c.now - (s.run cs).db.arrivalOf k := by
      obtain ⟨l, hl, harr⟩ := ht.arrival (List.ne_nil_of_mem he)
      have hsp := h.spaced
      rw [hcalls] at hsp
      have hle : l.now + minLsArrival ≤ c.now := (List.pairwise_append.1 hsp).2.2 l hl c (by simp)
      exact Nat.le_sub_of_add_le (by rw [Nat.add_comm]; exact le_trans (by simpa using harr) hle)
    rw [LinkStateDatabase.decision_of_some hlook, hhdr, hoff, hk', and_iff_left hwait, ← hex]
    simp only [Latest.takes, decide_eq_true_eq]
    by_cases hsame : SameRank (s.offered c).1 (s.offered e).1
    · rw [h.distinct c hc e he' hsame, compareLsa_self]
      simp
    · exact compareLsa_pos_iff (h.seqRange c hc) (h.seqRange e he') hsame

/-- **The place of the LSA in the database is a latest-wins register.** -/
theorem stored_run : ∀ {cs : List InstallCall}, KeyRun s a k cs → Tracked s a k cs := by
  intro cs
  induction cs using List.reverseRecOn with
  | nil =>
    intro h
    refine ⟨?_, fun hne => absurd rfl hne⟩
    change Option.map _ (s.db.lookup a k) = none
    rw [h.absent]
    rfl
  | append_singleton cs c ih =>
    intro h
    have ht := ih (h.mono (List.prefix_append _ _))
    by_cases hk : (s.heap.obj c.lsa).key = k
    · have hk' : ((s.run cs).heap.obj c.lsa).key = k := by rw [key_run, hk]
      have hcalls : s.callsFor k (cs ++ [c]) = s.callsFor k cs ++ [c] := by
        rw [callsFor_concat, if_pos hk]
      have harea : c.areaId = a := h.area c (by simp [hcalls])
      have hoff : (s.run cs).offered c = s.offered c := content_run s cs c.lsa
      constructor
      · have hst := stored_call hk'
        rw [harea] at hst
        rw [run_concat, hst, answer_eq h ht hk, hcalls, List.map_append, List.map_singleton,
          Latest.after_concat, Latest.offer, hoff, ht.stored]
      · intro _
        rw [run_concat, arrivalOf_call hk']
        split
        · exact ⟨c, by simp [hcalls], le_rfl⟩
        · rename_i hno
          -- a refused offer is not the first one
          have hne : s.callsFor k cs ≠ [] := by
            intro hnil
            rw [answer_eq h ht hk, hnil] at hno
            exact hno rfl
          obtain ⟨e, he, harr⟩ := ht.arrival hne
          exact ⟨e, by simp [hcalls, he], harr⟩
    · have hk' : ((s.run cs).heap.obj c.lsa).key ≠ k := by rwa [key_run]
      have hcalls : s.callsFor k (cs ++ [c]) = s.callsFor k cs := by
        rw [callsFor_concat, if_neg hk, List.append_nil]
      obtain ⟨hst, harr⟩ := call_of_ne a hk'
      constructor
      · rw [run_concat, hst, hcalls, ht.stored]
      · rw [run_concat, harr, hcalls]
        exact ht.arrival

/-! ## Convergence -/

/-- Two offers of a run rank alike only when they are one instance. -/
theorem KeyRun.rank_injective (h : KeyRun s a k cs) {c c' : InstallCall}
    (hc : c ∈ s.callsFor k cs) (hc' : c' ∈ s.callsFor k cs)
    (hr : rank (s.offered c) = rank (s.offered c')) : s.offered c = s.offered c' := by
  have hpair := Prod.ext_iff.1 (toLex.injective hr)
  exact h.distinct c hc c' hc' ⟨signed32_injOn (h.seqRange c hc) (h.seqRange c' hc') hpair.1, hpair.2⟩

/-- **The database converges.**  Installing the instances of one LSA into an area, in
any order and with any repetitions, between any other calls: every call installs its
instance exactly when it is strictly newer than every instance before it; an instance
once superseded is never stored again; and in the end the stored instance is the one
that all others are below, by signed sequence number and then checksum. -/
theorem install_converges (h : KeyRun s a k cs) :
    (∀ pre c, pre ++ [c] <+: cs → (s.heap.obj c.lsa).key = k →
      ((s.run pre).answer c = true ↔
        ∀ e ∈ s.callsFor k pre, 0 < compareLsa (s.offered c).1 (s.offered e).1)) ∧
    (∀ p₁ p₂ p₃ x y, p₁ ++ p₂ ++ p₃ <+: cs → (s.run p₁).stored a k = some x →
      (s.run (p₁ ++ p₂)).stored a k = some y → y ≠ x →
        (s.run (p₁ ++ p₂ ++ p₃)).stored a k ≠ some x) ∧
    (s.callsFor k cs ≠ [] → ∃ m, (s.run cs).stored a k = some m ∧
      m ∈ (s.callsFor k cs).map s.offered ∧
        ∀ e ∈ s.callsFor k cs, s.offered e = m ∨ recency (s.offered e).1 < recency m.1) := by
  refine ⟨fun pre c hp hk => ?_, fun p₁ p₂ p₃ x y hp hx hy hne => ?_, fun hne => ?_⟩
  · have hrun := h.mono hp
    have hcalls : s.callsFor k (pre ++ [c]) = s.callsFor k pre ++ [c] := by
      rw [callsFor_concat, if_pos hk]
    have hc : c ∈ s.callsFor k (pre ++ [c]) := by simp [hcalls]
    rw [answer_eq hrun (stored_run (hrun.mono (List.prefix_append _ _))) hk, Latest.takes_after_iff,
      List.forall_mem_map]
    refine forall₂_congr fun e he => ?_
    have he' : e ∈ s.callsFor k (pre ++ [c]) := by simp [hcalls, he]
    by_cases hsame : SameRank (s.offered c).1 (s.offered e).1
    · rw [hrun.distinct c hc e he' hsame, compareLsa_self]
      simp
    · exact (compareLsa_pos_iff (hrun.seqRange c hc) (hrun.seqRange e he') hsame).symm
  · have hsplit : ∀ p q : List InstallCall, p ++ q <+: cs →
        (s.run p).stored a k = Latest.after rank ((s.callsFor k p).map s.offered) :=
      fun p q hpq => (stored_run (h.mono ((List.prefix_append _ _).trans hpq))).stored
    rw [hsplit p₁ (p₂ ++ p₃) (by rwa [← List.append_assoc])] at hx
    rw [hsplit (p₁ ++ p₂) p₃ hp] at hy
    rw [hsplit (p₁ ++ p₂ ++ p₃) [] (by rwa [List.append_nil])]
    simp only [callsFor, List.filter_append, List.map_append] at hx hy ⊢
    exact Latest.after_superseded hx hy hne
  · have hst := (stored_run h).stored
    cases hheld : Latest.after rank ((s.callsFor k cs).map s.offered) with
    | none => exact absurd (by simpa using Latest.after_eq_none_iff.1 hheld) hne
    | some m =>
      obtain ⟨hmem, hmax⟩ := Latest.after_spec hheld
      refine ⟨m, by rw [hst, hheld], hmem, fun e he => ?_⟩
      obtain ⟨e', he', rfl⟩ := List.mem_map.1 hmem
      have hle : rank (s.offered e) ≤ rank (s.offered e') := hmax _ (List.mem_map_of_mem he)
      rcases hle.lt_or_eq with hlt | heq
      · exact Or.inr hlt
      · exact Or.inl (h.rank_injective he he' heq)

/-! ### An instance of the theorem -/

/-- A Router-LSA of router `1` with a sequence number. -/
def routerLsaWithSeq (seq : Nat) : Lsa :=
  { header := { lsAge := 1, options := optE, lsType := lsaTypeRouter, linkStateId := 1,
                advertisingRouter := 1, lsSequenceNumber := seq, lsChecksum := 7, length := 24 },
    body := some (.router { flags := 0, numLinks := 0 }) }

/-- An empty database, with objects `0` and `1`: an older and a newer instance, whose
sequence numbers lie on both sides of the sign. -/
def wrapStore : Store :=
  { db := { routerId := 2 },
    heap := { obj := fun r => routerLsaWithSeq (if r = 0 then 0xFFFFFFFF else 0), next := 2 } }

/-- The newer instance arrives first and again later, the older one in between. -/
def wrapCalls : List InstallCall :=
  [⟨10 * second, 0, 1⟩, ⟨12 * second, 0, 0⟩, ⟨14 * second, 0, 1⟩]

theorem keyRun_wrapCalls : KeyRun wrapStore 0 (routerLsaWithSeq 0).key wrapCalls where
  absent := rfl
  area := by decide
  seqRange := by decide
  distinct := by decide
  spaced := by decide
  room := by
    intro pre c hp hnil _
    match pre, hp, hnil with
    | [], _, _ => decide
    | e :: pre, hp, hnil =>
      -- the first call is one for the key
      have he : e = ⟨10 * second, 0, 1⟩ := (List.cons_prefix_cons.1 hp).1
      subst he
      cases hnil

theorem install_converges_wrapCalls : ∃ m, (wrapStore.run wrapCalls).stored 0
    (routerLsaWithSeq 0).key = some m ∧
      m ∈ (wrapStore.callsFor (routerLsaWithSeq 0).key wrapCalls).map wrapStore.offered ∧
        ∀ e ∈ wrapStore.callsFor (routerLsaWithSeq 0).key wrapCalls,
          wrapStore.offered e = m ∨ recency (wrapStore.offered e).1 < recency m.1 :=
  (install_converges keyRun_wrapCalls).2.2 (by decide)

end Store
end Ospfd
