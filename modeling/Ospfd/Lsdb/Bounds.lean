import Ospfd.Lsdb.Areas
import Ospfd.Lsdb.Packable
import Ospfd.Lsdb.Updates
import Ospfd.Packet.RoundTrip
import Ospfd.Protocol.Sequence

/-!
# The bounds of the tables

* `Shelved` — each LSA is stored under its own key, in the partition of its type.
* `Bounded` — no partition holds more than 10,000 LSAs.
* `StoreRun` — runs of the operations; `storeRun_exec` — **what the daemon does to its database
  is such a run**.
* `Capped` — no retransmission list holds more than 1,000 LSAs, no interface has more than 128
  neighbors; `exec_capped` — **every event keeps this**.
* `tables_bounded` — all of it together.
-/

namespace Ospfd

/-! ## The database -/

namespace LinkStateDatabase

/-- Each LSA is stored under its own key, in the AS-wide partition just when its type is AS-wide. -/
structure Shelved (db : LinkStateDatabase) (heap : LsaHeap) : Prop where
  area : ∀ a k r, (db.area a).get? k = some r →
    r < heap.next ∧ (heap.obj r).key = k ∧ asWide k.lsType = false
  external : ∀ k r, db.external.get? k = some r →
    r < heap.next ∧ (heap.obj r).key = k ∧ asWide k.lsType = true

/-- The partitions are within their limits. -/
structure Bounded (db : LinkStateDatabase) : Prop where
  area : ∀ a, (db.area a).size ≤ maxLsdbSizePerArea
  external : db.external.size ≤ maxLsdbExternalSize

section Install

variable (db : LinkStateDatabase) (heap : LsaHeap) (now : Time) (a : IPv4Address) (r : LsaRef)

theorem external_install : (db.install heap now a r).2.1.external =
    if (db.install heap now a r).1.1 = true ∧ asWide (heap.obj r).key.lsType = true then
      db.external.set (heap.obj r).key r
    else db.external := by
  have hsame : ∀ d : LinkStateDatabase, (if asWide (heap.obj r).key.lsType then db
      else db.ensureArea a) = d → d.external = db.external := by
    rintro d rfl
    split <;> simp
  simp only [install]
  generalize hd : (if asWide (heap.obj r).key.lsType then db else db.ensureArea a) = d
  by_cases hadm : (d.decision heap now a (heap.obj r)).1 = true
  · simp only [hadm, if_true, true_and]
    rw [← hsame d hd, store]
    split <;> rfl
  · simp [hadm, hsame d hd]

theorem external_remove (k : LsaKey) : (db.remove a k).external =
    if asWide k.lsType = true then db.external.pop k else db.external := by
  rw [remove]
  split
  · rfl
  · split <;> rfl

variable {db heap now a r}

/-- **What is installed is what is looked up.** -/
theorem lookup_of_installed (h : (db.install heap now a r).1.1 = true) :
    (db.install heap now a r).2.1.lookup a (heap.obj r).key = some r := by
  rw [lookup_install, if_pos ⟨h, rfl, Or.inr rfl⟩]

/-- **What is refused changes nothing.** -/
theorem install_of_not_installed (h : (db.install heap now a r).1.1 = false) :
    (db.install heap now a r).2 = (db, heap) := by
  rw [install_answer] at h
  rw [install_of_refused h]

/-- There is room for what is installed. -/
theorem size_set_of_installed (h : (db.install heap now a r).1.1 = true)
    (hsize : (db.partitionFor a (heap.obj r).key.lsType).size ≤ maxLsdbSizePerArea) :
    ((db.partitionFor a (heap.obj r).key.lsType).set (heap.obj r).key r).size ≤ maxLsdbSizePerArea := by
  rw [install_answer] at h
  rw [Dict.size_set, Dict.contains, get?_partitionFor]
  cases hlook : db.lookup a (heap.obj r).key with
  | some old => exact hsize
  | none => exact (decision_of_none hlook).1 h

end Install

variable {db : LinkStateDatabase} {heap : LsaHeap}

theorem Shelved.grow {heap' : LsaHeap} (h : db.Shelved heap) (g : heap.Grows heap') : db.Shelved heap' := by
  refine ⟨fun a k r hr => ?_, fun k r hr => ?_⟩
  · obtain ⟨hlt, hkey, hw⟩ := h.area a k r hr
    exact ⟨lt_of_lt_of_le hlt g.next, (g.same r hlt).key.trans hkey, hw⟩
  · obtain ⟨hlt, hkey, hw⟩ := h.external k r hr
    exact ⟨lt_of_lt_of_le hlt g.next, (g.same r hlt).key.trans hkey, hw⟩

theorem Shelved.install (h : db.Shelved heap) {r : LsaRef} (hr : r < heap.next) (now : Time)
    (a : IPv4Address) : (db.install heap now a r).2.1.Shelved (db.install heap now a r).2.2 := by
  have hold : (db.install heap now a r).2.1.Shelved heap := by
    refine ⟨fun a' k k' hk => ?_, fun k k' hk => ?_⟩
    · rcases get?_area_of_install hk with ⟨rfl, hkey, hw, -⟩ | hold
      · exact ⟨hr, hkey, hw⟩
      · exact h.area a' k k' hold
    · rw [external_install] at hk
      split at hk
      · rename_i hinst
        rcases Dict.get?_of_set hk with ⟨rfl, rfl⟩ | hold
        · exact ⟨hr, rfl, hinst.2⟩
        · exact h.external k k' hold
      · exact h.external k k' hk
  exact hold.grow (grows_install db heap now a r)

theorem Shelved.remove (h : db.Shelved heap) (a : IPv4Address) (key : LsaKey) :
    (db.remove a key).Shelved heap := by
  refine ⟨fun a' k r hr => h.area a' k r (get?_area_of_remove hr), fun k r hr => h.external k r ?_⟩
  rw [external_remove] at hr
  split at hr
  · exact Dict.get?_of_pop hr
  · exact hr

theorem Bounded.install (h : db.Bounded) (heap : LsaHeap) (now : Time) (a : IPv4Address) (r : LsaRef) :
    (db.install heap now a r).2.1.Bounded := by
  refine ⟨fun a' => ?_, ?_⟩
  · rw [area_install]
    split
    · rename_i hinst
      obtain ⟨hok, hw, rfl⟩ := hinst
      have hpart : db.partitionFor a (heap.obj r).key.lsType = db.area a := by
        rw [partitionFor, if_neg (by simp [hw])]
      have hset := size_set_of_installed hok
      rw [hpart] at hset
      exact hset (h.area a)
    · exact h.area a'
  · rw [external_install]
    split
    · rename_i hinst
      obtain ⟨hok, hw⟩ := hinst
      have hpart : db.partitionFor a (heap.obj r).key.lsType = db.external := if_pos hw
      have hset := size_set_of_installed hok
      rw [hpart] at hset
      exact hset h.external
    · exact h.external

theorem Bounded.remove (h : db.Bounded) (a : IPv4Address) (key : LsaKey) : (db.remove a key).Bounded := by
  refine ⟨fun a' => ?_, ?_⟩
  · rw [area_remove]
    split
    · exact (Dict.size_pop_le ..).trans (h.area a')
    · exact h.area a'
  · rw [external_remove]
    split
    · exact (Dict.size_pop_le ..).trans h.external
    · exact h.external

end LinkStateDatabase

/-! ## Runs of the database -/

/-- What a database goes through, from an empty one on: areas are added, LSA objects are created,
aged and serialized, installed and removed. -/
inductive StoreRun : LinkStateDatabase → LsaHeap → Prop where
  | init {db : LinkStateDatabase} {heap : LsaHeap} (h : ∀ a, db.getAllHeaders a = []) : StoreRun db heap
  | ensureArea {db : LinkStateDatabase} {heap : LsaHeap} (h : StoreRun db heap) (a : IPv4Address) :
      StoreRun (db.ensureArea a) heap
  | grow {db : LinkStateDatabase} {heap heap' : LsaHeap} (h : StoreRun db heap) (g : heap.Grows heap') :
      StoreRun db heap'
  | install {db : LinkStateDatabase} {heap : LsaHeap} (h : StoreRun db heap) (now : Time) (a : IPv4Address)
      {r : LsaRef} (hr : r < heap.next) :
      StoreRun (db.install heap now a r).2.1 (db.install heap now a r).2.2
  | remove {db : LinkStateDatabase} {heap : LsaHeap} (h : StoreRun db heap) (a : IPv4Address) (k : LsaKey) :
      StoreRun (db.remove a k) heap

namespace StoreRun

variable {db : LinkStateDatabase} {heap : LsaHeap}

/-- An empty database has empty partitions. -/
theorem entries_of_empty (h : ∀ a, db.getAllHeaders a = []) :
    (∀ a, (db.area a).entries = []) ∧ db.external.entries = [] := by
  have hboth : ∀ a, (db.area a).values = [] ∧ db.external.values = [] := fun a =>
    List.append_eq_nil_iff.1 (h a)
  exact ⟨fun a => List.map_eq_nil_iff.1 (hboth a).1, List.map_eq_nil_iff.1 (hboth 0).2⟩

/-- **Each LSA stays under its own key.** -/
theorem shelved (h : StoreRun db heap) : db.Shelved heap := by
  induction h with
  | init h =>
    obtain ⟨harea, hext⟩ := entries_of_empty h
    refine ⟨fun a k r hr => ?_, fun k r hr => ?_⟩
    · rw [Dict.entries_eq_nil_iff.1 (harea a)] at hr
      cases hr
    · rw [Dict.entries_eq_nil_iff.1 hext] at hr
      cases hr
  | ensureArea _ a ih => exact ⟨by simpa using ih.area, by simpa using ih.external⟩
  | grow _ g ih => exact ih.grow g
  | install _ now a hr ih => exact ih.install hr now a
  | remove _ a k ih => exact ih.remove a k

/-- **The partitions stay within their limits.** -/
theorem bounded (h : StoreRun db heap) : db.Bounded := by
  induction h with
  | init h =>
    obtain ⟨harea, hext⟩ := entries_of_empty h
    refine ⟨fun a => ?_, ?_⟩
    · rw [Dict.size, harea]
      exact Nat.zero_le _
    · rw [Dict.size, hext]
      exact Nat.zero_le _
  | ensureArea _ a ih => exact ⟨by simpa using ih.area, by simpa using ih.external⟩
  | grow _ _ ih => exact ih
  | install _ now a _ ih => exact ih.install _ now a _
  | remove _ a k ih => exact ih.remove a k

end StoreRun

/-! ## The database of the daemon -/

/-- A run of the database goes on. -/
def KeepsStoreRun (s t : Instance) : Prop := StoreRun s.lsdb s.heap → StoreRun t.lsdb t.heap

instance : Std.Refl KeepsStoreRun := ⟨fun _ h => h⟩

instance : IsTrans Instance KeepsStoreRun := ⟨fun _ _ _ h h' hs => h' (h hs)⟩

/-- Moves that install nothing. -/
theorem move_storeRun {l : Label} {s t : Instance} (hl : NoInstall l) (hm : move l s t) :
    KeepsStoreRun s t := by
  intro hs
  have hgrows := move_grows hm
  by_cases hrem : ∃ a key, l = .remove a key
  · obtain ⟨a, key, rfl⟩ := hrem
    obtain rfl : t = _ := hm
    exact hs.remove a key
  · have hsame : t.lsdb = s.lsdb := by
      refine move_lsdb ⟨hl, fun a key heq => hrem ⟨a, key, heq⟩⟩ hm
    rw [hsame]
    exact hs.grow hgrows

theorem storeRun_admits : Admits KeepsStoreRun fun r s => r < s.heap.next where
  move := move_storeRun
  draft := by
    intro s lsType linkStateId body seqNum b areaId _ hs
    have hdrafted := (drafted_moves s (draftOf s lsType linkStateId body seqNum)).grows
    have hrun : StoreRun s.lsdb (s.drafted (draftOf s lsType linkStateId body seqNum)).heap :=
      hs.grow hdrafted
    exact hrun.install s.now areaId (Nat.lt_succ_self _)
  lasts := fun hm hr => lt_of_lt_of_le hr (move_grows hm).next
  install := fun areaId hr hs => hs.install _ areaId hr

/-- **What an event does to the database** is a run of its operations. -/
theorem storeRun_exec {s : Instance} {e : Event} (hen : e.Enabled s) (h : StoreRun s.lsdb s.heap) :
    StoreRun (exec s e).lsdb (exec s e).heap := by
  refine storeRun_admits.exec hen (fun n src lsu _ rs u hrun r hr => ?_) h
  obtain ⟨rs', heap, hrun', -, -, hrs, -⟩ := newLsas_returns lsu.lsas s
  rw [hrun', Prod.mk.injEq, Except.ok.injEq] at hrun
  obtain ⟨rfl, rfl⟩ := hrun
  exact (hrs r hr).2

/-! ## Retransmission lists and neighbors -/

/-- The tables of the neighbors are within their limits. -/
structure Instance.Capped (s : Instance) : Prop where
  rxmt : ∀ n, (s.nbr n).lsRetransmissionList.size ≤ maxRxmtList
  neighbors : ∀ i, (s.intf i).neighbors.length ≤ maxNeighbors

/-- What was within its limits stays there. -/
def KeepsCapped (s t : Instance) : Prop := s.Capped → t.Capped

instance : Std.Refl KeepsCapped := ⟨fun _ h => h⟩

instance : IsTrans Instance KeepsCapped := ⟨fun _ _ _ h h' hs => h' (h hs)⟩

section Capped

variable {s t : Instance}

theorem KeepsCapped.of_eq (hnbr : t.nbr = s.nbr) (hintf : t.intf = s.intf) : KeepsCapped s t :=
  fun h => ⟨by rw [hnbr]; exact h.rxmt, by rw [hintf]; exact h.neighbors⟩

theorem KeepsCapped.setNbr {n : NbrRef} {x : OspfNeighbor}
    (h : (s.nbr n).lsRetransmissionList.size ≤ maxRxmtList →
      x.lsRetransmissionList.size ≤ maxRxmtList) : KeepsCapped s (s.setNbr n x) := by
  refine fun hs => ⟨fun m => ?_, hs.neighbors⟩
  rw [Instance.nbr_setNbr]
  split
  · exact h (hs.rxmt n)
  · exact hs.rxmt m

theorem move_capped {l : Label} (hl : l.isPlain = true) (hm : move l s t) : KeepsCapped s t := by
  refine fun hs => ⟨fun n => ?_, fun j => ?_⟩
  · refine move_nbr (P := fun x => x.lsRetransmissionList.size ≤ maxRxmtList) hm (fun _ _ => Nat.zero_le _)
      (fun m x' heq hx => ?_) (fun x' hx => hx.thinned.size_le.trans (hs.rxmt n)) (hs.rxmt n)
    have hpend : ∀ key r, m ≠ .pend key r := by
      rintro key r rfl
      rw [heq] at hl
      cases hl
    exact (hx.thinned hpend).size_le.trans (hs.rxmt n)
  · cases l with
    | intf i =>
      obtain ⟨x, hx, rfl⟩ := hm
      rw [Instance.intf_setIntf]
      split
      · rw [hx.neighbors]
        exact hs.neighbors i
      · exact hs.neighbors j
    | elect i =>
      obtain ⟨dr, bdr, state, hintf⟩ := hm.intf
      by_cases hj : j = i
      · rw [hj, hintf]
        exact hs.neighbors i
      · rw [hm.other j hj]
        exact hs.neighbors j
    | clear i =>
      obtain ⟨-, rfl⟩ := hm
      rw [Instance.intf_setIntf]
      split
      · exact Nat.zero_le _
      · exact hs.neighbors j
    | create n src => cases hl
    | nbr n m =>
      obtain ⟨x, -, rfl⟩ := nbr_of_move hm
      exact hs.neighbors j
    | _ =>
      rw [((move_framed hm).tables rfl).2]
      exact hs.neighbors j

theorem moves_capped {A : Label → Prop} (hA : ∀ l, A l → l.isPlain = true) (hm : Moves A s t) :
    KeepsCapped s t := Lts.Moves.relates (fun l _ _ hl hm => move_capped (hA l hl) hm) hm

/-! ### Flooding -/

/-- **A list that is full gets no more LSAs.** -/
theorem addRetransmission_capped (r : LsaRef) (n : NbrRef) :
    Eff.Within KeepsCapped (addRetransmission r n) := by
  refine Eff.Within.get_bind fun s => ?_
  by_cases hmem : (s.nbr n).lsRetransmissionList.contains (s.heap.obj r).key = true
  · rw [if_pos hmem]
    exact refl_of KeepsCapped s
  · rw [if_neg hmem]
    by_cases hfull : maxRxmtList ≤ (s.nbr n).lsRetransmissionList.size
    · rw [if_pos hfull]
      have hkill : KeepsCapped s (nbrEvent n .killNbr s).2 :=
        moves_capped (fun l hl => by rcases hl with rfl | rfl | rfl <;> rfl)
          (nbrEvent_reset n (show NbrEvent.killNbr.isReset = true from rfl) s)
      exact Eff.bind_final hkill fun _ _ => hkill
    · rw [if_neg hfull]
      refine KeepsCapped.setNbr fun _ => ?_
      rw [Dict.size_set, if_neg hmem]
      exact Nat.not_le.1 hfull

/-- Serializing and sending are plain moves. -/
theorem plain_capped {m : Py Unit} (h : Eff.Within (Moves fun l => l.isPlain = true) m) :
    Eff.Within KeepsCapped m :=
  h.mono fun _ _ => moves_capped fun _ => id

theorem floodMulticast_capped (r : LsaRef) (i : IntfId) (dest : IPv4Address) :
    Eff.Within KeepsCapped (floodMulticast r i dest) := by
  apply plain_capped
  exact Eff.Within.bind (serializeLsu_within fun _ _ => rfl) fun _ =>
    Quiet.within rfl (sendPacket_within _ _ _ _)

theorem floodUnicast_capped (r : LsaRef) (i : IntfId) (ns : List NbrRef) :
    Eff.Within KeepsCapped (floodUnicast r i ns) := by
  apply plain_capped
  refine Eff.Within.forEach fun n _ => Eff.Within.bind (serializeLsu_within fun _ _ => rfl) fun _ => ?_
  exact Eff.Within.read fun _ => Quiet.within rfl (sendPacket_within _ _ _ _)

theorem floodToInterface_capped (r : LsaRef) (i : IntfId) :
    Eff.Within KeepsCapped (floodToInterface r i) := by
  refine Eff.Within.read fun s => Eff.Within.when fun _ => ?_
  refine Eff.Within.bind (Eff.Within.forUntil fun n _ => addRetransmission_capped r n) fun killed => ?_
  refine Eff.Within.when fun _ => Eff.Within.read fun t => ?_
  exact Eff.Within.ite (floodMulticast_capped r i _) (floodUnicast_capped r i _)

theorem floodLsa_capped (r : LsaRef) (areaId : IPv4Address) (recvIntf : Option IntfId) :
    Eff.Within KeepsCapped (floodLsa r areaId recvIntf) := by
  refine Eff.Within.read fun s => Eff.Within.forEach fun i _ => Eff.Within.ite ?_ ?_
  · exact Eff.Within.read fun t => Eff.Within.when fun _ => floodMulticast_capped r i _
  · exact floodToInterface_capped r i

/-! ### Hellos -/

/-- **An interface that is full gets no more neighbors.** -/
theorem findOrCreate_capped (n : NbrRef) (src : IPv4Address) :
    Eff.Within KeepsCapped (findOrCreate n.intf src n.routerId) := by
  refine Eff.Within.get_bind fun s => ?_
  by_cases hmem : n.routerId ∈ (s.intf n.intf).neighbors
  · rw [if_pos hmem]
    exact refl_of KeepsCapped s
  · rw [if_neg hmem]
    by_cases hfull : maxNeighbors ≤ (s.intf n.intf).neighbors.length
    · rw [if_pos hfull]
      exact refl_of KeepsCapped s
    · rw [if_neg hfull]
      refine fun hs => ⟨fun m => ?_, fun j => ?_⟩
      · exact ((KeepsCapped.setNbr fun _ => Nat.zero_le _) hs).rxmt m
      · change (Instance.intf (Instance.setIntf _ n.intf _) j).neighbors.length ≤ maxNeighbors
        rw [Instance.intf_setIntf]
        split
        · rw [List.length_append]
          exact Nat.not_le.1 hfull
        · exact hs.neighbors j

theorem processHello_capped (i : IntfId) (hello : HelloPacket) (src routerId : IPv4Address) :
    Eff.Within KeepsCapped (processHello i hello src routerId) := by
  refine Eff.Within.read fun s => Eff.Within.when fun _ => fun t => ?_
  have hfind := findOrCreate_capped ⟨i, routerId⟩ src t
  refine Eff.bind_final hfind fun found hfound => trans_of KeepsCapped hfind ?_
  cases found with
  | true =>
    have hmem := (findOrCreate_moves ⟨i, routerId⟩ src t).2 hfound
    refine moves_capped (fun l hl => ?_) (helloFrom_moves hello src hmem)
    obtain ⟨hg, hne⟩ := hl
    cases hg with
    | create => exact absurd rfl hne
    | intf hl => rcases hl with (hl | hl | ⟨j, -, hl⟩) | hl | hl <;> subst hl <;> rfl
    | _ => rfl
  | false => exact refl_of KeepsCapped _

/-! ### Every event -/

theorem capped_handles : Handles KeepsCapped where
  move := move_capped
  flood := floodLsa_capped
  hello := processHello_capped
  draft := by
    intro s lsType linkStateId body seqNum b areaId _
    exact .of_eq rfl rfl

/-- **An update.** -/
theorem receiveLsu_capped (n : NbrRef) (lsu : LsuPacket) : Eff.Within KeepsCapped (receiveLsu n lsu) := by
  refine Eff.Within.read fun s => Eff.Within.bind ?_ fun rs => Eff.Within.bind ?_ fun _ => ?_
  · exact (newLsas_within (A := fun l => l = .alloc) rfl lsu.lsas).mono fun _ _ =>
      moves_capped fun _ hl => by rw [hl]; rfl
  · refine Eff.Within.forEach fun r _ => fun t => ?_
    exact capped_handles.processReceivedLsa n fun _ => .of_eq rfl rfl
  · exact capped_handles.keeps.processLsUpdate n _

/-- **Every event keeps the tables within their limits.** -/
theorem exec_capped {e : Event} (hen : e.Enabled s) : KeepsCapped s (exec s e) :=
  capped_handles.exec hen fun n _ lsu _ => receiveLsu_capped n lsu s

end Capped

/-! ## A daemon that starts with nothing -/

variable {s : Instance} {stays : NbrRef → Stay}

theorem Stayed.storeRun (h : Stayed Instance.Empty s stays) : StoreRun s.lsdb s.heap := by
  induction h with
  | init h => exact .init h.2
  | step _ hen ih => exact storeRun_exec hen ih

theorem Stayed.capped (h : Stayed Instance.Empty s stays) : s.Capped := by
  induction h with
  | init h =>
    refine ⟨fun n => ?_, fun i => ?_⟩
    · rw [h.1.nbr n]
      exact Nat.zero_le _
    · rw [h.1.neighbors i]
      exact Nat.zero_le _
  | step _ hen ih => exact exec_capped hen ih

/-- **The tables are well formed and bounded**: in every run of the database each LSA is stored
under its own key in the partition of its type, and the partitions are within their limits; what is
installed is looked up, and what is refused changes nothing; so it is with what the daemon does to its
database, whose retransmission lists and neighbors are bounded too; and so are decoded updates. -/
theorem tables_bounded :
    (∀ (db : LinkStateDatabase) (heap : LsaHeap), StoreRun db heap → db.Shelved heap ∧ db.Bounded) ∧
    (∀ (db : LinkStateDatabase) (heap : LsaHeap) (now : Time) (a : IPv4Address) (r : LsaRef),
      ((db.install heap now a r).1.1 = true →
        (db.install heap now a r).2.1.lookup a (heap.obj r).key = some r) ∧
      ((db.install heap now a r).1.1 = false → (db.install heap now a r).2 = (db, heap))) ∧
    (∀ (s : Instance) (stays : NbrRef → Stay), Stayed Instance.Empty s stays →
      StoreRun s.lsdb s.heap ∧ s.lsdb.Shelved s.heap ∧ s.lsdb.Bounded ∧ s.Capped) ∧
    (∀ (data : Bytes) (p : LsuPacket), LsuPacket.deserialize data = .ok p → p.lsas.length ≤ 1000) := by
  refine ⟨fun db heap hrun => ⟨hrun.shelved, hrun.bounded⟩, fun db heap now a r => ?_, ?_, ?_⟩
  · exact ⟨LinkStateDatabase.lookup_of_installed, LinkStateDatabase.install_of_not_installed⟩
  · intro s stays h
    exact ⟨h.storeRun, h.storeRun.shelved, h.storeRun.bounded, h.capped⟩
  · exact fun data p => LsuPacket.length_of_deserialize

/-- A router LSA is installed in an empty database, and once more; the daemon starts. -/
theorem tables_bounded_tos : ∃ db heap, StoreRun db heap ∧ db.Shelved heap ∧ db.Bounded ∧
    db.lookup backboneArea tosRouterLsa.key = some 0 ∧ (db.install heap 0 backboneArea 0).2 = (db, heap) ∧
    (linkRouter .none).lsdb.Bounded ∧ (linkRouter .none).Capped ∧
    LsuPacket.deserialize [0, 0, 0, 0] = .ok {} ∧ ({} : LsuPacket).lsas.length ≤ 1000 := by
  obtain ⟨hrun, hinstall, hdaemon, hlsu⟩ := tables_bounded
  let db : LinkStateDatabase := { routerId := 1 }
  let heap := (LsaHeap.empty.alloc tosRouterLsa).2
  have hone : StoreRun (db.install heap 0 backboneArea 0).2.1 (db.install heap 0 backboneArea 0).2.2 :=
    .install (.init fun _ => rfl) 0 backboneArea Nat.zero_lt_one
  have hempty : (linkRouter .none).Empty := ⟨initial_linkRouter .none, fun _ => rfl⟩
  obtain ⟨-, -, hbounded, hcapped⟩ := hdaemon _ _ (.init hempty)
  have hp : LsuPacket.deserialize [0, 0, 0, 0] = .ok {} := by decide +kernel
  refine ⟨_, _, hone, (hrun _ _ hone).1, (hrun _ _ hone).2, ?_, ?_, hbounded, hcapped, hp, hlsu _ _ hp⟩
  · exact (hinstall db heap 0 backboneArea 0).1 (by decide +kernel)
  · exact (hinstall _ _ 0 backboneArea 0).2 (by decide +kernel)

end Ospfd
