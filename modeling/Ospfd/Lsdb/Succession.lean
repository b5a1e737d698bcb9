import Ospfd.Lsdb.Ages
import Ospfd.Lsdb.Confined
import Ospfd.Lsdb.Content
import Ospfd.Lsdb.Coverage
import Ospfd.Lsdb.Delivery

/-!
# What follows a stored LSA

* `seqAt` — the sequence number stored under a key, as a signed number.
* `Succeeds X` — outside `X` the stored LSAs stay, or make way for instances with no lower number.
* `succeeds_keeps`, `Succeeds.installed` — this is so unless an LSA is removed.
* `Withdrawn`, `Outlived` — the two ways to remove one: this router's own comes back at MaxAge, or another
  router's expires where no interface keeps its adjacencies.
* `receiveLsu_succeeds`, `expires_checkAges`, `exec_succeeds` — an update, an aging pass, every event.
* `stored_stays` — **an LSA stays until one of the two happens**.
* `foreign_stays` — **an LSA of another router stays for good** where an interface keeps its adjacencies.
-/

namespace Ospfd

/-- The sequence number stored under a key. -/
def Instance.seqAt (s : Instance) (areaId : IPv4Address) (key : LsaKey) : Option ℤ :=
  (s.lsdb.lookup areaId key).map fun r => signed32 (s.heap.obj r).header.lsSequenceNumber

/-- A sane database keeps the LSAs outside `X`, or has instances of them with no lower number. -/
def Succeeds (X : IPv4Address → LsaKey → Prop) (s t : Instance) : Prop :=
  s.Sane → t.Sane ∧ ∀ areaId key n, ¬X areaId key → s.seqAt areaId key = some n →
    ∃ n', t.seqAt areaId key = some n' ∧ n ≤ n'

theorem seqAt_of_lookup {s : Instance} {areaId : IPv4Address} {key : LsaKey} {r : LsaRef}
    (h : s.lsdb.lookup areaId key = some r) :
    s.seqAt areaId key = some (signed32 (s.heap.obj r).header.lsSequenceNumber) := by
  rw [Instance.seqAt, h]
  rfl

/-- A newer instance has no lower number. -/
theorem signed32_le_of_compareLsa {a b : LsaHeader} (h : 0 < compareLsa a b) :
    signed32 b.lsSequenceNumber ≤ signed32 a.lsSequenceNumber := by
  rw [compareLsa] at h
  split at h
  · split at h
    · rename_i hgt
      exact le_of_lt hgt
    · exact absurd h (by decide)
  · rename_i heq
    rw [not_not.1 heq]

theorem Greets.unfiled {n : NbrRef} {src : IPv4Address} {l : Label} (h : Greets n src l) : Unfiled l := by
  cases h with
  | intf h => exact h.unfiled
  | _ =>
    constructor
    all_goals rintro a k ⟨⟩

section Succeeds

variable {X : IPv4Address → LsaKey → Prop} {s t : Instance} {areaId : IPv4Address} {key : LsaKey}
  {r : LsaRef}

instance : Std.Refl (Succeeds X) := ⟨fun _ hs => ⟨hs, fun _ _ n _ h => ⟨n, h, le_rfl⟩⟩⟩

instance : IsTrans Instance (Succeeds X) := ⟨fun s t u h h' hs => by
  obtain ⟨ht, hst⟩ := h hs
  obtain ⟨hu, htu⟩ := h' ht
  refine ⟨hu, fun areaId key n hX hn => ?_⟩
  obtain ⟨m, hm, hnm⟩ := hst areaId key n hX hn
  obtain ⟨k, hk, hmk⟩ := htu areaId key m hX hm
  exact ⟨k, hk, hnm.trans hmk⟩⟩

/-- What is stored under a key in an area, and under the same key in another one if that is AS-wide. -/
theorem lookup_of_samePlace {a a' : IPv4Address} {k k' : LsaKey}
    (h : LinkStateDatabase.SamePlace a k a' k') : s.lsdb.lookup a' k' = s.lsdb.lookup a k := by
  obtain ⟨rfl, hw | rfl⟩ := h
  · rw [LinkStateDatabase.lookup, LinkStateDatabase.lookup, if_pos hw, if_pos hw]
  · rfl

/-- The same LSAs in the same places. -/
theorem Succeeds.of_same (hlsdb : t.lsdb = s.lsdb) (hid : t.routerId = s.routerId)
    (hg : s.heap.Grows t.heap) : Succeeds X s t := by
  refine fun hs => ⟨(Unaltered.of_same hlsdb hid hg hs).sane, fun areaId key n _ hn => ⟨n, ?_, le_rfl⟩⟩
  rw [Instance.seqAt, Option.map_eq_some_iff] at hn
  obtain ⟨r, hr, rfl⟩ := hn
  rw [Instance.seqAt, hlsdb, hr, Option.map_some, (hg.same r (hs.of_lookup hr).1).lsSequenceNumber]

/-- Moves that leave the database alone. -/
theorem Succeeds.of_moves {A : Label → Prop} (hA : ∀ l, A l → Unfiled l) (hm : Moves A s t) :
    Succeeds X s t :=
  Lts.Moves.relates (fun l _ _ hl hm =>
    .of_same (move_lsdb (hA l hl) hm) (move_framed hm).routerId (move_grows hm)) hm

/-- **An installation**: what was there is replaced by a newer instance only. -/
theorem Succeeds.installed (areaId : IPv4Address) (hr : r < s.heap.next) :
    Succeeds X s (s.installed areaId r) := by
  intro hs
  have hg : s.heap.Grows (s.installed areaId r).heap := move_grows (l := .install areaId r) rfl
  refine ⟨sane_installed hs areaId hr, fun a k n _ hn => ?_⟩
  rw [Instance.seqAt, Option.map_eq_some_iff] at hn
  obtain ⟨old, hold, rfl⟩ := hn
  have hlook := s.lsdb.lookup_install s.heap s.now a areaId r k
  rw [LinkStateDatabase.install_answer] at hlook
  split at hlook
  · rename_i hinst
    have hsome : s.lsdb.lookup areaId (s.heap.obj r).key = some old :=
      (lookup_of_samePlace hinst.2).symm.trans hold
    have hnewer := ((LinkStateDatabase.decision_of_some hsome).1 hinst.1).1
    refine ⟨_, seqAt_of_lookup hlook, ?_⟩
    rw [(hg.same r hr).lsSequenceNumber]
    exact signed32_le_of_compareLsa hnewer
  · refine ⟨_, seqAt_of_lookup (hlook.trans hold), ?_⟩
    rw [(hg.same old (hs.of_lookup hold).1).lsSequenceNumber]

/-- A removal inside `X`. -/
theorem Succeeds.removed (hX : ∀ a k, LinkStateDatabase.SamePlace areaId key a k → X a k) :
    Succeeds X s (removeLsa areaId key s).2 := by
  intro hs
  refine ⟨move_sane (l := .remove areaId key) (by rintro a k ⟨⟩) rfl hs, fun a k n hk hn => ⟨n, ?_, le_rfl⟩⟩
  change ((s.lsdb.remove areaId key).lookup a k).map _ = some n
  rw [LinkStateDatabase.lookup_remove, if_neg fun hsame => hk (hX a k hsame)]
  exact hn

/-- **What removes nothing.** -/
theorem succeeds_keeps : Keeps (Succeeds X) where
  move := fun {l _ _} hl hm => .of_moves (A := fun l' => l' = l) (fun _ heq => by
    subst heq
    constructor
    · rintro a k rfl
      cases hl
    · rintro a k rfl
      cases hl) (Lts.Moves.single rfl hm)
  flood := fun r areaId recvIntf =>
    (floodLsa_within r areaId recvIntf).mono fun _ _ => .of_moves fun _ => Floods.unfiled
  hello := fun i hello src routerId =>
    (processHello_within ⟨i, routerId⟩ hello src).mono fun _ _ => .of_moves fun _ => Greets.unfiled
  draft := by
    intro s lsType linkStateId body seqNum b areaId _
    refine trans_of (Succeeds X) (.of_moves (fun l hl => ?_) (drafted_moves s _))
      (.installed areaId (Nat.lt_succ_self _))
    rcases hl with rfl | rfl
    · exact ⟨by rintro a k ⟨⟩, by rintro a k ⟨⟩⟩
    · exact ⟨by rintro a k ⟨⟩, by rintro a k ⟨⟩⟩

end Succeeds

/-! ## Updates -/

theorem move_now {l : Label} {s t : Instance} (hl : l ≠ .tick) (hm : move l s t) : t.now = s.now := by
  cases l with
  | quiet => exact hm.now
  | tick => exact absurd rfl hl
  | elect i => exact hm.now
  | intf i =>
    obtain ⟨x, -, rfl⟩ := hm
    rfl
  | nbr n m =>
    obtain ⟨x, -, rfl⟩ := nbr_of_move hm
    rfl
  | clear i =>
    obtain ⟨-, rfl⟩ := hm
    rfl
  | create n src =>
    obtain ⟨-, rfl⟩ := hm
    rfl
  | write r =>
    obtain rfl : t = _ := hm
    rfl
  | alloc =>
    obtain ⟨lsa, rfl⟩ := hm
    rfl
  | install a r =>
    obtain rfl : t = _ := hm
    rfl
  | remove a key =>
    obtain rfl : t = _ := hm
    rfl

/-- An LSA that has reached MaxAge, by its header or by the time, only if `p`. -/
structure Lsa.ExpiredOnly (lsa : Lsa) (now : Time) (p : Prop) : Prop where
  header : maxAge ≤ lsa.header.lsAge → p
  current : maxAge ≤ lsa.currentAge now → p

theorem Lsa.Fresh.expiredOnly {lsa : Lsa} {p : Prop} (h : lsa.Fresh) (now : Time)
    (hage : maxAge ≤ lsa.header.lsAge → p) : lsa.ExpiredOnly now p := by
  refine ⟨hage, fun hcur => hage ?_⟩
  rwa [Lsa.currentAge, h.installTime] at hcur

theorem Lsa.ExpiredOnly.serialize {lsa : Lsa} {now : Time} {p : Prop} (h : lsa.ExpiredOnly now p) :
    (lsa.serialize now).2.ExpiredOnly now p := by
  rcases lsa.serialize_written now with hsame | ⟨n, c, hstamped⟩
  · rwa [hsame]
  · have hmin : maxAge ≤ min (lsa.currentAge now) maxAge → p := fun hage =>
      h.current (hage.trans (Nat.min_le_left ..))
    rw [hstamped]
    refine ⟨hmin, fun hage => hmin ?_⟩
    rw [← Lsa.currentAge_stamped lsa n c]
    exact le_min hage le_rfl

/-- An LSA is as old as its header says when it is installed. -/
theorem Lsa.ExpiredOnly.markInstalled {lsa : Lsa} {now : Time} {p : Prop} (h : lsa.ExpiredOnly now p) :
    (lsa.markInstalled now).ExpiredOnly now p := by
  refine ⟨h.header, fun hage => h.header ?_⟩
  rw [Lsa.currentAge, Lsa.markInstalled] at hage
  simpa using hage

/-- **While the time stands still**, no LSA reaches MaxAge. -/
theorem expiredOnly_of_moves {s t : Instance} {r : LsaRef} {p : Prop} (hr : r < s.heap.next)
    (hm : Moves (fun l => l ≠ .tick) s t) (h : (s.heap.obj r).ExpiredOnly s.now p) :
    (t.heap.obj r).ExpiredOnly t.now p := by
  refine (Lts.Moves.invariant
    (I := fun u : Instance => r < u.heap.next ∧ (u.heap.obj r).ExpiredOnly u.now p)
    (fun l u v hl hm hu => ?_) hm ⟨hr, h⟩).2
  refine ⟨lt_of_lt_of_le hu.1 (move_grows hm).next, ?_⟩
  rw [move_now hl hm]
  exact move_obj (P := fun lsa => lsa.ExpiredOnly u.now p) (fun _ => Lsa.ExpiredOnly.serialize)
    (fun _ _ _ => Lsa.ExpiredOnly.markInstalled) hm hu.1 hu.2

theorem Spreads.not_tick {l : Label} (h : Spreads l) : l ≠ .tick := by
  rintro rfl
  cases h with
  | flood h => cases h

theorem Receives.not_tick {n : NbrRef} {keys : List LsaKey} {l : Label} (h : Receives n keys l) :
    l ≠ .tick := by
  cases h with
  | spread h => exact h.not_tick
  | intf => rintro ⟨⟩
  | acked => rintro ⟨⟩

theorem routerId_of_moves {A : Label → Prop} {s t : Instance} (hm : Moves A s t) : t.routerId = s.routerId :=
  Lts.Moves.invariant (I := fun u : Instance => u.routerId = s.routerId)
    (fun _ _ _ _ hm hu => (move_framed hm).routerId.trans hu) hm rfl

section Updates

variable {X : IPv4Address → LsaKey → Prop} {s : Instance} {n : NbrRef} {areaId : IPv4Address} {r : LsaRef}

/-- **One received LSA** is removed again only if it is this router's and at MaxAge. -/
theorem processReceivedLsa_succeeds (hr : r < s.heap.next) (hage : (s.heap.obj r).ExpiredOnly s.now
      ((s.heap.obj r).key.advertisingRouter = s.routerId → ∀ a, X a (s.heap.obj r).key)) :
    Succeeds X s (processReceivedLsa r n areaId s).2 := by
  refine succeeds_keeps.processReceivedLsa n (fun _ => .installed areaId hr) fun _ t hflood hown hexpired ht => ?_
  have hmoves : Moves (fun l => l ≠ .tick) s t := by
    refine Lts.Moves.trans (Lts.Moves.single (l := .install areaId r) (by rintro ⟨⟩) rfl) ?_
    exact hflood.mono fun l hl => (Spreads.flood hl).not_tick
  have hkey : (t.heap.obj r).key = (s.heap.obj r).key := (hmoves.grows.same r hr).key
  refine Succeeds.removed (fun a k hsame => ?_) ht
  obtain ⟨rfl, -⟩ := hsame
  rw [hkey]
  refine (expiredOnly_of_moves hr hmoves hage).header hexpired ?_ a
  rw [LinkStateDatabase.isSelfOriginated, decide_eq_true_eq, ht.owner, routerId_of_moves hmoves] at hown
  rw [← hkey]
  exact hown

/-- **An update** of fresh LSAs. -/
theorem receiveLsu_succeeds {lsu : LsuPacket} (hfresh : ∀ lsa ∈ lsu.lsas, lsa.Fresh)
    (hX : ∀ lsa ∈ lsu.lsas, maxAge ≤ lsa.header.lsAge → lsa.key.advertisingRouter = s.routerId →
      ∀ a, X a lsa.key) : Succeeds X s (receiveLsu n lsu s).2 := by
  obtain ⟨rs, heap, hrun, hgrows, hobjs, hrs, -⟩ := newLsas_returns lsu.lsas s
  have hnew : Succeeds X s { s with heap } := .of_same rfl rfl hgrows
  let P : Instance → Prop := fun v => Succeeds X s v ∧ v.routerId = s.routerId ∧ ∀ r ∈ rs, r < v.heap.next ∧
    (v.heap.obj r).ExpiredOnly v.now
      ((v.heap.obj r).key.advertisingRouter = s.routerId → ∀ a, X a (v.heap.obj r).key)
  have hloop : P (Eff.forEach rs (fun r => processReceivedLsa r n (s.intf n.intf).areaId) { s with heap }).2 := by
    refine Eff.forEach_final (P := P) ⟨hnew, rfl, fun r hr => ?_⟩ ?_
    · have hmem : heap.obj r ∈ lsu.lsas := hobjs ▸ List.mem_map_of_mem hr
      exact ⟨(hrs r hr).2, (hfresh _ hmem).expiredOnly s.now (hX _ hmem)⟩
    · rintro r hr v ⟨hv, hid, hvrs⟩
      have hmoves : Moves (fun l => l ≠ .tick) v (processReceivedLsa r n (s.intf n.intf).areaId v).2 :=
        (processReceivedLsa_moves r n _ (List.mem_singleton_self _)).mono fun _ => Receives.not_tick
      refine ⟨trans_of (Succeeds X) hv ?_, (routerId_of_moves hmoves).trans hid, fun k hk => ?_⟩
      · refine processReceivedLsa_succeeds (hvrs r hr).1 ?_
        rw [hid]
        exact (hvrs r hr).2
      · obtain ⟨hlt, hage⟩ := hvrs k hk
        refine ⟨lt_of_lt_of_le hlt hmoves.grows.next, ?_⟩
        rw [(hmoves.grows.same k hlt).key]
        exact expiredOnly_of_moves hlt hmoves hage
  rw [receiveLsu, Eff.get_bind_apply, Eff.bind_apply_ok hrun]
  exact Eff.bind_final (P := Succeeds X s) hloop.1 fun _ _ =>
    trans_of (Succeeds X) hloop.1 (succeeds_keeps.processLsUpdate n _ _)

end Updates

/-! ## Aging -/

/-- No adjacency is gained, and the areas and the neighbors of the interfaces stay. -/
structure Dwindles (s t : Instance) : Prop where
  areas : t.areas = s.areas
  neighbors : ∀ i, (t.intf i).neighbors = (s.intf i).neighbors
  below : ∀ n, (s.nbr n).state < .exchange → (t.nbr n).state < .exchange

/-- An interface of an area has adjacent neighbors, and all of them are adjacent still. -/
def Attends (s t : Instance) (areaId : IPv4Address) : Prop :=
  ∃ i ∈ s.interfacesForArea areaId, s.adjacentNeighbors i ≠ [] ∧
    ∀ n ∈ s.adjacentNeighbors i, .exchange ≤ (t.nbr n).state

section Dwindles

variable {s t u : Instance} {i : IntfId} {n : NbrRef} {r : LsaRef} {areaId : IPv4Address}

theorem Dwindles.refl (s : Instance) : Dwindles s s := ⟨rfl, fun _ => rfl, fun _ h => h⟩

theorem Dwindles.trans (h : Dwindles s t) (h' : Dwindles t u) : Dwindles s u :=
  ⟨h'.areas.trans h.areas, fun i => (h'.neighbors i).trans (h.neighbors i), fun n hn =>
    h'.below n (h.below n hn)⟩

theorem Dwindles.interfacesForArea (h : Dwindles s t) (areaId : IPv4Address) :
    t.interfacesForArea areaId = s.interfacesForArea areaId := by
  rw [Instance.interfacesForArea, Instance.interfacesForArea, h.areas]

/-- The adjacent neighbors are among those from before. -/
theorem Dwindles.adjacent (h : Dwindles s t) :
    n ∈ t.adjacentNeighbors i ↔ n ∈ s.adjacentNeighbors i ∧ .exchange ≤ (t.nbr n).state := by
  have hof : t.neighborsOf i = s.neighborsOf i := by rw [Instance.neighborsOf, h.neighbors]; rfl
  rw [Instance.adjacentNeighbors, Instance.adjacentNeighbors, List.mem_filter, List.mem_filter, hof]
  simp only [decide_eq_true_eq]
  constructor
  · rintro ⟨hmem, hst⟩
    exact ⟨⟨hmem, Nat.not_lt.1 fun hlow => absurd (h.below n hlow) (Nat.not_lt.2 hst)⟩, hst⟩
  · rintro ⟨⟨hmem, -⟩, hst⟩
    exact ⟨hmem, hst⟩

theorem dwindles_of_moves (hm : Moves Spreads s t) : Dwindles s t := by
  refine Lts.Moves.invariant (I := Dwindles s) (fun l u v hl hm hu => hu.trans ?_) hm (.refl s)
  have hbelow : ∀ n, (u.nbr n).state < .exchange → (v.nbr n).state < .exchange := by
    refine fun n => move_below ?_ hm
    rintro rfl
    cases hl with
    | flood hl => cases hl
  refine ⟨(move_framed hm).areas, fun j => ?_, hbelow⟩
  cases hl with
  | flood hl =>
    cases hl with
    | elect i =>
      obtain ⟨dr, bdr, state, hintf⟩ := hm.intf
      by_cases hj : j = i
      · rw [hj, hintf]
      · rw [hm.other j hj]
    | down n =>
      obtain ⟨x, -, rfl⟩ := nbr_of_move hm
      rfl
    | pend n key r =>
      obtain ⟨x, -, rfl⟩ := nbr_of_move hm
      rfl
    | quiet => rw [((move_framed hm).tables rfl).2]
    | write r => rw [((move_framed hm).tables rfl).2]
  | _ => rw [((move_framed hm).tables rfl).2]

/-- An area that is attended at the end of an event was so all the time. -/
theorem Attends.later {v : Instance} (h : Attends s v areaId) (hst : Dwindles s t) (htu : Dwindles t u)
    (hv : v.nbr = u.nbr) : Attends t u areaId := by
  obtain ⟨i, hi, hne, hall⟩ := h
  rw [hv] at hall
  refine ⟨i, by rwa [hst.interfacesForArea], ?_, fun n hn => hall n (hst.adjacent.1 hn).1⟩
  obtain ⟨n, hn⟩ := List.exists_mem_of_ne_nil _ hne
  refine List.ne_nil_of_mem (hst.adjacent.2 ⟨hn, Nat.not_lt.1 fun hlow => ?_⟩)
  exact absurd (htu.below n hlow) (Nat.not_lt.2 (hall n hn))

/-- **Flooding to an interface** puts the LSA on the list of each adjacent neighbor, or loses one. -/
theorem floodToInterface_lists (h : Eff.Runs (floodToInterface r i) s () t)
    (hn : n ∈ s.adjacentNeighbors i) : (∃ k, (t.nbr n).Pends (s.heap.obj r).key k) ∨
      ∃ m ∈ s.adjacentNeighbors i, (t.nbr m).state < .exchange := by
  have hne : s.adjacentNeighbors i ≠ [] := List.ne_nil_of_mem hn
  have hloop := addRetransmissions_run (s := s) (r := r) (s.adjacentNeighbors i) [] (by simp)
  rw [Instance.pendAll_nil, List.nil_append] at hloop
  rw [floodToInterface, Eff.Runs, Eff.get_bind_apply, Eff.when_pos hne] at h
  rcases hfind : (s.adjacentNeighbors i).find? (overflows s r) with _ | m
  · rw [hfind] at hloop
    dsimp only at hloop
    rw [Eff.bind_apply_ok hloop, Eff.when_pos (by simp), Eff.get_bind_apply, Eff.ite_apply] at h
    have hsend : SendsLsa i r (s.pendAll r (s.adjacentNeighbors i)) t := by
      split at h
      · exact floodMulticast_sendsLsa h
      · exact floodUnicast_sendsLsa hne h
    refine Or.inl ⟨((s.nbr n).lsRetransmissionList.get? (s.heap.obj r).key).getD r, Or.inr ?_⟩
    rw [hsend.nbr, Instance.nbr_pendAll, if_pos hn, OspfNeighbor.get?_pended]
  · rw [hfind] at hloop
    obtain ⟨ns, hloop⟩ := hloop
    obtain ⟨-, hdown⟩ := nbrEventDepth_reset 98 m (show NbrEvent.killNbr.isReset = true from rfl)
      (s.pendAll r ns)
    change ((nbrEvent m .killNbr (s.pendAll r ns)).2.nbr m) = _ at hdown
    refine Or.inr ⟨m, List.mem_of_find?_eq_some hfind, ?_⟩
    rcases hrun : nbrEvent m .killNbr (s.pendAll r ns) with ⟨e | u, v⟩
    · rw [Eff.bind_apply_error hrun] at hloop
      rw [Eff.bind_apply_error hloop] at h
      cases h
    · rw [Eff.bind_apply_ok hrun] at hloop
      rw [Eff.bind_apply_ok hloop, Eff.when_neg (by simp)] at h
      obtain rfl : v = t := congrArg Prod.snd h
      rw [hrun] at hdown
      rw [hdown]
      exact (by decide : NbrState.down < .exchange)

/-- **A flood leaves something to acknowledge** where the neighbors stay adjacent. -/
theorem floodLsa_pending (hr : r < s.heap.next) (hw : asWide (s.lsTypeOf r) = false)
    (h : Eff.Runs (floodLsa r areaId none) s () t) (hattends : Attends s t areaId) :
    ∃ area, t.areas.get? areaId = some area ∧ rxmtPendingOn t area.interfaces ≠ .ok false := by
  obtain ⟨i, hi, hne, hall⟩ := hattends
  obtain ⟨n, hn⟩ := List.exists_mem_of_ne_nil _ hne
  have hflood := floodLsa_within r areaId none s
  rw [h.final_eq] at hflood
  have hdwindles : ∀ {u v : Instance}, Moves Floods u v → Dwindles u v := fun hm =>
    dwindles_of_moves (hm.mono fun _ => .flood)
  -- one neighbor has the LSA on its list, unless one was lost
  have hlisted : (∃ k, (t.nbr n).Pends (s.heap.obj r).key k) ∨
      ∃ m ∈ s.adjacentNeighbors i, (t.nbr m).state < .exchange := by
    rw [floodLsa, Eff.Runs, Eff.get_bind_apply] at h
    have hscope : floodScope s (s.heap.obj r).header.lsType areaId = s.interfacesForArea areaId :=
      if_neg (by rw [Bool.not_eq_true]; exact hw)
    rw [hscope] at h
    refine Eff.Runs.forEach_achieves (I := fun u => Moves Floods s u) (P := fun u : Instance =>
      (∃ k, (u.nbr n).Pends (s.heap.obj r).key k) ∨
        ∃ m ∈ s.adjacentNeighbors i, (u.nbr m).state < .exchange) h hi (.refl s) (fun j u v hv => ?_)
      fun u v hv hu => ?_
    · rw [if_neg (by rintro ⟨⟩)] at hv
      have hmoves : Moves Floods u v := by
        have hwithin := floodToInterface_within r j u
        rwa [hv.final_eq] at hwithin
      refine ⟨fun hu => hu.trans hmoves, ?_⟩
      rintro (⟨k, hk⟩ | ⟨m, hm, hlow⟩)
      · exact Or.inl ⟨k, Lts.Moves.invariant (I := fun u : Instance => (u.nbr n).Pends _ k)
          (fun l _ _ hl hm => move_pends hl.retains hm) hmoves hk⟩
      · exact Or.inr ⟨m, hm, (hdwindles hmoves).below m hlow⟩
    · rw [if_neg (by rintro ⟨⟩)] at hv
      have hmoves : Moves Floods u v := by
        have hwithin := floodToInterface_within r i u
        rwa [hv.final_eq] at hwithin
      by_cases hst : .exchange ≤ (u.nbr n).state
      · have hnu : n ∈ u.adjacentNeighbors i := (hdwindles hu).adjacent.2 ⟨hn, hst⟩
        rcases floodToInterface_lists hv hnu with ⟨k, hk⟩ | ⟨m, hm, hlow⟩
        · rw [(hu.grows.same r hr).key] at hk
          exact Or.inl ⟨k, hk⟩
        · exact Or.inr ⟨m, ((hdwindles hu).adjacent.1 hm).1, hlow⟩
      · exact Or.inr ⟨n, hn, (hdwindles hmoves).below n (Nat.not_le.1 hst)⟩
  have hst := hall n hn
  obtain ⟨k, hk⟩ : ∃ k, (t.nbr n).lsRetransmissionList.get? (s.heap.obj r).key = some k := by
    rcases hlisted with ⟨k, hlow | hk⟩ | ⟨m, hm, hlow⟩
    · exact absurd hlow (Nat.not_lt.2 hst)
    · exact ⟨k, hk⟩
    · exact absurd hlow (Nat.not_lt.2 (hall m hm))
  have hentries : (t.nbr n).lsRetransmissionList.entries ≠ [] := fun hnil => by
    rw [Dict.entries_eq_nil_iff.1 hnil] at hk
    cases hk
  have hnt : n ∈ t.adjacentNeighbors i := (hdwindles hflood).adjacent.2 ⟨hn, hst⟩
  rw [← (hdwindles hflood).interfacesForArea areaId, Instance.interfacesForArea] at hi
  rcases harea : t.areas.get? areaId with _ | area
  · rw [harea] at hi
    cases hi
  · rw [harea] at hi
    refine ⟨area, rfl, ?_⟩
    rw [rxmtPendingOn, if_pos]
    · rintro ⟨⟩
    · refine List.any_eq_true.2 ⟨n, List.mem_flatten.2 ⟨_, List.mem_map_of_mem hi, hnt⟩, ?_⟩
      simpa using hentries

end Dwindles

/-- Nothing new is stored under the keys of other routers. -/
def Thins (s t : Instance) : Prop :=
  t.routerId = s.routerId ∧ ∀ areaId key r, key.advertisingRouter ≠ s.routerId →
    t.lsdb.lookup areaId key = some r → s.lsdb.lookup areaId key = some r

instance : Std.Refl Thins := ⟨fun _ => ⟨rfl, fun _ _ _ _ h => h⟩⟩

instance : IsTrans Instance Thins := ⟨fun _ _ _ h h' => ⟨h'.1.trans h.1, fun a k r hk hr =>
  h.2 a k r hk (h'.2 a k r (by rwa [h.1]) hr)⟩⟩

theorem Thins.of_moves {A : Label → Prop} {s t : Instance} (hA : ∀ l, A l → Unfiled l) (hm : Moves A s t) :
    Thins s t :=
  Lts.Moves.relates (fun l _ _ hl hm => ⟨(move_framed hm).routerId, fun a k r _ hr => by
    rwa [move_lsdb (hA l hl) hm] at hr⟩) hm

theorem thins_handles : Handles Thins where
  move := fun {l s t} hl hm => by
    refine ⟨(move_framed hm).routerId, fun a k r _ hr => ?_⟩
    by_cases hrem : ∃ a' key, l = .remove a' key
    · obtain ⟨a', key, rfl⟩ := hrem
      obtain rfl : t = _ := hm
      rw [LinkStateDatabase.lookup_remove] at hr
      split at hr
      · cases hr
      · exact hr
    · have hunfiled : Unfiled l := by
        refine ⟨?_, fun a' key heq => hrem ⟨a', key, heq⟩⟩
        rintro a' k' rfl
        cases hl
      rwa [move_lsdb hunfiled hm] at hr
  flood := fun r areaId recvIntf =>
    (floodLsa_within r areaId recvIntf).mono fun _ _ => .of_moves fun _ => Floods.unfiled
  hello := fun i hello src routerId =>
    (processHello_within ⟨i, routerId⟩ hello src).mono fun _ _ => .of_moves fun _ => Greets.unfiled
  draft := by
    intro s lsType linkStateId body seqNum b areaId _
    refine ⟨rfl, fun a k r hk hr => ?_⟩
    rw [Instance.installed, LinkStateDatabase.lookup_install] at hr
    split at hr
    · rename_i hinst
      have hkey : ((s.drafted (draftOf s lsType linkStateId body seqNum)).heap.obj s.heap.next).key = k :=
        hinst.2.1
      rw [Instance.obj_drafted_self, (Lsa.serialize_sameInstance _ _).key] at hkey
      subst hkey
      exact absurd rfl hk
    · exact hr

/-- An expired LSA of another router, in an area whose interfaces have all lost an adjacency until `t`, or
had none. -/
structure Outlived (s t : Instance) (areaId : IPv4Address) (key : LsaKey) : Prop where
  scope : asWide key.lsType = false
  foreign : key.advertisingRouter ≠ s.routerId
  expired : ∃ r, s.lsdb.lookup areaId key = some r ∧ maxAge ≤ (s.heap.obj r).currentAge s.now
  unattended : ¬Attends s t areaId

/-- What an aging pass has done so far. -/
structure Expires (s t : Instance) : Prop where
  sane : t.Sane
  succeeds : Succeeds (Outlived s t) s t
  spreads : Moves Spreads s t
  thins : Thins s t
  ages : SameAges s t

section Aging

variable {s t u : Instance} {areaId : IPv4Address} {r : LsaRef}

theorem Outlived.mono {key : LsaKey} (h : Outlived s t areaId key) (hm : Moves Spreads t u) :
    Outlived s u areaId key := by
  refine ⟨h.scope, h.foreign, h.expired, ?_⟩
  rintro ⟨i, hi, hne, hall⟩
  refine h.unattended ⟨i, hi, hne, fun n hn => Nat.not_lt.1 fun hlow => ?_⟩
  exact absurd ((dwindles_of_moves hm).below n hlow) (Nat.not_lt.2 (hall n hn))

theorem Succeeds.weaken {X Y : IPv4Address → LsaKey → Prop} (h : Succeeds X s t) (hXY : ∀ a k, X a k → Y a k) :
    Succeeds Y s t := by
  intro hs
  obtain ⟨ht, hst⟩ := h hs
  exact ⟨ht, fun a k n hY => hst a k n fun hX => hY (hXY a k hX)⟩

theorem Expires.refl (hs : s.Sane) : Expires s s :=
  ⟨hs, refl_of (Succeeds (Outlived s s)) s, .refl s, refl_of Thins s, refl_of SameAges s⟩

theorem Expires.step (h : Expires s t) (hsucceeds : Succeeds (Outlived s u) t u) (hspreads : Moves Spreads t u)
    (hthins : Thins t u) (hages : SameAges t u) : Expires s u := by
  refine ⟨(hsucceeds h.sane).1, ?_, h.spreads.trans hspreads, trans_of Thins h.thins hthins,
    trans_of SameAges h.ages hages⟩
  exact trans_of (Succeeds (Outlived s u)) (h.succeeds.weaken fun _ _ hout => hout.mono hspreads) hsucceeds

theorem Expires.refresh (h : Expires s t) (areaId : IPv4Address) (r : LsaRef) :
    Expires s ((do
      let _ ← refreshLsa areaId r
      pure () : Py Unit) t).2 := by
  have hages := refresh_sameAges areaId r t
  rw [Eff.discard_final] at hages ⊢
  exact h.step (succeeds_keeps.refreshLsa areaId r t) (refreshLsa_within areaId r t)
    (thins_handles.keeps.refreshLsa areaId r t) hages

theorem flushMaxageLsa_run (h : Eff.Runs (floodLsa r areaId none) s () t)
    (hpending : ∀ area, t.areas.get? areaId = some area → rxmtPendingOn t area.interfaces = .ok false) :
    flushMaxageLsa r areaId s = removeLsa areaId (t.heap.obj r).key t := by
  rw [flushMaxageLsa, Eff.bind_apply_ok h, Eff.get_bind_apply]
  rcases harea : t.areas.get? areaId with _ | area
  · rfl
  · dsimp only
    rw [Eff.lift_bind_apply, hpending area harea]
    rfl

/-- What an LSA must be that is flushed. -/
structure Due (s : Instance) (areaId : IPv4Address) (key : LsaKey) : Prop where
  scope : asWide key.lsType = false
  expired : key.advertisingRouter ≠ s.routerId →
    ∃ r, s.lsdb.lookup areaId key = some r ∧ maxAge ≤ (s.heap.obj r).currentAge s.now

/-- **An expired LSA is refreshed, or flushed.** -/
theorem Expires.expireLsa (h : Expires s t) (hr : r < t.heap.next) (hdue : Due s areaId (t.heap.obj r).key) :
    Expires s (expireLsa areaId r t).2 := by
  have hages := expireLsa_sameAges areaId r t
  rw [Ospfd.expireLsa, Eff.get_bind_apply] at hages ⊢
  by_cases hown : t.lsdb.isSelfOriginated (t.heap.obj r) = true
  · rw [if_pos hown]
    exact h.refresh areaId r
  rw [if_neg hown] at hages ⊢
  have hforeign : (t.heap.obj r).key.advertisingRouter ≠ s.routerId := by
    rw [LinkStateDatabase.isSelfOriginated, decide_eq_true_eq, h.sane.owner, h.thins.1] at hown
    exact hown
  refine h.step (succeeds_keeps.flushMaxageLsa fun u hrun hpending => ?_) (flushMaxageLsa_within r areaId t)
    (thins_handles.flushMaxageLsa r areaId t) hages
  have hflood := floodLsa_within r areaId none t
  rw [hrun.final_eq] at hflood
  have hkey : (u.heap.obj r).key = (t.heap.obj r).key := (hflood.grows.same r hr).key
  have hend : (flushMaxageLsa r areaId t).2.nbr = u.nbr := by rw [flushMaxageLsa_run hrun hpending]; rfl
  refine .removed fun a k hsame => ?_
  obtain ⟨rfl, hplace⟩ := hsame
  rw [hkey] at hplace ⊢
  obtain rfl : areaId = a := hplace.resolve_left (by rw [hdue.scope]; exact Bool.false_ne_true)
  refine ⟨hdue.scope, hforeign, hdue.expired hforeign, ?_⟩
  -- an LSA that is to be acknowledged is not removed
  intro hattends
  have htu : Attends t u areaId := hattends.later (dwindles_of_moves h.spreads)
    (dwindles_of_moves (hflood.mono fun _ => .flood)) hend
  obtain ⟨area, harea, hne⟩ := floodLsa_pending hr hdue.scope hrun htu
  exact hne (hpending area harea)

theorem expireLsa_within (areaId : IPv4Address) (r : LsaRef) :
    Eff.Within (Moves Spreads) (Ospfd.expireLsa areaId r) := by
  refine Eff.Within.read fun s => Eff.Within.ite ?_ (flushMaxageLsa_within r areaId)
  exact Eff.Within.bind (refreshLsa_within areaId r) fun _ => Eff.Within.pure ()

/-- The expired LSAs of an area, in the course of a pass. -/
theorem Expires.due (h : Expires s t) (hs : s.Sane) (hr : r ∈ t.lsdb.getMaxageLsas t.heap t.now areaId) :
    r < t.heap.next ∧ Due s areaId (t.heap.obj r).key := by
  obtain ⟨hmem, hage⟩ := List.mem_filter.1 hr
  obtain ⟨key, hkey⟩ := Dict.mem_values_iff.1 hmem
  obtain ⟨hlt, rfl, hw⟩ := h.sane.stored.shelved.area areaId key r hkey
  refine ⟨hlt, hw, fun hforeign => ?_⟩
  have hlook : t.lsdb.lookup areaId (t.heap.obj r).key = some r :=
    (LinkStateDatabase.lookup_of_scoped _ _ hw).trans hkey
  have hstored := h.thins.2 areaId _ r hforeign hlook
  exact ⟨r, hstored, h.ages.maxage (hs.of_lookup hstored).1 (by simpa using hage)⟩

/-- **One area.** -/
theorem Expires.ageArea (h : Expires s t) (hs : s.Sane) (areaId : IPv4Address) :
    Expires s (ageArea areaId t).2 := by
  have hexpired : Expires s
      (Eff.forEach (t.lsdb.getMaxageLsas t.heap t.now areaId) (Ospfd.expireLsa areaId) t).2 := by
    refine (Eff.forEach_final (P := fun u => Expires s u ∧ t.heap.Grows u.heap) ⟨h, .refl _⟩
      fun r hr u hu => ?_).1
    obtain ⟨hlt, hdue⟩ := h.due hs hr
    rw [← (hu.2.same r hlt).key] at hdue
    have hgrows := (expireLsa_within areaId r u).grows
    exact ⟨hu.1.expireLsa (lt_of_lt_of_le hlt hu.2.next) hdue, hu.2.trans hgrows⟩
  rw [Ospfd.ageArea, Eff.get_bind_apply]
  refine Eff.bind_final (P := Expires s) hexpired fun _ _ => ?_
  generalize (Eff.forEach (t.lsdb.getMaxageLsas t.heap t.now areaId) (Ospfd.expireLsa areaId) t).2 = u at hexpired
  rw [Eff.get_bind_apply]
  refine Eff.forEach_final hexpired fun r _ v hv => ?_
  rw [refreshIfOld, Eff.get_bind_apply]
  by_cases hage : v.lsdb.isSelfOriginated (v.heap.obj r) = true ∧
      lsRefreshTime ≤ (v.heap.obj r).currentAge v.now ∧ (v.heap.obj r).currentAge v.now < maxAge
  · rw [Eff.when_pos hage]
    exact hv.refresh areaId r
  · rw [Eff.when_neg hage]
    exact hv

/-- **An aging pass.** -/
theorem expires_checkAges (hs : s.Sane) : Expires s (checkAges s).2 := by
  rw [checkAges_eq, Eff.get_bind_apply]
  exact Eff.forEach_final (.refl hs) fun areaId _ t ht => ht.ageArea hs areaId

end Aging
/-! ## Events and runs -/

/-- An update brings an LSA of this router at MaxAge. -/
def Withdrawn (s : Instance) (e : Event) (key : LsaKey) : Prop :=
  key.advertisingRouter = s.routerId ∧ ∃ n src lsu, heard s e = some (n, src, .lsu lsu) ∧
    ∃ lsa ∈ lsu.lsas, lsa.key = key ∧ maxAge ≤ lsa.header.lsAge

/-- The two ways in which an event removes an LSA. -/
def Removes (s : Instance) (e : Event) (areaId : IPv4Address) (key : LsaKey) : Prop :=
  Withdrawn s e key ∨ e = .aging ∧ Outlived s (exec s e) areaId key

/-- **Every event.** -/
theorem exec_succeeds {s : Instance} {e : Event} (hen : e.Enabled s) (hs : s.Sane) :
    Succeeds (Removes s e) s (exec s e) := by
  refine succeeds_keeps.exec hen (fun he => ?_) fun n src lsu hh => ?_
  · subst he
    exact (expires_checkAges hs).succeeds.weaken fun a k hout => Or.inr ⟨rfl, hout⟩
  · exact receiveLsu_succeeds (fresh_of_heard hh) fun lsa hmem hage hown a =>
      Or.inl ⟨hown, n, src, lsu, hh, lsa, hmem, rfl, hage⟩

section Runs

variable {s₀ s t : Instance} {areaId : IPv4Address} {key : LsaKey} {n : ℤ}

theorem sane_of_leads {ok : Instance → Event → Prop} (hs : s.Sane) (h : Leads ok s t) : t.Sane :=
  h.keeps hs fun _ _ _ hen _ hu => exec_sane hen hu

/-- **A stored LSA stays**, or makes way for an instance with no lower number, in a daemon that started with
an empty database, as long as it is not withdrawn, nor expires in an area that has no one to acknowledge
it. -/
theorem stored_stays (hstart : s₀.Empty) (hran : Leads (fun _ _ => True) s₀ s) (hn : s.seqAt areaId key = some n)
    (h : Leads (fun u e => ¬Removes u e areaId key) s t) : ∃ n', t.seqAt areaId key = some n' ∧ n ≤ n' := by
  have hs : s.Sane := sane_of_leads ⟨.init hstart.2, hstart.1.routerId⟩ hran
  refine h.keeps (I := fun u => ∃ n', u.seqAt areaId key = some n' ∧ n ≤ n') ⟨n, hn, le_rfl⟩ ?_
  rintro u e hu hen hok ⟨m, hm, hnm⟩
  obtain ⟨m', hm', hle⟩ := (exec_succeeds hen (sane_of_leads hs hu) (sane_of_leads hs hu)).2 areaId key m hok hm
  exact ⟨m', hm', hnm.trans hle⟩

/-- A daemon that starts, and meets a neighbor. -/
theorem leads_peerExchange : Leads (fun _ _ => True) (linkRouter .none) peerExchange :=
  .step (.step (.step .refl trivial trivial) trivial trivial) trivial trivial

theorem leads_peerUpdate : Leads (fun _ _ => True) (linkRouter .none) (exec peerExchange (peerUpdate 3)) :=
  .step leads_peerExchange trivial trivial

/-- The Summary-LSA of the neighbor stays while time passes. -/
theorem stored_stays_peerAged : ∃ n', (peerAged second).seqAt backboneArea ⟨3, 167772416, 16843009⟩ = some n' ∧
    -2147483647 ≤ n' := by
  have hempty : (linkRouter .none).Empty := ⟨initial_linkRouter .none, fun _ => rfl⟩
  have hn : (exec peerExchange (peerUpdate 3)).seqAt backboneArea ⟨3, 167772416, 16843009⟩ = some (-2147483647) := by
    decide +kernel
  refine stored_stays hempty leads_peerUpdate hn (.step .refl trivial ?_)
  rintro (⟨-, n, src, lsu, hh, -⟩ | ⟨he, -⟩)
  · cases hh
  · cases he

end Runs
end Ospfd
