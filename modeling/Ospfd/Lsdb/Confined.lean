import Ospfd.Lsdb.Scope

/-!
# Runs in scope

Within one event, `During` says what became of the homes of the LSAs; between two events,
`Housed`.

* `Housed.receives`, `Housed.during_checkAges` — an update, and an aging pass.
* `Housed.exec` — an event that leaves no scope keeps the LSAs at home.
* `scope_kept` — **in a run of such events everything stays in scope**.
-/

namespace Ospfd

/-! ## Within an event -/

/-- What stays as it is: the layout, the LSAs there are and the calm interfaces; and none of the
first `old` LSAs is filed anew. -/
structure Passes (old : LsaRef) (s t : Instance) : Prop where
  layout : SameLayout s t
  heap : s.heap.Grows t.heap
  calm : ∀ i, s.Calm i → t.Calm i
  routerId : t.lsdb.routerId = s.lsdb.routerId
  filed : ∀ areaId key r, r < old → t.lsdb.lookup areaId key = some r →
    s.lsdb.lookup areaId key = some r

/-- What became of a state in which the LSAs had their homes: they have them still, as do the
new ones. -/
structure During (old : LsaRef) (s : Instance) (heardOn : LsaRef → Option IntfId)
    (home : LsaRef → IPv4Address) (t : Instance) : Prop extends Passes old s t where
  housed : ∃ home', (∀ r, r < s.heap.next → home' r = home r) ∧ Housed t heardOn home'

section During

variable {old : LsaRef} {s t u : Instance} {heardOn : LsaRef → Option IntfId}
  {home home' : LsaRef → IPv4Address} {areaId : IPv4Address} {key : LsaKey} {r : LsaRef} {n : NbrRef}

theorem Passes.refl (s : Instance) : Passes old s s :=
  ⟨.refl s, .refl _, fun _ h => h, rfl, fun _ _ _ _ h => h⟩

theorem Passes.trans (h : Passes old s t) (h' : Passes old t u) : Passes old s u :=
  ⟨h.layout.trans h'.layout, h.heap.trans h'.heap, fun i hi => h'.calm i (h.calm i hi),
    h'.routerId.trans h.routerId, fun a k r hr hk => h.filed a k r hr (h'.filed a k r hr hk)⟩

theorem Passes.of_same (hlsdb : t.lsdb = s.lsdb) (hheap : s.heap.Grows t.heap) (hlayout : SameLayout s t)
    (hcalm : ∀ i, s.Calm i → t.Calm i) : Passes old s t :=
  ⟨hlayout, hheap, hcalm, by rw [hlsdb], fun a k r _ hk => by rwa [hlsdb] at hk⟩

theorem Passes.during (h : Passes old s t) (hhome : ∀ r, r < s.heap.next → home' r = home r)
    (h' : During old t heardOn home' u) : During old s heardOn home u := by
  obtain ⟨home'', hhome'', hhoused⟩ := h'.housed
  refine ⟨h.trans h'.toPasses, home'', fun r hr => ?_, hhoused⟩
  rw [hhome'' r (lt_of_lt_of_le hr h.heap.next), hhome r hr]

theorem Housed.during (h : Housed s heardOn home) : During old s heardOn home s :=
  ⟨.refl s, home, fun _ _ => rfl, h⟩

/-- One thing after the other. -/
theorem During.trans (h : During old s heardOn home t)
    (h' : ∀ home', (∀ r, r < s.heap.next → home' r = home r) → Housed t heardOn home' →
      During old t heardOn home' u) : During old s heardOn home u := by
  obtain ⟨home', hhome', hhoused⟩ := h.housed
  exact h.toPasses.during hhome' (h' home' hhome' hhoused)

namespace Housed

theorem during_told (h : Housed s heardOn home)
    (ht : Tells s.Calm (fun i r => r < s.heap.next ∧ MaySend s heardOn home i r) s t) :
    During old s heardOn home t :=
  ⟨.of_same ht.lsdb ht.heap ht.layout ht.calm, home, fun _ _ => rfl, h.told ht⟩

theorem during_removed (h : Housed s heardOn home) (areaId : IPv4Address) (key : LsaKey) :
    During old s heardOn home (removeLsa areaId key s).2 := by
  refine ⟨⟨⟨rfl, fun _ => rfl⟩, .refl _, fun _ hi => hi, ?_, fun a k r _ hk => ?_⟩, home,
    fun _ _ => rfl, h.removed areaId key⟩
  · rw [removeLsa, Eff.modify_apply]
    dsimp only
    rw [LinkStateDatabase.remove]
    split
    · rfl
    · split <;> rfl
  · rw [removeLsa, Eff.modify_apply] at hk
    dsimp only at hk
    rw [LinkStateDatabase.lookup_remove] at hk
    split at hk
    · cases hk
    · exact hk

/-- **Flooding** an LSA at home. -/
theorem during_flooded (h : Housed s heardOn home) (hr : r < s.heap.next) (recvIntf : Option IntfId)
    (hhome : asWide (s.lsTypeOf r) = false → home r = areaId)
    (hdomain : asWide (s.lsTypeOf r) = true → s.StubsCalm ∧ ∀ i, recvIntf = some i → s.inStub i = false)
    (hlink : s.lsTypeOf r = lsaTypeOpaqueLink → ∀ i ∈ s.interfacesForArea areaId,
      recvIntf = some i ∨ ¬s.Calm i → ∀ j, heardOn r = some j → j = i) :
    During old s heardOn home (floodLsa r areaId recvIntf s).2 := by
  refine h.during_told (floodLsa_tells r areaId recvIntf fun i hi hsend => ⟨hr, ?_, fun hw => ?_, ?_⟩)
  · intro hw
    obtain ⟨hcalm, hrecv⟩ := hdomain hw
    rcases hsend with hi | hi
    · exact hrecv i hi
    · by_contra hno
      exact hi (hcalm i (by simpa using hno))
  · have hin : i ∈ s.interfacesForArea areaId := by
      change i ∈ floodScope s (s.lsTypeOf r) areaId at hi
      rwa [floodScope, if_neg (by simp [hw])] at hi
    rw [hhome hw]
    rw [Instance.interfacesForArea] at hin
    split at hin
    · rename_i area harea
      exact (h.laid areaId area harea i hin).symm
    · cases hin
  · intro htype
    have hin : i ∈ s.interfacesForArea areaId := by
      change i ∈ floodScope s (s.lsTypeOf r) areaId at hi
      rwa [htype] at hi
    exact hlink htype i hin hsend

end Housed

/-- The LSA that is filed is a new one. -/
theorem passes_installed (hold : old ≤ r) : Passes old s (s.installed areaId r) := by
  refine ⟨⟨rfl, fun _ => rfl⟩, move_grows (l := .install areaId r) rfl, fun _ hi => hi,
    LinkStateDatabase.routerId_install .., fun a k r' hr' hk => ?_⟩
  rw [Instance.installed, LinkStateDatabase.lookup_install] at hk
  split at hk
  · obtain rfl := Option.some.inj hk
    exact absurd hr' (Nat.not_lt.2 hold)
  · exact hk

/-- **An origination**, outside of stub areas if it is AS-wide. -/
theorem Housed.during_originate (h : Housed s heardOn home) (hold : old ≤ s.heap.next)
    (areaId : IPv4Address) {lsType : Nat} (linkStateId : IPv4Address) (body : Option LsaBody)
    (seqNum : Option Nat) (hstub : asWide lsType = true → s.StubsCalm) :
    During old s heardOn home (originate areaId lsType linkStateId body seqNum s).2 := by
  rcases originate_cases areaId lsType linkStateId body seqNum s with hrun | ⟨seq, hrun⟩
  · rw [hrun]
    exact h.during
  · rw [hrun, originateWith_eq areaId lsType linkStateId body seq s rfl]
    generalize hlsa : ({ header := originatedHeader s lsType linkStateId seq, body } : Lsa) = lsa
    have hhome : ∀ r, r < s.heap.next → Function.update home s.heap.next areaId r = home r :=
      fun r hr => Function.update_of_ne (Nat.ne_of_lt hr) ..
    have hgrows := (drafted_moves s lsa).grows
    have hlt : s.heap.next < (s.drafted lsa).heap.next := Nat.lt_succ_self _
    have hpasses : Passes old s (s.drafted lsa) :=
      .of_same rfl hgrows ⟨rfl, fun _ => rfl⟩ fun _ hi => hi
    have hdraft := h.drafted lsa areaId
    have hnothing := hpasses.during hhome hdraft.during
    split
    · exact hnothing
    · split
      · have hat : Function.update home s.heap.next areaId s.heap.next = areaId :=
          Function.update_self ..
        have hquiet : Quiet ((s.drafted lsa).installed areaId s.heap.next) (s.originated areaId lsa) :=
          ⟨rfl, rfl, rfl, rfl, rfl, rfl, rfl⟩
        have hinst := (hdraft.installed hlt fun _ => hat).idle (hquiet.idle (.of_eq rfl))
        have hall : Passes old s (s.originated areaId lsa) := (hpasses.trans (passes_installed hold)).trans
          (.of_same rfl (.of_eq rfl) ⟨rfl, fun _ => rfl⟩ fun _ hi => hi)
        have htype : (s.originated areaId lsa).lsTypeOf s.heap.next = lsType := by
          have hkey := congrArg LsaKey.lsType (key_originated s areaId lsa)
          rw [← hlsa] at hkey ⊢
          exact hkey
        refine hall.during hhome (hinst.during_flooded ?_ none (fun _ => hat) (fun hw => ?_) fun _ i _ _ j hj => ?_)
        · exact lt_of_lt_of_le hlt (by simp [Instance.originated, Instance.installed])
        · rw [htype] at hw
          refine ⟨fun i hi => hall.calm i (hstub hw i ?_), by rintro _ ⟨⟩⟩
          rwa [hall.layout.inStub] at hi
        · rw [h.fresh _ le_rfl] at hj
          cases hj
      · exact hnothing

theorem Housed.during_refreshLsa (h : Housed s heardOn home) (hold : old ≤ s.heap.next)
    (areaId : IPv4Address) (r : LsaRef) (hstub : asWide (s.lsTypeOf r) = true → s.StubsCalm) :
    During old s heardOn home (refreshLsa areaId r s).2 := by
  rw [refreshLsa, Eff.get_bind_apply]
  rcases s.lsdb.lookup areaId (s.heap.obj r).key with _ | e
  · exact h.during
  · dsimp only
    rw [Eff.ite_apply]
    split
    · exact h.during
    · rcases nextSeqNum (s.heap.obj e).header.lsSequenceNumber with _ | seq
      · exact h.during
      · exact h.during_originate hold areaId _ _ _ hstub

/-! ### Reception -/

/-- What an event receives comes from one interface. -/
def FreshFrom (old : LsaRef) (heardOn : LsaRef → Option IntfId) (i : IntfId) : Prop :=
  ∀ r j, old ≤ r → heardOn r = some j → j = i

theorem UpdateFits.later {i : IntfId} {heardOn' : LsaRef → Option IntfId} (h : UpdateFits s heardOn i key)
    (hp : Passes old s t) (hheard : ∀ r, r < old → heardOn' r = heardOn r)
    (hfresh : FreshFrom old heardOn' i) : UpdateFits t heardOn' i key := by
  refine ⟨fun hw => ?_, fun htype j hj hne => ?_, fun htype r hr j hj => ?_⟩
  · obtain ⟨hno, hcalm⟩ := h.domain hw
    refine ⟨by rwa [hp.layout.inStub], fun j hj => hp.calm j (hcalm j ?_)⟩
    rwa [hp.layout.inStub] at hj
  · rw [hp.layout.areaId, hp.layout.interfacesForArea] at hj
    exact hp.calm j (h.calm htype j hj hne)
  · rw [hp.layout.areaId] at hr
    by_cases hlt : r < old
    · exact h.stored htype r (hp.filed _ _ _ hlt hr) j ((hheard r hlt).symm.trans hj)
    · exact hfresh r j (Nat.not_lt.1 hlt) hj

/-- What follows the installation of a received LSA. -/
theorem Housed.during_afterInstall (h : Housed s heardOn home) (hold : old ≤ s.heap.next)
    (areaId : IPv4Address) (hstub : asWide (s.lsTypeOf r) = true → s.StubsCalm) :
    During old s heardOn home (afterInstall r n areaId s).2 := by
  rw [afterInstall, Eff.get_bind_apply, Eff.ite_apply]
  split
  · rw [Eff.ite_apply]
    split
    · exact h.during_removed areaId _
    · have hrefresh := h.during_refreshLsa hold areaId r hstub
      exact Eff.bind_final (P := During old s heardOn home) hrefresh fun _ _ => hrefresh
  · exact h.during_told (Eff.Within.bind (acknowledge_tells r n) (fun _ => scheduleSpf_tells) s)

/-- **One received LSA.** -/
theorem Housed.during_processReceivedLsa (h : Housed s heardOn home) (hfresh : FreshFrom old heardOn n.intf)
    (hold : old ≤ r) (hr : r < s.heap.next) (hheard : heardOn r = some n.intf)
    (hfits : UpdateFits s heardOn n.intf (s.heap.obj r).key) :
    During old s heardOn home (processReceivedLsa r n (s.intf n.intf).areaId s).2 := by
  have hhome : asWide (s.lsTypeOf r) = false → home r = (s.intf n.intf).areaId :=
    (h.received r n.intf hheard).area
  rw [processReceivedLsa_eq]
  rcases hv : verdict s (s.intf n.intf).areaId (s.heap.obj r) with _ | _ | _ | _ | e
  · exact h.during
  · exact h.during
  · have hpasses : Passes old s (s.installed (s.intf n.intf).areaId r) := passes_installed hold
    have hinst := h.installed hr hhome
    have hfits' := hfits.later hpasses (fun _ _ => rfl) hfresh
    have htype : (s.installed (s.intf n.intf).areaId r).lsTypeOf r = (s.heap.obj r).key.lsType :=
      lsTypeOf_of_grows hpasses.heap hr
    have hlt := lt_of_lt_of_le hr hpasses.heap.next
    refine hpasses.during (fun _ _ => rfl) ?_
    generalize hu : s.installed (s.intf n.intf).areaId r = u at *
    have hflood : During old u heardOn home (floodLsa r (s.intf n.intf).areaId (some n.intf) u).2 := by
      refine hinst.during_flooded hlt (some n.intf) (fun hw => ?_) (fun hw => ?_)
        fun hlink i hi hsend j hj => ?_
      · rw [htype] at hw
        exact hhome hw
      · obtain ⟨hno, hcalm⟩ := hfits'.domain (htype ▸ hw)
        refine ⟨hcalm, fun i hi => ?_⟩
        rwa [← Option.some.inj hi]
      · obtain rfl := Option.some.inj (hheard.symm.trans hj)
        by_contra hne
        rw [← hpasses.layout.areaId] at hi
        have hcalm := hfits'.calm (htype ▸ hlink) i hi (Ne.symm hne)
        rcases hsend with heq | hno
        · exact hne (Option.some.inj heq)
        · exact hno hcalm
    refine Eff.bind_final (P := During old u heardOn home) hflood fun _ _ => ?_
    refine hflood.trans fun home' _ hhoused => ?_
    refine hhoused.during_afterInstall (hold.trans (Nat.le_of_lt (lt_of_lt_of_le hlt hflood.heap.next)))
      _ fun hw => ?_
    rw [lsTypeOf_of_grows hflood.heap hlt] at hw
    exact ((hfits'.later hflood.toPasses (fun _ _ => rfl) hfresh).domain (htype ▸ hw)).2
  · exact h.during_told (receivedSame_tells r n s)
  · refine h.during_told (sendLsUpdate_tells n (fun k hk => ?_) s)
    obtain rfl := List.mem_singleton.1 hk
    obtain ⟨hlt, hkey, hat⟩ := h.of_lookup (stored_of_older hv).1
    have htype : s.lsTypeOf k = (s.heap.obj r).key.lsType := congrArg LsaKey.lsType hkey
    refine ⟨hlt, fun hw => ?_, fun hw => hat (htype ▸ hw), fun hlink => ?_⟩
    · exact (hfits.domain (htype ▸ hw)).1
    · exact hfits.stored (htype ▸ hlink) k (stored_of_older hv).1

/-- The LSAs of an update, one after the other. -/
theorem Housed.during_processReceivedLsas (h : Housed s heardOn home)
    (hfresh : FreshFrom old heardOn n.intf) {rs : List LsaRef} (hrs : ∀ r ∈ rs, old ≤ r ∧
      r < s.heap.next ∧ heardOn r = some n.intf ∧ UpdateFits s heardOn n.intf (s.heap.obj r).key) :
    During old s heardOn home
      (Eff.forEach rs (fun r => processReceivedLsa r n (s.intf n.intf).areaId) s).2 := by
  refine Eff.forEach_final (P := During old s heardOn home) h.during fun r hr t ht => ?_
  obtain ⟨hold, hlt, hheard, hfits⟩ := hrs r hr
  refine ht.trans fun home' _ hhoused => ?_
  rw [← ht.layout.areaId]
  refine hhoused.during_processReceivedLsa hfresh hold (lt_of_lt_of_le hlt ht.heap.next) hheard ?_
  rw [(ht.heap.same r hlt).key]
  exact hfits.later ht.toPasses (fun _ _ => rfl) hfresh

theorem recordIntfs_lsu {e : Event} {src : IPv4Address} {lsu : LsuPacket}
    (hh : heard s e = some (n, src, .lsu lsu)) (hn : n.routerId ∈ (s.intf n.intf).neighbors)
    (r : LsaRef) : recordIntfs s e heardOn r = if r ∈ received s lsu then some n.intf else heardOn r := by
  rw [recordIntfs, hh]
  dsimp only
  rw [if_pos hn]

/-- **An update.** -/
theorem Housed.receives {e : Event} {src : IPv4Address} {lsu : LsuPacket} (h : Housed s heardOn home)
    (hh : heard s e = some (n, src, .lsu lsu)) (hn : n.routerId ∈ (s.intf n.intf).neighbors)
    (hfits : ∀ lsa ∈ lsu.lsas, UpdateFits s heardOn n.intf lsa.key) :
    ∃ home', (∀ r, r < s.heap.next → home' r = home r) ∧
      Housed (exec s e) (recordIntfs s e heardOn) home' := by
  obtain ⟨u, hrun, hu, hrs⟩ := newLsas_received lsu s
  have hmoves := newLsas_within (A := fun l => l = .alloc) rfl lsu.lsas s
  rw [hrun] at hmoves
  have hpasses : Passes s.heap.next s u := .of_same hu.lsdb hmoves.grows hmoves.layout fun i hi m hm => by
    rw [hu.nbr]
    exact hi m hm
  have hrecord : ∀ r, recordIntfs s e heardOn r = if r ∈ Ospfd.received s lsu then some n.intf else heardOn r :=
    recordIntfs_lsu hh hn
  have hrange : ∀ r, r ∈ Ospfd.received s lsu → s.heap.next ≤ r := fun r hr =>
    (List.mem_range'_1.1 hr).1
  have hold : ∀ r, r < s.heap.next → recordIntfs s e heardOn r = heardOn r := by
    intro r hr
    rw [hrecord, if_neg fun hmem => absurd hr (Nat.not_lt.2 (hrange r hmem))]
  have hfresh : FreshFrom s.heap.next (recordIntfs s e heardOn) n.intf := by
    intro r j hr hj
    rw [hrecord, h.fresh r hr] at hj
    split at hj
    · exact (Option.some.inj hj).symm
    · cases hj
  -- a received LSA has its home in the area of the interface
  let home' : LsaRef → IPv4Address := fun r => if s.heap.next ≤ r then (s.intf n.intf).areaId else home r
  have hhome : ∀ r, r < s.heap.next → home' r = home r := fun r hr => if_neg (Nat.not_le.2 hr)
  have hhoused : Housed u (recordIntfs s e heardOn) home' := by
    refine h.keep hu.lsdb hpasses.heap hpasses.layout (fun r hr => ?_) hold hhome (.of_eq hu.sent)
      fun r i hr => ?_
    · rw [hrecord, if_neg fun hmem => absurd (hrs r hmem).1 (Nat.not_lt.2 hr)]
      exact h.fresh r (hpasses.heap.next.trans hr)
    · by_cases hlt : r < s.heap.next
      · rw [hold r hlt] at hr
        exact h.received_later hpasses.layout hpasses.heap hhome r i hr
      · obtain rfl := hfresh r i (Nat.not_lt.1 hlt) hr
        have hmem : r ∈ Ospfd.received s lsu := by
          by_contra hno
          rw [hrecord, if_neg hno, h.fresh r (Nat.not_lt.1 hlt)] at hr
          cases hr
        refine ⟨fun _ => ?_, fun hw => ?_⟩
        · rw [hpasses.layout.areaId]
          exact if_pos (Nat.not_lt.1 hlt)
        · rw [hpasses.layout.inStub]
          exact ((hfits _ (hrs r hmem).2).domain hw).1
  have hall : ∀ r ∈ Ospfd.received s lsu, s.heap.next ≤ r ∧ r < u.heap.next ∧
      recordIntfs s e heardOn r = some n.intf ∧
        UpdateFits u (recordIntfs s e heardOn) n.intf (u.heap.obj r).key := by
    intro r hr
    obtain ⟨hlt, hmem⟩ := hrs r hr
    refine ⟨hrange r hr, hlt, by rw [hrecord, if_pos hr], ?_⟩
    exact (hfits _ hmem).later hpasses hold hfresh
  have hloop := hhoused.during_processReceivedLsas hfresh hall
  have hexec : During s.heap.next u (recordIntfs s e heardOn) home' (exec s e) := by
    rw [exec_heard hh, processPacket, forNeighbor, Eff.get_bind_apply, Eff.when_pos hn, receiveLsu,
      Eff.get_bind_apply, Eff.bind_apply_ok hrun, ← hpasses.layout.areaId]
    refine Eff.bind_final (P := During s.heap.next u (recordIntfs s e heardOn) home') hloop fun _ _ => ?_
    exact hloop.trans fun _ _ hhoused => hhoused.during_told (processLsUpdate_tells n _ _)
  exact (hpasses.during hhome hexec).housed

/-! ### Aging -/

/-- Time does not run back, and as long as it stands still no LSA ages. -/
def Aged (s t : Instance) : Prop :=
  s.now ≤ t.now ∧ s.heap.next ≤ t.heap.next ∧ (t.now = s.now → ∀ r, r < s.heap.next →
    min ((t.heap.obj r).currentAge t.now) maxAge = min ((s.heap.obj r).currentAge s.now) maxAge)

instance : Std.Refl Aged := ⟨fun _ => ⟨le_rfl, le_rfl, fun _ _ _ => rfl⟩⟩

instance : IsTrans Instance Aged := ⟨fun s t u h h' => by
  refine ⟨h.1.trans h'.1, h.2.1.trans h'.2.1, fun hnow r hr => ?_⟩
  have hst : t.now = s.now := le_antisymm (hnow ▸ h'.1) h.1
  rw [h'.2.2 (hnow.trans hst.symm) r (lt_of_lt_of_le hr h.2.1), h.2.2 hst r hr]⟩

theorem Aged.of_heap (hheap : t.heap = s.heap) (hnow : s.now ≤ t.now) : Aged s t :=
  ⟨hnow, by rw [hheap], fun heq r _ => by rw [hheap, heq]⟩

theorem move_aged {l : Label} (hl : NoInstall l) (hm : move l s t) : Aged s t := by
  cases l with
  | write k =>
    obtain rfl : t = _ := hm
    refine ⟨le_rfl, le_rfl, fun _ r _ => ?_⟩
    dsimp only
    rw [LsaHeap.obj_set]
    split
    · rename_i heq
      subst heq
      rcases Lsa.serialize_written (s.heap.obj r) s.now with hsame | ⟨n, c, hstamped⟩
      · rw [hsame]
      · rw [hstamped, Lsa.currentAge_stamped]
    · rfl
  | alloc =>
    obtain ⟨lsa, rfl⟩ := hm
    refine ⟨le_rfl, Nat.le_succ _, fun _ r hr => ?_⟩
    dsimp only [LsaHeap.alloc]
    rw [Function.update_of_ne (Nat.ne_of_lt hr)]
  | install a k => exact absurd rfl (hl a k)
  | _ => exact .of_heap ((move_framed hm).heap rfl) (move_framed hm).clock

/-- **Nothing else ages an LSA that is there.** -/
theorem aged_carries : Carries Aged where
  move := move_aged
  draft := by
    intro s lsType linkStateId body seqNum b areaId _
    have hdraft : Aged s (s.drafted (draftOf s lsType linkStateId body seqNum)) :=
      Lts.Moves.relates (fun l _ _ hl hm => move_aged (fun a k heq => by
        rw [heq] at hl
        rcases hl with hl | hl <;> cases hl) hm) (drafted_moves s _)
    refine ⟨hdraft.1, hdraft.2.1.trans (by simp [Instance.installed]), fun hnow r hr => ?_⟩
    rw [← hdraft.2.2 hnow r hr, Instance.installed]
    dsimp only
    rw [LinkStateDatabase.obj_install, if_neg fun hc => absurd hc.2 (Nat.ne_of_lt hr)]

theorem spreads_now (h : Moves Spreads s t) : t.now = s.now := by
  refine Lts.Moves.invariant (I := fun u : Instance => u.now = s.now) (fun l u v hl hm hu => ?_) h rfl
  cases hl with
  | flood hl => exact (move_sameStore hl hm).now.trans hu
  | alloc =>
    obtain ⟨lsa, rfl⟩ := hm
    exact hu
  | install a k =>
    obtain rfl : v = _ := hm
    exact hu
  | remove a k =>
    obtain rfl : v = _ := hm
    exact hu

theorem isSelfOriginated_of_passes (hp : Passes old s t) (hr : r < s.heap.next) :
    t.lsdb.isSelfOriginated (t.heap.obj r) = s.lsdb.isSelfOriginated (s.heap.obj r) := by
  have hadv : (t.heap.obj r).header.advertisingRouter = (s.heap.obj r).header.advertisingRouter :=
    congrArg LsaKey.advertisingRouter (hp.heap.same r hr).key
  rw [LinkStateDatabase.isSelfOriginated, LinkStateDatabase.isSelfOriginated, hadv, hp.routerId]

theorem StaysOnLink.later (h : StaysOnLink s heardOn areaId r) (hp : Passes old s t)
    (hr : r < s.heap.next) : StaysOnLink t heardOn areaId r := by
  intro htype hself i hi
  rw [lsTypeOf_of_grows hp.heap hr] at htype
  rw [isSelfOriginated_of_passes hp hr] at hself
  rw [hp.layout.interfacesForArea] at hi
  exact (h htype hself i hi).imp (hp.calm i) id

theorem Housed.during_flushMaxageLsa (h : Housed s heardOn home) (hr : r < s.heap.next)
    (hhome : home r = areaId) (hw : asWide (s.lsTypeOf r) = false)
    (hlink : StaysOnLink s heardOn areaId r) (hself : s.lsdb.isSelfOriginated (s.heap.obj r) = false) :
    During old s heardOn home (flushMaxageLsa r areaId s).2 := by
  have hflood : During old s heardOn home (floodLsa r areaId none s).2 := by
    refine h.during_flooded hr none (fun _ => hhome) (fun hyes => ?_) fun htype i hi hsend j hj => ?_
    · rw [hw] at hyes
      cases hyes
    · rcases hlink htype hself i hi with hcalm | hj'
      · exact absurd hcalm (hsend.resolve_left nofun)
      · exact hj' j hj
  refine Eff.bind_final (P := During old s heardOn home) hflood fun _ _ => hflood.trans fun home' _ hhoused => ?_
  generalize (floodLsa r areaId none s).2 = t at hhoused
  rw [Eff.get_bind_apply]
  rcases t.areas.get? areaId with _ | area
  · exact hhoused.during_removed areaId _
  · dsimp only
    rw [Eff.lift_bind_apply]
    rcases rxmtPendingOn t area.interfaces with e | pending
    · exact hhoused.during
    · dsimp only
      cases pending with
      | true => exact hhoused.during
      | false => exact hhoused.during_removed areaId _

theorem Housed.during_refresh (h : Housed s heardOn home) (hold : old ≤ s.heap.next)
    (hw : asWide (s.lsTypeOf r) = false) : During old s heardOn home ((do
      let _ ← refreshLsa areaId r
      pure () : Py Unit) s).2 := by
  have hrefresh := h.during_refreshLsa hold areaId r fun hyes => by
    rw [hw] at hyes
    cases hyes
  exact Eff.bind_final (P := During old s heardOn home) hrefresh fun _ _ => hrefresh

theorem Housed.during_expireLsa (h : Housed s heardOn home) (hold : old ≤ s.heap.next)
    (hr : r < s.heap.next) (hhome : home r = areaId) (hw : asWide (s.lsTypeOf r) = false)
    (hlink : StaysOnLink s heardOn areaId r) : During old s heardOn home (expireLsa areaId r s).2 := by
  rw [expireLsa, Eff.get_bind_apply, Eff.ite_apply]
  split
  · exact h.during_refresh hold hw
  · rename_i hself
    exact h.during_flushMaxageLsa hr hhome hw hlink (by simpa using hself)

theorem Housed.during_refreshIfOld (h : Housed s heardOn home) (hold : old ≤ s.heap.next)
    (hw : asWide (s.lsTypeOf r) = false) : During old s heardOn home (refreshIfOld areaId r s).2 := by
  rw [refreshIfOld, Eff.get_bind_apply]
  by_cases hage : s.lsdb.isSelfOriginated (s.heap.obj r) = true ∧
      lsRefreshTime ≤ (s.heap.obj r).currentAge s.now ∧ (s.heap.obj r).currentAge s.now < maxAge
  · rw [Eff.when_pos hage]
    exact h.during_refresh hold hw
  · rw [Eff.when_neg hage]
    exact h.during

/-- A stored LSA of an area. -/
theorem Housed.of_getAll (h : Housed s heardOn home) (hr : r ∈ s.lsdb.getAll areaId) :
    r < s.heap.next ∧ asWide (s.lsTypeOf r) = false ∧ home r = areaId ∧
      s.lsdb.lookup areaId (s.heap.obj r).key = some r := by
  obtain ⟨key, hkey⟩ := Dict.mem_values_iff.1 hr
  obtain ⟨hlt, rfl, hw, hhome⟩ := h.areas areaId key r hkey
  exact ⟨hlt, hw, hhome, (LinkStateDatabase.lookup_of_scoped _ _ hw).trans hkey⟩

/-- No time passes, and no LSA ages. -/
structure SameAges (s t : Instance) : Prop where
  now : t.now = s.now
  next : s.heap.next ≤ t.heap.next
  age : ∀ r, r < s.heap.next →
    min ((t.heap.obj r).currentAge t.now) maxAge = min ((s.heap.obj r).currentAge s.now) maxAge

instance : Std.Refl SameAges := ⟨fun _ => ⟨rfl, le_rfl, fun _ _ => rfl⟩⟩

instance : IsTrans Instance SameAges := ⟨fun _ _ _ h h' => ⟨h'.now.trans h.now, h.next.trans h'.next,
  fun r hr => (h'.age r (lt_of_lt_of_le hr h.next)).trans (h.age r hr)⟩⟩

theorem Aged.sameAges (h : Aged s t) (hm : Moves Spreads s t) : SameAges s t :=
  ⟨spreads_now hm, h.2.1, h.2.2 (spreads_now hm)⟩

theorem refresh_sameAges (areaId : IPv4Address) (r : LsaRef) : Eff.Within SameAges (do
    let _ ← refreshLsa areaId r
    pure () : Py Unit) :=
  Eff.Within.bind (fun s => (aged_carries.handles.keeps.refreshLsa areaId r s).sameAges (refreshLsa_within areaId r s))
    fun _ => Eff.Within.pure ()

theorem expireLsa_sameAges (areaId : IPv4Address) (r : LsaRef) : Eff.Within SameAges (expireLsa areaId r) :=
  Eff.Within.read fun _ => Eff.Within.ite (refresh_sameAges areaId r) fun s =>
    (aged_carries.handles.flushMaxageLsa r areaId s).sameAges (flushMaxageLsa_within r areaId s)

theorem refreshIfOld_sameAges (areaId : IPv4Address) (r : LsaRef) :
    Eff.Within SameAges (refreshIfOld areaId r) :=
  Eff.Within.read fun _ => Eff.Within.when fun _ => refresh_sameAges areaId r

/-- An LSA that reached MaxAge had reached it before. -/
theorem SameAges.maxage (h : SameAges s t) (hr : r < s.heap.next)
    (hage : maxAge ≤ (t.heap.obj r).currentAge t.now) : maxAge ≤ (s.heap.obj r).currentAge s.now := by
  have heq := h.age r hr
  rw [Nat.min_eq_right hage] at heq
  exact heq.le.trans (Nat.min_le_left ..)

/-- **One area.** -/
theorem Housed.during_checkArea (h : Housed s heardOn home) (hold : old ≤ s.heap.next)
    (hlink : ∀ r ∈ s.lsdb.getMaxageLsas s.heap s.now areaId, StaysOnLink s heardOn areaId r) :
    During old s heardOn home ((do
      let s ← Eff.get
      Eff.forEach (s.lsdb.getMaxageLsas s.heap s.now areaId) (expireLsa areaId)
      let s ← Eff.get
      Eff.forEach (s.lsdb.getAll areaId) (refreshIfOld areaId) : Py Unit) s).2 := by
  have hexpired : During old s heardOn home
      (Eff.forEach (s.lsdb.getMaxageLsas s.heap s.now areaId) (expireLsa areaId) s).2 := by
    refine Eff.forEach_final (P := During old s heardOn home) h.during fun r hr t ht => ?_
    obtain ⟨hlt, hw, hhome, -⟩ := h.of_getAll (List.mem_of_mem_filter hr)
    refine ht.trans fun home' hsame hhoused => ?_
    refine hhoused.during_expireLsa (hold.trans ht.heap.next) (lt_of_lt_of_le hlt ht.heap.next)
      ((hsame r hlt).trans hhome) ?_ ((hlink r hr).later ht.toPasses hlt)
    rwa [lsTypeOf_of_grows ht.heap hlt]
  rw [Eff.get_bind_apply]
  refine Eff.bind_final (P := During old s heardOn home) hexpired fun _ _ => ?_
  refine hexpired.trans fun home' _ hhoused => ?_
  have hold' := hold.trans hexpired.heap.next
  generalize (Eff.forEach (s.lsdb.getMaxageLsas s.heap s.now areaId) (expireLsa areaId) s).2 = u at hhoused hold'
  rw [Eff.get_bind_apply]
  refine Eff.forEach_final (P := During old u heardOn home') hhoused.during fun r hr t ht => ?_
  obtain ⟨hlt, hw, -⟩ := hhoused.of_getAll hr
  refine ht.trans fun home'' _ hhoused' => ?_
  refine hhoused'.during_refreshIfOld (hold'.trans ht.heap.next) ?_
  rwa [lsTypeOf_of_grows ht.heap hlt]

theorem checkArea_sameAges (areaId : IPv4Address) : Eff.Within SameAges (do
    let s ← Eff.get
    Eff.forEach (s.lsdb.getMaxageLsas s.heap s.now areaId) (expireLsa areaId)
    let s ← Eff.get
    Eff.forEach (s.lsdb.getAll areaId) (refreshIfOld areaId) : Py Unit) := by
  refine Eff.Within.read fun s => Eff.Within.bind (Eff.Within.forEach fun r _ => expireLsa_sameAges areaId r)
    fun _ => Eff.Within.read fun t => ?_
  exact Eff.Within.forEach fun r _ => refreshIfOld_sameAges areaId r

/-- **Aging.** -/
theorem Housed.during_checkAges (h : Housed s heardOn home)
    (hlink : ∀ areaId, ∀ r ∈ s.lsdb.getMaxageLsas s.heap s.now areaId, StaysOnLink s heardOn areaId r) :
    During s.heap.next s heardOn home (checkAges s).2 := by
  rw [checkAges, Eff.get_bind_apply]
  refine (Eff.forEach_final (P := fun t => During s.heap.next s heardOn home t ∧ SameAges s t)
    ⟨h.during, refl_of SameAges s⟩ fun areaId _ t ht => ?_).1
  refine ⟨ht.1.trans fun home' _ hhoused => ?_, trans_of SameAges ht.2 (checkArea_sameAges areaId t)⟩
  refine hhoused.during_checkArea ht.1.heap.next fun r hr => ?_
  obtain ⟨hr, hage⟩ := List.mem_filter.1 hr
  obtain ⟨hlt, hw, -, hlook⟩ := hhoused.of_getAll hr
  by_cases hnew : r < s.heap.next
  · have hstored := ht.1.filed _ _ _ hnew hlook
    have hmem : r ∈ s.lsdb.getMaxageLsas s.heap s.now areaId := by
      refine List.mem_filter.2 ⟨?_, by simpa using ht.2.maxage hnew (by simpa using hage)⟩
      rw [LinkStateDatabase.lookup_of_scoped _ _ hw] at hstored
      exact Dict.mem_values_iff.2 ⟨_, hstored⟩
    exact (hlink areaId r hmem).later ht.1.toPasses hnew
  · refine fun _ _ i _ => Or.inr fun j hj => ?_
    rw [h.fresh r (Nat.not_lt.1 hnew)] at hj
    cases hj

/-! ### Events -/

theorem recordIntfs_other {e : Event}
    (h : ∀ n src lsu, heard s e = some (n, src, .lsu lsu) → n.routerId ∉ (s.intf n.intf).neighbors) :
    recordIntfs s e heardOn = heardOn := by
  rw [recordIntfs]
  split
  · rename_i m src lsu hh
    exact if_neg (h m src lsu hh)
  · rfl

/-- A requested LSA is stored. -/
theorem lookup_of_requestedLsas {s : Instance} {areaId : IPv4Address} {items : List LsrItem}
    {rs : List LsaRef} (h : requestedLsas s areaId items = some rs) {r : LsaRef} (hr : r ∈ rs) :
    ∃ key, s.lsdb.lookup areaId key = some r := by
  induction items generalizing rs with
  | nil =>
    obtain rfl := Option.some.inj h
    cases hr
  | cons item items ih =>
    rw [requestedLsas] at h
    rcases hlook : s.lsdb.lookup areaId item.key with _ | k <;> rw [hlook] at h
    · cases h
    · obtain ⟨ks, hks, rfl⟩ := Option.map_eq_some_iff.1 h
      rcases List.mem_cons.1 hr with rfl | hr
      · exact ⟨_, hlook⟩
      · exact ih hks hr

/-- **A request.** -/
theorem Housed.answers (h : Housed s heardOn home) {lsr : LsrPacket}
    (hfits : .exchange ≤ (s.nbr n).state → ∀ rs, requestedLsas s (s.intf n.intf).areaId lsr.items = some rs →
      ∀ r ∈ rs, AnswerFits s heardOn n.intf r) :
    Housed (processLsRequest n lsr s).2 heardOn home := by
  rw [processLsRequest, Eff.get_bind_apply]
  by_cases hst : .exchange ≤ (s.nbr n).state
  · rw [Eff.when_pos hst]
    rcases hreq : requestedLsas s (s.intf n.intf).areaId lsr.items with _ | rs
    · refine h.idle (.of_moves (fun _ => EventMoves.unfiled) (nbrEvent_restart n (Or.inr rfl) s) ?_)
      exact nbrEvent_sends (fun _ => Nat.ne_of_lt) n .badLsReq s
    · refine h.told (sendLsUpdate_tells n (fun r hr => ?_) s)
      obtain ⟨key, hlook⟩ := lookup_of_requestedLsas hreq hr
      obtain ⟨hlt, hkey, hat⟩ := h.of_lookup hlook
      have hfit := hfits hst rs hreq r hr
      exact ⟨hlt, hfit.domain, fun hw => hat (by rwa [← hkey]), hfit.link⟩
  · rw [Eff.when_neg hst]
    exact h

/-- **An event that leaves no scope keeps the LSAs at home.** -/
theorem Housed.exec {e : Event} (h : Housed s heardOn home) (hen : e.Enabled s)
    (hok : KeepsScope s heardOn e) : ∃ home', (∀ r, r < s.heap.next → home' r = home r) ∧
      Housed (exec s e) (recordIntfs s e heardOn) home' := by
  by_cases hlsu : ∃ n src lsu, heard s e = some (n, src, .lsu lsu) ∧ n.routerId ∈ (s.intf n.intf).neighbors
  · obtain ⟨n, src, lsu, hh, hn⟩ := hlsu
    exact h.receives hh hn (hok.update n src lsu hh hn)
  have hrecord : recordIntfs s e heardOn = heardOn :=
    recordIntfs_other fun n src lsu hh hn => hlsu ⟨n, src, lsu, hh, hn⟩
  rw [hrecord]
  have hsame : Housed (Ospfd.exec s e) heardOn home →
      ∃ home', (∀ r, r < s.heap.next → home' r = home r) ∧ Housed (Ospfd.exec s e) heardOn home' :=
    fun hhoused => ⟨home, fun _ _ => rfl, hhoused⟩
  -- a Router-LSA and a Network-LSA belong to an area
  have hdraft : ∀ {t : Instance} {m : Py (Option LsaRef)}, Quiet s t → t.sent = s.sent →
      (∀ {u : Instance}, Housed u heardOn home → During u.heap.next u heardOn home (m u).2) →
      ∃ home', (∀ r, r < s.heap.next → home' r = home r) ∧ Housed (m t).2 heardOn home' := by
    intro t m hq hsent hm
    rw [← hq.heap]
    exact (hm (h.idle (hq.idle (.of_eq hsent)))).housed
  by_cases hlsr : ∃ n src lsr, heard s e = some (n, src, .lsr lsr)
  · obtain ⟨n, src, lsr, hh⟩ := hlsr
    refine hsame ?_
    rw [exec_heard hh, processPacket, forNeighbor, Eff.get_bind_apply]
    by_cases hn : n.routerId ∈ (s.intf n.intf).neighbors
    · rw [Eff.when_pos hn]
      exact h.answers (hok.answer n src lsr hh hn)
    · rw [Eff.when_neg hn]
      exact h
  by_cases hf : e.MayFlood s
  · cases e with
    | aging => exact (h.during_checkAges (hok.aging rfl)).housed
    | originate areaId lsType linkStateId body =>
      rw [exec_originate]
      exact (h.during_originate le_rfl areaId linkStateId body none (hok.origination _ _ _ _ rfl)).housed
    | routerLsa areaId =>
      rw [exec_routerLsa]
      refine hdraft (t := { s with routerLsaPending := s.routerLsaPending.pop areaId })
        (m := originateRouterLsa areaId) ⟨rfl, rfl, rfl, rfl, rfl, rfl, rfl⟩ rfl fun hu => ?_
      exact hu.during_originate le_rfl areaId _ _ none (by rintro ⟨⟩)
    | networkLsa i =>
      rw [exec_networkLsa]
      refine hdraft (t := { s with networkLsaPending := s.networkLsaPending.pop i })
        (m := originateNetworkLsa i) ⟨rfl, rfl, rfl, rfl, rfl, rfl, rfl⟩ rfl fun {u} hu => ?_
      rw [originateNetworkLsa, Eff.get_bind_apply, Eff.ite_apply]
      split
      · exact hu.during
      · exact hu.during_originate le_rfl _ _ _ none (by rintro ⟨⟩)
    | receive i data src =>
      obtain ⟨n, src', lsu, hh⟩ := hf
      have hn : n.routerId ∉ (s.intf n.intf).neighbors := fun hn => hlsu ⟨n, src', lsu, hh, hn⟩
      refine hsame ?_
      rw [exec_heard hh, processPacket, forNeighbor, Eff.get_bind_apply, Eff.when_neg hn]
      exact h
    | _ =>
      obtain ⟨n, src', lsu, hh⟩ := hf
      cases hh
  · exact hsame (h.idle (exec_idle hen hf fun n src lsr hh => hlsr ⟨n, src, lsr, hh⟩))

end During

/-! ## Runs -/

section Runs

variable {s : Instance} {heardOn : LsaRef → Option IntfId} {home : LsaRef → IPv4Address}

theorem Instance.Unused.housed (h : s.Unused) (home : LsaRef → IPv4Address) :
    Housed s (fun _ => none) home := by
  have hnone : ∀ areaId, ∀ r, r ∉ s.lsdb.getAllHeaders areaId := fun areaId r hr => by
    rw [h.empty.2 areaId] at hr
    cases hr
  refine ⟨h.laid, fun _ _ => rfl, nofun, fun areaId key r hr => ?_, fun areaId key r hw hr => ?_,
    fun p hp => ?_⟩
  · exact absurd (List.mem_append_left _ (Dict.mem_values_iff.2 ⟨key, hr⟩)) (hnone areaId r)
  · rw [LinkStateDatabase.lookup, if_pos hw] at hr
    exact absurd (List.mem_append_right _ (Dict.mem_values_iff.2 ⟨key, hr⟩)) (hnone areaId r)
  · rw [h.sent] at hp
    cases hp

theorem Instance.Unused.tidy (h : s.Unused) (stub : IntfId → Prop) : Tidy stub s := by
  refine ⟨fun n _ r hr => ?_, fun p hp => ?_⟩
  · rw [h.empty.1.nbr n] at hr
    cases hr
  · rw [h.sent] at hp
    cases hp

/-- LSAs at home and tidy descriptions are in scope. -/
theorem Housed.inScope (h : Housed s heardOn home) (ht : Tidy (fun i => s.inStub i = true) s) :
    InScope s heardOn home where
  received := fun r i hr => (h.received r i hr).area
  stored := fun areaId r hr => by
    obtain ⟨key, hkey⟩ := Dict.mem_values_iff.1 hr
    exact (h.areas areaId key r hkey).2.2.2
  sent := h.sent
  described := ht.sent
  installed := fun r i hr hstub hw => by
    rw [(h.received r i hr).domain hw] at hstub
    cases hstub

/-- If there is no AS-wide LSA in the database, every summary is plain. -/
theorem Housed.plain (h : Housed s heardOn home) (hexternal : s.lsdb.external.values = []) : s.Plain := by
  intro areaId r hr
  rw [LinkStateDatabase.getAllHeaders, hexternal, List.append_nil] at hr
  obtain ⟨hlt, hw, -⟩ := h.of_getAll hr
  exact ⟨hlt, hw⟩

/-- The invariant of a run. -/
theorem Recorded.housed (h : Recorded KeepsScope s heardOn) :
    ∃ home, Scoped s heardOn home ∧ Housed s heardOn home ∧ Tidy (fun i => s.inStub i = true) s := by
  induction h with
  | @init s h =>
    have hhoused := h.housed fun _ => zeroAddr
    have htidy := h.tidy fun i => s.inStub i = true
    exact ⟨_, .init h (hhoused.inScope htidy), hhoused, htidy⟩
  | @step s heardOn e h hen hok ih =>
    obtain ⟨home, hscoped, hhoused, htidy⟩ := ih
    obtain ⟨home', hkept, hhoused'⟩ := hhoused.exec hen hok
    have htidy' : Tidy (fun i => (exec s e).inStub i = true) (exec s e) := by
      rw [funext fun i => congrArg (· = true) ((exec_moves hen).layout.inStub i)]
      exact exec_tidy htidy fun n src dd hh hn hst hstub =>
        hhoused.plain (hok.summary n src dd hh hn hst hstub)
    exact ⟨home', .step hscoped hen hkept (hhoused'.inScope htidy'), hhoused', htidy'⟩

end Runs

/-- **In a run of events that leave no scope everything stays in scope**: what is sent on an
interface, described to a neighbor and installed. -/
theorem scope_kept {s : Instance} {heardOn : LsaRef → Option IntfId} (h : Recorded KeepsScope s heardOn) :
    ∃ home, Scoped s heardOn home ∧ InScope s heardOn home := by
  obtain ⟨home, hscoped, hhoused, htidy⟩ := h.housed
  exact ⟨home, hscoped, hhoused.inScope htidy⟩

/-! ## A router in a stub area -/

/-- The LSAs that an event brings stay in their area, and it brings neither a description nor
a request. -/
def bringsAreaLsas (s : Instance) (e : Event) : Bool :=
  match heard s e with
  | some (_, _, .lsu lsu) =>
      lsu.lsas.all fun lsa => !asWide lsa.key.lsType && lsa.key.lsType != lsaTypeOpaqueLink
  | some (_, _, .dd _) => false
  | some (_, _, .lsr _) => false
  | _ => true

/-- Area-scoped LSAs may be received at any time. -/
theorem keepsScope_of_area {s : Instance} {heardOn : LsaRef → Option IntfId} {e : Event}
    (h : bringsAreaLsas s e = true) (haging : e ≠ .aging)
    (hown : ∀ areaId lsType linkStateId body, e ≠ .originate areaId lsType linkStateId body) :
    KeepsScope s heardOn e := by
  refine ⟨fun n src' lsu hh _ lsa hlsa => ?_, fun n src' lsr hh => ?_, fun n src' dd hh => ?_,
    fun a lsType ls body heq => absurd heq (hown a lsType ls body), fun heq => absurd heq haging⟩
  all_goals rw [bringsAreaLsas, hh] at h
  · have hkey := List.all_eq_true.1 h lsa hlsa
    rw [Bool.and_eq_true, Bool.not_eq_true', bne_iff_ne] at hkey
    refine ⟨fun hw => ?_, fun htype => absurd htype hkey.2, fun htype => absurd htype hkey.2⟩
    rw [hkey.1] at hw
    cases hw
  · cases h
  · cases h

/-- A router with one end in a stub area. -/
def stubRouter : Instance :=
  Instance.init 1 (Dict.empty.set 1 { areaId := 1, stub := true, interfaces := [0] })
    (fun _ => { linkEnd .none with areaId := 1 }) (linkRouter .none).md5 (fun _ => 0) 0

/-- A packet from the router at the other end. -/
def stubPacket (pktType : Nat) (body : Except PyError Bytes) : Bytes :=
  match body with
  | .ok body => (transmitted stubRouter.md5 2 1 .none [] 0 1 pktType body).toOption.getD []
  | .error _ => []

/-- The link comes up, and a Hello is received. -/
def stubInit : Instance :=
  [Event.intfEvent 0 .ifUp,
    .receive 0 (stubPacket packetTypeHello (HelloPacket.serialize
      { networkMask := 4294967292, helloInterval := 10, options := optE, priority := 1,
        deadInterval := 40, designatedRouter := zeroAddr, backupDesignatedRouter := zeroAddr,
        neighbors := [] })) 167772162].foldl exec stubRouter

/-- An update with one LSA. -/
def stubUpdate (lsa : Bytes) : Event :=
  .receive 0 (stubPacket packetTypeLsu (.ok ([0, 0, 0, 1] ++ lsa))) 167772162

/-- An AS-external-LSA on the wire. -/
def externalLsa : Bytes :=
  [0, 1, 2, 5, 10, 0, 0, 0, 0, 0, 0, 3, 128, 0, 0, 1, 23, 154, 0, 36, 255, 0, 0, 0, 128, 0, 0, 20,
    0, 0, 0, 0, 0, 0, 0, 0]

theorem unused_stubRouter : stubRouter.Unused where
  empty := ⟨Instance.initial_init fun _ => rfl, fun _ => rfl⟩
  sent := rfl
  laid := by
    intro areaId area harea i _
    change (Dict.empty.set 1 { areaId := 1, stub := true, interfaces := [0] }).get? areaId = some area at harea
    rw [Dict.get?_set] at harea
    split at harea
    · rename_i heq
      rw [← heq]
      rfl
    · cases harea

/-- Nothing keeps AS-external-LSAs out of a stub area. -/
theorem not_scope_kept : ¬∀ s heardOn, Recorded (fun _ _ _ => True) s heardOn →
    ∃ home, Scoped s heardOn home ∧ InScope s heardOn home := by
  intro hall
  have hinit : Recorded (fun _ _ _ => True) stubInit _ :=
    .step (.step (.init unused_stubRouter) trivial trivial) trivial trivial
  obtain ⟨home, -, hs⟩ := hall _ _ (hinit.step (e := stubUpdate externalLsa) trivial trivial)
  have hinstalled := hs.installed 0 0 (by decide +kernel) (by decide +kernel) (by decide +kernel)
  have hstamp : ((exec stubInit (stubUpdate externalLsa)).heap.obj 0).installTime = some 0 := by
    decide +kernel
  rw [hstamp] at hinstalled
  cases hinstalled

/-- A Summary-LSA is installed in its area. -/
theorem scope_kept_summary : ∃ heardOn home, heardOn 0 = some 0 ∧
    (exec stubInit (stubUpdate summaryLsa)).lsdb.getAll 1 = [0] ∧
      Scoped (exec stubInit (stubUpdate summaryLsa)) heardOn home ∧
        InScope (exec stubInit (stubUpdate summaryLsa)) heardOn home := by
  have hinit : Recorded KeepsScope stubInit _ :=
    .step (.step (.init unused_stubRouter) trivial (keepsScope_of_area (by decide +kernel) nofun nofun))
      trivial (keepsScope_of_area (by decide +kernel) nofun nofun)
  have hrun := hinit.step (e := stubUpdate summaryLsa) trivial
    (keepsScope_of_area (by decide +kernel) nofun nofun)
  obtain ⟨home, hscoped, hs⟩ := scope_kept hrun
  exact ⟨_, home, by decide +kernel, by decide +kernel, hscoped, hs⟩

end Ospfd
