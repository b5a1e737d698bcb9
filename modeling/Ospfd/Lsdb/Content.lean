import Ospfd.Lsdb.Bounds

/-!
# The content of the database

Routes are computed from the bodies of the stored LSAs.

* `Instance.content` — the body under each key, area by area.
* `Unaltered` — the database says what it said before.
* `content_installed`, `content_removed` — what becomes of the content.
* `sane_admits`, `exec_sane` — the database stays sane.
* `Instance.Alters` — an LSA of this router that would be installed, with another body.
* `originate_unaltered`, `refreshLsa_unaltered` — originations that change nothing.
* `flushMaxageLsa_unaltered`, `checkAges_unaltered` — **an aging pass that removes nothing**.
-/

namespace Ospfd

/-- The body under each key, area by area; AS-wide keys are the same in every area. -/
abbrev Content : Type := IPv4Address → LsaKey → Option (Option LsaBody)

/-- What the database says. -/
def Instance.content (s : Instance) : Content := fun areaId key =>
  (s.lsdb.lookup areaId key).map fun r => (s.heap.obj r).body

/-- The database came about by its own operations, and is that of this router. -/
structure Instance.Sane (s : Instance) : Prop where
  stored : StoreRun s.lsdb s.heap
  owner : s.lsdb.routerId = s.routerId

/-- The database says what it said before. -/
structure SameContent (s t : Instance) : Prop where
  sane : t.Sane
  heap : s.heap.Grows t.heap
  content : t.content = s.content

theorem SameContent.trans {s t u : Instance} (h : SameContent s t) (h' : SameContent t u) : SameContent s u :=
  ⟨h'.sane, h.heap.trans h'.heap, h'.content.trans h.content⟩

/-- A sane database goes on saying what it said. -/
def Unaltered (s t : Instance) : Prop := s.Sane → SameContent s t

instance : Std.Refl Unaltered := ⟨fun _ h => ⟨h, .refl _, rfl⟩⟩

instance : IsTrans Instance Unaltered := ⟨fun _ _ _ h h' hs => (h hs).trans (h' (h hs).sane)⟩

section Content

variable {s t : Instance} {areaId : IPv4Address} {key : LsaKey} {r : LsaRef}

/-- A stored LSA is there, under its own key. -/
theorem Instance.Sane.of_lookup (h : s.Sane) (hr : s.lsdb.lookup areaId key = some r) :
    r < s.heap.next ∧ (s.heap.obj r).key = key := by
  rw [LinkStateDatabase.lookup] at hr
  split at hr
  · exact ⟨(h.stored.shelved.external key r hr).1, (h.stored.shelved.external key r hr).2.1⟩
  · exact ⟨(h.stored.shelved.area areaId key r hr).1, (h.stored.shelved.area areaId key r hr).2.1⟩

theorem content_of_lookup (hr : s.lsdb.lookup areaId key = some r) :
    s.content areaId key = some (s.heap.obj r).body := by
  rw [Instance.content, hr]
  rfl

/-- What leaves the database and the bodies alone. -/
theorem Unaltered.of_same (hlsdb : t.lsdb = s.lsdb) (hid : t.routerId = s.routerId)
    (hg : s.heap.Grows t.heap) : Unaltered s t := by
  intro hs
  refine ⟨⟨?_, ?_⟩, hg, ?_⟩
  · rw [hlsdb]
    exact hs.stored.grow hg
  · rw [hlsdb, hid]
    exact hs.owner
  · funext areaId key
    rw [Instance.content, Instance.content, hlsdb]
    rcases hr : s.lsdb.lookup areaId key with _ | r
    · rfl
    · exact congrArg some (hg.same r (hs.of_lookup hr).1).body

/-- Moves that leave the database alone. -/
theorem Unaltered.of_moves {A : Label → Prop} (hA : ∀ l, A l → Unfiled l) (hm : Moves A s t) :
    Unaltered s t :=
  Lts.Moves.relates (fun l _ _ hl hm =>
    .of_same (move_lsdb (hA l hl) hm) (move_framed hm).routerId (move_grows hm)) hm

theorem Floods.unfiled {l : Label} (h : Floods l) : Unfiled l := by
  constructor
  all_goals
    rintro a k rfl
    cases h

/-- **Flooding** leaves the content alone. -/
theorem floodLsa_unaltered (r : LsaRef) (areaId : IPv4Address) (recvIntf : Option IntfId) :
    Eff.Within Unaltered (floodLsa r areaId recvIntf) :=
  (floodLsa_within r areaId recvIntf).mono fun _ _ => .of_moves fun _ => Floods.unfiled

/-- What the database says at one place. -/
theorem content_of_samePlace {a a' : IPv4Address} {k k' : LsaKey}
    (h : LinkStateDatabase.SamePlace a k a' k') : s.content a' k' = s.content a k := by
  obtain ⟨rfl, hw | rfl⟩ := h
  · rw [Instance.content, Instance.content, LinkStateDatabase.lookup, LinkStateDatabase.lookup, if_pos hw,
      if_pos hw]
  · rfl

/-- **What an installation makes of the content.** -/
theorem content_installed (hs : s.Sane) (hr : r < s.heap.next) (a : IPv4Address) (k : LsaKey) :
    (s.installed areaId r).content a k =
      if (s.lsdb.decision s.heap s.now areaId (s.heap.obj r)).1 = true ∧
          LinkStateDatabase.SamePlace areaId (s.heap.obj r).key a k
      then some (s.heap.obj r).body else s.content a k := by
  have hg : s.heap.Grows (s.installed areaId r).heap := move_grows (l := .install areaId r) rfl
  rw [Instance.content]
  change ((s.lsdb.install s.heap s.now areaId r).2.1.lookup a k).map _ = _
  rw [LinkStateDatabase.lookup_install, LinkStateDatabase.install_answer]
  split
  · exact congrArg some (hg.same r hr).body
  · rw [Instance.content]
    rcases hk : s.lsdb.lookup a k with _ | k'
    · rfl
    · exact congrArg some (hg.same k' (hs.of_lookup hk).1).body

/-- What a removal makes of it. -/
theorem content_removed (s : Instance) (areaId a : IPv4Address) (key k : LsaKey) :
    (removeLsa areaId key s).2.content a k =
      if LinkStateDatabase.SamePlace areaId key a k then none else s.content a k := by
  change ((s.lsdb.remove areaId key).lookup a k).map _ = _
  rw [LinkStateDatabase.lookup_remove]
  split
  · rfl
  · rfl

/-! ### A database that stays sane -/

/-- A sane database stays sane. -/
def KeepsSane (s t : Instance) : Prop := s.Sane → t.Sane

instance : Std.Refl KeepsSane := ⟨fun _ => id⟩

instance : IsTrans Instance KeepsSane := ⟨fun _ _ _ h h' hs => h' (h hs)⟩

theorem sane_installed (hs : s.Sane) (areaId : IPv4Address) (hr : r < s.heap.next) :
    (s.installed areaId r).Sane :=
  ⟨hs.stored.install s.now areaId hr, (LinkStateDatabase.routerId_install ..).trans hs.owner⟩

/-- Moves that install nothing. -/
theorem move_sane {l : Label} (hl : NoInstall l) (hm : move l s t) : KeepsSane s t := by
  intro hs
  have hid : t.routerId = s.routerId := (move_framed hm).routerId
  refine ⟨move_storeRun hl hm hs.stored, ?_⟩
  by_cases hrem : ∃ a key, l = .remove a key
  · obtain ⟨a, key, rfl⟩ := hrem
    obtain rfl : t = _ := hm
    exact (LinkStateDatabase.routerId_remove ..).trans hs.owner
  · rw [hid, move_lsdb ⟨hl, fun a key heq => hrem ⟨a, key, heq⟩⟩ hm]
    exact hs.owner

/-- **Whatever is installed**, if it is an object. -/
theorem sane_admits : Admits KeepsSane fun r s => r < s.heap.next where
  move := move_sane
  draft := by
    intro s lsType linkStateId body seqNum b areaId _ hs
    have hdrafted : (s.drafted (draftOf s lsType linkStateId body seqNum)).Sane :=
      ⟨hs.stored.grow (drafted_moves s _).grows, hs.owner⟩
    exact sane_installed hdrafted areaId (Nat.lt_succ_self _)
  lasts := fun hm hr => lt_of_lt_of_le hr (move_grows hm).next
  install := fun areaId hr hs => sane_installed hs areaId hr

/-- **Every event** keeps the database sane. -/
theorem exec_sane {e : Event} (hen : e.Enabled s) : KeepsSane s (exec s e) := by
  refine sane_admits.exec hen fun n src lsu _ rs u hrun r hr => ?_
  obtain ⟨rs', heap, hrun', -, -, hrs, -⟩ := newLsas_returns lsu.lsas s
  rw [hrun', Prod.mk.injEq, Except.ok.injEq] at hrun
  obtain ⟨rfl, rfl⟩ := hrun
  exact (hrs r hr).2

/-- **An installation** with the body that is stored already. -/
theorem installed_unaltered (hr : r < s.heap.next)
    (hbody : (s.lsdb.decision s.heap s.now areaId (s.heap.obj r)).1 = true →
      s.content areaId (s.heap.obj r).key = some (s.heap.obj r).body) :
    Unaltered s (s.installed areaId r) := by
  intro hs
  refine ⟨sane_installed hs areaId hr, move_grows (l := .install areaId r) rfl, ?_⟩
  funext a k
  rw [content_installed hs hr]
  split
  · rename_i hinst
    rw [content_of_samePlace hinst.2]
    exact (hbody hinst.1).symm
  · rfl

end Content

/-! ## Origination -/

/-- An LSA of this router that can be encoded and would be installed, with another body than the
one stored under its key. -/
def Instance.Alters (s : Instance) (areaId : IPv4Address) (lsa : Lsa) : Prop :=
  (∃ bytes, (lsa.serialize s.now).1 = .ok bytes) ∧
    admission s areaId (lsa.serialize s.now).2 = .installed ∧ s.content areaId lsa.key ≠ some lsa.body

section Originate

variable {s : Instance} {areaId : IPv4Address} {lsa : Lsa}

/-- `install` finds the stored objects as they were before the draft. -/
theorem decision_drafted (h : s.Sane) (lsa x : Lsa) :
    s.lsdb.decision (s.drafted lsa).heap s.now areaId x = s.lsdb.decision s.heap s.now areaId x := by
  rw [LinkStateDatabase.decision, LinkStateDatabase.decision, LinkStateDatabase.get?_partitionFor]
  rcases hk : s.lsdb.lookup areaId x.key with _ | old
  · rfl
  · have hne : old ≠ s.heap.next := Nat.ne_of_lt (h.of_lookup hk).1
    have hobj : (s.drafted lsa).heap.obj old = s.heap.obj old := by
      rw [Instance.drafted]
      dsimp only
      rw [LsaHeap.obj_set_of_ne _ hne]
      exact Function.update_of_ne hne ..
    dsimp only
    rw [hobj]

/-- A draft is not stored yet. -/
theorem drafted_unaltered (s : Instance) (lsa : Lsa) : Unaltered s (s.drafted lsa) :=
  .of_same rfl rfl (drafted_moves s lsa).grows

/-- **A draft that is installed**, with the body that is stored already. -/
theorem draft_installed_unaltered (h : ¬s.Alters areaId lsa)
    (hser : ∃ bytes, (lsa.serialize s.now).1 = .ok bytes) :
    Unaltered s ((s.drafted lsa).installed areaId s.heap.next) := by
  intro hs
  obtain ⟨hd, -, hcontent⟩ := drafted_unaltered s lsa hs
  have hsame := Lsa.serialize_sameInstance lsa s.now
  have hself := s.obj_drafted_self lsa
  refine trans_of Unaltered (drafted_unaltered s lsa) (installed_unaltered (Nat.lt_succ_self _) fun hdec => ?_) hs
  rw [hself] at hdec ⊢
  rw [hsame.key, hsame.body, hcontent]
  by_contra hne
  refine h ⟨hser, ?_, hne⟩
  rw [admission, if_pos]
  exact (congrArg Prod.fst (decision_drafted hs lsa _)).symm.trans hdec

theorem originateWith_unaltered {lsType : Nat} {linkStateId : IPv4Address} {body : Option LsaBody}
    {seqNum : Nat} (h : ¬s.Alters areaId (draftOf s lsType linkStateId body seqNum)) :
    Unaltered s (originateWith areaId lsType linkStateId body seqNum s).2 := by
  rw [originateWith_eq areaId lsType linkStateId body seqNum s rfl, ← draftOf]
  have hdraft := drafted_unaltered s (draftOf s lsType linkStateId body seqNum)
  rcases hser : ((draftOf s lsType linkStateId body seqNum).serialize s.now).1 with e | bytes
  · exact hdraft
  · dsimp only
    split
    · refine trans_of Unaltered (trans_of Unaltered (draft_installed_unaltered h ⟨bytes, hser⟩) ?_)
        (floodLsa_unaltered _ _ _ _)
      exact .of_same (t := s.originated areaId _) rfl rfl (.refl _)
    · exact hdraft

/-- An origination that is deferred, or has no number left, or files nothing new. -/
theorem originate_unaltered {lsType : Nat} {linkStateId : IPv4Address} {body : Option LsaBody}
    (h : minLsInterval ≤ s.now - lastOriginationOf s ⟨lsType, linkStateId, s.routerId⟩ → ∀ n,
      chooseSeqNum s areaId ⟨lsType, linkStateId, s.routerId⟩ = some n →
        ¬s.Alters areaId (draftOf s lsType linkStateId body n)) :
    Unaltered s (originate areaId lsType linkStateId body none s).2 := by
  rw [originate, Eff.get_bind_apply, Eff.ite_apply]
  split
  · exact refl_of Unaltered s
  · rename_i hdue
    dsimp only
    rcases hseq : chooseSeqNum s areaId ⟨lsType, linkStateId, s.routerId⟩ with _ | n
    · exact refl_of Unaltered s
    · exact originateWith_unaltered (h (Nat.not_lt.1 hdue) n hseq)

/-- **A refresh** of an LSA whose body is the stored one. -/
theorem refreshLsa_unaltered {r : LsaRef}
    (h : s.content areaId (s.heap.obj r).key = some (s.heap.obj r).body) :
    Unaltered s (refreshLsa areaId r s).2 := by
  intro hs
  rw [refreshLsa, Eff.get_bind_apply]
  rcases hold : s.lsdb.lookup areaId (s.heap.obj r).key with _ | old
  · exact refl_of Unaltered s hs
  · dsimp only
    rw [Eff.ite_apply]
    split
    · exact refl_of Unaltered s hs
    · rename_i hown
      rcases nextSeqNum (s.heap.obj old).header.lsSequenceNumber with _ | n
      · exact refl_of Unaltered s hs
      · -- the draft has the key of the stored LSA
        have hadv : (s.heap.obj r).header.advertisingRouter = s.routerId := by
          rw [LinkStateDatabase.isSelfOriginated, decide_eq_true_eq, not_not] at hown
          rw [← hs.owner, ← hown]
          exact (congrArg LsaKey.advertisingRouter (hs.of_lookup hold).2).symm
        have hkey : ∀ n', (draftOf s (s.heap.obj r).header.lsType (s.heap.obj r).header.linkStateId
            (s.heap.obj r).body n').key = (s.heap.obj r).key := fun n' => by
          change (⟨_, _, s.routerId⟩ : LsaKey) = ⟨_, _, _⟩
          rw [← hadv]
          rfl
        have hrun : Unaltered s (originate areaId (s.heap.obj r).header.lsType
            (s.heap.obj r).header.linkStateId (s.heap.obj r).body (some n) s).2 := by
          rcases originate_cases areaId (s.heap.obj r).header.lsType (s.heap.obj r).header.linkStateId
            (s.heap.obj r).body (some n) s with hrun | ⟨n', hrun⟩
          · rw [hrun]
            exact refl_of Unaltered s
          · rw [hrun]
            refine originateWith_unaltered fun halt => halt.2.2 ?_
            rw [hkey, h]
            rfl
        exact hrun hs

end Originate

/-! ## Aging -/

/-- The flush of an LSA ends with its removal: it is flooded without an exception, and the scan for
acknowledgments finds no entry on a list of an adjacent neighbor. -/
def Flushes (s : Instance) (areaId : IPv4Address) (r : LsaRef) : Prop :=
  ∃ t, Eff.Runs (floodLsa r areaId none) s () t ∧
    ∀ area, t.areas.get? areaId = some area → rxmtPendingOn t area.interfaces = .ok false

/-- The expired LSAs of an area, each in the state in which its turn comes: none of another router is
flushed. -/
def ExpiresQuietly (areaId : IPv4Address) (s : Instance) : Prop :=
  Eff.Along (expireLsa areaId)
    (fun r u => u.lsdb.isSelfOriginated (u.heap.obj r) = false → ¬Flushes u areaId r)
    (s.lsdb.getMaxageLsas s.heap s.now areaId) s

/-- One area of an aging pass. -/
def ageArea (areaId : IPv4Address) : Py Unit := do
  let s ← Eff.get
  Eff.forEach (s.lsdb.getMaxageLsas s.heap s.now areaId) (expireLsa areaId)
  let s ← Eff.get
  Eff.forEach (s.lsdb.getAll areaId) (refreshIfOld areaId)

/-- An aging pass goes from area to area. -/
theorem checkAges_eq : checkAges = (do
    let s ← Eff.get
    Eff.forEach s.lsdb.areaIds ageArea) := rfl

/-- An aging pass in which no LSA of another router is flushed. -/
def AgesQuietly (s : Instance) : Prop :=
  Eff.Along ageArea (fun areaId u => ExpiresQuietly areaId u) s.lsdb.areaIds s

section Aging

variable {s : Instance} {areaId : IPv4Address} {r : LsaRef}

/-- A flush that does not end with a removal. -/
theorem flushMaxageLsa_unaltered (h : ¬Flushes s areaId r) :
    Unaltered s (flushMaxageLsa r areaId s).2 := by
  have hflood := floodLsa_unaltered r areaId none s
  rw [flushMaxageLsa, Eff.bind_apply]
  rcases hrun : floodLsa r areaId none s with ⟨e | ⟨⟩, t⟩
  · rw [hrun] at hflood
    exact hflood
  · rw [hrun] at hflood
    refine trans_of Unaltered hflood ?_
    obtain ⟨area, harea, hpending⟩ : ∃ area, t.areas.get? areaId = some area ∧
        rxmtPendingOn t area.interfaces ≠ .ok false := by
      by_contra hno
      refine h ⟨t, hrun, fun area harea => ?_⟩
      by_contra hne
      exact hno ⟨area, harea, hne⟩
    dsimp only
    rw [Eff.get_bind_apply, harea]
    dsimp only
    rw [Eff.lift_bind_apply]
    rw [rxmtPendingOn] at hpending ⊢
    split
    · rename_i hok
      split at hok
      · cases hok
      · rename_i hnone
        exact absurd (if_neg hnone) hpending
    · exact refl_of Unaltered t

/-- The LSAs that were stored in an area, while nothing is altered. -/
theorem content_of_getAll {u : Instance} (hs : s.Sane) (hr : r ∈ s.lsdb.getAll areaId)
    (h : SameContent s u) : u.content areaId (u.heap.obj r).key = some (u.heap.obj r).body := by
  obtain ⟨key, hkey⟩ := Dict.mem_values_iff.1 hr
  obtain ⟨hlt, rfl, hw⟩ := hs.stored.shelved.area areaId key r hkey
  have hsame := h.heap.same r hlt
  rw [h.content, hsame.key, hsame.body]
  exact content_of_lookup ((LinkStateDatabase.lookup_of_scoped _ _ hw).trans hkey)

theorem refresh_unaltered (h : s.content areaId (s.heap.obj r).key = some (s.heap.obj r).body) :
    Unaltered s ((do
      let _ ← refreshLsa areaId r
      pure () : Py Unit) s).2 := by
  rw [Eff.discard_final]
  exact refreshLsa_unaltered h

/-- **One area** of a quiet pass. -/
theorem ageArea_unaltered (h : ExpiresQuietly areaId s) : Unaltered s (ageArea areaId s).2 := by
  intro hs
  have hstart : SameContent s s := refl_of Unaltered s hs
  have hexpired : SameContent s
      (Eff.forEach (s.lsdb.getMaxageLsas s.heap s.now areaId) (expireLsa areaId) s).2 := by
    refine h.forEach_final hstart fun r hr u hquiet hu => ?_
    have hcontent := content_of_getAll hs (List.mem_of_mem_filter hr) hu
    refine hu.trans ?_
    rw [expireLsa, Eff.get_bind_apply]
    by_cases hown : u.lsdb.isSelfOriginated (u.heap.obj r) = true
    · rw [if_pos hown]
      exact refresh_unaltered hcontent hu.sane
    · rw [if_neg hown]
      exact flushMaxageLsa_unaltered (hquiet (by simpa using hown)) hu.sane
  rw [ageArea, Eff.get_bind_apply]
  refine Eff.bind_final (P := SameContent s) hexpired fun _ _ => ?_
  generalize (Eff.forEach (s.lsdb.getMaxageLsas s.heap s.now areaId) (expireLsa areaId) s).2 = t at hexpired
  rw [Eff.get_bind_apply]
  refine hexpired.trans (Eff.forEach_final (refl_of Unaltered t hexpired.sane) fun r hr u hu => ?_)
  have hcontent := content_of_getAll hexpired.sane hr hu
  refine hu.trans ?_
  rw [refreshIfOld, Eff.get_bind_apply]
  by_cases hold : u.lsdb.isSelfOriginated (u.heap.obj r) = true ∧
      lsRefreshTime ≤ (u.heap.obj r).currentAge u.now ∧ (u.heap.obj r).currentAge u.now < maxAge
  · rw [Eff.when_pos hold]
    exact refresh_unaltered hcontent hu.sane
  · rw [Eff.when_neg hold]
    exact refl_of Unaltered u hu.sane

/-- **A pass that flushes nothing** leaves the content alone. -/
theorem checkAges_unaltered (h : AgesQuietly s) : Unaltered s (checkAges s).2 := by
  intro hs
  rw [checkAges_eq, Eff.get_bind_apply]
  refine h.forEach_final (refl_of Unaltered s hs) fun areaId _ u hquiet hu => ?_
  exact hu.trans (ageArea_unaltered hquiet hu.sane)

end Aging
end Ospfd
