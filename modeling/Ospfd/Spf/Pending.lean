import Ospfd.Lsdb.Acknowledgment
import Ospfd.Lsdb.Ages
import Ospfd.Lsdb.Content
import Ospfd.Lsdb.Silence

/-!
# What changes the database, and the runs of SPF

Routes are up to date as long as each change of the content leaves an SPF run pending.

* `Accounts` — what changed the content left a run pending.
* `OwnArrives`, `OriginatesNew`, `AgesQuietly` — the changes that `schedule_spf` does not follow.
* `processReceivedLsa_accounts`, `receiveLsu_accounts` — an update accounts for the rest.
* `Heralded`, `exec_accounts` — **so does every event without such a change**.
* `SinceSpf`, `changes_pending` — a run with the states since the last SPF run.
-/

namespace Ospfd

/-! ## The age of a received LSA -/

/-- An LSA that was installed at `now`, at MaxAge just when `p`. -/
structure Lsa.InstalledAt (lsa : Lsa) (now : Time) (p : Prop) : Prop where
  time : lsa.installTime = some now
  installedAge : maxAge ≤ lsa.installedAge ↔ p
  lsAge : maxAge ≤ lsa.header.lsAge ↔ p

section Installed

variable {s u : Instance} {areaId : IPv4Address} {r : LsaRef}

/-- Serialized at that time, it stays at the age it has. -/
theorem Lsa.InstalledAt.serialize {lsa : Lsa} {now : Time} {p : Prop} (h : lsa.InstalledAt now p) :
    (lsa.serialize now).2.InstalledAt now p := by
  obtain ⟨htime, hinstalled⟩ := Lsa.serialize_installTime lsa now
  have hage : maxAge ≤ min (lsa.currentAge now) maxAge ↔ p := by
    rw [← h.installedAge, Lsa.currentAge, h.time]
    simp only [Nat.sub_self, Nat.zero_div, Nat.add_zero, le_min_iff, le_refl, and_true]
  refine ⟨htime.trans h.time, by rw [hinstalled]; exact h.installedAge, ?_⟩
  rw [Lsa.serialize]
  rcases lsa.bodyBytes with _ | body
  · exact h.lsAge
  · dsimp only
    split
    · exact hage
    · split
      · exact hage
      · exact hage

theorem installedAt_installed (h : (s.lsdb.decision s.heap s.now areaId (s.heap.obj r)).1 = true) :
    ((s.installed areaId r).heap.obj r).InstalledAt s.now (maxAge ≤ (s.heap.obj r).header.lsAge) := by
  have hobj : (s.installed areaId r).heap.obj r = (s.heap.obj r).markInstalled s.now := by
    rw [Instance.installed]
    dsimp only
    rw [LinkStateDatabase.obj_install, if_pos ⟨by rw [LinkStateDatabase.install_answer, h], rfl⟩]
  rw [hobj]
  exact ⟨rfl, Iff.rfl, Iff.rfl⟩

/-- Flooding an LSA that was just installed leaves it at the age it has. -/
theorem floodLsa_installedAt {p : Prop} (hr : r < s.heap.next) (h : (s.heap.obj r).InstalledAt s.now p)
    (areaId : IPv4Address) (recvIntf : Option IntfId) :
    ((floodLsa r areaId recvIntf s).2.heap.obj r).InstalledAt s.now p := by
  have hall := Lts.Moves.invariant
    (I := fun u : Instance => u.now = s.now ∧ r < u.heap.next ∧ (u.heap.obj r).InstalledAt s.now p)
    ?_ (floodLsa_within r areaId recvIntf s) ⟨rfl, hr, h⟩
  · exact hall.2.2
  · rintro l u v hl hm ⟨hnow, hlt, hu⟩
    refine ⟨(move_sameStore hl hm).now.trans hnow, lt_of_lt_of_le hlt (move_grows hm).next, ?_⟩
    refine move_obj (P := fun lsa => lsa.InstalledAt s.now p) (fun lsa h => ?_) (fun a heq => ?_) hm hlt hu
    · rw [hnow]
      exact h.serialize
    · rw [heq] at hl
      cases hl

end Installed

/-! ## LSAs of this router, as others send them -/

/-- What is left under the key of an LSA of this router that was installed on reception: nothing,
if it was to be flushed. -/
def Lsa.leftover (lsa : Lsa) : Option (Option LsaBody) :=
  if maxAge ≤ lsa.header.lsAge then none else some lsa.body

/-- An instance of an LSA of this router is received and installed, and leaves another body under
its key than there was, or none. -/
structure Instance.OwnArrives (s : Instance) (areaId : IPv4Address) (lsa : Lsa) : Prop where
  own : s.lsdb.isSelfOriginated lsa = true
  installed : verdict s areaId lsa = .installed
  content : s.content areaId lsa.key ≠ lsa.leftover

section Received

variable {s u : Instance} {n : NbrRef} {areaId : IPv4Address} {r : LsaRef}

/-- **An LSA of this router** that leaves the body that was there. -/
theorem installed_own_unaltered (hcan : s.CanSend r)
    (hdec : (s.lsdb.decision s.heap s.now areaId (s.heap.obj r)).1 = true)
    (hown : s.lsdb.isSelfOriginated (s.heap.obj r) = true)
    (h : s.content areaId (s.heap.obj r).key = (s.heap.obj r).leftover) :
    Unaltered s ((do
      floodLsa r areaId (some n.intf)
      afterInstall r n areaId) (s.installed areaId r)).2 := by
  intro hs
  have hinstall : move (.install areaId r) s (s.installed areaId r) := rfl
  have hinst := sane_installed hs areaId hcan.1
  obtain ⟨u, hflood, hu⟩ := floodLsa_returns (move_canSend hinstall hcan) areaId (some n.intf)
  have hflooded := floodLsa_unaltered r areaId (some n.intf) (s.installed areaId r) hinst
  have hage := floodLsa_installedAt (move_canSend hinstall hcan).1 (installedAt_installed hdec) areaId
    (some n.intf)
  rw [hflood.final_eq] at hflooded hage
  have hgrows := (move_grows hinstall).trans hflooded.heap
  have hsame := hgrows.same r hcan.1
  have hself : u.lsdb.isSelfOriginated (u.heap.obj r) = true := by
    rw [isSelfOriginated_flooded hcan.1 hflood]
    exact of_decide_eq_true hown
  rw [Eff.bind_apply_ok hflood, afterInstall, Eff.get_bind_apply, if_pos hself]
  rw [Lsa.leftover] at h
  by_cases hmax : maxAge ≤ (s.heap.obj r).header.lsAge
  · -- what was installed is removed again, and nothing was there
    rw [if_pos (hage.lsAge.2 hmax), hsame.key]
    rw [if_pos hmax] at h
    refine ⟨move_sane (l := .remove areaId _) (by rintro a k ⟨⟩) rfl hflooded.sane, hgrows, ?_⟩
    funext a k
    rw [content_removed, hflooded.content, content_installed hs hcan.1]
    split
    · rename_i hplace
      exact (h.symm.trans (content_of_samePlace hplace).symm)
    · rename_i hplace
      exact if_neg fun hboth => hplace hboth.2
  · -- what is installed has the body that was there
    rw [if_neg (mt hage.lsAge.1 hmax)]
    rw [if_neg hmax] at h
    have hsaid : SameContent s u :=
      trans_of Unaltered (installed_unaltered hcan.1 fun _ => h) (fun _ => hflooded) hs
    refine hsaid.trans (refresh_unaltered ?_ hsaid.sane)
    rw [hsaid.content, hsame.key, hsame.body]
    exact h

/-- **An LSA of another router** leaves an SPF run pending. -/
theorem installed_foreign_pending (hcan : s.CanSend r)
    (hown : ¬s.lsdb.isSelfOriginated (s.heap.obj r) = true) :
    ((do
      floodLsa r areaId (some n.intf)
      afterInstall r n areaId) (s.installed areaId r)).2.spfTimer ≠ none := by
  have hinstall : move (.install areaId r) s (s.installed areaId r) := rfl
  obtain ⟨u, hflood, hu⟩ := floodLsa_returns (move_canSend hinstall hcan) areaId (some n.intf)
  have hself : ¬u.lsdb.isSelfOriginated (u.heap.obj r) = true := by
    rw [isSelfOriginated_flooded hcan.1 hflood]
    exact mt decide_eq_true hown
  obtain ⟨v, hack⟩ := acknowledge_returns hu.2.header n
  rw [Eff.bind_apply_ok hflood, afterInstall, Eff.get_bind_apply, if_neg hself, Eff.bind_apply_ok hack,
    scheduleSpf, Eff.modify_apply]
  split
  · rename_i htimer
    exact fun hno => absurd (htimer.symm.trans hno) (Option.some_ne_none _)
  · rintro ⟨⟩

end Received

/-! ## Accounting for changes -/

/-- A run of SPF that is pending stays pending. -/
def KeepsSpf (s t : Instance) : Prop := ∀ time, s.spfTimer = some time → t.spfTimer = some time

instance : Std.Refl KeepsSpf := ⟨fun _ _ => id⟩

instance : IsTrans Instance KeepsSpf := ⟨fun _ _ _ h h' time ht => h' time (h time ht)⟩

/-- What changed the content left a run of SPF pending. -/
structure Accounts (s t : Instance) : Prop where
  keeps : KeepsSpf s t
  sane : KeepsSane s t
  content : s.Sane → t.spfTimer = none → t.content = s.content

section Accounts

variable {s t u : Instance}

/-- A run is pending later when one is pending now. -/
theorem KeepsSpf.eq_none (h : KeepsSpf s t) (ht : t.spfTimer = none) : s.spfTimer = none := by
  rcases hs : s.spfTimer with _ | time
  · rfl
  · exact absurd ((h time hs).symm.trans ht) (Option.some_ne_none _)

instance : Std.Refl Accounts := ⟨fun s => ⟨refl_of KeepsSpf s, refl_of KeepsSane s, fun _ _ => rfl⟩⟩

instance : IsTrans Instance Accounts := ⟨fun _ _ _ h h' => by
  refine ⟨trans_of KeepsSpf h.keeps h'.keeps, trans_of KeepsSane h.sane h'.sane, fun hs hnone => ?_⟩
  exact (h'.content (h.sane hs) hnone).trans (h.content hs (h'.keeps.eq_none hnone))⟩

theorem Accounts.of_unaltered (hk : KeepsSpf s t) (h : Unaltered s t) : Accounts s t :=
  ⟨hk, fun hs => (h hs).sane, fun hs _ => (h hs).content⟩

/-- What is scheduled stays scheduled, whatever is done but a run of SPF. -/
theorem keepsSpf_maintains : Maintains (fun _ => True) (fun _ => True) KeepsSpf :=
  .of_postpones fun _ _ h => h.spf

end Accounts

/-! ## Updates -/

section Updates

variable {s : Instance} {n : NbrRef} {areaId : IPv4Address} {r : LsaRef}

theorem receivedSame_unaltered (r : LsaRef) (n : NbrRef) (s : Instance) :
    Unaltered s (receivedSame r n s).2 := by
  rw [receivedSame, Eff.get_bind_apply, modifyNbr_bind_apply]
  by_cases hmulti : (s.intf n.intf).intfType.isMultiAccess = true
  · rw [Eff.when_pos hmulti]
    exact .of_same rfl rfl (.refl _)
  · rw [Eff.when_neg hmulti]
    exact .of_same rfl rfl (.refl _)

/-- **One received LSA**, unless it is one of this router's that leaves another content. -/
theorem processReceivedLsa_accounts (n : NbrRef) (hcan : s.CanSend r)
    (h : s.spfTimer = none → ¬s.OwnArrives areaId (s.heap.obj r)) :
    Accounts s (processReceivedLsa r n areaId s).2 := by
  have hkeeps : KeepsSpf s (processReceivedLsa r n areaId s).2 :=
    keepsSpf_maintains.processReceivedLsa (fun _ => trivial) r n areaId s
  have hsane : KeepsSane s (processReceivedLsa r n areaId s).2 :=
    sane_admits.toCarries.handles.processReceivedLsa n fun _ => sane_admits.install areaId hcan.1
  refine ⟨hkeeps, hsane, fun hs hnone => ?_⟩
  have hidle := hkeeps.eq_none hnone
  rw [processReceivedLsa_eq] at hnone ⊢
  rcases hv : verdict s areaId (s.heap.obj r) with _ | _ | _ | _ | e
  case installed =>
    have hdec := decision_of_installed hv
    rw [hv] at hnone
    dsimp only at hnone ⊢
    by_cases hown : s.lsdb.isSelfOriginated (s.heap.obj r) = true
    · refine (installed_own_unaltered hcan hdec hown ?_ hs).content
      by_contra hne
      exact h hidle ⟨hown, hv, hne⟩
    · exact absurd hnone (installed_foreign_pending hcan hown)
  case unknown => rfl
  case refused => rfl
  case same => exact (receivedSame_unaltered r n s hs).content
  case older =>
    have hsend : Moves Floods s (sendLsUpdate n [e] s).2 :=
      sendLsUpdate_within .quiet n (fun k _ => .write k) s
    exact (Unaltered.of_moves (fun _ => Floods.unfiled) hsend hs).content

/-- No LSA of an update is one of this router's that leaves another content, in the state in which its
turn comes, unless a run of SPF is pending then. -/
def ReceivesQuietly (s : Instance) (n : NbrRef) (lsu : LsuPacket) : Prop :=
  ∀ rs u, newLsas lsu.lsas s = (.ok rs, u) →
    Eff.Along (fun r => processReceivedLsa r n (s.intf n.intf).areaId)
      (fun r v => v.spfTimer = none → ¬v.OwnArrives (s.intf n.intf).areaId (v.heap.obj r)) rs u

/-- **An update** of LSAs that can be sent on. -/
theorem receiveLsu_accounts {lsu : LsuPacket} (hsend : ∀ lsa ∈ lsu.lsas, lsa.Sendable)
    (h : ReceivesQuietly s n lsu) : Accounts s (receiveLsu n lsu s).2 := by
  obtain ⟨rs, heap, hrun, hgrows, hobjs, hrs, -⟩ := newLsas_returns lsu.lsas s
  have hnew : Accounts s { s with heap } := .of_unaltered (fun _ => id) (.of_same rfl rfl hgrows)
  have hcan : ∀ r ∈ rs, Instance.CanSend { s with heap } r := fun r hr =>
    ⟨(hrs r hr).2, hsend _ (hobjs ▸ List.mem_map_of_mem hr)⟩
  have hloop := (h rs _ hrun).forEach_final (I := fun v => Accounts s v ∧ ∀ r ∈ rs, v.CanSend r)
    ⟨hnew, hcan⟩ ?_
  · rw [receiveLsu, Eff.get_bind_apply, Eff.bind_apply_ok hrun]
    refine Eff.bind_final (P := Accounts s) hloop.1 fun _ _ => trans_of Accounts hloop.1 ?_
    refine .of_unaltered (keepsSpf_maintains.toConducts.processLsUpdate (fun _ _ => trivial) n _ _) ?_
    refine .of_moves (fun l hl => ?_) (processLsUpdate_moves n _ _)
    rcases hl with rfl | rfl
    all_goals constructor <;> rintro a k ⟨⟩
  · rintro r hr v hquiet ⟨hv, hvcan⟩
    refine ⟨trans_of Accounts hv (processReceivedLsa_accounts n (hvcan r hr) hquiet), fun k hk => ?_⟩
    exact (processReceivedLsa_moves r n _ (List.mem_singleton_self _)).canSend (hvcan k hk)

/-- Among LSAs of other routers there is none of this router's. -/
theorem ReceivesQuietly.of_foreign {lsu : LsuPacket} (hs : s.Sane)
    (h : ∀ lsa ∈ lsu.lsas, lsa.header.advertisingRouter ≠ s.routerId) : ReceivesQuietly s n lsu := by
  intro rs u hrun
  obtain ⟨rs', heap, hrun', hgrows, hobjs, hrs, -⟩ := newLsas_returns lsu.lsas s
  rw [hrun', Prod.mk.injEq, Except.ok.injEq] at hrun
  obtain ⟨rfl, rfl⟩ := hrun
  refine Eff.Along.of_invariant (I := fun v : Instance => v.Sane ∧ v.routerId = s.routerId ∧
    ∀ r ∈ rs', r < v.heap.next ∧ (v.heap.obj r).key.advertisingRouter ≠ s.routerId) ?_ ?_ ?_
  · exact ⟨⟨hs.stored.grow hgrows, hs.owner⟩, rfl, fun r hr =>
      ⟨(hrs r hr).2, h _ (hobjs ▸ List.mem_map_of_mem hr)⟩⟩
  · rintro r hr v ⟨hv, hid, hvrs⟩ - ⟨hown, -, -⟩
    rw [LinkStateDatabase.isSelfOriginated, decide_eq_true_eq, hv.owner, hid] at hown
    exact (hvrs r hr).2 hown
  · rintro r hr v ⟨hv, hid, hvrs⟩
    have hmoves := processReceivedLsa_moves (s := v) r n (s.intf n.intf).areaId (List.mem_singleton_self _)
    refine ⟨?_, ?_, fun k hk => ?_⟩
    · exact sane_admits.toCarries.handles.processReceivedLsa n
        (fun _ => sane_admits.install _ (hvrs r hr).1) hv
    · exact Lts.Moves.invariant (I := fun w : Instance => w.routerId = s.routerId)
        (fun _ _ _ _ hm hw => (move_framed hm).routerId.trans hw) hmoves hid
    · refine ⟨lt_of_lt_of_le (hvrs k hk).1 hmoves.grows.next, ?_⟩
      rw [(hmoves.grows.same k (hvrs k hk).1).key]
      exact (hvrs k hk).2

end Updates

/-! ## Events -/

/-- What an event originates, if anything: area, type, link state ID and body. -/
def Event.originates (s : Instance) : Event → Option (IPv4Address × Nat × IPv4Address × LsaBody)
  | .routerLsa areaId => some (areaId, lsaTypeRouter, s.routerId, .router (routerLsaBody s areaId))
  | .networkLsa i =>
      if (s.intf i).state ≠ .dr ∨ s.fullNeighbors i = [] then none
      else some ((s.intf i).areaId, lsaTypeNetwork, (s.intf i).dr, .network (networkLsaBody s i))
  | .originate areaId lsType linkStateId body => some (areaId, lsType, linkStateId, body)
  | _ => none

/-- An origination is due, and its LSA would be installed with another body than the one that is
stored. -/
def Instance.OriginatesNew (s : Instance) (areaId : IPv4Address) (lsType : Nat)
    (linkStateId : IPv4Address) (body : LsaBody) : Prop :=
  minLsInterval ≤ s.now - lastOriginationOf s ⟨lsType, linkStateId, s.routerId⟩ ∧
    ∃ seqNum, chooseSeqNum s areaId ⟨lsType, linkStateId, s.routerId⟩ = some seqNum ∧
      s.Alters areaId (draftOf s lsType linkStateId (some body) seqNum)

/-- While no run of SPF is pending, this router originates nothing new, flushes no LSA of another
router, and receives none of its own that leaves another content. -/
structure Heralded (s : Instance) (e : Event) : Prop where
  originates : s.spfTimer = none → ∀ areaId lsType linkStateId body,
    e.originates s = some (areaId, lsType, linkStateId, body) →
      ¬s.OriginatesNew areaId lsType linkStateId body
  ages : s.spfTimer = none → e = .aging → AgesQuietly s
  receives : ∀ n src lsu, heard s e = some (n, src, .lsu lsu) →
    n.routerId ∈ (s.intf n.intf).neighbors → ReceivesQuietly s n lsu

section Events

variable {s : Instance} {e : Event}

theorem originate_quietly {areaId : IPv4Address} {lsType : Nat} {linkStateId : IPv4Address} {body : LsaBody}
    (h : ¬s.OriginatesNew areaId lsType linkStateId body) :
    Unaltered s (originate areaId lsType linkStateId (some body) none s).2 :=
  originate_unaltered fun hdue seqNum hseq halt => h ⟨hdue, seqNum, hseq, halt⟩

theorem originateRouterLsa_quietly {areaId : IPv4Address} (h : ∀ a lsType linkStateId body,
    (Event.routerLsa areaId).originates s = some (a, lsType, linkStateId, body) →
      ¬s.OriginatesNew a lsType linkStateId body) : Unaltered s (originateRouterLsa areaId s).2 :=
  originate_quietly (h _ _ _ _ rfl)

theorem originateNetworkLsa_quietly {i : IntfId} (h : ∀ a lsType linkStateId body,
    (Event.networkLsa i).originates s = some (a, lsType, linkStateId, body) →
      ¬s.OriginatesNew a lsType linkStateId body) : Unaltered s (originateNetworkLsa i s).2 := by
  rw [originateNetworkLsa, Eff.get_bind_apply, Eff.ite_apply]
  split
  · exact refl_of Unaltered s
  · rename_i hdr
    exact originate_quietly (h _ _ _ _ (if_neg hdr))

/-- An event that neither floods nor originates. -/
theorem exec_idle_unaltered (hen : e.Enabled s) (hf : ¬e.MayFlood s) : Unaltered s (exec s e) := by
  have hid : (exec s e).routerId = s.routerId :=
    Lts.Moves.invariant (I := fun u : Instance => u.routerId = s.routerId)
      (fun _ _ _ _ hm hu => (move_framed hm).routerId.trans hu) (exec_moves hen) rfl
  by_cases hlsr : ∃ n src lsr, heard s e = some (n, src, .lsr lsr)
  · obtain ⟨n, src, lsr, hh⟩ := hlsr
    refine .of_moves (fun l hl => ?_) (exec_lsr hh)
    cases hl
    all_goals constructor <;> rintro a k ⟨⟩
  · have hidle := exec_idle hen hf fun n src lsr hh => hlsr ⟨n, src, lsr, hh⟩
    exact .of_same hidle.lsdb hid hidle.heap

/-- An event that neither floods nor originates changes nothing anyway. -/
theorem Heralded.of_not_mayFlood (hf : ¬e.MayFlood s) : Heralded s e where
  originates := by
    intro _ areaId lsType linkStateId body he
    cases e with
    | routerLsa a => exact absurd trivial hf
    | networkLsa i => exact absurd trivial hf
    | originate a lsType' linkStateId' body' => exact absurd trivial hf
    | _ => cases he
  ages := by
    rintro _ rfl
    exact absurd trivial hf
  receives := by
    intro n src lsu hh
    refine absurd ?_ hf
    cases e with
    | receive i data src' => exact ⟨n, src, lsu, hh⟩
    | _ => cases hh

/-- An update with LSAs of other routers. -/
theorem Heralded.of_foreign {i : IntfId} {data : Bytes} {src : IPv4Address} (hs : s.Sane)
    (h : ∀ n src' lsu, heard s (.receive i data src) = some (n, src', .lsu lsu) →
      ∀ lsa ∈ lsu.lsas, lsa.header.advertisingRouter ≠ s.routerId) : Heralded s (.receive i data src) where
  originates := by
    rintro _ areaId lsType linkStateId body ⟨⟩
  ages := by
    rintro _ ⟨⟩
  receives := fun n src' lsu hh _ => .of_foreign hs (h n src' lsu hh)

/-- The LSAs of an update that is heard can be sent on. -/
theorem sendable_of_heard {n : NbrRef} {src : IPv4Address} {lsu : LsuPacket}
    (h : heard s e = some (n, src, .lsu lsu)) : ∀ lsa ∈ lsu.lsas, lsa.Sendable := by
  intro lsa hlsa
  obtain ⟨pktType, body, hlen, hdec⟩ := decoded_of_heard h
  obtain ⟨pos, consumed, hpos, hd⟩ := LsuPacket.decoded_of_deserialize (decodePacket_lsu hdec) lsa hlsa
  exact Lsa.sendable_of_deserialize hpos hlen hd

/-- **Every event** without such a change accounts for the others; a run of SPF is none. -/
theorem exec_accounts (hen : e.Enabled s) (hspf : e ≠ .spf) (h : Heralded s e) :
    Accounts s (exec s e) := by
  have hfired : KeepsSpf s (e.fired s) := by
    cases e with
    | spf => exact absurd rfl hspf
    | _ => exact fun _ => id
  have hkeeps : KeepsSpf s (exec s e) :=
    keepsSpf_maintains.exec (fun _ => trivial) hfired
      (fun i _ => (sendHello_postpones i).mono fun _ _ hp => hp.spf) fun _ _ _ _ _ _ => trivial
  refine ⟨hkeeps, exec_sane hen, fun hs hnone => ?_⟩
  have hidle := hkeeps.eq_none hnone
  by_cases hf : e.MayFlood s
  · cases e with
    | routerLsa areaId =>
      rw [exec_routerLsa]
      exact (originateRouterLsa_quietly (s := (Event.routerLsa areaId).fired s) (h.originates hidle)
        ⟨hs.stored, hs.owner⟩).content
    | networkLsa i =>
      rw [exec_networkLsa]
      exact (originateNetworkLsa_quietly (s := (Event.networkLsa i).fired s) (h.originates hidle)
        ⟨hs.stored, hs.owner⟩).content
    | aging => exact (checkAges_unaltered (h.ages hidle rfl) hs).content
    | originate areaId lsType linkStateId body =>
      rw [exec_originate]
      exact (originate_quietly (h.originates hidle areaId lsType linkStateId body rfl) hs).content
    | receive i data src =>
      obtain ⟨n, src', lsu, hh⟩ := hf
      rw [exec_heard hh, processPacket, forNeighbor, Eff.get_bind_apply] at hnone ⊢
      by_cases hn : n.routerId ∈ (s.intf n.intf).neighbors
      · rw [Eff.when_pos hn] at hnone ⊢
        exact (receiveLsu_accounts (sendable_of_heard hh) (h.receives n src' lsu hh hn)).content hs hnone
      · rw [Eff.when_neg hn]
        rfl
    | _ =>
      obtain ⟨n, src', lsu, hh⟩ := hf
      cases hh
  · exact (exec_idle_unaltered hen hf hs).content

end Events

/-! ## Runs -/

/-- A run from an empty database, by events that satisfy a condition, with the states since the last
run of SPF, the latest first. -/
inductive SinceSpf (ok : Instance → Event → Prop) : Instance → List Instance → Prop where
  | init {s : Instance} (h : s.Empty) : SinceSpf ok s [s]
  | spf {s : Instance} {since : List Instance} (h : SinceSpf ok s since) (hen : Event.spf.Enabled s) :
      SinceSpf ok (exec s .spf) [exec s .spf]
  | step {s : Instance} {since : List Instance} {e : Event} (h : SinceSpf ok s since) (hen : e.Enabled s)
      (hspf : e ≠ .spf) (hok : ok s e) : SinceSpf ok (exec s e) (exec s e :: since)

section Runs

variable {s : Instance} {since : List Instance} {ok : Instance → Event → Prop}

theorem SinceSpf.sane (h : SinceSpf ok s since) : s.Sane := by
  induction h with
  | init h => exact ⟨.init h.2, h.1.routerId⟩
  | spf _ hen ih => exact exec_sane hen ih
  | step _ hen _ _ ih => exact exec_sane hen ih

/-- Where no run is pending, the content is what it was in every state since the last one. -/
theorem SinceSpf.content (h : SinceSpf Heralded s since) (hnone : s.spfTimer = none) :
    ∀ u ∈ since, u.content = s.content := by
  induction h with
  | init _ =>
    intro u hu
    rw [List.mem_singleton.1 hu]
  | spf _ _ _ =>
    intro u hu
    rw [List.mem_singleton.1 hu]
  | step h hen hspf hok ih =>
    have hacc := exec_accounts hen hspf hok
    have hsame := hacc.content h.sane hnone
    intro u hu
    rcases List.mem_cons.1 hu with rfl | hu
    · rfl
    · exact (ih (hacc.keeps.eq_none hnone) u hu).trans hsame.symm

end Runs

/-- The routers whose LSAs an event brings. -/
def broughtFrom (s : Instance) (e : Event) : List IPv4Address :=
  match heard s e with
  | some (_, _, .lsu lsu) => lsu.lsas.map fun lsa => lsa.header.advertisingRouter
  | _ => []

theorem heralded_of_broughtFrom {s : Instance} {i : IntfId} {data : Bytes} {src : IPv4Address} (hs : s.Sane)
    (h : s.routerId ∉ broughtFrom s (.receive i data src)) : Heralded s (.receive i data src) := by
  refine .of_foreign hs fun n src' lsu hh lsa hlsa heq => h ?_
  rw [broughtFrom, hh]
  exact List.mem_map.2 ⟨lsa, hlsa, heq⟩

theorem empty_linkRouter : (linkRouter .none).Empty := ⟨initial_linkRouter .none, fun _ => rfl⟩

end Ospfd
