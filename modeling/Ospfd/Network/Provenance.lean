import Ospfd.Lsdb.Confined
import Ospfd.Lsdb.Content
import Ospfd.Lsdb.RouterLinks
import Ospfd.Network.Copies

/-!
# What an event provides

* `Instance.Sound` — the database is sane, every LSA is proper, and what is stored was installed.
* `Provides` — **own LSAs that are proper, and updates with LSAs that were installed**.
* `Provides.originate`, `Provides.receives`, `Provides.checkAges`, … — the procedures.
* `exec_provides` — every event that brings no update.
-/

namespace Ospfd

/-- The object is there, and was installed in the database. -/
def Instance.Marked (s : Instance) (r : LsaRef) : Prop :=
  r < s.heap.next ∧ (s.heap.obj r).installTime ≠ none

/-- What is stored was installed. -/
def Instance.Stamped (s : Instance) : Prop :=
  ∀ areaId key r, s.lsdb.lookup areaId key = some r → s.Marked r

/-- The database is sane, what is sent of an LSA can be read back, and what is stored was installed. -/
structure Instance.Sound (s : Instance) : Prop where
  sane : s.Sane
  proper : ∀ r, r < s.heap.next → (s.heap.obj r).Proper
  stamped : s.Stamped

/-- Nothing is new but own LSAs that are proper, and updates with LSAs that were installed. -/
structure Provides (s t : Instance) : Prop where
  sane : t.Sane
  heap : s.heap.Grows t.heap
  routerId : t.routerId = s.routerId
  made : ∀ r, s.heap.next ≤ r → r < t.heap.next →
    (t.heap.obj r).Proper ∧ (t.heap.obj r).header.advertisingRouter = s.routerId
  marks : ∀ r, s.Marked r → t.Marked r
  stamped : s.Stamped → t.Stamped
  sent : Sends (fun p => p.pktType = packetTypeLsu → ∃ rs, t.Wrote rs p.body ∧ ∀ r ∈ rs, t.Marked r) s t

/-- The moves that install an LSA or create one. -/
def Label.brings : Label → Bool
  | .install _ _ => true
  | .alloc => true
  | _ => false

/-- The other moves add no object. -/
theorem move_next {s t : Instance} {l : Label} (hl : l.brings = false) (hm : move l s t) :
    t.heap.next = s.heap.next := by
  cases l with
  | alloc => cases hl
  | install a r => cases hl
  | write r =>
    obtain rfl : t = _ := hm
    rfl
  | _ => rw [(move_framed hm).heap rfl]

/-! ## Marks -/

section Marks

variable {s t : Instance} {l : Label} {areaId : IPv4Address} {r : LsaRef}

/-- No move takes a mark away. -/
theorem move_marked (hm : move l s t) (h : s.Marked r) : t.Marked r :=
  ⟨lt_of_lt_of_le h.1 (move_grows hm).next, move_marks hm r h.1 h.2⟩

theorem marked_of_moves {A : Label → Prop} (hm : Moves A s t) (h : s.Marked r) : t.Marked r :=
  Lts.Moves.invariant (I := fun u : Instance => u.Marked r) (fun _ _ _ _ => move_marked) hm h

/-- Nothing is stored by the moves that bring nothing. -/
theorem move_stamped (hl : l.brings = false) (hm : move l s t) (h : s.Stamped) : t.Stamped := by
  intro a key r hr
  refine move_marked hm (h a key r ?_)
  by_cases hrem : ∃ a' key', l = .remove a' key'
  · obtain ⟨a', key', rfl⟩ := hrem
    obtain rfl : t = _ := hm
    rw [LinkStateDatabase.lookup_remove] at hr
    split at hr
    · cases hr
    · exact hr
  · have hunfiled : Unfiled l := by
      refine ⟨?_, fun a' key' heq => hrem ⟨a', key', heq⟩⟩
      rintro a' k' rfl
      cases hl
    rwa [move_lsdb hunfiled hm] at hr

/-- An LSA is marked when it is installed. -/
theorem marked_installed (hr : r < s.heap.next)
    (h : (s.lsdb.install s.heap s.now areaId r).1.1 = true) : (s.installed areaId r).Marked r := by
  constructor
  · rw [Instance.installed, LinkStateDatabase.next_install]
    exact hr
  · rw [Instance.installed, LinkStateDatabase.obj_install, if_pos ⟨h, rfl⟩]
    rintro ⟨⟩

/-- What is stored afterwards was stored before, or is the LSA that was installed. -/
theorem stamped_installed (hr : r < s.heap.next) (h : s.Stamped) : (s.installed areaId r).Stamped := by
  intro a key k hk
  rw [Instance.installed, LinkStateDatabase.lookup_install] at hk
  split at hk
  · rename_i hinst
    obtain rfl := Option.some.inj hk
    exact marked_installed hr hinst.1
  · have hm : move (.install areaId r) s (s.installed areaId r) := rfl
    exact move_marked hm (h a key k hk)

end Marks

namespace Provides

variable {s t u : Instance} {areaId : IPv4Address} {r : LsaRef}

theorem refl (hs : s.Sane) : Provides s s :=
  ⟨hs, .refl _, rfl, fun _ hr hr' => absurd hr' (Nat.not_lt.2 hr), fun _ => id, id, .refl s⟩

theorem trans (h : Provides s t) (h' : Provides t u) : Provides s u := by
  refine ⟨h'.sane, h.heap.trans h'.heap, h'.routerId.trans h.routerId, fun r hr hr' => ?_,
    fun r hr => h'.marks r (h.marks r hr), fun hs => h'.stamped (h.stamped hs),
    (h.sent.mono fun p hp htype => ?_).trans h'.sent⟩
  · by_cases hold : r < t.heap.next
    · obtain ⟨hproper, hown⟩ := h.made r hr hold
      have hsame := h'.heap.same r hold
      exact ⟨hproper.same hsame, (congrArg LsaKey.advertisingRouter hsame.key).trans hown⟩
    · rw [← h.routerId]
      exact h'.made r (Nat.not_lt.1 hold) hr'
  · obtain ⟨rs, hwrote, hmarked⟩ := hp htype
    exact ⟨rs, hwrote.later h'.heap, fun r hr => h'.marks r (hmarked r hr)⟩

theorem sound (h : Provides s t) (hs : s.Sound) : t.Sound := by
  refine ⟨h.sane, fun r hr => ?_, h.stamped hs.stamped⟩
  by_cases hold : r < s.heap.next
  · exact (hs.proper r hold).same (h.heap.same r hold)
  · exact (h.made r (Nat.not_lt.1 hold) hr).1

/-- One thing after the other. -/
theorem next (h : Provides s t) (hs : s.Sound) (h' : t.Sound → Provides t u) : Provides s u :=
  h.trans (h' (h.sound hs))

/-- Going through LSAs of which something holds, and stays so. -/
theorem forEach (hs : s.Sound) {Q : Instance → LsaRef → Prop} {rs : List LsaRef} {body : LsaRef → Py Unit}
    (hQ : ∀ {t : Instance} {r : LsaRef}, Provides s t → Q s r → Q t r) (hrs : ∀ r ∈ rs, Q s r)
    (hbody : ∀ {u : Instance} {r : LsaRef}, u.Sound → Q u r → Provides u (body r u).2) :
    Provides s (Eff.forEach rs body s).2 :=
  Eff.forEach_final (P := Provides s) (.refl hs.sane) fun r hr _ ht =>
    ht.next hs fun hu => hbody hu (hQ ht (hrs r hr))

theorem forEach_marked (hs : s.Sound) {rs : List LsaRef} (hrs : ∀ r ∈ rs, s.Marked r) {body : LsaRef → Py Unit}
    (hbody : ∀ {u : Instance} {r : LsaRef}, u.Sound → u.Marked r → Provides u (body r u).2) :
    Provides s (Eff.forEach rs body s).2 :=
  forEach hs (Q := Instance.Marked) (fun ht hr => ht.marks _ hr) hrs hbody

/-- Moves that neither install an LSA nor create one. -/
theorem of_moves {A : Label → Prop} (hA : ∀ l, A l → l.brings = false) (hs : s.Sane) (hm : Moves A s t)
    (hsent : Sends (fun p => p.pktType = packetTypeLsu → ∃ rs, t.Wrote rs p.body ∧ ∀ r ∈ rs, t.Marked r) s t) :
    Provides s t := by
  have hnext : t.heap.next = s.heap.next :=
    Lts.Moves.invariant (I := fun u : Instance => u.heap.next = s.heap.next)
      (fun l _ _ hl hm hu => (move_next (hA l hl) hm).trans hu) hm rfl
  refine ⟨?_, hm.grows, ?_, fun r hr hr' => ?_, fun _ => marked_of_moves hm, ?_, hsent⟩
  · exact Lts.Moves.relates (R := KeepsSane) (fun l _ _ hl hm => move_sane (fun a k heq => by
      have hno := hA l hl
      rw [heq] at hno
      cases hno) hm) hm hs
  · exact Lts.Moves.invariant (I := fun u : Instance => u.routerId = s.routerId)
      (fun _ _ _ _ hm hu => (move_framed hm).routerId.trans hu) hm rfl
  · rw [hnext] at hr'
    exact absurd hr' (Nat.not_lt.2 hr)
  · exact fun h => Lts.Moves.invariant (I := Instance.Stamped) (fun l _ _ hl => move_stamped (hA l hl)) hm h

/-- Moves that send updates with LSAs that were installed. -/
theorem of_tells {A : Label → Prop} (hA : ∀ l, A l → l.brings = false) (hs : s.Sane) (hm : Moves A s t)
    (ht : Tells (fun _ => False) (fun _ r => s.Marked r) s t) : Provides s t := by
  refine of_moves hA hs hm ((ht.sent (fun _ _ hr => hr.1) (by rintro _ ⟨⟩)).mono fun p hp htype => ?_)
  obtain ⟨rs, hwrote, hmarked⟩ := hp htype
  exact ⟨rs, hwrote, fun r hr => marked_of_moves hm (hmarked r hr)⟩

theorem of_quiet (hs : s.Sane) (hq : Quiet s t) (hsent : Sends (fun p => p.pktType ≠ packetTypeLsu) s t) :
    Provides s t :=
  of_moves (A := Eq .quiet) (by rintro l rfl; rfl) hs (Quiet.moves rfl hq)
    (hsent.mono fun _ hp htype => absurd htype hp)

/-- **Flooding.** -/
theorem flood (hs : s.Sane) (hr : s.Marked r) (areaId : IPv4Address) (recvIntf : Option IntfId) :
    Provides s (floodLsa r areaId recvIntf s).2 := by
  refine of_tells (fun l hl => ?_) hs (floodLsa_within r areaId recvIntf s)
    (floodLsa_tells r areaId recvIntf fun _ _ _ => hr)
  cases hl <;> rfl

theorem sendLsUpdate (hs : s.Sane) (n : NbrRef) {rs : List LsaRef} (hrs : ∀ r ∈ rs, s.Marked r) :
    Provides s (sendLsUpdate n rs s).2 := by
  refine of_tells (A := fun l => l = .quiet ∨ ∃ r, l = .write r) ?_ hs ?_ (sendLsUpdate_tells n hrs s)
  · rintro l (rfl | ⟨r, rfl⟩) <;> rfl
  · exact sendLsUpdate_within (Or.inl rfl) n (fun r _ => Or.inr ⟨r, rfl⟩) s

theorem removed (hs : s.Sane) (areaId : IPv4Address) (key : LsaKey) : Provides s (removeLsa areaId key s).2 := by
  refine of_moves (A := Eq (.remove areaId key)) ?_ hs (removeLsa_within rfl s) (.of_eq rfl)
  rintro l rfl
  rfl

theorem installed (hs : s.Sane) (hr : r < s.heap.next) (areaId : IPv4Address) :
    Provides s (s.installed areaId r) := by
  have hm : move (.install areaId r) s (s.installed areaId r) := rfl
  refine ⟨sane_installed hs areaId hr, move_grows hm, rfl, fun k hk hk' => ?_, fun _ => move_marked hm,
    stamped_installed hr, .of_eq rfl⟩
  rw [Instance.installed, LinkStateDatabase.next_install] at hk'
  exact absurd hk' (Nat.not_lt.2 hk)

/-! ## Origination -/

theorem drafted (hs : s.Sane) {lsa : Lsa} (hproper : lsa.Proper)
    (hown : lsa.header.advertisingRouter = s.routerId) : Provides s (s.drafted lsa) := by
  have hgrows := (drafted_moves s lsa).grows
  have hsame := lsa.serialize_sameInstance s.now
  have hmarks : ∀ r, s.Marked r → (s.drafted lsa).Marked r := fun _ => marked_of_moves (drafted_moves s lsa)
  refine ⟨⟨hs.stored.grow hgrows, hs.owner⟩, hgrows, rfl, fun r hr hr' => ?_, hmarks,
    fun h a key r hr => hmarks r (h a key r hr), .of_eq rfl⟩
  obtain rfl : r = s.heap.next := le_antisymm (Nat.le_of_lt_succ hr') hr
  rw [Instance.obj_drafted_self]
  exact ⟨hproper.same hsame, (congrArg LsaKey.advertisingRouter hsame.key).trans hown⟩

/-- **An origination.** -/
theorem originate (hs : s.Sane) (areaId : IPv4Address) {lsType : Nat} (linkStateId : IPv4Address)
    {body : Option LsaBody} (seqNum : Option Nat)
    (hproper : ∀ seq, (draftOf s lsType linkStateId body seq).Proper) :
    Provides s (originate areaId lsType linkStateId body seqNum s).2 := by
  rcases originate_cases areaId lsType linkStateId body seqNum s with hrun | ⟨seq, hrun⟩
  · rw [hrun]
    exact .refl hs
  · rw [hrun, originateWith_eq areaId lsType linkStateId body seq s rfl, ← draftOf]
    have hdraft : Provides s (s.drafted (draftOf s lsType linkStateId body seq)) := .drafted hs (hproper seq) rfl
    split
    · exact hdraft
    · split
      · rename_i hdec
        have hmarked : ((s.drafted (draftOf s lsType linkStateId body seq)).installed areaId s.heap.next).Marked
            s.heap.next := by
          refine marked_installed (Nat.lt_succ_self _) ?_
          rw [LinkStateDatabase.install_answer, Instance.obj_drafted_self]
          exact hdec
        have hinst := hdraft.trans (.installed hdraft.sane (Nat.lt_succ_self _) areaId)
        have horig : Provides s (s.originated areaId (draftOf s lsType linkStateId body seq)) :=
          hinst.trans (.of_quiet hinst.sane ⟨rfl, rfl, rfl, rfl, rfl, rfl, rfl⟩ (.of_eq rfl))
        exact horig.trans (.flood horig.sane hmarked areaId none)
      · exact hdraft

theorem refreshLsa (hs : s.Sound) (hr : r < s.heap.next) (areaId : IPv4Address) :
    Provides s (refreshLsa areaId r s).2 := by
  rw [Ospfd.refreshLsa, Eff.get_bind_apply]
  rcases s.lsdb.lookup areaId (s.heap.obj r).key with _ | e
  · exact .refl hs.sane
  · dsimp only
    rw [Eff.ite_apply]
    split
    · exact .refl hs.sane
    · rcases nextSeqNum (s.heap.obj e).header.lsSequenceNumber with _ | seq
      · exact .refl hs.sane
      · exact .originate hs.sane areaId _ _ fun _ => hs.proper r hr

/-! ## Reception -/

theorem acknowledge (hs : s.Sane) (r : LsaRef) (n : NbrRef) : Provides s (Ospfd.acknowledge r n s).2 := by
  refine of_tells (A := fun l => l = .quiet ∨ l = .intf n.intf) ?_ hs ?_ (acknowledge_tells r n s)
  · rintro l (rfl | rfl) <;> rfl
  · refine Eff.Within.read (R := Moves _) (fun t => Eff.Within.ite ?_ (queueDelayedAck_within (Or.inr rfl) r)) s
    exact Quiet.within (Or.inl rfl) (Eff.Within.bind (serializeLsack_within _) fun _ => sendPacket_within _ _ _ _)

theorem receivedSame (hs : s.Sane) (r : LsaRef) (n : NbrRef) : Provides s (Ospfd.receivedSame r n s).2 := by
  refine of_tells (A := fun l => l = .nbr n (.acked (s.heap.obj r).key) ∨ l = .intf n.intf) ?_ hs ?_
    (receivedSame_tells r n s)
  · rintro l (rfl | rfl) <;> rfl
  · refine Lts.Moves.trans (Moves.nbr (Or.inl rfl) nofun rfl) ?_
    exact Eff.Within.when (fun _ => queueDelayedAck_within (Or.inr rfl) _) _

theorem afterInstall (hs : s.Sound) (hr : r < s.heap.next) (n : NbrRef) (areaId : IPv4Address) :
    Provides s (afterInstall r n areaId s).2 := by
  rw [Ospfd.afterInstall, Eff.get_bind_apply, Eff.ite_apply]
  split
  · rw [Eff.ite_apply]
    split
    · exact .removed hs.sane areaId _
    · have hrefresh := refreshLsa hs hr areaId
      exact Eff.bind_final (P := Provides s) hrefresh fun _ _ => hrefresh
  · have hack : Provides s (Ospfd.acknowledge r n s).2 := acknowledge hs.sane r n
    exact Eff.bind_final (P := Provides s) hack fun _ _ =>
      hack.trans (.of_quiet hack.sane (scheduleSpf_within _) (scheduleSpf_sends _))

/-- **One received LSA.** -/
theorem processReceivedLsa (hs : s.Sound) (hr : r < s.heap.next) (n : NbrRef) (areaId : IPv4Address) :
    Provides s (processReceivedLsa r n areaId s).2 := by
  rw [processReceivedLsa_eq]
  rcases hv : verdict s areaId (s.heap.obj r) with _ | _ | _ | _ | e
  · exact .refl hs.sane
  · exact .refl hs.sane
  · have hinst : Provides s (s.installed areaId r) := .installed hs.sane hr areaId
    have hmarked : (s.installed areaId r).Marked r := by
      refine marked_installed hr ?_
      rw [LinkStateDatabase.install_answer]
      exact decision_of_installed hv
    refine hinst.next hs fun hu => ?_
    generalize s.installed areaId r = u at hu hmarked
    have hflood : Provides u (floodLsa r areaId (some n.intf) u).2 := .flood hu.sane hmarked areaId _
    refine Eff.bind_final (P := Provides u) hflood fun _ _ => ?_
    exact hflood.next hu fun hv => .afterInstall hv (hflood.marks r hmarked).1 n areaId
  · exact .receivedSame hs.sane r n
  · refine .sendLsUpdate hs.sane n fun k hk => ?_
    obtain rfl := List.mem_singleton.1 hk
    exact hs.stamped _ _ k (stored_of_older hv).1

/-- **An update**, once its LSAs are there. -/
theorem receives (hs : s.Sound) {rs : List LsaRef} (hrs : ∀ r ∈ rs, r < s.heap.next) (n : NbrRef)
    (areaId : IPv4Address) (keys : List LsaKey) : Provides s ((do
      Eff.forEach rs fun r => Ospfd.processReceivedLsa r n areaId
      processLsUpdate n keys : Py Unit) s).2 := by
  have hloop : Provides s (Eff.forEach rs (fun r => Ospfd.processReceivedLsa r n areaId) s).2 :=
    forEach hs (Q := fun u r => r < u.heap.next) (fun ht hr => lt_of_lt_of_le hr ht.heap.next) hrs fun hu hr =>
      processReceivedLsa hu hr n areaId
  refine Eff.bind_final (P := Provides s) hloop fun _ _ => hloop.trans ?_
  generalize (Eff.forEach rs (fun r => Ospfd.processReceivedLsa r n areaId) s).2 = t at hloop
  refine of_tells ?_ hloop.sane (processLsUpdate_moves n keys t) (processLsUpdate_tells n keys t)
  rintro l (rfl | rfl) <;> rfl

/-! ## Aging -/

theorem flushMaxageLsa (hs : s.Sane) (hr : s.Marked r) (areaId : IPv4Address) :
    Provides s (flushMaxageLsa r areaId s).2 := by
  have hflood : Provides s (floodLsa r areaId none s).2 := .flood hs hr areaId none
  refine Eff.bind_final (P := Provides s) hflood fun _ _ => hflood.trans ?_
  generalize (floodLsa r areaId none s).2 = t at hflood
  rw [Eff.get_bind_apply]
  rcases t.areas.get? areaId with _ | area
  · exact .removed hflood.sane areaId _
  · dsimp only
    rw [Eff.lift_bind_apply]
    rcases rxmtPendingOn t area.interfaces with e | _ | _
    · exact .refl hflood.sane
    · exact .removed hflood.sane areaId _
    · exact .refl hflood.sane

theorem refresh (hs : s.Sound) (hr : r < s.heap.next) (areaId : IPv4Address) : Provides s ((do
    let _ ← Ospfd.refreshLsa areaId r
    pure () : Py Unit) s).2 := by
  have hrefresh := refreshLsa hs hr areaId
  exact Eff.bind_final (P := Provides s) hrefresh fun _ _ => hrefresh

theorem expireLsa (hs : s.Sound) (hr : s.Marked r) (areaId : IPv4Address) :
    Provides s (expireLsa areaId r s).2 := by
  rw [Ospfd.expireLsa, Eff.get_bind_apply, Eff.ite_apply]
  split
  · exact refresh hs hr.1 areaId
  · exact flushMaxageLsa hs.sane hr areaId

theorem refreshIfOld (hs : s.Sound) (hr : s.Marked r) (areaId : IPv4Address) :
    Provides s (refreshIfOld areaId r s).2 := by
  rw [Ospfd.refreshIfOld, Eff.get_bind_apply]
  by_cases hage : s.lsdb.isSelfOriginated (s.heap.obj r) = true ∧
      lsRefreshTime ≤ (s.heap.obj r).currentAge s.now ∧ (s.heap.obj r).currentAge s.now < maxAge
  · rw [Eff.when_pos hage]
    exact refresh hs hr.1 areaId
  · rw [Eff.when_neg hage]
    exact .refl hs.sane

theorem ageArea (hs : s.Sound) (areaId : IPv4Address) : Provides s (ageArea areaId s).2 := by
  have hstored : ∀ {u : Instance}, u.Sound → ∀ r ∈ u.lsdb.getAll areaId, u.Marked r := fun {u} hu r hr => by
    obtain ⟨key, hkey⟩ := Dict.mem_values_iff.1 hr
    refine hu.stamped areaId key r ?_
    rw [LinkStateDatabase.lookup, (hu.sane.stored.shelved.area areaId key r hkey).2.2]
    exact hkey
  rw [Ospfd.ageArea, Eff.get_bind_apply]
  have hexpired : Provides s (Eff.forEach (s.lsdb.getMaxageLsas s.heap s.now areaId) (Ospfd.expireLsa areaId) s).2 :=
    forEach_marked hs (fun r hr => hstored hs r (List.mem_of_mem_filter hr)) fun hu hr => expireLsa hu hr areaId
  refine Eff.bind_final (P := Provides s) hexpired fun _ _ => hexpired.next hs fun hu => ?_
  rw [Eff.get_bind_apply]
  exact forEach_marked hu (hstored hu) fun hu hr => refreshIfOld hu hr areaId

/-- **An aging pass.** -/
theorem checkAges (hs : s.Sound) : Provides s (checkAges s).2 := by
  rw [checkAges_eq, Eff.get_bind_apply]
  exact Eff.forEach_final (P := Provides s) (.refl hs.sane) fun areaId _ _ ht =>
    ht.next hs fun hu => ageArea hu areaId

/-! ## Requests -/

/-- **An answer to a request.** -/
theorem processLsRequest (hs : s.Sound) (n : NbrRef) (lsr : LsrPacket) :
    Provides s (processLsRequest n lsr s).2 := by
  rw [Ospfd.processLsRequest, Eff.get_bind_apply]
  by_cases hst : .exchange ≤ (s.nbr n).state
  · rw [Eff.when_pos hst]
    rcases hreq : requestedLsas s (s.intf n.intf).areaId lsr.items with _ | rs
    · refine of_moves ?_ hs.sane (nbrEvent_restart n (Or.inr rfl) s) ?_
      · rintro l (rfl | rfl | rfl) <;> rfl
      · exact (nbrEvent_sends (fun _ => Nat.ne_of_lt) n .badLsReq s).mono fun _ hp htype => absurd htype hp
    · refine .sendLsUpdate hs.sane n fun r hr => ?_
      obtain ⟨key, hlook⟩ := lookup_of_requestedLsas hreq hr
      exact hs.stamped _ key r hlook
  · rw [Eff.when_neg hst]
    exact .refl hs.sane

end Provides

/-! ## Events -/

/-- A body that is written is in wire range. -/
theorem routerLsaBody_wireRange {s : Instance} {areaId : IPv4Address} {b : Bytes}
    (h : (routerLsaBody s areaId).serialize = .ok b) : (routerLsaBody s areaId).WireRange := by
  obtain ⟨data, hdata, -⟩ := bind_eq_ok h
  have hfits := fits_of_pack hdata (by
    simp only [RouterLsa.format, List.forall₂_cons]
    refine ⟨?_, ?_, ?_, .nil⟩ <;> rintro n bs ⟨⟩)
  simp only [RouterLsa.format, List.forall₂_cons, Struct.Fits] at hfits
  exact ⟨hfits.1, rfl, hfits.2.2.1, (routerLsaBody_serialize h).1⟩

/-- What this router originates has a body of its type. -/
def Event.Fitting : Event → Prop
  | .originate _ lsType _ body => ∀ b, body.serialize = .ok b → body.Matches lsType
  | _ => True

/-- **Every event that brings no update.** -/
theorem exec_provides {s : Instance} {e : Event} (hs : s.Sound) (hen : e.Enabled s) (hfit : e.Fitting)
    (hlsu : ∀ n src lsu, heard s e = some (n, src, .lsu lsu) → n.routerId ∉ (s.intf n.intf).neighbors) :
    Provides s (exec s e) := by
  -- a timer is cleared before the LSA is originated
  have htimer : ∀ {t : Instance} {m : Py (Option LsaRef)}, Quiet s t → t.sent = s.sent →
      (∀ {u : Instance}, u.Sane → Provides u (m u).2) → Provides s (m t).2 := fun hq hsent hm => by
    have ht : Provides s _ := .of_quiet hs.sane hq (.of_eq hsent)
    exact ht.trans (hm ht.sane)
  by_cases hlsr : ∃ n src lsr, heard s e = some (n, src, .lsr lsr)
  · obtain ⟨n, src, lsr, hh⟩ := hlsr
    rw [exec_heard hh, processPacket, forNeighbor, Eff.get_bind_apply]
    by_cases hn : n.routerId ∈ (s.intf n.intf).neighbors
    · rw [Eff.when_pos hn]
      exact .processLsRequest hs n lsr
    · rw [Eff.when_neg hn]
      exact .refl hs.sane
  by_cases hf : e.MayFlood s
  · cases e with
    | aging => exact .checkAges hs
    | originate areaId lsType linkStateId body =>
      rw [exec_originate]
      exact .originate hs.sane areaId _ _ fun _ b hb => ⟨body, rfl, hfit b hb⟩
    | routerLsa areaId =>
      rw [exec_routerLsa]
      refine htimer (t := { s with routerLsaPending := s.routerLsaPending.pop areaId })
        (m := originateRouterLsa areaId) ⟨rfl, rfl, rfl, rfl, rfl, rfl, rfl⟩ rfl fun {u} hu => ?_
      exact .originate hu areaId _ none fun _ b hb =>
        ⟨.router (routerLsaBody u areaId), rfl, rfl, routerLsaBody_wireRange hb⟩
    | networkLsa i =>
      rw [exec_networkLsa]
      refine htimer (t := { s with networkLsaPending := s.networkLsaPending.pop i })
        (m := originateNetworkLsa i) ⟨rfl, rfl, rfl, rfl, rfl, rfl, rfl⟩ rfl fun {u} hu => ?_
      rw [originateNetworkLsa, Eff.get_bind_apply, Eff.ite_apply]
      split
      · exact .refl hu
      · exact .originate hu _ _ none fun _ b hb => ⟨.network (networkLsaBody u i), rfl, rfl⟩
    | receive i data src =>
      obtain ⟨n, src', lsu, hh⟩ := hf
      rw [exec_heard hh, processPacket, forNeighbor, Eff.get_bind_apply, Eff.when_neg (hlsu n src' lsu hh)]
      exact .refl hs.sane
    | _ =>
      obtain ⟨n, src', lsu, hh⟩ := hf
      cases hh
  · have hno : ∀ n src lsr, heard s e ≠ some (n, src, .lsr lsr) := fun n src lsr hh => hlsr ⟨n, src, lsr, hh⟩
    refine .of_moves (fun l hl => ?_) hs.sane (exec_rests hen hf)
      ((exec_unsent hf hno).mono fun _ hp htype => absurd htype hp)
    cases l with
    | install a r => cases hl
    | alloc => cases hl
    | _ => rfl

/-- The new objects are those of the update. -/
theorem next_newLsas : ∀ (lsas : List Lsa) (s : Instance),
    (newLsas lsas s).2.heap.next = s.heap.next + lsas.length
  | [], _ => rfl
  | lsa :: lsas, s => by
    obtain ⟨rs, heap, hrun, -⟩ := newLsas_returns lsas { s with heap := (s.heap.alloc lsa).2 }
    have hnext := next_newLsas lsas { s with heap := (s.heap.alloc lsa).2 }
    change ((newLsas lsas >>= fun rs => pure (s.heap.next :: rs))
      { s with heap := (s.heap.alloc lsa).2 }).2.heap.next = _
    rw [Eff.bind_apply_ok hrun]
    rw [hrun] at hnext
    refine hnext.trans ?_
    exact Nat.add_right_comm s.heap.next 1 lsas.length

/-- The LSAs of an update are there as new objects, and nothing else happened. -/
structure Unpacks (s : Instance) (lsu : LsuPacket) (u : Instance) : Prop where
  others : u = { s with heap := u.heap }
  heap : s.heap.Grows u.heap
  marks : ∀ r, s.Marked r → u.Marked r
  range : ∀ r, r ∈ received s lsu ↔ s.heap.next ≤ r ∧ r < u.heap.next
  objs : ∀ r ∈ received s lsu, u.heap.obj r ∈ lsu.lsas

namespace Unpacks

variable {s u : Instance} {lsu : LsuPacket}

theorem routerId (h : Unpacks s lsu u) : u.routerId = s.routerId := by rw [h.others]

theorem sent (h : Unpacks s lsu u) : u.sent = s.sent := by rw [h.others]

theorem lsdb (h : Unpacks s lsu u) : u.lsdb = s.lsdb := by rw [h.others]

theorem intf (h : Unpacks s lsu u) : u.intf = s.intf := by rw [h.others]

theorem sound (h : Unpacks s lsu u) (hs : s.Sound) (hproper : ∀ lsa ∈ lsu.lsas, lsa.Proper) : u.Sound := by
  constructor
  · constructor
    · rw [h.lsdb]
      exact hs.sane.stored.grow h.heap
    · rw [h.lsdb, h.routerId]
      exact hs.sane.owner
  · intro r hr
    by_cases hold : r < s.heap.next
    · exact (hs.proper r hold).same (h.heap.same r hold)
    · exact hproper _ (h.objs r ((h.range r).2 ⟨Nat.not_lt.1 hold, hr⟩))
  · intro a key r hr
    rw [h.lsdb] at hr
    exact h.marks r (hs.stamped a key r hr)

end Unpacks

/-- **An update**: its LSAs are unpacked, and received one after the other. -/
theorem exec_unpacks {s : Instance} {e : Event} {n : NbrRef} {src : IPv4Address} {lsu : LsuPacket}
    (hh : heard s e = some (n, src, .lsu lsu)) (hn : n.routerId ∈ (s.intf n.intf).neighbors) :
    ∃ u, Unpacks s lsu u ∧ exec s e = ((do
      Eff.forEach (received s lsu) fun r => processReceivedLsa r n (s.intf n.intf).areaId
      processLsUpdate n (lsu.lsas.map Lsa.key) : Py Unit) u).2 := by
  obtain ⟨rs, heap, hrun, hgrows, -, -, hkept⟩ := newLsas_returns lsu.lsas s
  obtain ⟨u, hrun', hu, hreceived⟩ := newLsas_received lsu s
  obtain ⟨hrs, rfl⟩ := Prod.mk.inj (hrun.symm.trans hrun')
  obtain rfl := Except.ok.inj hrs
  have hnext := next_newLsas lsu.lsas s
  rw [hrun] at hnext
  refine ⟨{ s with heap }, ⟨rfl, hgrows, fun r hr => ?_, fun r => ?_, fun r hr => (hreceived r hr).2⟩, ?_⟩
  · refine ⟨lt_of_lt_of_le hr.1 hgrows.next, ?_⟩
    show (heap.obj r).installTime ≠ none
    rw [hkept r hr.1]
    exact hr.2
  · show r ∈ received s lsu ↔ s.heap.next ≤ r ∧ r < heap.next
    rw [show heap.next = s.heap.next + lsu.lsas.length from hnext]
    exact List.mem_range'_1
  · rw [exec_heard hh, processPacket, forNeighbor, Eff.get_bind_apply, Eff.when_pos hn, receiveLsu,
      Eff.get_bind_apply, Eff.bind_apply_ok hrun]

/-- What the reception of an update provides. -/
theorem exec_receives {s : Instance} {e : Event} {n : NbrRef} {src : IPv4Address} {lsu : LsuPacket}
    (hs : s.Sound) (hh : heard s e = some (n, src, .lsu lsu)) (hn : n.routerId ∈ (s.intf n.intf).neighbors)
    (hproper : ∀ lsa ∈ lsu.lsas, lsa.Proper) : ∃ u, Unpacks s lsu u ∧ u.Sound ∧ Provides u (exec s e) := by
  obtain ⟨u, hu, hexec⟩ := exec_unpacks hh hn
  have hsound := hu.sound hs hproper
  refine ⟨u, hu, hsound, ?_⟩
  rw [hexec]
  exact .receives hsound (fun r hr => ((hu.range r).1 hr).2) n _ _

end Ospfd
