import Ospfd.Lsdb.Verdict
import Ospfd.Protocol.Events

/-!
# What every event carries on

LSAs get into the database in two places: a received one that is new, and an own one that
is originated.  What the other moves keep, and these two keep as well, every event keeps.

* `NoInstall` — the moves that install nothing.
* `Carries R` — such a relation; `Admits R I` — it also holds when an LSA is installed
  that satisfies `I`, as long as that lasts.
* `Handles R` — the same with flooding and Hellos taken as a whole, for what is kept by them
  but not by each of their moves; `Keeps R` — for what is kept as long as nothing is removed.
* `Keeps.originate`, `Handles.checkAges`, `Admits.receiveLsu`, … — the procedures.
* `Handles.exec`, `Admits.exec` — **every event**.
* `Kept r` — what concerns other LSAs leaves the object `r` alone.
-/

namespace Ospfd

/-- The moves that install nothing. -/
def NoInstall (l : Label) : Prop := ∀ areaId r, l ≠ .install areaId r

/-- The own LSA that an origination drafts. -/
def draftOf (s : Instance) (lsType : Nat) (linkStateId : IPv4Address) (body : Option LsaBody)
    (seqNum : Nat) : Lsa :=
  { header := originatedHeader s lsType linkStateId seqNum, body }

/-- A relation that every move keeps, but the installation of a received LSA. -/
structure Carries (R : Instance → Instance → Prop) : Prop where
  move : ∀ {l s t}, NoInstall l → move l s t → R s t
  draft : ∀ {s : Instance} {lsType linkStateId body seqNum b} (areaId : IPv4Address),
    ((draftOf s lsType linkStateId body seqNum).serialize s.now).1 = .ok b →
      R s ((s.drafted (draftOf s lsType linkStateId body seqNum)).installed areaId s.heap.next)

/-- Installing a received LSA keeps it too, if the LSA satisfies a condition that lasts. -/
structure Admits (R : Instance → Instance → Prop) (I : LsaRef → Instance → Prop) : Prop
    extends Carries R where
  lasts : ∀ {l s t r}, Ospfd.move l s t → I r s → I r t
  install : ∀ {s : Instance} {r} (areaId : IPv4Address), I r s → R s (s.installed areaId r)

/-- Drafting adds an object and serializes it. -/
theorem drafted_moves (s : Instance) (lsa : Lsa) :
    Moves (fun l => l = .alloc ∨ l = .write s.heap.next) s (s.drafted lsa) := by
  have hself : (s.heap.alloc lsa).2.obj s.heap.next = lsa := Function.update_self ..
  generalize hu : { s with heap := (s.heap.alloc lsa).2 } = u
  have hnew : Moves (fun l => l = .alloc ∨ l = .write s.heap.next) s u :=
    Lts.Moves.single (l := .alloc) (Or.inl rfl) ⟨lsa, hu.symm⟩
  refine hnew.trans (Lts.Moves.single (l := .write s.heap.next) (Or.inr rfl) ?_)
  subst hu
  rw [move, hself]
  rfl

/-- The moves that neither install an LSA nor make a list of neighbors or LSAs longer. -/
def Label.isPlain : Label → Bool
  | .install _ _ => false
  | .create _ _ => false
  | .nbr _ (.pend _ _) => false
  | _ => true

/-- The plain moves that remove nothing either. -/
def Label.keepsFiles : Label → Bool
  | .remove _ _ => false
  | l => l.isPlain

/-- A relation that these moves keep, and flooding, Hellos and drafts as a whole. -/
structure Keeps (R : Instance → Instance → Prop) : Prop where
  move : ∀ {l s t}, l.keepsFiles = true → Ospfd.move l s t → R s t
  flood : ∀ r areaId recvIntf, Eff.Within R (floodLsa r areaId recvIntf)
  hello : ∀ i hello src routerId, Eff.Within R (processHello i hello src routerId)
  draft : ∀ {s : Instance} {lsType linkStateId body seqNum b} (areaId : IPv4Address),
    ((draftOf s lsType linkStateId body seqNum).serialize s.now).1 = .ok b →
      R s ((s.drafted (draftOf s lsType linkStateId body seqNum)).installed areaId s.heap.next)

namespace Keeps

section Single

variable {R : Instance → Instance → Prop} {s t : Instance}

theorem quiet (h : Keeps R) (hq : Quiet s t) : R s t :=
  h.move (l := .quiet) rfl hq

theorem silent (h : Keeps R) {α : Type} {m : Py α} (hm : Eff.Within Quiet m) : Eff.Within R m :=
  hm.mono fun _ _ => h.quiet

theorem processLsUpdate [IsTrans Instance R] (h : Keeps R) (n : NbrRef) (keys : List LsaKey) :
    Eff.Within R (processLsUpdate n keys) := by
  intro s
  obtain ⟨t, ht, hq⟩ := processLsUpdate_returns n keys s
  rw [ht]
  exact trans_of R (h.move (l := .nbr n (.strike keys)) rfl ⟨_, rfl, rfl⟩) (h.quiet hq)

end Single

variable {R : Instance → Instance → Prop} [Std.Refl R] [IsTrans Instance R]

theorem moves (h : Keeps R) {A : Label → Prop} (hA : ∀ l, A l → l.keepsFiles = true) {s t : Instance}
    (hm : Moves A s t) : R s t :=
  Lts.Moves.relates (fun l _ _ hl hm => h.move (hA l hl) hm) hm

/-! ## Origination -/

/-- A draft that is not installed. -/
theorem drafted (h : Keeps R) (s : Instance) (lsa : Lsa) : R s (s.drafted lsa) := by
  refine h.moves (fun l hl => ?_) (drafted_moves s lsa)
  rcases hl with rfl | rfl <;> rfl

theorem originateWith (h : Keeps R) (areaId : IPv4Address) (lsType : Nat) (linkStateId : IPv4Address)
    (body : Option LsaBody) (seqNum : Nat) :
    Eff.Within R (originateWith areaId lsType linkStateId body seqNum) := by
  intro s
  rw [originateWith_eq areaId lsType linkStateId body seqNum s rfl]
  rw [← draftOf]
  rcases hser : ((draftOf s lsType linkStateId body seqNum).serialize s.now).1 with e | b
  · exact h.drafted s _
  · dsimp only
    split
    · have horiginated : R s (s.originated areaId (draftOf s lsType linkStateId body seqNum)) :=
        trans_of R (h.draft areaId hser) (h.quiet (t := s.originated areaId _)
          ⟨rfl, rfl, rfl, rfl, rfl, rfl, rfl⟩)
      exact trans_of R horiginated (h.flood _ _ _ _)
    · exact h.drafted s _

theorem originate (h : Keeps R) (areaId : IPv4Address) (lsType : Nat) (linkStateId : IPv4Address)
    (body : Option LsaBody) (seqNum : Option Nat) :
    Eff.Within R (originate areaId lsType linkStateId body seqNum) := by
  intro s
  rcases originate_cases areaId lsType linkStateId body seqNum s with hrun | ⟨n, hrun⟩
  · rw [hrun]
    exact refl_of R s
  · rw [hrun]
    exact h.originateWith _ _ _ _ _ s

theorem refreshLsa (h : Keeps R) (areaId : IPv4Address) (r : LsaRef) :
    Eff.Within R (refreshLsa areaId r) := by
  refine Eff.Within.read fun s => ?_
  dsimp only
  split
  · exact Eff.Within.pure none
  · refine Eff.Within.ite (Eff.Within.pure none) ?_
    split
    · exact Eff.Within.pure none
    · exact h.originate _ _ _ _ _

theorem queueDelayedAck (h : Keeps R) (i : IntfId) (r : LsaRef) :
    Eff.Within R (queueDelayedAck i r) :=
  (queueDelayedAck_within (A := fun l => l = .intf i) rfl r).mono fun _ _ => h.moves fun _ hl => by
    rw [hl]
    rfl

theorem acknowledge (h : Keeps R) (r : LsaRef) (n : NbrRef) : Eff.Within R (acknowledge r n) := by
  refine Eff.Within.read fun s => Eff.Within.ite (h.silent ?_) (h.queueDelayedAck n.intf r)
  exact Eff.Within.bind (serializeLsack_within _) fun _ => sendPacket_within _ _ _ _

/-! ## Reception -/

/-- After an installation; an own LSA at MaxAge is removed again. -/
theorem afterInstall (h : Keeps R) {s : Instance} {r : LsaRef} (n : NbrRef) {areaId : IPv4Address}
    (hrem : s.lsdb.isSelfOriginated (s.heap.obj r) = true → maxAge ≤ (s.heap.obj r).header.lsAge →
      R s (removeLsa areaId (s.heap.obj r).key s).2) : R s (afterInstall r n areaId s).2 := by
  rw [Ospfd.afterInstall, Eff.get_bind_apply]
  by_cases hown : s.lsdb.isSelfOriginated (s.heap.obj r) = true
  · rw [if_pos hown]
    by_cases hage : maxAge ≤ (s.heap.obj r).header.lsAge
    · rw [if_pos hage]
      exact hrem hown hage
    · rw [if_neg hage]
      exact Eff.Within.bind (h.refreshLsa areaId r) (fun _ => Eff.Within.pure ()) s
  · rw [if_neg hown]
    exact Eff.Within.bind (h.acknowledge r n) (fun _ => h.silent scheduleSpf_within) s

theorem receivedSame (h : Keeps R) (r : LsaRef) (n : NbrRef) : Eff.Within R (receivedSame r n) := by
  refine Eff.Within.read fun s => Eff.Within.bind (fun t => ?_) fun _ =>
    Eff.Within.when fun _ => h.queueDelayedAck n.intf r
  exact h.move (l := .nbr n (.acked (s.heap.obj r).key)) rfl ⟨_, rfl, rfl⟩

theorem sendLsUpdate (h : Keeps R) (n : NbrRef) (rs : List LsaRef) :
    Eff.Within R (sendLsUpdate n rs) :=
  (sendLsUpdate_within (A := fun l => l = .quiet ∨ ∃ k, l = .write k) (Or.inl rfl) n
    fun k _ => Or.inr ⟨k, rfl⟩).mono fun _ _ => h.moves fun _ hl => by
      rcases hl with rfl | ⟨k, rfl⟩ <;> rfl

/-- One received LSA. -/
theorem processReceivedLsa (h : Keeps R) {s : Instance} {r : LsaRef} (n : NbrRef) {areaId : IPv4Address}
    (hinst : verdict s areaId (s.heap.obj r) = .installed → R s (s.installed areaId r))
    (hrem : verdict s areaId (s.heap.obj r) = .installed → ∀ t,
      Moves Floods (s.installed areaId r) t → t.lsdb.isSelfOriginated (t.heap.obj r) = true →
        maxAge ≤ (t.heap.obj r).header.lsAge → R t (removeLsa areaId (t.heap.obj r).key t).2) :
    R s (processReceivedLsa r n areaId s).2 := by
  rw [processReceivedLsa_eq]
  rcases hv : verdict s areaId (s.heap.obj r) with _ | _ | _ | _ | e
  · exact refl_of R s
  · exact refl_of R s
  · have hflood := h.flood r areaId (some n.intf) (s.installed areaId r)
    refine trans_of R (hinst hv) (Eff.bind_final (P := R (s.installed areaId r)) hflood fun _ _ => ?_)
    refine trans_of R hflood (h.afterInstall n fun hown hage => ?_)
    exact hrem hv _ (floodLsa_within r areaId _ _) hown hage
  · exact h.receivedSame r n s
  · exact h.sendLsUpdate n [e] s

/-! ## Aging -/

/-- The flush of an expired LSA, which is removed in the end. -/
theorem flushMaxageLsa (h : Keeps R) {s : Instance} {r : LsaRef} {areaId : IPv4Address}
    (hrem : ∀ t, Eff.Runs (floodLsa r areaId none) s () t →
      (∀ area, t.areas.get? areaId = some area → rxmtPendingOn t area.interfaces = .ok false) →
        R t (removeLsa areaId (t.heap.obj r).key t).2) : R s (flushMaxageLsa r areaId s).2 := by
  have hflood := h.flood r areaId none s
  refine Eff.bind_final (P := R s) hflood fun _ hrun => trans_of R hflood ?_
  generalize ht : (floodLsa r areaId none s).2 = t
  replace hrun : Eff.Runs (floodLsa r areaId none) s () t := Prod.ext hrun ht
  rw [Eff.get_bind_apply]
  rcases harea : t.areas.get? areaId with _ | area
  · refine hrem t hrun fun area hsome => ?_
    rw [harea] at hsome
    cases hsome
  · dsimp only
    rw [Eff.lift_bind_apply]
    rcases hpending : rxmtPendingOn t area.interfaces with e | _ | _
    · exact refl_of R t
    · refine hrem t hrun fun area' hsome => ?_
      rw [harea, Option.some.injEq] at hsome
      rw [← hsome, hpending]
    · exact refl_of R t

/-- **An event that brings no packet**, given what an aging pass does. -/
theorem works (h : Keeps R) {s : Instance} {e : Event} (hen : e.Enabled s) (hh : heard s e = none)
    (hage : e = .aging → R s (Ospfd.checkAges s).2) : R s (exec s e) := by
  have hevent : ∀ {n : NbrRef} {m : NbrMove} {u t : Instance}, (Label.nbr n m).keepsFiles = true →
      Moves (EventMoves n m) u t → R u t := fun hm hmoves => h.moves (fun _ hl => by
    rcases hl with rfl | rfl | rfl
    · rfl
    · rfl
    · exact hm) hmoves
  have hintf : ∀ {i : IntfId} {u t : Instance}, Moves (IntfMoves i) u t → R u t :=
    fun hm => h.moves (fun _ hl => by
      rcases hl with (rfl | rfl | ⟨j, -, rfl⟩) | rfl | rfl <;> rfl) hm
  have horig : ∀ {areaId lsType linkStateId body}, Eff.Within R (do
      let _ ← Ospfd.originate areaId lsType linkStateId body none
      pure ()) := Eff.Within.bind (h.originate _ _ _ _ _) fun _ => Eff.Within.pure ()
  cases e with
  | receive i data src =>
    rw [exec_receive, hh]
    exact refl_of R s
  | inactivity n =>
    change R s (inactivityTimeout n s).2
    rw [inactivityTimeout_eq]
    exact hevent rfl (nbrEvent_reset _ rfl s)
  | rxmt n =>
    refine h.moves (fun l hl => ?_) (rxmtTimeout_within n s)
    rcases hl with rfl | rfl <;> rfl
  | ddRxmt n =>
    exact h.silent (Eff.Within.read fun _ => Eff.Within.when fun _ => retransmitLastDd_within n) s
  | helloTimer i => exact h.silent (sendHello_within i) s
  | waitTimer i => exact hintf (waitTimerFire_within i s)
  | ackTimer i =>
    refine h.moves (A := fun l => l = .quiet ∨ l = .intf i) (fun l hl => ?_)
      (flushDelayedAcks_within (Or.inl rfl) (Or.inr rfl) s)
    rcases hl with rfl | rfl <;> rfl
  | intfEvent i evt => exact hintf (intfEvent_within i evt s)
  | killNbr n => exact hevent rfl (nbrEvent_reset _ rfl s)
  | llDown n => exact hevent rfl (nbrEvent_reset _ rfl s)
  | startNbr n => exact hevent rfl (nbrEvent_start hen)
  | routerLsa areaId =>
    refine Eff.Within.bind (R := R) (Eff.Within.modify fun t => ?_) (fun _ => ?_) s
    · exact h.quiet ⟨rfl, rfl, rfl, rfl, rfl, rfl, rfl⟩
    · exact Eff.Within.bind (Eff.Within.read fun _ => h.originate _ _ _ _ _) fun _ => Eff.Within.pure ()
  | networkLsa i =>
    refine Eff.Within.bind (R := R) (Eff.Within.modify fun t => ?_) (fun _ => ?_) s
    · exact h.quiet ⟨rfl, rfl, rfl, rfl, rfl, rfl, rfl⟩
    · refine Eff.Within.bind (Eff.Within.read fun _ => ?_) fun _ => Eff.Within.pure ()
      exact Eff.Within.ite (Eff.Within.pure none) (h.originate _ _ _ _ _)
  | spf => exact h.quiet ⟨rfl, rfl, rfl, rfl, rfl, rfl, rfl⟩
  | aging => exact hage rfl
  | originate areaId lsType linkStateId body => exact horig s
  | tick d => exact h.move (l := .tick) rfl ⟨d, rfl⟩

/-- **Every event**, given what an aging pass and an update do. -/
theorem exec (h : Keeps R) {s : Instance} {e : Event} (hen : e.Enabled s)
    (hage : e = .aging → R s (Ospfd.checkAges s).2)
    (hlsu : ∀ n src lsu, heard s e = some (n, src, .lsu lsu) → R s (receiveLsu n lsu s).2) :
    R s (exec s e) := by
  rcases hh : heard s e with _ | ⟨n, src, packet⟩
  · exact h.works hen hh hage
  · cases packet with
    | hello hello =>
      rw [exec_heard hh]
      exact h.hello _ _ _ _ s
    | dd dd =>
      refine h.moves (fun l hl => ?_) (exec_dd hh)
      rcases hl with hl | _ | _
      · cases hl <;> rfl
      · rfl
      · rfl
    | lsr lsr => exact h.moves (fun l hl => by cases hl <;> rfl) (exec_lsr hh)
    | lsu lsu =>
      rw [exec_heard hh, processPacket, forNeighbor, Eff.get_bind_apply]
      by_cases hn : n.routerId ∈ (s.intf n.intf).neighbors
      · rw [Eff.when_pos hn]
        exact hlsu n src lsu hh
      · rw [Eff.when_neg hn]
        exact refl_of R s
    | lsack ack =>
      rw [exec_heard hh]
      refine h.moves (A := fun l => ∃ key, l = .nbr n (.acked key)) (fun l hl => ?_)
        (forNeighbor_within (processLsAck_within n ack.lsaHeaders fun key _ => ⟨key, rfl⟩) s)
      obtain ⟨key, rfl⟩ := hl
      rfl

end Keeps

/-- A relation that the plain moves keep, and flooding, Hellos and drafts as a whole. -/
structure Handles (R : Instance → Instance → Prop) : Prop where
  move : ∀ {l s t}, l.isPlain = true → Ospfd.move l s t → R s t
  flood : ∀ r areaId recvIntf, Eff.Within R (floodLsa r areaId recvIntf)
  hello : ∀ i hello src routerId, Eff.Within R (processHello i hello src routerId)
  draft : ∀ {s : Instance} {lsType linkStateId body seqNum b} (areaId : IPv4Address),
    ((draftOf s lsType linkStateId body seqNum).serialize s.now).1 = .ok b →
      R s ((s.drafted (draftOf s lsType linkStateId body seqNum)).installed areaId s.heap.next)

namespace Handles

variable {R : Instance → Instance → Prop}

theorem keeps (h : Handles R) : Keeps R where
  move := fun {l _ _} hl hm => h.move (by
    cases l with
    | remove a k => cases hl
    | _ => exact hl) hm
  flood := h.flood
  hello := h.hello
  draft := h.draft

theorem removeLsa (h : Handles R) (areaId : IPv4Address) (key : LsaKey) :
    Eff.Within R (removeLsa areaId key) :=
  fun _ => h.move (l := .remove areaId key) rfl rfl

variable [Std.Refl R] [IsTrans Instance R]

theorem afterInstall (h : Handles R) (r : LsaRef) (n : NbrRef) (areaId : IPv4Address) :
    Eff.Within R (afterInstall r n areaId) :=
  fun s => h.keeps.afterInstall n fun _ _ => h.removeLsa areaId _ s

/-- One received LSA. -/
theorem processReceivedLsa (h : Handles R) {s : Instance} {r : LsaRef} (n : NbrRef)
    {areaId : IPv4Address} (hinst : verdict s areaId (s.heap.obj r) = .installed →
      R s (s.installed areaId r)) : R s (processReceivedLsa r n areaId s).2 :=
  h.keeps.processReceivedLsa n hinst fun _ t _ _ _ => h.removeLsa areaId _ t

theorem flushMaxageLsa (h : Handles R) (r : LsaRef) (areaId : IPv4Address) :
    Eff.Within R (flushMaxageLsa r areaId) :=
  fun _ => h.keeps.flushMaxageLsa fun t _ _ => h.removeLsa areaId _ t

theorem checkAges (h : Handles R) : Eff.Within R checkAges := by
  have hrefresh : ∀ areaId k, Eff.Within R (do
      let _ ← Ospfd.refreshLsa areaId k
      pure ()) := fun areaId k => Eff.Within.bind (h.keeps.refreshLsa areaId k) fun _ => Eff.Within.pure ()
  refine Eff.Within.read fun s => Eff.Within.forEach fun areaId _ => Eff.Within.read fun t => ?_
  refine Eff.Within.bind (Eff.Within.forEach fun k _ => ?_) fun _ => Eff.Within.read fun u =>
    Eff.Within.forEach fun k _ => ?_
  · exact Eff.Within.read fun u =>
      Eff.Within.ite (hrefresh areaId k) (h.flushMaxageLsa k areaId)
  · exact Eff.Within.read fun u => Eff.Within.when fun _ => hrefresh areaId k

/-- **Every event**, given what an update does. -/
theorem exec (h : Handles R) {s : Instance} {e : Event} (hen : e.Enabled s)
    (hlsu : ∀ n src lsu, heard s e = some (n, src, .lsu lsu) → R s (receiveLsu n lsu s).2) :
    R s (exec s e) :=
  h.keeps.exec hen (fun _ => h.checkAges s) hlsu

end Handles

namespace Carries

variable {R : Instance → Instance → Prop} [Std.Refl R] [IsTrans Instance R]

theorem moves (h : Carries R) {A : Label → Prop} (hA : ∀ l, A l → NoInstall l) {s t : Instance}
    (hm : Moves A s t) : R s t :=
  Lts.Moves.relates (fun l _ _ hl hm => h.move (hA l hl) hm) hm

/-- Flooding and Hellos consist of moves that install nothing. -/
theorem handles (h : Carries R) : Handles R where
  move := fun hl hm => h.move (fun a r heq => by rw [heq] at hl; cases hl) hm
  flood := fun r areaId recvIntf => (floodLsa_within r areaId recvIntf).mono fun _ _ =>
    h.moves fun _ hl => by
      rintro a k rfl
      cases hl
  hello := fun i hello src routerId => (processHello_within ⟨i, routerId⟩ hello src).mono fun _ _ =>
    h.moves fun _ hl => by
      rintro a k rfl
      cases hl with
      | intf hl => rcases hl with (hl | hl | ⟨j, -, hl⟩) | hl | hl <;> cases hl
  draft := h.draft

end Carries


namespace Admits

variable {R : Instance → Instance → Prop} [Std.Refl R] [IsTrans Instance R]
  {I : LsaRef → Instance → Prop}

theorem processReceivedLsas (h : Admits R I) (n : NbrRef) (areaId : IPv4Address) :
    ∀ (rs : List LsaRef) (s : Instance), (∀ r ∈ rs, I r s) →
      R s (Eff.forEach rs (fun r => processReceivedLsa r n areaId) s).2
  | [], s, _ => refl_of R s
  | r :: rs, s, hrs => by
    have hone : R s (processReceivedLsa r n areaId s).2 :=
      h.toCarries.handles.processReceivedLsa n fun _ => h.install areaId (hrs r (List.mem_cons_self ..))
    have hmoves := processReceivedLsa_moves (s := s) r n areaId (List.mem_singleton_self _)
    rw [Eff.forEach_cons]
    refine Eff.bind_final (P := R s) hone fun _ _ => trans_of R hone ?_
    refine h.processReceivedLsas n areaId rs _ fun k hk => ?_
    exact Lts.Moves.invariant (I := I k) (fun _ _ _ _ hm => h.lasts hm) hmoves
      (hrs k (List.mem_cons_of_mem _ hk))

/-- An update all of whose LSAs may be installed. -/
theorem receiveLsu (h : Admits R I) (n : NbrRef) {lsu : LsuPacket} {s : Instance}
    (hnew : ∀ rs u, newLsas lsu.lsas s = (.ok rs, u) → ∀ r ∈ rs, I r u) :
    R s (receiveLsu n lsu s).2 := by
  obtain ⟨rs, heap, hrun, -⟩ := newLsas_returns lsu.lsas s
  have halloc : R s { s with heap } := by
    have hm := newLsas_within (A := fun l => l = .alloc) rfl lsu.lsas s
    rw [hrun] at hm
    refine h.toCarries.moves (fun l hl => ?_) hm
    rintro a k rfl
    cases hl
  have hloop := trans_of R halloc (h.processReceivedLsas n (s.intf n.intf).areaId rs { s with heap }
    (hnew rs _ hrun))
  rw [Ospfd.receiveLsu, Eff.get_bind_apply, Eff.bind_apply_ok hrun]
  exact Eff.bind_final (P := R s) hloop fun _ _ =>
    trans_of R hloop (h.toCarries.handles.keeps.processLsUpdate n _ _)

/-- **Every event**, if the LSAs of a received update may be installed. -/
theorem exec (h : Admits R I) {s : Instance} {e : Event} (hen : e.Enabled s)
    (hnew : ∀ n src lsu, heard s e = some (n, src, .lsu lsu) → ∀ rs u,
      newLsas lsu.lsas s = (.ok rs, u) → ∀ r ∈ rs, I r u) : R s (exec s e) := by
  exact h.toCarries.handles.exec hen fun n src lsu hh => h.receiveLsu n (hnew n src lsu hh)

end Admits

/-! ## The objects of other LSAs -/

/-- Whether the object `r` is installed does not change. -/
def Kept (r : LsaRef) (s t : Instance) : Prop :=
  r < s.heap.next → r < t.heap.next ∧ (t.heap.obj r).installTime = (s.heap.obj r).installTime

instance (r : LsaRef) : Std.Refl (Kept r) := ⟨fun _ hr => ⟨hr, rfl⟩⟩

instance (r : LsaRef) : IsTrans Instance (Kept r) := ⟨fun _ _ _ h h' hr =>
  ⟨(h' (h hr).1).1, (h' (h hr).1).2.trans (h hr).2⟩⟩

section Kept

variable {r : LsaRef}

/-- Only the installation of `r` itself changes it. -/
theorem move_kept {l : Label} {s t : Instance} (hl : ∀ areaId, l ≠ .install areaId r)
    (hm : move l s t) : Kept r s t := by
  intro hr
  refine ⟨lt_of_lt_of_le hr (move_grows hm).next, ?_⟩
  by_cases hinst : ∃ areaId k, l = .install areaId k
  · obtain ⟨areaId, k, rfl⟩ := hinst
    obtain rfl : t = _ := hm
    dsimp only
    rw [LinkStateDatabase.obj_install, if_neg]
    rintro ⟨-, rfl⟩
    exact hl areaId rfl
  · exact move_obj (P := fun lsa => lsa.installTime = (s.heap.obj r).installTime)
      (fun lsa h => (Lsa.serialize_installTime lsa s.now).1.trans h)
      (fun areaId heq => absurd ⟨areaId, r, heq⟩ hinst) hm hr rfl

/-- What is installed is another LSA, and every other LSA stays other. -/
theorem kept_admits : Admits (Kept r) fun k _ => k ≠ r where
  move := fun hl hm => move_kept (fun areaId => hl areaId r) hm
  draft := by
    intro s lsType linkStateId body seqNum b areaId _ hr
    have hdraft : Kept r s (s.drafted (draftOf s lsType linkStateId body seqNum)) :=
      Lts.Moves.relates (fun l _ _ hl hm => move_kept (fun a heq => by
        rw [heq] at hl
        rcases hl with hl | hl <;> cases hl) hm) (drafted_moves s _)
    refine trans_of (Kept r) hdraft (move_kept (l := .install areaId s.heap.next) (fun a heq => ?_) rfl) hr
    cases heq
    exact Nat.lt_irrefl _ hr
  lasts := fun _ h => h
  install := fun areaId hk => move_kept (l := .install areaId _) (fun a heq => hk (by cases heq; rfl)) rfl

/-- **The reception of another LSA leaves `r` alone.** -/
theorem processReceivedLsa_kept {k : LsaRef} (hk : k ≠ r) (n : NbrRef) (areaId : IPv4Address) :
    Eff.Within (Kept r) (processReceivedLsa k n areaId) :=
  fun _ => kept_admits.toCarries.handles.processReceivedLsa n fun _ => kept_admits.install areaId hk

/-- **An event installs no object that was there before.** -/
theorem exec_kept {s : Instance} {e : Event} (hen : e.Enabled s) : Kept r s (exec s e) := by
  intro hr
  refine kept_admits.exec hen (fun n src lsu _ rs u hrun k hk => ?_) hr
  obtain ⟨rs', heap, hrun', -, -, hrs, -⟩ := newLsas_returns lsu.lsas s
  rw [hrun', Prod.mk.injEq, Except.ok.injEq] at hrun
  obtain ⟨rfl, -⟩ := hrun
  exact Nat.ne_of_gt (lt_of_lt_of_le hr (hrs k hk).1)

/-- **An LSA that is installed stays marked so.** -/
theorem installTime_of_installed {n : NbrRef} {areaId : IPv4Address} {s : Instance}
    (hr : r < s.heap.next) (h : verdict s areaId (s.heap.obj r) = .installed) :
    ((processReceivedLsa r n areaId s).2.heap.obj r).installTime = some s.now := by
  have hinst : ((s.installed areaId r).heap.obj r).installTime = some s.now := by
    rw [Instance.installed]
    dsimp only
    rw [LinkStateDatabase.obj_install, if_pos]
    · rfl
    · refine ⟨?_, rfl⟩
      rw [LinkStateDatabase.install_answer]
      exact decision_of_installed h
  have hlt : r < (s.installed areaId r).heap.next := by
    rw [Instance.installed]
    dsimp only
    rwa [LinkStateDatabase.next_install]
  rw [processReceivedLsa_eq, h]
  dsimp only
  have hkept : Eff.Within (Kept r) (do
      floodLsa r areaId (some n.intf)
      afterInstall r n areaId) :=
    Eff.Within.bind (kept_admits.toCarries.handles.flood r areaId _) fun _ =>
      kept_admits.toCarries.handles.afterInstall r n areaId
  rw [(hkept _ hlt).2]
  exact hinst

end Kept
end Ospfd
