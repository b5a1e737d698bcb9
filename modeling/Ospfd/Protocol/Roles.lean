import Ospfd.Protocol.Nesting

/-!
# The role of an interface

An interface elects a DR and a BDR in DROther, Backup and DR; in the other states it has none.

* `RoleStep` — what Hellos and timers do: nothing, or an election once it waited.
* `Forgotten` — an idle interface has no DR and BDR, and goes Down or into Loopback alone.
* `Permits` — the inputs that an interface gives up nothing for.
* `forgets_iff` — **a run forgets** exactly when all its inputs are permitted.
-/

namespace Ospfd

variable {i : IntfId} {s t u : Instance}

/-! ## Roles -/

/-- The states with elections. -/
def IntfState.Electing (st : IntfState) : Prop := st = .drOther ∨ st = .backup ∨ st = .dr

/-- State, DR and BDR of an interface stay. -/
structure KeepsRole (i : IntfId) (s t : Instance) : Prop where
  state : (t.intf i).state = (s.intf i).state
  dr : (t.intf i).dr = (s.intf i).dr
  bdr : (t.intf i).bdr = (s.intf i).bdr

/-- They stay, or an interface that waited or elects has elected. -/
def RoleStep (i : IntfId) (s t : Instance) : Prop :=
  KeepsRole i s t ∨
    ((s.intf i).state = .waiting ∨ (s.intf i).state.Electing) ∧ (t.intf i).state.Electing

namespace KeepsRole

theorem refl (s : Instance) : KeepsRole i s s := ⟨rfl, rfl, rfl⟩

theorem trans (h : KeepsRole i s t) (h' : KeepsRole i t u) : KeepsRole i s u :=
  ⟨h'.state.trans h.state, h'.dr.trans h.dr, h'.bdr.trans h.bdr⟩

instance : Std.Refl (KeepsRole i) := ⟨refl⟩

instance : IsTrans Instance (KeepsRole i) := ⟨fun _ _ _ => trans⟩

theorem of_intf (h : t.intf = s.intf) : KeepsRole i s t := ⟨by rw [h], by rw [h], by rw [h]⟩

theorem of_quiet (h : Quiet s t) : KeepsRole i s t := of_intf h.intf

end KeepsRole

namespace RoleStep

theorem trans (h : RoleStep i s t) (h' : RoleStep i t u) : RoleStep i s u := by
  rcases h with hk | ⟨hs, ht⟩
  · rcases h' with hk' | ⟨ht, hu⟩
    · exact .inl (hk.trans hk')
    · rw [hk.state] at ht
      exact .inr ⟨ht, hu⟩
  · rcases h' with hk' | ⟨-, hu⟩
    · rw [← hk'.state] at ht
      exact .inr ⟨hs, ht⟩
    · exact .inr ⟨hs, hu⟩

instance : Std.Refl (RoleStep i) := ⟨fun s => .inl (.refl s)⟩

instance : IsTrans Instance (RoleStep i) := ⟨fun _ _ _ => trans⟩

end RoleStep

/-- The interfaces of an instance stay as they are. -/
def SameIntfs (s t : Instance) : Prop := t.intf = s.intf

instance : Std.Refl SameIntfs := ⟨fun _ => rfl⟩

instance : IsTrans Instance SameIntfs := ⟨fun _ _ _ h h' => Eq.trans h' h⟩

/-! ## Events of neighbors -/

/-- What holds of quiet steps, and of changes to a neighbor that keep what it told, holds of its
actions. -/
theorem nbrAction_within {R : Instance → Instance → Prop} [Std.Refl R] [IsTrans Instance R] (n : NbrRef)
    (hquiet : ∀ s t, Quiet s t → R s t)
    (hset : ∀ s x, nbrCandidate x = nbrCandidate (s.nbr n) → R s (s.setNbr n x)) (action : NbrAction) :
    Eff.Within R (action.run n) := by
  have hmodify : ∀ f, (∀ x, nbrCandidate (f x) = nbrCandidate x) → Eff.Within R (modifyNbr n f) :=
    fun f hf => Eff.Within.modify fun s => hset s _ (hf _)
  have hsend : ∀ i pktType body dest, Eff.Within R (sendPacket i pktType body dest) :=
    fun i pktType body dest => (sendPacket_within i pktType body dest).mono hquiet
  have hstart : Eff.Within R (startDdExchange n) := by
    refine Eff.Within.bind (Eff.Within.modify fun s => ?_) fun _ => ?_
    · have hdrawn : Quiet s { s with drawn := s.drawn + 1 } := ⟨rfl, rfl, rfl, rfl, rfl, rfl, rfl⟩
      refine trans_of R (hquiet _ _ hdrawn) (hset { s with drawn := s.drawn + 1 } _ ?_)
      rfl
    · refine Eff.Within.bind ?_ fun _ => hmodify _ fun _ => rfl
      refine Eff.Within.read fun s => Eff.Within.bind (Eff.Within.lift _) fun body => ?_
      exact Eff.Within.bind (hsend _ _ _ _) fun _ => hmodify _ fun _ => rfl
  have henter : Eff.Within R (modifyNbr n (fun x => { x with state := .exStart }) >>= fun _ =>
      startDdExchange n) := Eff.Within.bind (hmodify _ fun _ => rfl) fun _ => hstart
  have hmismatch : Eff.Within R (seqNumMismatch n) :=
    Eff.Within.bind (hmodify _ fun _ => rfl) fun _ => hstart
  cases action with
  | helloReceivedDown => exact Eff.Within.modify fun s => hset s _ rfl
  | helloReceivedAny => exact Eff.Within.modify fun s => hset s _ rfl
  | start => exact Eff.Within.modify fun s => hset s _ rfl
  | negotiationDone => exact Eff.Within.modify fun s => hset s _ rfl
  | loadingDone => exact hmodify _ fun _ => rfl
  | oneWay => exact hmodify _ fun _ => rfl
  | seqNumMismatch => exact hmismatch
  | badLsReq => exact hmismatch
  | twoWayReceived => exact Eff.Within.read fun s => Eff.Within.ite henter (hmodify _ fun _ => rfl)
  | adjOk2Way => exact Eff.Within.read fun s => Eff.Within.when fun _ => henter
  | adjOkAdjformed => exact Eff.Within.read fun s => Eff.Within.when fun _ => hmodify _ fun _ => rfl
  | exchangeDone =>
    refine Eff.Within.read fun s => Eff.Within.ite ?_ (hmodify _ fun _ => rfl)
    refine Eff.Within.bind (hmodify _ fun _ => rfl) fun _ => Eff.Within.read fun t => ?_
    refine Eff.Within.when fun _ => Eff.Within.bind (Eff.Within.lift _) fun body => ?_
    exact Eff.Within.bind (hsend _ _ _ _) fun _ => hmodify _ fun _ => rfl

/-- The actions of a neighbor leave the interfaces alone. -/
theorem nbrAction_sameIntfs (n : NbrRef) (action : NbrAction) : Eff.Within SameIntfs (action.run n) :=
  nbrAction_within n (fun _ _ h => h.intf) (fun _ _ _ => rfl) action

/-! ## Elections -/

theorem electing_electedState (myAddr dr bdr : IPv4Address) : (electedState myAddr dr bdr).Electing := by
  rw [electedState]
  split
  · exact .inr (.inr rfl)
  · split
    · exact .inr (.inl rfl)
    · exact .inl rfl

/-- The interface has the outcome of its election. -/
theorem intf_runDrElection (i : IntfId) (s : Instance) :
    (runDrElection eventAlone i s).2.intf = (s.setIntf i (electedIntf s i)).intf := by
  rw [← runDrElection_dispatchNbr eventAlone, runDrElection_eq]
  by_cases hchg : (s.intf i).dr ≠ (electDrBdr s i).1 ∨ (s.intf i).bdr ≠ (electDrBdr s i).2
  · rw [Eff.when_pos hchg]
    exact intf_adjOkLoop eventAlone _ _
  · rw [Eff.when_neg hchg]
    rfl

theorem electing_runDrElection (i : IntfId) (s : Instance) :
    ((runDrElection eventAlone i s).2.intf i).state.Electing := by
  rw [intf_runDrElection, Instance.intf_setIntf_self]
  exact electing_electedState _ _ _

/-- Beyond its handler, an event of an interface is only scheduled. -/
theorem dispatchIntf_quiet (event : NbrRef → NbrEvent → Py Unit) (i : IntfId) (evt : IntfEvent)
    (s : Instance) :
    Quiet (handleIntf event i (s.intf i).state evt s).2 (dispatchIntf event i evt s).2 := by
  rw [dispatchIntf, Eff.get_bind_apply]
  refine Eff.bind_final (P := Quiet (handleIntf event i (s.intf i).state evt s).2) (.refl _) fun _ _ => ?_
  exact (Eff.Within.read (R := Quiet) fun t => Eff.Within.when fun _ => intfStateChanged_within i) _

/-- An event that at most elects, in a state with elections or while waiting. -/
theorem dispatchIntf_roleStep {evt : IntfEvent}
    (hevt : evt = .waitTimer ∨ evt = .backupSeen ∨ evt = .nbrChange) :
    Eff.Within (RoleStep i) (dispatchIntf eventAlone i evt) := by
  intro s
  refine RoleStep.trans ?_ (.inl (.of_quiet (dispatchIntf_quiet eventAlone i evt s)))
  have hidle : handleIntf eventAlone i (s.intf i).state evt = pure () →
      RoleStep i s (handleIntf eventAlone i (s.intf i).state evt s).2 := by
    intro h
    rw [h]
    exact .inl (.refl s)
  have helect : (s.intf i).state = .waiting ∨ (s.intf i).state.Electing →
      RoleStep i s (runDrElection eventAlone i s).2 := fun hs => .inr ⟨hs, electing_runDrElection i s⟩
  rcases hst : (s.intf i).state with _ | _ | _ | _ | _ | _ | _ <;>
    rw [hst] at hidle helect <;> rcases hevt with rfl | rfl | rfl <;>
    first
    | exact hidle rfl
    | exact helect (.inl rfl)
    | exact helect (.inr (.inl rfl))
    | exact helect (.inr (.inr (.inl rfl)))
    | exact helect (.inr (.inr (.inr rfl)))
    | exact .inr ⟨.inl hst, electing_runDrElection i _⟩

theorem neighborStateChanged_roleStep (n : NbrRef) (old : NbrState) :
    Eff.Within (RoleStep n.intf) (neighborStateChanged eventAlone n old) := by
  refine Eff.Within.read fun s => ?_
  refine Eff.Within.bind (Eff.Within.when fun _ => dispatchIntf_roleStep (.inr (.inr rfl))) fun _ => ?_
  exact (scheduleLsas_within n).mono fun _ _ h => Or.inl (KeepsRole.of_quiet h)

/-- What holds of steps that leave the interfaces alone, and of telling the interface, holds of an
event of a neighbor. -/
theorem nbrEvent_within {R : Instance → Instance → Prop} [Std.Refl R] [IsTrans Instance R] (n : NbrRef)
    (evt : NbrEvent) (hsame : ∀ s t, SameIntfs s t → R s t)
    (htell : ∀ old, Eff.Within R (neighborStateChanged eventAlone n old)) :
    Eff.Within R (nbrEvent n evt) := by
  rw [nbrEvent_alone]
  have hdown : Eff.Within R (goDown eventAlone n) := by
    refine Eff.Within.read fun s => ?_
    refine Eff.Within.bind (Eff.Within.modify fun s => hsame _ _ rfl) fun _ => ?_
    exact Eff.Within.when fun _ => htell _
  have hhandle : ∀ old, Eff.Within R (handleNbr eventAlone n old evt) := by
    intro old
    rw [handleNbr]
    split
    · exact (nbrAction_sameIntfs n _).mono hsame
    · exact Eff.Within.when fun _ => hdown
  refine Eff.Within.bind (Eff.Within.modify fun s => hsame _ _ rfl) fun _ => ?_
  refine Eff.Within.read fun s => Eff.Within.bind (hhandle _) fun _ => ?_
  exact Eff.Within.read fun t => Eff.Within.when fun _ => htell _

/-- **What an event of a neighbor does to the role of its interface.** -/
theorem nbrEvent_roleStep (n : NbrRef) (evt : NbrEvent) : Eff.Within (RoleStep n.intf) (nbrEvent n evt) :=
  nbrEvent_within n evt (fun _ _ h => .inl (.of_intf h)) fun _ => neighborStateChanged_roleStep n _

/-! ## Hellos -/

theorem intfEvent_roleStep {evt : IntfEvent} (hevt : evt = .waitTimer ∨ evt = .backupSeen ∨ evt = .nbrChange) :
    Eff.Within (RoleStep i) (intfEvent i evt) := by
  rw [intfEvent_alone]
  exact dispatchIntf_roleStep hevt

theorem helloTwoWay_roleStep (n : NbrRef) (hello : HelloPacket) :
    Eff.Within (RoleStep n.intf) (helloTwoWay n hello) := by
  refine Eff.Within.read fun s => ?_
  split
  · exact Eff.Within.when fun _ => nbrEvent_roleStep n _
  · exact Eff.Within.when fun _ => nbrEvent_roleStep n _

theorem findOrCreate_keepsRole (i : IntfId) (src routerId : IPv4Address) :
    Eff.Within (KeepsRole i) (findOrCreate i src routerId) := by
  refine Eff.Within.read fun s => ?_
  split
  · exact Eff.Within.pure _
  · split
    · exact Eff.Within.pure _
    · refine Eff.Within.bind (Eff.Within.modify fun s => ?_) fun _ => Eff.Within.pure _
      refine ⟨?_, ?_, ?_⟩ <;> rw [Instance.intf_setIntf_self]

/-- **What a Hello does to the role of its interface.** -/
theorem processHello_roleStep (i : IntfId) (hello : HelloPacket) (src routerId : IPv4Address) :
    Eff.Within (RoleStep i) (processHello i hello src routerId) := by
  refine Eff.Within.read fun s => Eff.Within.when fun _ => ?_
  refine Eff.Within.bind ((findOrCreate_keepsRole i src routerId).mono fun _ _ => Or.inl) fun _ => ?_
  refine Eff.Within.when fun _ => Eff.Within.read fun s => ?_
  refine Eff.Within.bind (Eff.Within.modify fun s => Or.inl ⟨rfl, rfl, rfl⟩) fun _ => ?_
  refine Eff.Within.bind (nbrEvent_roleStep ⟨i, routerId⟩ _) fun _ => ?_
  refine Eff.Within.bind (helloTwoWay_roleStep ⟨i, routerId⟩ hello) fun _ => ?_
  refine Eff.Within.read fun s => ?_
  refine Eff.Within.bind (Eff.Within.when fun _ => intfEvent_roleStep (.inr (.inl rfl))) fun _ => ?_
  exact Eff.Within.read fun s => Eff.Within.when fun _ => intfEvent_roleStep (.inr (.inr rfl))

/-! ## Runs -/

/-- What an interface is given: an event, or a Hello. -/
inductive IntfInput where
  | event (evt : IntfEvent)
  | hello (packet : HelloPacket) (src routerId : IPv4Address)

/-- The state after an input. -/
def IntfInput.after (i : IntfId) (s : Instance) : IntfInput → Instance
  | .event evt => (intfEvent i evt s).2
  | .hello packet src routerId => (processHello i packet src routerId s).2

/-- What holds of each input of a run, in the state in which it arrives. -/
def Along (P : Instance → IntfInput → Prop) (i : IntfId) : Instance → List IntfInput → Prop
  | _, [] => True
  | s, x :: xs => P s x ∧ Along P i (x.after i s) xs

/-- Without elections there are no DR and BDR. -/
def NoRoles (i : IntfId) (t : Instance) : Prop :=
  ¬(t.intf i).state.Electing → (t.intf i).dr = zeroAddr ∧ (t.intf i).bdr = zeroAddr

/-- All neighbors of the interface are Down. -/
def AllDown (i : IntfId) (t : Instance) : Prop := ∀ n ∈ t.neighborsOf i, (t.nbr n).state = .down

/-- **The network is forgotten** from one state to the next: without elections there are no DR and
BDR, and whoever enters Down or Loopback has no neighbor above Down. -/
structure Forgotten (i : IntfId) (s t : Instance) : Prop where
  roles : NoRoles i t
  alone : (t.intf i).state = .down ∨ (t.intf i).state = .loopback →
    (s.intf i).state ≠ (t.intf i).state → AllDown i t

/-- The inputs that leave nothing behind: LoopInd has to find neither roles nor neighbors, and
UnloopInd and InterfaceUp of a passive interface no neighbors. -/
def Permits (i : IntfId) (s : Instance) : IntfInput → Prop
  | .event .loopInd => (s.intf i).state ≠ .loopback →
      (s.intf i).dr = zeroAddr ∧ (s.intf i).bdr = zeroAddr ∧ AllDown i s
  | .event .unloopInd => (s.intf i).state = .loopback → AllDown i s
  | .event .ifUp => (s.intf i).state = .down → (s.intf i).passive = true → AllDown i s
  | _ => True

theorem RoleStep.forgotten (h : RoleStep i s t) (hs : NoRoles i s) : Forgotten i s t := by
  rcases h with hk | ⟨-, ht⟩
  · refine ⟨fun hidle => ?_, fun _ hne => absurd hk.state.symm hne⟩
    rw [hk.state] at hidle
    rw [hk.dr, hk.bdr]
    exact hs hidle
  · refine ⟨fun hidle => absurd ht hidle, fun hst _ => ?_⟩
    rcases hst with hst | hst <;> rw [hst] at ht <;> rcases ht with ht | ht | ht <;> cases ht

/-- What is only sent or scheduled does not matter. -/
theorem Quiet.forgotten_iff (h : Quiet t u) : Forgotten i s u ↔ Forgotten i s t := by
  have hroles : NoRoles i u ↔ NoRoles i t := by rw [NoRoles, NoRoles, h.intf]
  have halone : AllDown i u ↔ AllDown i t := by rw [AllDown, AllDown, h.neighborsOf, h.nbr]
  constructor
  · rintro ⟨hr, ha⟩
    rw [h.intf] at ha
    exact ⟨hroles.1 hr, fun hst hne => halone.1 (ha hst hne)⟩
  · rintro ⟨hr, ha⟩
    rw [← h.intf] at ha
    exact ⟨hroles.2 hr, fun hst hne => halone.2 (ha hst hne)⟩

theorem allDown_setIntf {x : OspfInterface} (hx : x.neighbors = (s.intf i).neighbors) :
    AllDown i (s.setIntf i x) ↔ AllDown i s := by
  have hns : (s.setIntf i x).neighborsOf i = s.neighborsOf i := by
    rw [Instance.neighborsOf, Instance.neighborsOf, Instance.intf_setIntf_self, hx]
  rw [AllDown, AllDown, hns]
  rfl

/-- Another state of the interface, entered with its roles and neighbors. -/
theorem forgotten_setIntf_iff {x : OspfInterface} (hx : x.neighbors = (s.intf i).neighbors)
    (hst : x.state = .down ∨ x.state = .loopback) (hne : (s.intf i).state ≠ x.state) :
    Forgotten i s (s.setIntf i x) ↔ x.dr = zeroAddr ∧ x.bdr = zeroAddr ∧ AllDown i s := by
  have hidle : ¬x.state.Electing := by
    rintro (h | h | h) <;> rw [h] at hst <;> rcases hst with hst | hst <;> cases hst
  constructor
  · rintro ⟨hr, ha⟩
    rw [NoRoles, Instance.intf_setIntf_self] at hr
    rw [Instance.intf_setIntf_self, allDown_setIntf hx] at ha
    exact ⟨(hr hidle).1, (hr hidle).2, ha hst hne⟩
  · rintro ⟨hdr, hbdr, ha⟩
    refine ⟨fun _ => ?_, fun _ _ => (allDown_setIntf hx).2 ha⟩
    rw [Instance.intf_setIntf_self]
    exact ⟨hdr, hbdr⟩

/-! ## Interface events -/

/-- An event that the table does not have is ignored. -/
theorem forgotten_of_idle {evt : IntfEvent} (h : intfFsm (s.intf i).state evt = none) (hs : NoRoles i s) :
    Forgotten i s (intfEvent i evt s).2 := by
  have hh : handleIntf eventAlone i (s.intf i).state evt s = (.ok (), s) := by
    rw [handleIntf, h]
    rfl
  have hquiet := dispatchIntf_quiet eventAlone i evt s
  rw [hh] at hquiet
  rw [intfEvent_alone, hquiet.forgotten_iff]
  exact RoleStep.forgotten (.inl (.refl s)) hs

/-- What an event does that the table has. -/
theorem forgotten_event_iff {evt : IntfEvent} {action : IntfAction}
    (h : intfFsm (s.intf i).state evt = some action) :
    Forgotten i s (intfEvent i evt s).2 ↔ Forgotten i s (action.run eventAlone i s).2 := by
  have hquiet := dispatchIntf_quiet eventAlone i evt s
  rw [handleIntf, h] at hquiet
  rw [intfEvent_alone, hquiet.forgotten_iff]

/-- An interface that came up: its roles are as they were, or elected. -/
structure Raised (i : IntfId) (s t : Instance) : Prop where
  notDown : (t.intf i).state ≠ .down
  notLoopback : (t.intf i).state ≠ .loopback
  roles : ¬(t.intf i).state.Electing → (t.intf i).dr = (s.intf i).dr ∧ (t.intf i).bdr = (s.intf i).bdr

theorem Raised.keeps (h : Raised i s t) (hk : KeepsRole i t u) : Raised i s u := by
  refine ⟨by rw [hk.state]; exact h.notDown, by rw [hk.state]; exact h.notLoopback, fun hidle => ?_⟩
  rw [hk.dr, hk.bdr]
  rw [hk.state] at hidle
  exact h.roles hidle

theorem IntfState.Electing.ne_down {st : IntfState} (h : st.Electing) : st ≠ .down ∧ st ≠ .loopback := by
  rcases h with rfl | rfl | rfl <;> exact ⟨by decide, by decide⟩

/-- An interface that has elected came up. -/
theorem raised_runDrElection (s u : Instance) : Raised i s (runDrElection eventAlone i u).2 := by
  have helect := electing_runDrElection i u
  exact ⟨helect.ne_down.1, helect.ne_down.2, fun hidle => absurd helect hidle⟩

theorem startHello_keepsRole (i : IntfId) : Eff.Within (KeepsRole i) (startHello i) := by
  refine Eff.Within.bind (Eff.Within.modify fun s => ?_) fun _ =>
    (sendHello_within i).mono fun _ _ => .of_quiet
  refine ⟨?_, ?_, ?_⟩ <;> rw [Instance.intf_setIntf_self]

/-- InterfaceUp of an interface that is not passive. -/
theorem raised_ifUp (h : (s.intf i).passive = false) :
    Raised i s (IntfAction.ifUp.run eventAlone i s).2 := by
  have hset : ∀ st, st ≠ .down → st ≠ .loopback → Raised i s (s.setIntf i { s.intf i with state := st }) := by
    intro st hdown hloop
    refine ⟨?_, ?_, fun _ => ⟨?_, ?_⟩⟩ <;> rw [Instance.intf_setIntf_self]
    · exact hdown
    · exact hloop
  have hhello : ∀ u, Raised i s u → Raised i s (startHello i u).2 := fun u hu =>
    hu.keeps (startHello_keepsRole i u)
  have hpassive : ¬(s.intf i).passive = true := by simp [h]
  rw [IntfAction.run, Eff.get_bind_apply, if_neg hpassive]
  by_cases hmulti : (s.intf i).intfType.isMultiAccess = true
  · rw [if_pos hmulti]
    by_cases hprio : (s.intf i).priority = 0
    · rw [if_pos hprio]
      refine Eff.bind_final (P := Raised i s) (hset .drOther (by decide) (by decide)) fun _ _ => ?_
      refine Eff.bind_final (P := Raised i s) (hhello _ (hset .drOther (by decide) (by decide))) fun _ _ => ?_
      exact raised_runDrElection s _
    · rw [if_neg hprio]
      refine Eff.bind_final (P := Raised i s) (hset .waiting (by decide) (by decide)) fun _ _ => ?_
      refine Eff.bind_final (P := Raised i s) (hhello _ (hset .waiting (by decide) (by decide))) fun _ _ => ?_
      refine (hhello _ (hset .waiting (by decide) (by decide))).keeps ⟨?_, ?_, ?_⟩ <;>
        rw [Eff.modify_apply, Instance.intf_setIntf_self] <;> rfl
  · rw [if_neg hmulti]
    refine Eff.bind_final (P := Raised i s) (hset .p2p (by decide) (by decide)) fun _ _ => ?_
    exact hhello _ (hset .p2p (by decide) (by decide))

/-- After InterfaceDown the interface is Down, without roles and neighbors. -/
theorem intf_ifDown (i : IntfId) (s : Instance) : (IntfAction.ifDown.run eventAlone i s).2.intf i =
    { { s.intf i with state := .down }.stopAll with neighbors := [], dr := zeroAddr, bdr := zeroAddr } := by
  let u : Instance := s.setIntf i { s.intf i with state := .down }.stopAll
  have hloop : ∃ t, Eff.Runs (Eff.forEach (u.neighborsOf i) fun n => eventAlone n .killNbr) u () t ∧
      t.intf = u.intf :=
    Eff.Runs.forEach_returns (I := fun v : Instance => v.intf = u.intf) rfl fun n _ v hv => by
      obtain ⟨w, hw, hintf⟩ := eventAlone_killNbr n v
      exact ⟨w, hw, hintf.trans hv⟩
  obtain ⟨t, ht, hintf⟩ := hloop
  have hrun : IntfAction.ifDown.run eventAlone i s =
      (Eff.forEach (u.neighborsOf i) (fun n => eventAlone n .killNbr) >>= fun _ =>
        modifyIntf i fun x => { x with neighbors := [], dr := zeroAddr, bdr := zeroAddr }) u := rfl
  rw [hrun, Eff.bind_apply_ok ht, modifyIntf_apply, Instance.intf_setIntf_self, hintf,
    Instance.intf_setIntf_self]

/-! ## What is forgotten -/

theorem forgotten_loopInd_iff (hs : NoRoles i s) :
    Forgotten i s (intfEvent i .loopInd s).2 ↔ Permits i s (.event .loopInd) := by
  by_cases hst : (s.intf i).state = .loopback
  · have hidle : Forgotten i s (intfEvent i .loopInd s).2 := forgotten_of_idle (by rw [hst]; rfl) hs
    exact ⟨fun _ hne => absurd hst hne, fun _ => hidle⟩
  · have hfsm : intfFsm (s.intf i).state .loopInd = some .loopInd := by
      cases h : (s.intf i).state <;> first | rfl | exact absurd h hst
    have hset := forgotten_setIntf_iff (i := i) (s := s)
      (x := { s.intf i with state := .loopback }.stopAll) rfl (.inr rfl) hst
    rw [forgotten_event_iff hfsm]
    exact hset.trans ⟨fun h _ => h, fun h => h hst⟩

theorem forgotten_unloopInd_iff (hs : NoRoles i s) :
    Forgotten i s (intfEvent i .unloopInd s).2 ↔ Permits i s (.event .unloopInd) := by
  by_cases hst : (s.intf i).state = .loopback
  · have hidle : ¬(s.intf i).state.Electing := fun h => h.ne_down.2 hst
    have hne : IntfState.loopback ≠ .down := by decide
    have hset := forgotten_setIntf_iff (i := i) (s := s) (x := { s.intf i with state := .down }) rfl
      (.inl rfl) (by rw [hst]; exact hne)
    rw [forgotten_event_iff (by rw [hst]; rfl)]
    exact hset.trans ⟨fun h _ => h.2.2, fun h => ⟨(hs hidle).1, (hs hidle).2, h hst⟩⟩
  · have hfsm : intfFsm (s.intf i).state .unloopInd = none := by
      cases h : (s.intf i).state <;> first | rfl | exact absurd h hst
    exact ⟨fun _ heq => absurd heq hst, fun _ => forgotten_of_idle hfsm hs⟩

theorem forgotten_ifUp_iff (hs : NoRoles i s) :
    Forgotten i s (intfEvent i .ifUp s).2 ↔ Permits i s (.event .ifUp) := by
  by_cases hst : (s.intf i).state = .down
  · have hidle : ¬(s.intf i).state.Electing := fun h => h.ne_down.1 hst
    rw [forgotten_event_iff (by rw [hst]; rfl)]
    cases hpassive : (s.intf i).passive with
    | true =>
      have hne : IntfState.down ≠ .loopback := by decide
      have hset := forgotten_setIntf_iff (i := i) (s := s) (x := { s.intf i with state := .loopback }) rfl
        (.inr rfl) (by rw [hst]; exact hne)
      have hrun : (IntfAction.ifUp.run eventAlone i s).2 = s.setIntf i { s.intf i with state := .loopback } := by
        rw [IntfAction.run, Eff.get_bind_apply, if_pos hpassive, modifyIntf_apply]
      rw [hrun]
      exact hset.trans ⟨fun h _ _ => h.2.2, fun h => ⟨(hs hidle).1, (hs hidle).2, h hst hpassive⟩⟩
    | false =>
      obtain ⟨hdown, hloop, hroles⟩ := raised_ifUp hpassive
      have hforgotten : Forgotten i s (IntfAction.ifUp.run eventAlone i s).2 := by
        refine ⟨fun hnew => ?_, fun hnew _ => ?_⟩
        · rw [(hroles hnew).1, (hroles hnew).2]
          exact hs hidle
        · rcases hnew with hnew | hnew
          · exact absurd hnew hdown
          · exact absurd hnew hloop
      refine ⟨fun _ _ htrue => ?_, fun _ => hforgotten⟩
      rw [hpassive] at htrue
      cases htrue
  · have hfsm : intfFsm (s.intf i).state .ifUp = none := by
      cases h : (s.intf i).state <;> first | rfl | exact absurd h hst
    exact ⟨fun _ heq => absurd heq hst, fun _ => forgotten_of_idle hfsm hs⟩

theorem forgotten_ifDown (hs : NoRoles i s) : Forgotten i s (intfEvent i .ifDown s).2 := by
  by_cases hst : (s.intf i).state = .down
  · exact forgotten_of_idle (by rw [hst]; rfl) hs
  · have hfsm : intfFsm (s.intf i).state .ifDown = some .ifDown := by
      cases h : (s.intf i).state <;> first | rfl | exact absurd h hst
    have hintf := intf_ifDown i s
    rw [forgotten_event_iff hfsm]
    refine ⟨fun _ => by rw [hintf]; exact ⟨rfl, rfl⟩, fun _ _ n hn => ?_⟩
    rw [Instance.neighborsOf, hintf] at hn
    cases hn

/-- **Each step forgets exactly when its input is permitted.** -/
theorem forgotten_after_iff (hs : NoRoles i s) (x : IntfInput) :
    Forgotten i s (x.after i s) ↔ Permits i s x := by
  cases x with
  | hello packet src routerId =>
    exact ⟨fun _ => trivial, fun _ => (processHello_roleStep i packet src routerId s).forgotten hs⟩
  | event evt =>
    cases evt with
    | ifUp => exact forgotten_ifUp_iff hs
    | waitTimer => exact ⟨fun _ => trivial, fun _ => (intfEvent_roleStep (.inl rfl) s).forgotten hs⟩
    | backupSeen => exact ⟨fun _ => trivial, fun _ => (intfEvent_roleStep (.inr (.inl rfl)) s).forgotten hs⟩
    | nbrChange => exact ⟨fun _ => trivial, fun _ => (intfEvent_roleStep (.inr (.inr rfl)) s).forgotten hs⟩
    | loopInd => exact forgotten_loopInd_iff hs
    | unloopInd => exact forgotten_unloopInd_iff hs
    | ifDown => exact ⟨fun _ => trivial, fun _ => forgotten_ifDown hs⟩

theorem along_forgotten_iff (xs : List IntfInput) (hs : NoRoles i s) :
    Along (fun s x => Forgotten i s (x.after i s)) i s xs ↔ Along (Permits i) i s xs := by
  induction xs generalizing s with
  | nil => exact Iff.rfl
  | cons x xs ih =>
    have hstep := forgotten_after_iff hs x
    constructor
    · rintro ⟨hx, hxs⟩
      exact ⟨hstep.1 hx, (ih hx.roles).1 hxs⟩
    · rintro ⟨hx, hxs⟩
      exact ⟨hstep.2 hx, (ih (hstep.2 hx).roles).2 hxs⟩

/-- **A run from Down forgets the network** exactly when all its inputs are permitted. -/
theorem forgets_iff (xs : List IntfInput) (hdr : (s.intf i).dr = zeroAddr) (hbdr : (s.intf i).bdr = zeroAddr) :
    Along (fun s x => Forgotten i s (x.after i s)) i s xs ↔ Along (Permits i) i s xs :=
  along_forgotten_iff xs fun _ => ⟨hdr, hbdr⟩

/-! ### A designated router in Loopback -/

/-- A router with one broadcast interface, not up yet. -/
def loneBroadcast : Instance :=
  Instance.init 1 Dict.empty (fun _ => down) zeroMd5 (fun _ => 0) 0
where
  down : OspfInterface :=
    { intfType := .broadcast, cost := 10, priority := 1, helloInterval := 10, deadInterval := 40,
      passive := false, authType := .none, authKey := [], authKeyId := 0, areaId := 0,
      ipAddr := 167772161, ipMask := 4294967040, mtu := 1500, mtu_lt := ethernetMtu_lt, ifIndex := 1,
      socket := true }

/-- The wait timer makes it the designated router, which it still is in Loopback. -/
theorem not_forgets : ¬∀ (s : Instance) (i : IntfId) (xs : List IntfInput), (s.intf i).state = .down →
    (s.intf i).dr = zeroAddr → (s.intf i).bdr = zeroAddr →
      Along (fun s x => Forgotten i s (x.after i s)) i s xs := by
  intro h
  let t : Instance := ([.event .ifUp, .event .waitTimer, .event .loopInd] : List IntfInput).foldl
    (fun s x => x.after 0 s) loneBroadcast
  have hrun : (t.intf 0).state = .loopback ∧ (t.intf 0).dr = 167772161 := by decide +kernel
  obtain ⟨-, -, hloop, -⟩ :=
    h loneBroadcast 0 [.event .ifUp, .event .waitTimer, .event .loopInd] rfl rfl rfl
  have hdr : (t.intf 0).dr = 0 := (hloop.roles fun helect => helect.ne_down.2 hrun.1).1
  rw [hrun.2] at hdr
  exact absurd hdr (by decide)

theorem forgets_loneBroadcast : Along (fun s x => Forgotten 0 s (x.after 0 s)) 0 loneBroadcast
    [.event .ifUp, .event .waitTimer, .event .ifDown] :=
  (forgets_iff (i := 0) [.event .ifUp, .event .waitTimer, .event .ifDown] rfl rfl).2
    ⟨fun _ hpassive => absurd hpassive (by decide), trivial, trivial, trivial⟩

end Ospfd
