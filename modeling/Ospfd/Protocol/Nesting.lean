import Ospfd.Protocol.Dispatch

/-!
# How deep events nest

An event of a neighbor may start an election, and the election gives events to neighbors.

* `eventAlone` — an event of a neighbor that the interface does not react to.
* `dispatchNbr_adjOk` — **AdjOK? starts no election**: it never crosses 2-Way.
* `dispatchNbr_killNbr` — nor does KillNbr once the interface is Down.
* `dispatch_ends` — so events nest at most once, whatever lies below.
-/

namespace Ospfd

/-! ## Events without the interface -/

/-- The scheduling of LSAs that a change of a neighbor's state ends with. -/
def scheduleLsas (n : NbrRef) : Py Unit := do
  let s ← Eff.get
  scheduleRouterLsa (s.intf n.intf).areaId
  Eff.when ((s.intf n.intf).state = .dr) (scheduleNetworkLsa n.intf)

/-- `_go_down`, with LSAs scheduled and nothing else. -/
def goDownAlone (n : NbrRef) : Py Unit := do
  let s ← Eff.get
  let old := (s.nbr n).state
  modifyNbr n OspfNeighbor.goneDown
  Eff.when (old ≠ .down) (scheduleLsas n)

/-- The handler of a neighbor event, with LSAs scheduled and nothing else. -/
def handleAlone (n : NbrRef) (old : NbrState) (evt : NbrEvent) : Py Unit :=
  match nbrFsm old evt with
  | some action => action.run n
  | none => Eff.when evt.isReset (goDownAlone n)

/-- An event of a neighbor, with LSAs scheduled and nothing else. -/
def eventAlone (n : NbrRef) (evt : NbrEvent) : Py Unit := do
  Eff.modify fun s => { s with trace := s.trace ++ [(n, evt)] }
  let s ← Eff.get
  let old := (s.nbr n).state
  handleAlone n old evt
  let s ← Eff.get
  Eff.when ((s.nbr n).state ≠ old) (scheduleLsas n)

theorem scheduleLsas_within (n : NbrRef) : Eff.Within Quiet (scheduleLsas n) := by
  refine Eff.Within.read fun s => Eff.Within.bind (scheduleRouterLsa_within _) fun _ => ?_
  exact Eff.Within.when fun _ => scheduleNetworkLsa_within _

theorem scheduleLsas_returns (n : NbrRef) (s : Instance) :
    ∃ t, scheduleLsas n s = (.ok (), t) ∧ Quiet s t := by
  refine ⟨(scheduleLsas n s).2, Prod.ext ?_ rfl, scheduleLsas_within n s⟩
  rw [scheduleLsas, Eff.get_bind_apply, scheduleRouterLsa, Eff.modify_bind_apply]
  by_cases hdr : (s.intf n.intf).state = .dr
  · rw [Eff.when_pos hdr]
    rfl
  · rw [Eff.when_neg hdr]
    rfl

section

variable (event : NbrRef → NbrEvent → Py Unit) {n : NbrRef} {s : Instance}

/-- A change that does not cross 2-Way is only scheduled. -/
theorem neighborStateChanged_of_not_crosses {old : NbrState}
    (h : crossesTwoWay old (s.nbr n).state = false) :
    neighborStateChanged event n old s = scheduleLsas n s := by
  rw [neighborStateChanged, Eff.get_bind_apply, Eff.when_neg (by simp [h]), Eff.pure_bind_apply]
  rfl

/-- An event that the table does not have is ignored. -/
theorem dispatchIntf_idle {i : IntfId} {evt : IntfEvent} (h : intfFsm (s.intf i).state evt = none) :
    dispatchIntf event i evt s = (.ok (), s) := by
  have hh : handleIntf event i (s.intf i).state evt = pure () := by
    rw [handleIntf, h]
  rw [dispatchIntf, Eff.get_bind_apply, hh, Eff.pure_bind_apply, Eff.get_bind_apply,
    Eff.when_neg (not_not.2 rfl)]
  rfl

/-- NeighborChange does nothing while the interface is Down. -/
theorem dispatchIntf_nbrChange_down {i : IntfId} (h : (s.intf i).state = .down) :
    dispatchIntf event i .nbrChange s = (.ok (), s) := by
  refine dispatchIntf_idle event ?_
  rw [h]
  rfl

/-- While the interface is Down, every change is only scheduled. -/
theorem neighborStateChanged_of_down (h : (s.intf n.intf).state = .down) (old : NbrState) :
    neighborStateChanged event n old s = scheduleLsas n s := by
  rw [neighborStateChanged, Eff.get_bind_apply]
  by_cases hc : (s.intf n.intf).intfType.isMultiAccess ∧ crossesTwoWay old (s.nbr n).state
  · rw [Eff.when_pos hc, Eff.bind_apply_ok (dispatchIntf_nbrChange_down event h)]
    rfl
  · rw [Eff.when_neg hc, Eff.pure_bind_apply]
    rfl

/-- Handlers of events that do not bring the neighbor down give no event themselves. -/
theorem handleNbr_of_not_reset {old : NbrState} {evt : NbrEvent} (h : evt.isReset = false) :
    handleNbr event n old evt = handleAlone n old evt := by
  rw [handleNbr, handleAlone]
  cases nbrFsm old evt with
  | some action => rfl
  | none => rw [h, Eff.when_neg Bool.false_ne_true, Eff.when_neg Bool.false_ne_true]

theorem dispatchNbr_eq (evt : NbrEvent) : dispatchNbr event n evt s =
    (handleNbr event n (s.nbr n).state evt >>= fun _ => Eff.get >>= fun t : Instance =>
      Eff.when ((t.nbr n).state ≠ (s.nbr n).state) (neighborStateChanged event n (s.nbr n).state))
      (s.traced n evt) := rfl

theorem eventAlone_eq (evt : NbrEvent) : eventAlone n evt s =
    (handleAlone n (s.nbr n).state evt >>= fun _ => Eff.get >>= fun t : Instance =>
      Eff.when ((t.nbr n).state ≠ (s.nbr n).state) (scheduleLsas n)) (s.traced n evt) := rfl

/-- **AdjOK? starts no election**: a bidirectional neighbor stays so. -/
theorem dispatchNbr_adjOk (h : .twoWay ≤ (s.nbr n).state) :
    dispatchNbr event n .adjOk s = eventAlone n .adjOk s := by
  obtain ⟨x, t, hrun, -, hq, hx⟩ := handleNbr_adjOk event n h
  have halone : handleAlone n (s.nbr n).state .adjOk (s.traced n .adjOk) = (.ok (), t) := by
    rw [← hrun, handleNbr_of_not_reset event rfl]
  have hcross : crossesTwoWay (s.nbr n).state (t.nbr n).state = false := by
    rw [hq.nbr, Instance.nbr_setNbr_self]
    exact crossesTwoWay_eq_false ⟨fun _ => hx, fun _ => h⟩
  rw [dispatchNbr_eq, eventAlone_eq, Eff.bind_apply_ok hrun, Eff.bind_apply_ok halone, Eff.get_bind_apply,
    Eff.get_bind_apply]
  by_cases hne : (t.nbr n).state ≠ (s.nbr n).state
  · rw [Eff.when_pos hne, Eff.when_pos hne, neighborStateChanged_of_not_crosses event hcross]
  · rw [Eff.when_neg hne, Eff.when_neg hne]

/-- It changes no interface. -/
theorem intf_adjOk (h : .twoWay ≤ (s.nbr n).state) : (eventAlone n .adjOk s).2.intf = s.intf := by
  obtain ⟨x, t, ht, -, hq⟩ := nbrEvent_adjOk 0 n h
  rw [← dispatchNbr_adjOk (nbrEventDepth 0) h]
  exact (congrArg (fun r => r.2.intf) ht).trans hq.intf

theorem goDown_of_down (h : (s.intf n.intf).state = .down) : goDown event n s = goDownAlone n s := by
  change Eff.when ((s.nbr n).state ≠ .down) (neighborStateChanged event n (s.nbr n).state)
      (s.setNbr n (s.nbr n).goneDown) =
    Eff.when ((s.nbr n).state ≠ .down) (scheduleLsas n) (s.setNbr n (s.nbr n).goneDown)
  by_cases hne : (s.nbr n).state ≠ .down
  · rw [Eff.when_pos hne, Eff.when_pos hne,
      neighborStateChanged_of_down (s := s.setNbr n (s.nbr n).goneDown) event h]
  · rw [Eff.when_neg hne, Eff.when_neg hne]

theorem goDownAlone_returns (n : NbrRef) (s : Instance) :
    ∃ t, goDownAlone n s = (.ok (), t) ∧ t.intf = s.intf := by
  have hrun : goDownAlone n s = Eff.when ((s.nbr n).state ≠ .down) (scheduleLsas n)
      (s.setNbr n (s.nbr n).goneDown) := rfl
  rw [hrun]
  by_cases hne : (s.nbr n).state ≠ .down
  · rw [Eff.when_pos hne]
    obtain ⟨t, ht, hq⟩ := scheduleLsas_returns n (s.setNbr n (s.nbr n).goneDown)
    exact ⟨t, ht, hq.intf⟩
  · rw [Eff.when_neg hne]
    exact ⟨_, rfl, rfl⟩

/-- KillNbr always returns, and by itself changes no interface. -/
theorem eventAlone_killNbr (n : NbrRef) (s : Instance) :
    ∃ t, eventAlone n .killNbr s = (.ok (), t) ∧ t.intf = s.intf := by
  obtain ⟨t, ht, hintf⟩ := goDownAlone_returns n (s.traced n .killNbr)
  have hh : handleAlone n (s.nbr n).state .killNbr (s.traced n .killNbr) = (.ok (), t) := by
    rw [handleAlone, nbrFsm_of_isReset rfl]
    exact ht
  rw [eventAlone_eq, Eff.bind_apply_ok hh, Eff.get_bind_apply]
  by_cases hne : (t.nbr n).state ≠ (s.nbr n).state
  · rw [Eff.when_pos hne]
    obtain ⟨u, hu, hq⟩ := scheduleLsas_returns n t
    exact ⟨u, hu, hq.intf.trans hintf⟩
  · rw [Eff.when_neg hne]
    exact ⟨t, rfl, hintf⟩

/-- KillNbr starts no election while the interface is Down. -/
theorem dispatchNbr_killNbr (h : (s.intf n.intf).state = .down) :
    dispatchNbr event n .killNbr s = eventAlone n .killNbr s := by
  obtain ⟨t, ht, hintf⟩ := goDownAlone_returns n (s.traced n .killNbr)
  have hfsm : nbrFsm (s.nbr n).state .killNbr = none := nbrFsm_of_isReset rfl _
  have halone : handleAlone n (s.nbr n).state .killNbr (s.traced n .killNbr) = (.ok (), t) := by
    rw [handleAlone, hfsm]
    exact ht
  have hh : handleNbr event n (s.nbr n).state .killNbr (s.traced n .killNbr) = (.ok (), t) := by
    rw [handleNbr, hfsm]
    exact (goDown_of_down (s := s.traced n .killNbr) event h).trans ht
  rw [dispatchNbr_eq, eventAlone_eq, Eff.bind_apply_ok hh, Eff.bind_apply_ok halone, Eff.get_bind_apply,
    Eff.get_bind_apply]
  by_cases hne : (t.nbr n).state ≠ (s.nbr n).state
  · rw [Eff.when_pos hne, Eff.when_pos hne, neighborStateChanged_of_down event (by rw [hintf]; exact h)]
  · rw [Eff.when_neg hne, Eff.when_neg hne]

/-! ## Two levels -/

/-- The loop of an election over the neighbors. -/
def adjOkLoop (ns : List NbrRef) : Py Unit :=
  Eff.forEach ns fun n => do
    let s ← Eff.get
    Eff.when (NbrState.twoWay ≤ (s.nbr n).state) (event n .adjOk)

theorem runDrElection_eq (i : IntfId) : runDrElection event i s =
    Eff.when ((s.intf i).dr ≠ (electDrBdr s i).1 ∨ (s.intf i).bdr ≠ (electDrBdr s i).2)
      (adjOkLoop event (s.neighborsOf i)) (s.setIntf i (electedIntf s i)) := rfl

theorem adjOkLoop_dispatchNbr (ns : List NbrRef) :
    adjOkLoop (dispatchNbr event) ns = adjOkLoop eventAlone ns := by
  have hbody : (fun n : NbrRef => (Eff.get >>= fun s : Instance =>
        Eff.when (NbrState.twoWay ≤ (s.nbr n).state) (dispatchNbr event n .adjOk) : Py Unit)) =
      fun n => Eff.get >>= fun s : Instance =>
        Eff.when (NbrState.twoWay ≤ (s.nbr n).state) (eventAlone n .adjOk) := by
    funext n s
    rw [Eff.get_bind_apply, Eff.get_bind_apply]
    by_cases h : .twoWay ≤ (s.nbr n).state
    · rw [Eff.when_pos h, Eff.when_pos h, dispatchNbr_adjOk event h]
    · rw [Eff.when_neg h, Eff.when_neg h]
  rw [adjOkLoop, hbody, adjOkLoop]

/-- The loop changes no interface, however far it got. -/
theorem intf_adjOkLoop (ns : List NbrRef) (s : Instance) :
    (adjOkLoop (dispatchNbr event) ns s).2.intf = s.intf := by
  rw [adjOkLoop_dispatchNbr]
  refine Eff.forEach_final (P := fun u : Instance => u.intf = s.intf) rfl fun n _ u hu => ?_
  rw [Eff.get_bind_apply]
  by_cases h : .twoWay ≤ (u.nbr n).state
  · rw [Eff.when_pos h, intf_adjOk h, hu]
  · rw [Eff.when_neg h]
    exact hu

theorem runDrElection_dispatchNbr (i : IntfId) :
    runDrElection (dispatchNbr event) i = runDrElection eventAlone i := by
  funext s
  rw [runDrElection_eq, runDrElection_eq, adjOkLoop_dispatchNbr]

/-- The loop of InterfaceDown. -/
theorem killLoop_dispatchNbr {i : IntfId} (h : (s.intf i).state = .down) {ns : List NbrRef}
    (hns : ∀ n ∈ ns, n.intf = i) :
    Eff.forEach ns (fun n => dispatchNbr event n .killNbr) s =
      Eff.forEach ns (fun n => eventAlone n .killNbr) s := by
  refine Eff.forEach_congr (P := fun u : Instance => (u.intf i).state = .down) h fun n hn u hu => ?_
  obtain ⟨v, hv, hintf⟩ := eventAlone_killNbr n u
  refine ⟨dispatchNbr_killNbr event (by rw [hns n hn]; exact hu), ?_⟩
  rw [hv, hintf]
  exact hu

theorem intfAction_dispatchNbr (i : IntfId) (action : IntfAction) :
    action.run (dispatchNbr event) i = action.run eventAlone i := by
  cases action with
  | ifUp => simp only [IntfAction.run, runDrElection_dispatchNbr]
  | waitTimer => exact runDrElection_dispatchNbr event i
  | backupSeen => simp only [IntfAction.run, runDrElection_dispatchNbr]
  | nbrChange => exact runDrElection_dispatchNbr event i
  | loopInd => rfl
  | unloopInd => rfl
  | ifDown =>
    funext s
    let u : Instance := s.setIntf i { s.intf i with state := .down }.stopAll
    have hdown : (u.intf i).state = .down := by
      rw [Instance.intf_setIntf_self]
      rfl
    have hns : ∀ n ∈ u.neighborsOf i, n.intf = i := fun n hn => (Instance.mem_neighborsOf.1 hn).1
    have hloop := killLoop_dispatchNbr event hdown hns
    change (Eff.forEach (u.neighborsOf i) (fun n => dispatchNbr event n .killNbr) >>= _) u =
      (Eff.forEach (u.neighborsOf i) (fun n => eventAlone n .killNbr) >>= _) u
    rw [Eff.bind_apply, Eff.bind_apply, hloop]

/-- What an interface event does below is what `eventAlone` does. -/
theorem dispatchIntf_dispatchNbr (i : IntfId) (evt : IntfEvent) :
    dispatchIntf (dispatchNbr event) i evt = dispatchIntf eventAlone i evt := by
  have hh : ∀ old, handleIntf (dispatchNbr event) i old evt = handleIntf eventAlone i old evt := by
    intro old
    rw [handleIntf, handleIntf]
    cases intfFsm old evt with
    | some action => exact intfAction_dispatchNbr event i action
    | none => rfl
  simp only [dispatchIntf, hh]

/-- What a neighbor event does below is what `eventAlone` does. -/
theorem dispatchNbr_dispatchNbr : dispatchNbr (dispatchNbr event) = dispatchNbr eventAlone := by
  have hchanged : ∀ n old,
      neighborStateChanged (dispatchNbr event) n old = neighborStateChanged eventAlone n old := by
    intro n old
    simp only [neighborStateChanged, dispatchIntf_dispatchNbr]
  have hdown : ∀ n, goDown (dispatchNbr event) n = goDown eventAlone n := by
    intro n
    simp only [goDown, hchanged]
  have hh : ∀ n old evt, handleNbr (dispatchNbr event) n old evt = handleNbr eventAlone n old evt := by
    intro n old evt
    rw [handleNbr, handleNbr, hdown]
  funext n evt
  simp only [dispatchNbr, hchanged, hh]

end

theorem nbrEventDepth_alone (depth : Nat) : nbrEventDepth (depth + 2) = dispatchNbr eventAlone := by
  funext n evt
  change dispatchNbr (dispatchNbr (nbrEventDepth depth)) n evt = _
  rw [dispatchNbr_dispatchNbr]

theorem nbrEvent_alone (n : NbrRef) (evt : NbrEvent) : nbrEvent n evt = dispatchNbr eventAlone n evt :=
  congrFun (congrFun (nbrEventDepth_alone 98) n) evt

theorem intfEvent_alone (i : IntfId) (evt : IntfEvent) : intfEvent i evt = dispatchIntf eventAlone i evt :=
  dispatchIntf_dispatchNbr (nbrEventDepth 99) i evt

/-- **Events end**: whatever dispatcher lies below, an event of a neighbor or of an interface only
gives events that give none themselves, AdjOK? of a bidirectional neighbor does not reach the
interface, and the loop of an election leaves the interfaces, with their neighbors, as they are. -/
theorem dispatch_ends (event : NbrRef → NbrEvent → Py Unit) :
    (∀ n evt, dispatchNbr (dispatchNbr event) n evt = dispatchNbr eventAlone n evt) ∧
      (∀ i evt, dispatchIntf (dispatchNbr event) i evt = dispatchIntf eventAlone i evt) ∧
      (∀ n s, .twoWay ≤ (s.nbr n).state → dispatchNbr event n .adjOk s = eventAlone n .adjOk s) ∧
      (∀ ns s, (adjOkLoop (dispatchNbr event) ns s).2.intf = s.intf) ∧
      (∀ depth n evt, 2 ≤ depth → nbrEventDepth depth n evt = dispatchNbr eventAlone n evt) ∧
      (∀ i evt, intfEvent i evt = dispatchIntf eventAlone i evt) := by
  refine ⟨fun n evt => by rw [dispatchNbr_dispatchNbr], dispatchIntf_dispatchNbr event,
    fun n s => dispatchNbr_adjOk event, intf_adjOkLoop event, fun depth n evt hdepth => ?_, intfEvent_alone⟩
  obtain ⟨depth, rfl⟩ := Nat.exists_eq_add_of_le' hdepth
  rw [nbrEventDepth_alone]

end Ospfd
