import Ospfd.Protocol.Bidirectional

/-!
# How an interface leaves Waiting

A waiting interface is to listen until its timer fires, or until a neighbor it can talk to
declares itself BDR, or DR without a BDR.

* `Waits` — no event of a neighbor ends the waiting.
* `helloSeen_returns` — when the sender of a Hello is bidirectional.
* `CallsElection` — what an election may end the waiting for.
* `Listing` — a Hello that ends the waiting lists this router, and its sender is not in Attempt.
* `awaits_iff` — **a run elects on call only** exactly when all its Hellos are so.
-/

namespace Ospfd

variable {i : IntfId} {n : NbrRef} {s t u : Instance}

/-! ## Events of neighbors -/

/-- The interface does not stop waiting. -/
def Waits (i : IntfId) (s t : Instance) : Prop :=
  (s.intf i).state = .waiting → (t.intf i).state = .waiting

instance : Std.Refl (Waits i) := ⟨fun _ h => h⟩

instance : IsTrans Instance (Waits i) := ⟨fun _ _ _ h h' hs => h' (h hs)⟩

/-- A waiting interface is told of a neighbor, and only schedules LSAs. -/
theorem neighborStateChanged_waiting (event : NbrRef → NbrEvent → Py Unit) (old : NbrState)
    (h : (s.intf n.intf).state = .waiting) :
    ∃ t, neighborStateChanged event n old s = (.ok (), t) ∧ Quiet s t := by
  have htold : ∀ p [Decidable p],
      Eff.when p (dispatchIntf event n.intf .nbrChange) s = (.ok (), s) := by
    intro p _
    by_cases hp : p
    · rw [Eff.when_pos hp]
      exact dispatchIntf_idle event (by rw [h]; rfl)
    · rw [Eff.when_neg hp]
      rfl
  rw [neighborStateChanged, Eff.get_bind_apply, Eff.bind_apply_ok (htold _)]
  exact scheduleLsas_returns n s

/-- **No event of a neighbor ends the waiting.** -/
theorem nbrEvent_waits (n : NbrRef) (evt : NbrEvent) : Eff.Within (Waits n.intf) (nbrEvent n evt) := by
  refine nbrEvent_within n evt (fun s t h hs => ?_) fun old s hs => ?_
  · have hintf : t.intf = s.intf := h
    rw [hintf]
    exact hs
  · obtain ⟨t, ht, hq⟩ := neighborStateChanged_waiting eventAlone old hs
    rw [ht, hq.intf]
    exact hs

/-! ## Hellos -/

theorem helloSeen_waits (n : NbrRef) (hello : HelloPacket) : Eff.Within (Waits n.intf) (helloSeen n hello) := by
  refine Eff.Within.bind (nbrEvent_waits n _) fun _ => Eff.Within.read fun s => ?_
  exact Eff.Within.ite (Eff.Within.when fun _ => nbrEvent_waits n _) (Eff.Within.when fun _ => nbrEvent_waits n _)

/-- **When the sender of a Hello is bidirectional**: the Hello lists this router, and the neighbor
was not in Attempt. -/
theorem helloSeen_returns (hello : HelloPacket) (h : (s.intf n.intf).state = .waiting) :
    ∃ t, helloSeen n hello s = (.ok (), t) ∧ (t.intf n.intf).state = .waiting ∧
      (.twoWay ≤ (t.nbr n).state ↔ s.routerId ∈ hello.neighbors ∧ (s.nbr n).state ≠ .attempt) := by
  obtain ⟨t, ht, hattempt, hother⟩ := helloSeen_way n hello s
  have hwait := helloSeen_waits n hello s h
  rw [ht] at hwait
  refine ⟨t, ht, hwait, ?_⟩
  by_cases hs : (s.nbr n).state = .attempt
  · rw [hattempt hs]
    exact iff_of_false (by decide) fun hboth => hboth.2 hs
  · have hfollowed : Followed s hello (t.nbr n).state := hother hs
    rw [Followed] at hfollowed
    split at hfollowed
    · rename_i hlisted
      exact iff_of_true hfollowed ⟨hlisted, hs⟩
    · rename_i hlisted
      rw [hfollowed]
      exact iff_of_false NbrState.not_twoWay_le_init fun hboth => hlisted hboth.1

/-! ## Elections -/

theorem RoleStep.electing (h : RoleStep i s t) (hs : (s.intf i).state.Electing) : (t.intf i).state.Electing := by
  rcases h with hk | ⟨-, ht⟩
  · rw [hk.state]
    exact hs
  · exact ht

/-- BackupSeen ends the waiting. -/
theorem backupSeen_waiting (h : (s.intf i).state = .waiting) :
    ((intfEvent i .backupSeen s).2.intf i).state.Electing := by
  have hquiet := dispatchIntf_quiet eventAlone i .backupSeen s
  rw [handleIntf, h] at hquiet
  rw [intfEvent_alone, hquiet.intf]
  exact electing_runDrElection i _

/-- **The end of a Hello** that finds the interface waiting. -/
theorem helloRest_waiting (hello : HelloPacket) (src oldDr oldBdr : IPv4Address)
    (h : (s.intf n.intf).state = .waiting) :
    (((helloRest n hello src oldDr oldBdr s).2.intf n.intf).state.Electing ↔ backupSeen hello src = true) ∧
      (.twoWay ≤ ((helloRest n hello src oldDr oldBdr s).2.nbr n).state ↔ .twoWay ≤ (s.nbr n).state) := by
  obtain ⟨t, ht, hway⟩ := helloRest_settles n hello src oldDr oldBdr s
  have hside : .twoWay ≤ ((helloRest n hello src oldDr oldBdr s).2.nbr n).state ↔ .twoWay ≤ (s.nbr n).state := by
    rw [ht]
    exact hway.sides n rfl
  refine ⟨?_, hside⟩
  have hchange : ∀ u : Instance, RoleStep n.intf u ((Eff.get >>= fun s : Instance =>
      Eff.when (NbrState.twoWay ≤ (s.nbr n).state ∧ (oldDr ≠ (s.nbr n).dr ∨ oldBdr ≠ (s.nbr n).bdr))
        (intfEvent n.intf .nbrChange)) u).2 :=
    Eff.Within.read fun _ => Eff.Within.when fun _ => intfEvent_roleStep (.inr (.inr rfl))
  rw [helloRest, Eff.get_bind_apply]
  by_cases hseen : backupSeen hello src = true
  · refine iff_of_true ?_ hseen
    rw [Eff.when_pos ⟨h, hseen⟩]
    refine Eff.bind_final (P := fun u : Instance => (u.intf n.intf).state.Electing) (backupSeen_waiting h) ?_
    exact fun _ _ => (hchange _).electing (backupSeen_waiting h)
  · refine iff_of_false (fun helect => ?_) hseen
    rw [Eff.when_neg fun hboth => hseen hboth.2, Eff.pure_bind_apply, Eff.get_bind_apply] at helect
    have hidle : intfEvent n.intf .nbrChange s = (.ok (), s) := by
      rw [intfEvent_alone]
      exact dispatchIntf_idle eventAlone (by rw [h]; rfl)
    have hsame : ∀ p [Decidable p], (Eff.when p (intfEvent n.intf .nbrChange) s).2 = s := by
      intro p _
      by_cases hp : p
      · rw [Eff.when_pos hp, hidle]
      · rw [Eff.when_neg hp]
        rfl
    rw [hsame, h] at helect
    rcases helect with h | h | h <;> cases h

/-- A Hello of a known neighbor that finds the interface waiting. -/
theorem helloFrom_waiting (hello : HelloPacket) (src : IPv4Address) (h : (s.intf n.intf).state = .waiting) :
    (((helloFrom n hello src s).2.intf n.intf).state.Electing ↔ backupSeen hello src = true) ∧
      (.twoWay ≤ ((helloFrom n hello src s).2.nbr n).state ↔
        s.routerId ∈ hello.neighbors ∧ (s.nbr n).state ≠ .attempt) := by
  let u : Instance := s.setNbr n ((s.nbr n).told hello src)
  have hst : (u.nbr n).state = (s.nbr n).state := by
    rw [Instance.nbr_setNbr_self]
    rfl
  obtain ⟨t, ht, hwait, htwo⟩ := helloSeen_returns (n := n) (s := u) hello h
  have hrun : helloFrom n hello src s = helloRest n hello src (s.nbr n).dr (s.nbr n).bdr t := by
    rw [helloFrom_eq, Eff.bind_apply_ok ht]
  obtain ⟨helect, hside⟩ := helloRest_waiting hello src (s.nbr n).dr (s.nbr n).bdr (n := n) (s := t) hwait
  rw [hrun]
  refine ⟨helect, (hside.trans htwo).trans ?_⟩
  rw [hst]
  rfl

/-! ## What ends the waiting -/

/-- What calls for an election on a waiting interface: its timer, or the Hello of a neighbor that
declares itself BDR, or DR without a BDR, and is bidirectional when the election is over (no election
changes which neighbors are). -/
def CallsElection (i : IntfId) (s : Instance) : LinkInput → Prop
  | .intf (.event evt) => evt = .waitTimer
  | .intf (.hello packet src routerId) => backupSeen packet src = true ∧
      .twoWay ≤ ((processHello i packet src routerId s).2.nbr ⟨i, routerId⟩).state
  | .nbr _ _ => False

/-- An interface leaves Waiting by an election only when one is called for. -/
def AwaitsCall (i : IntfId) (s : Instance) (x : LinkInput) : Prop :=
  (s.intf i).state = .waiting → ((x.after i s).intf i).state.Electing → CallsElection i s x

/-- A Hello that is accepted while the interface waits, and has its sender declare itself BDR, or DR
without a BDR, lists this router, and comes from no neighbor in Attempt. -/
def Listing (i : IntfId) (s : Instance) : LinkInput → Prop
  | .intf (.hello packet src routerId) => (s.intf i).state = .waiting → helloAccepted s i packet = true →
      (routerId ∈ (s.intf i).neighbors ∨ (s.intf i).neighbors.length < maxNeighbors) →
      backupSeen packet src = true → s.routerId ∈ packet.neighbors ∧
        (routerId ∈ (s.intf i).neighbors → (s.nbr ⟨i, routerId⟩).state ≠ .attempt)
  | _ => True

/-- A Hello that is not accepted, or whose sender there is no room for. -/
theorem processHello_refused {packet : HelloPacket} {src routerId : IPv4Address}
    (h : ¬(helloAccepted s i packet = true ∧
      (routerId ∈ (s.intf i).neighbors ∨ (s.intf i).neighbors.length < maxNeighbors))) :
    (processHello i packet src routerId s).2 = s := by
  rw [processHello, Eff.get_bind_apply]
  by_cases hacc : helloAccepted s i packet = true
  · have hno : ¬(routerId ∈ (s.intf i).neighbors ∨ (s.intf i).neighbors.length < maxNeighbors) :=
      fun hyes => h ⟨hacc, hyes⟩
    rw [not_or, Nat.not_lt] at hno
    have hfind : findOrCreate i src routerId s = (.ok false, s) := by
      rw [findOrCreate, Eff.get_bind_apply, if_neg hno.1, if_pos hno.2]
      rfl
    rw [Eff.when_pos hacc, Eff.bind_apply_ok hfind, Eff.when_neg Bool.false_ne_true]
    rfl
  · rw [Eff.when_neg hacc]
    rfl

theorem awaits_hello_iff (packet : HelloPacket) (src routerId : IPv4Address) :
    AwaitsCall i s (.intf (.hello packet src routerId)) ↔
      Listing i s (.intf (.hello packet src routerId)) := by
  by_cases hwait : (s.intf i).state = .waiting
  · by_cases htaken : helloAccepted s i packet = true ∧
        (routerId ∈ (s.intf i).neighbors ∨ (s.intf i).neighbors.length < maxNeighbors)
    · obtain ⟨hacc, hroom⟩ := htaken
      -- the state in which the Hello is processed has the same interface and router ID
      have hcase : ∃ u, (processHello i packet src routerId s).2 =
          (helloFrom ⟨i, routerId⟩ packet src u).2 ∧ (u.intf i).state = .waiting ∧
          u.routerId = s.routerId ∧ ((u.nbr ⟨i, routerId⟩).state ≠ .attempt ↔
            (routerId ∈ (s.intf i).neighbors → (s.nbr ⟨i, routerId⟩).state ≠ .attempt)) := by
        by_cases hmem : routerId ∈ (s.intf i).neighbors
        · exact ⟨s, congrArg Prod.snd (processHello_known hacc hmem), hwait, rfl, fun hne _ => hne, fun hne => hne hmem⟩
        · refine ⟨s.addNbr i src routerId,
            congrArg Prod.snd (processHello_new hacc hmem (hroom.resolve_left hmem)), ?_, rfl, fun _ hin => absurd hin hmem, fun _ => ?_⟩
          · rw [intf_addNbr]
            exact hwait
          · rw [nbr_addNbr]
            rintro ⟨⟩
      obtain ⟨u, hrun, huwait, hrid, hattempt⟩ := hcase
      obtain ⟨helect, hside⟩ := helloFrom_waiting (n := ⟨i, routerId⟩) packet src huwait
      rw [hrid, hattempt] at hside
      have hafter : (LinkInput.intf (.hello packet src routerId)).after i s =
          (helloFrom ⟨i, routerId⟩ packet src u).2 := hrun
      rw [AwaitsCall, hafter, helect, CallsElection, hrun, hside]
      exact ⟨fun h _ _ _ hseen => (h hwait hseen).2, fun h _ hseen => ⟨hseen, h hwait hacc hroom hseen⟩⟩
    · refine iff_of_true (fun _ helect => ?_) fun _ hacc hroom => absurd ⟨hacc, hroom⟩ htaken
      have hafter : (LinkInput.intf (.hello packet src routerId)).after i s = s := processHello_refused htaken
      rw [hafter, hwait] at helect
      rcases helect with h | h | h <;> cases h
  · exact iff_of_true (fun h => absurd h hwait) fun h => absurd h hwait

/-- Of the events of an interface, only two end the waiting by an election. -/
theorem awaits_event {evt : IntfEvent} (hevt : evt ≠ .backupSeen) :
    AwaitsCall i s (.intf (.event evt)) := by
  intro hwait helect
  have hquiet := dispatchIntf_quiet eventAlone i evt s
  change ((intfEvent i evt s).2.intf i).state.Electing at helect
  rw [intfEvent_alone, hquiet.intf, handleIntf, hwait] at helect
  cases evt with
  | waitTimer => rfl
  | backupSeen => exact absurd rfl hevt
  | ifUp =>
    change (s.intf i).state.Electing at helect
    rw [hwait] at helect
    rcases helect with h | h | h <;> cases h
  | nbrChange =>
    change (s.intf i).state.Electing at helect
    rw [hwait] at helect
    rcases helect with h | h | h <;> cases h
  | unloopInd =>
    change (s.intf i).state.Electing at helect
    rw [hwait] at helect
    rcases helect with h | h | h <;> cases h
  | loopInd =>
    change ((s.setIntf i { s.intf i with state := .loopback }.stopAll).intf i).state.Electing at helect
    rw [Instance.intf_setIntf_self] at helect
    rcases helect with h | h | h <;> cases h
  | ifDown =>
    change ((IntfAction.ifDown.run eventAlone i s).2.intf i).state.Electing at helect
    rw [intf_ifDown] at helect
    rcases helect with h | h | h <;> cases h

/-- **Each input is waited for exactly when it is a listing one.** -/
theorem awaits_step_iff {x : LinkInput} (hx : x ≠ .intf (.event .backupSeen)) :
    AwaitsCall i s x ↔ Listing i s x := by
  cases x with
  | nbr routerId evt =>
    refine iff_of_true (fun hwait helect => ?_) trivial
    have hstill : ((nbrEvent ⟨i, routerId⟩ evt s).2.intf i).state = .waiting :=
      nbrEvent_waits ⟨i, routerId⟩ evt s hwait
    change ((nbrEvent ⟨i, routerId⟩ evt s).2.intf i).state.Electing at helect
    rw [hstill] at helect
    rcases helect with h | h | h <;> cases h
  | intf x =>
    cases x with
    | hello packet src routerId => exact awaits_hello_iff packet src routerId
    | event evt => exact iff_of_true (awaits_event fun heq => hx (by rw [heq])) trivial

/-- **A run elects on call only** exactly when each Hello that ends the waiting lists this router,
and comes from no neighbor in Attempt. BackupSeen is raised by Hellos, and does not come from outside. -/
theorem awaits_iff (xs : List LinkInput) (hxs : ∀ x ∈ xs, x ≠ .intf (.event .backupSeen)) :
    AlongLink (AwaitsCall i) i s xs ↔ AlongLink (Listing i) i s xs :=
  AlongLink.congr fun _ x hx => awaits_step_iff (hxs x hx)

/-! ### A router that joins -/

/-- The Hello of a designated router without a BDR, that lists the given routers. -/
def drHello (neighbors : List IPv4Address) : LinkInput :=
  .intf (.hello packet 167772162 2)
where
  packet : HelloPacket :=
    { networkMask := 4294967040, helloInterval := 10, options := optE, priority := 1, deadInterval := 40,
      designatedRouter := 167772162, backupDesignatedRouter := 0, neighbors }

/-- The designated router has not listed this one yet, which makes itself designated router. -/
theorem not_awaits : ¬∀ (s : Instance) (i : IntfId) (xs : List LinkInput),
    (s.intf i).intfType = .broadcast → (s.intf i).priority ≠ 0 → (s.intf i).state = .down →
      (∀ x ∈ xs, x ≠ .intf (.event .backupSeen)) → AlongLink (AwaitsCall i) i s xs := by
  intro h
  obtain ⟨-, hcall, -⟩ := h loneBroadcast 0 [.intf (.event .ifUp), drHello []] rfl (by decide) rfl (by
    intro x hx
    rcases List.mem_cons.1 hx with rfl | hx
    · rintro ⟨⟩
    · rw [List.mem_singleton.1 hx]
      rintro ⟨⟩)
  have hrun : ((loneAfter [.intf (.event .ifUp)]).intf 0).state = .waiting ∧
      ((loneAfter [.intf (.event .ifUp), drHello []]).intf 0).state = .dr ∧
      (((loneAfter [.intf (.event .ifUp), drHello []]).nbr ⟨0, 2⟩).state = .init) := by decide +kernel
  have htwo := (hcall hrun.1 (.inr (.inr hrun.2.1))).2
  change .twoWay ≤ ((loneAfter [.intf (.event .ifUp), drHello []]).nbr ⟨0, 2⟩).state at htwo
  rw [hrun.2.2] at htwo
  exact absurd htwo (by decide)

/-- Once it is listed, it joins as BDR. -/
theorem awaits_joining : AlongLink (AwaitsCall 0) 0 loneBroadcast [.intf (.event .ifUp), drHello [1]] ∧
    ((loneAfter [.intf (.event .ifUp), drHello [1]]).intf 0).state = .backup := by
  refine ⟨(awaits_iff [.intf (.event .ifUp), drHello [1]] ?_).2 ⟨trivial, ?_, trivial⟩, by decide +kernel⟩
  · intro x hx
    rcases List.mem_cons.1 hx with rfl | hx
    · rintro ⟨⟩
    · rw [List.mem_singleton.1 hx]
      rintro ⟨⟩
  · exact fun _ _ _ _ => ⟨by decide +kernel, fun _ => by decide +kernel⟩

end Ospfd
