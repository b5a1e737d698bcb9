import Ospfd.Protocol.Current

/-!
# Bidirectionality follows the last Hello

A Hello raises up to four events of its sender and of the interface.  Whatever they raise in turn, an
election only moves neighbors that are bidirectional, and they stay so.

* `SameWay`, `Settles` — what ends without changing who is bidirectional, and leaves the others alone.
* `helloReceived_way`, `helloTwoWay_way`, `helloRest_settles` — the steps of a Hello.
* `Followed` — where a Hello is to leave its sender: in 2-Way or above if it lists this router, else in
  Init.
* `follows_iff` — **in a run each Hello is followed exactly if its sender is not in Attempt**, a state in
  which HelloReceived is not handled.
-/

namespace Ospfd

variable {i : IntfId} {n : NbrRef} {s t u : Instance}

/-! ## What an election leaves -/

instance : Std.Refl (SameSides i) := ⟨fun _ _ _ => Iff.rfl⟩

instance : IsTrans Instance (SameSides i) := ⟨fun _ _ _ h h' n hn => (h' n hn).trans (h n hn)⟩

/-- The same neighbors are bidirectional, and the others are in the states they were in. -/
structure SameWay (i : IntfId) (s t : Instance) : Prop where
  routerId : t.routerId = s.routerId
  sides : SameSides i s t
  oneWay : ∀ n, n.intf = i → ¬.twoWay ≤ (s.nbr n).state → (t.nbr n).state = (s.nbr n).state

namespace SameWay

theorem of_quiet (h : Quiet s t) : SameWay i s t :=
  ⟨h.routerId, .of_quiet h, fun _ _ _ => by rw [h.nbr]⟩

theorem refl (s : Instance) : SameWay i s s := .of_quiet (.refl s)

theorem trans (h : SameWay i s t) (h' : SameWay i t u) : SameWay i s u where
  routerId := h'.routerId.trans h.routerId
  sides := trans_of (SameSides i) h.sides h'.sides
  oneWay := by
    intro n hn hlt
    have heq := h.oneWay n hn hlt
    rw [← heq] at hlt ⊢
    exact h'.oneWay n hn hlt

/-- An election moves only neighbors that are bidirectional. -/
theorem of_elected (h : Elected i s t) : SameWay i s t where
  routerId := h.routerId
  sides := h.sameLink.2
  oneWay := fun n _ hlt => by rw [h.kept n fun hmoved => hlt hmoved.2.2.1]

end SameWay

/-- Something returns, and changes neither who is bidirectional nor the states of the others. -/
def Settles (i : IntfId) (m : Py Unit) : Prop := ∀ s, ∃ t, m s = (.ok (), t) ∧ SameWay i s t

namespace Settles

theorem idle : Settles i (pure ()) := fun s => ⟨s, rfl, .refl s⟩

theorem bind {m : Py Unit} {f : Unit → Py Unit} (hm : Settles i m) (hf : Settles i (f ())) :
    Settles i (m >>= f) := by
  intro s
  obtain ⟨t, ht, hst⟩ := hm s
  obtain ⟨u, hu, htu⟩ := hf t
  exact ⟨u, by rw [Eff.bind_apply_ok ht, hu], hst.trans htu⟩

theorem when {p : Prop} [Decidable p] {m : Py Unit} (h : Settles i m) : Settles i (Eff.when p m) := by
  by_cases hp : p
  · rw [Eff.when_pos hp]
    exact h
  · rw [Eff.when_neg hp]
    exact idle

/-- What is read first makes no difference. -/
theorem read {f : Instance → Py Unit} (h : ∀ s, Settles i (f s)) : Settles i (Eff.get >>= f) := fun s => h s s

end Settles

theorem runDrElection_settles (i : IntfId) : Settles i (runDrElection eventAlone i) := by
  intro s
  obtain ⟨t, ht, helected, -⟩ := runDrElection_elects 0 i s
  have hrun : runDrElection (nbrEventDepth (0 + 1)) i = runDrElection eventAlone i :=
    runDrElection_dispatchNbr (nbrEventDepth 0) i
  rw [hrun] at ht
  exact ⟨t, ht, .of_elected helected⟩

theorem intfStateChanged_settles (i : IntfId) : Settles i (intfStateChanged i) := by
  refine fun s => ⟨(intfStateChanged i s).2, Prod.ext ?_ rfl, .of_quiet (intfStateChanged_within i s)⟩
  rw [intfStateChanged, Eff.get_bind_apply, scheduleRouterLsa, Eff.modify_bind_apply]
  by_cases hdr : (s.intf i).state = .dr
  · rw [Eff.when_pos hdr]
    rfl
  · rw [Eff.when_neg hdr]
    rfl

/-- **The events that a Hello gives the interface** at most elect. -/
theorem intfEvent_settles {evt : IntfEvent} (hevt : evt = .backupSeen ∨ evt = .nbrChange) :
    Settles i (dispatchIntf eventAlone i evt) := by
  refine Settles.read fun s => Settles.bind ?_ (Settles.read fun _ => (intfStateChanged_settles i).when)
  rw [handleIntf]
  rcases hfsm : intfFsm (s.intf i).state evt with _ | action
  · exact Settles.idle
  · have haction : action = .backupSeen ∨ action = .nbrChange := by
      rcases hevt with rfl | rfl <;> cases hst : (s.intf i).state <;> rw [hst] at hfsm <;> cases hfsm <;>
        simp
    rcases haction with rfl | rfl
    · refine Settles.bind (fun u => ⟨_, rfl, rfl, fun _ _ => Iff.rfl, fun _ _ _ => rfl⟩) ?_
      exact runDrElection_settles i
    · exact runDrElection_settles i

theorem neighborStateChanged_settles (n : NbrRef) (old : NbrState) :
    Settles n.intf (neighborStateChanged eventAlone n old) := by
  refine Settles.read fun s => Settles.bind (intfEvent_settles (.inr rfl)).when ?_
  intro t
  obtain ⟨u, hu, hq⟩ := scheduleLsas_returns n t
  exact ⟨u, hu, .of_quiet hq⟩

/-! ## Events of the sender -/

theorem NbrState.not_twoWay_le_init : ¬NbrState.twoWay ≤ .init := by decide

/-- An event with an action: what follows the action leaves who is bidirectional. -/
theorem nbrEvent_action {evt : NbrEvent} {action : NbrAction} (hfsm : nbrFsm (s.nbr n).state evt = some action)
    (hrun : action.run n (s.traced n evt) = (.ok (), u)) :
    ∃ t, nbrEvent n evt s = (.ok (), t) ∧ SameWay n.intf u t ∧ ((u.nbr n).state = (s.nbr n).state → t = u) := by
  rw [nbrEvent_alone, dispatchNbr_eq, handleNbr, hfsm, Eff.bind_apply_ok hrun, Eff.get_bind_apply]
  by_cases hst : (u.nbr n).state ≠ (s.nbr n).state
  · obtain ⟨t, ht, hway⟩ := neighborStateChanged_settles n (s.nbr n).state u
    rw [Eff.when_pos hst]
    exact ⟨t, ht, hway, fun heq => absurd heq hst⟩
  · rw [Eff.when_neg hst]
    exact ⟨u, rfl, .refl u, fun _ => rfl⟩

/-- An event that the table does not have, and that does not reset the neighbor. -/
theorem nbrEvent_idle {evt : NbrEvent} (hfsm : nbrFsm (s.nbr n).state evt = none)
    (hreset : evt.isReset = false) : nbrEvent n evt s = (.ok (), s.traced n evt) := by
  have hnot : ¬evt.isReset = true := by simp [hreset]
  have hsame : ¬((s.traced n evt).nbr n).state ≠ (s.nbr n).state := not_not.2 rfl
  rw [nbrEvent_alone, dispatchNbr_eq, handleNbr, hfsm, Eff.when_neg hnot, Eff.pure_bind_apply,
    Eff.get_bind_apply, Eff.when_neg hsame]
  rfl

/-- **HelloReceived** takes a neighbor out of Down, and leaves any other state, Attempt too. -/
theorem helloReceived_way (n : NbrRef) (s : Instance) :
    ∃ t, nbrEvent n .helloReceived s = (.ok (), t) ∧ t.routerId = s.routerId ∧
      (t.nbr n).state = if (s.nbr n).state = .down then .init else (s.nbr n).state := by
  have haction : ∀ action x, nbrFsm (s.nbr n).state .helloReceived = some action →
      action.run n (s.traced n .helloReceived) = (.ok (), (s.traced n .helloReceived).setNbr n x) →
      (x.state = (s.nbr n).state ∨ ¬.twoWay ≤ x.state) →
      ∃ t, nbrEvent n .helloReceived s = (.ok (), t) ∧ t.routerId = s.routerId ∧ (t.nbr n).state = x.state := by
    intro action x hfsm hrun hx
    obtain ⟨t, ht, hway, hsame⟩ := nbrEvent_action hfsm hrun
    refine ⟨t, ht, hway.routerId, ?_⟩
    rw [Instance.nbr_setNbr_self] at hsame
    rcases hx with hx | hx
    · rw [hsame hx, Instance.nbr_setNbr_self]
    · rw [hway.oneWay n rfl (by rw [Instance.nbr_setNbr_self]; exact hx), Instance.nbr_setNbr_self]
  rcases hst : (s.nbr n).state with _ | _ | _ | _ | _ | _ | _ | _ <;> rw [hst] at haction
  case down => exact haction _ _ rfl rfl (.inr NbrState.not_twoWay_le_init)
  case attempt =>
    refine ⟨_, nbrEvent_idle (by rw [hst]; rfl) rfl, rfl, ?_⟩
    rw [if_neg (by decide)]
    exact hst
  all_goals
    obtain ⟨t, ht, hrid, hkeep⟩ := haction _ _ rfl rfl (.inl hst)
    refine ⟨t, ht, hrid, ?_⟩
    rw [hkeep, if_neg (by decide)]
    exact hst

/-- **2-WayReceived** makes a neighbor in Init bidirectional. -/
theorem twoWayReceived_way (hst : (s.nbr n).state = .init) :
    ∃ t, nbrEvent n .twoWayReceived s = (.ok (), t) ∧ .twoWay ≤ (t.nbr n).state := by
  have hfsm : nbrFsm (s.nbr n).state .twoWayReceived = some .twoWayReceived := by
    rw [hst]
    rfl
  obtain ⟨u, hu⟩ := nbrAction_returns n (by decide : NbrAction.twoWayReceived ≠ .exchangeDone)
    (s.traced n .twoWayReceived)
  obtain ⟨t, ht, hway, -⟩ := nbrEvent_action hfsm hu
  refine ⟨t, ht, (hway.sides n rfl).2 ?_⟩
  rw [NbrAction.run, Eff.get_bind_apply] at hu
  split at hu
  · obtain ⟨x, v, hv, ⟨seq, dd, rfl⟩, hq⟩ := enterExStart_returns n (s.traced n .twoWayReceived)
    rw [hv] at hu
    cases hu
    rw [hq.nbr, Instance.nbr_setNbr_self]
    exact Nat.le_succ 3
  · cases hu
    rw [Instance.nbr_setNbr_self]
    exact Nat.le_refl 3

/-- **1-WayReceived** brings a bidirectional neighbor back to Init. -/
theorem oneWay_way (hst : .twoWay ≤ (s.nbr n).state) :
    ∃ t, nbrEvent n .oneWay s = (.ok (), t) ∧ (t.nbr n).state = .init := by
  have hfsm : nbrFsm (s.nbr n).state .oneWay = some .oneWay := by
    cases hs : (s.nbr n).state <;> first | rfl | (rw [hs] at hst; exact absurd hst (by decide))
  obtain ⟨t, ht, hway, -⟩ := nbrEvent_action hfsm rfl
  refine ⟨t, ht, ?_⟩
  rw [hway.oneWay n rfl (by rw [Instance.nbr_setNbr_self]; exact NbrState.not_twoWay_le_init),
    Instance.nbr_setNbr_self]
  rfl

/-! ## Hellos -/

/-- **The check whether a Hello lists this router.** -/
theorem helloTwoWay_way (n : NbrRef) (hello : HelloPacket) (s : Instance) :
    ∃ t, helloTwoWay n hello s = (.ok (), t) ∧
      (¬.init ≤ (s.nbr n).state → (t.nbr n).state = (s.nbr n).state) ∧
      (.init ≤ (s.nbr n).state → if s.routerId ∈ hello.neighbors then .twoWay ≤ (t.nbr n).state
        else (t.nbr n).state = .init) := by
  rw [helloTwoWay, Eff.get_bind_apply]
  by_cases hlisted : s.routerId ∈ hello.neighbors
  · simp only [if_pos hlisted]
    by_cases hinit : (s.nbr n).state = .init
    · obtain ⟨t, ht, htwo⟩ := twoWayReceived_way hinit
      rw [Eff.when_pos hinit]
      exact ⟨t, ht, fun hlt => absurd (by rw [hinit]; exact Nat.le_refl 2) hlt, fun _ => htwo⟩
    · rw [Eff.when_neg hinit]
      refine ⟨s, rfl, fun _ => rfl, fun hle => ?_⟩
      cases hst : (s.nbr n).state <;> rw [hst] at hle hinit <;>
        first | decide | exact absurd hle (by decide) | exact absurd rfl hinit
  · simp only [if_neg hlisted]
    by_cases htwo : .twoWay ≤ (s.nbr n).state
    · obtain ⟨t, ht, hinit⟩ := oneWay_way htwo
      rw [Eff.when_pos htwo]
      exact ⟨t, ht, fun hlt => absurd (Nat.le_trans (Nat.le_succ 2) htwo) hlt, fun _ => hinit⟩
    · rw [Eff.when_neg htwo]
      refine ⟨s, rfl, fun _ => rfl, fun hle => ?_⟩
      cases hst : (s.nbr n).state <;> rw [hst] at hle htwo <;>
        first | rfl | exact absurd hle (by decide) | exact absurd (by decide) htwo

/-- What a Hello does up to the check whether it lists this router. -/
def helloSeen (n : NbrRef) (hello : HelloPacket) : Py Unit := do
  nbrEvent n .helloReceived
  helloTwoWay n hello

/-- Where a Hello is to leave its sender. -/
def Followed (s : Instance) (hello : HelloPacket) (st : NbrState) : Prop :=
  if s.routerId ∈ hello.neighbors then .twoWay ≤ st else st = .init

/-- **A Hello is followed unless its sender is in Attempt.** -/
theorem helloSeen_way (n : NbrRef) (hello : HelloPacket) (s : Instance) :
    ∃ t, helloSeen n hello s = (.ok (), t) ∧
      ((s.nbr n).state = .attempt → (t.nbr n).state = .attempt) ∧
      ((s.nbr n).state ≠ .attempt → Followed s hello (t.nbr n).state) := by
  obtain ⟨t, ht, hrid, hst⟩ := helloReceived_way n s
  obtain ⟨u, hu, hlow, hhigh⟩ := helloTwoWay_way n hello t
  refine ⟨u, by rw [helloSeen, Eff.bind_apply_ok ht, hu], fun hattempt => ?_, fun hne => ?_⟩
  · rw [hattempt, if_neg (by decide)] at hst
    rw [hst] at hlow
    exact hlow (by decide)
  · rw [Followed, ← hrid]
    refine hhigh ?_
    rw [hst]
    cases hs : (s.nbr n).state <;> first | decide | exact absurd hs hne

/-- The end of a Hello. -/
theorem helloRest_settles (n : NbrRef) (hello : HelloPacket) (src oldDr oldBdr : IPv4Address) :
    Settles n.intf (helloRest n hello src oldDr oldBdr) := by
  have hevent : ∀ {evt : IntfEvent}, evt = .backupSeen ∨ evt = .nbrChange →
      Settles n.intf (intfEvent n.intf evt) := by
    intro evt hevt
    rw [intfEvent_alone]
    exact intfEvent_settles hevt
  refine Settles.read fun _ => Settles.bind (hevent (.inl rfl)).when ?_
  exact Settles.read fun _ => (hevent (.inr rfl)).when

/-- A Hello is a greeting and its end. -/
theorem helloFrom_eq (n : NbrRef) (hello : HelloPacket) (src : IPv4Address) (s : Instance) :
    helloFrom n hello src s = (helloSeen n hello >>= fun _ =>
      helloRest n hello src (s.nbr n).dr (s.nbr n).bdr) (s.setNbr n ((s.nbr n).told hello src)) := by
  have hsteps : helloFrom n hello src s = (nbrEvent n .helloReceived >>= fun _ => helloTwoWay n hello >>=
      fun _ => helloRest n hello src (s.nbr n).dr (s.nbr n).bdr)
        (s.setNbr n ((s.nbr n).told hello src)) := rfl
  rw [hsteps, helloSeen, Eff.bind_apply, Eff.bind_apply, Eff.bind_apply]
  rcases nbrEvent n .helloReceived (s.setNbr n ((s.nbr n).told hello src)) with ⟨_ | _, _⟩ <;> rfl

theorem helloFrom_way (n : NbrRef) (hello : HelloPacket) (src : IPv4Address) (s : Instance) :
    ∃ t, helloFrom n hello src s = (.ok (), t) ∧
      (Followed s hello (t.nbr n).state ↔ (s.nbr n).state ≠ .attempt) := by
  have hst : ((s.setNbr n ((s.nbr n).told hello src)).nbr n).state = (s.nbr n).state := by
    rw [Instance.nbr_setNbr_self]
    rfl
  obtain ⟨t, ht, hattempt, hother⟩ := helloSeen_way n hello (s.setNbr n ((s.nbr n).told hello src))
  obtain ⟨u, hu, hway⟩ := helloRest_settles n hello src (s.nbr n).dr (s.nbr n).bdr t
  rw [hst] at hattempt hother
  refine ⟨u, by rw [helloFrom_eq, Eff.bind_apply_ok ht, hu], ?_⟩
  constructor
  · intro hfollowed hs
    have hkept : (u.nbr n).state = .attempt := by
      rw [hway.oneWay n rfl (by rw [hattempt hs]; decide), hattempt hs]
    rw [Followed, hkept] at hfollowed
    split at hfollowed
    · exact absurd hfollowed (by decide)
    · cases hfollowed
  · intro hne
    have hseen : Followed s hello (t.nbr n).state := hother hne
    rw [Followed] at hseen ⊢
    split
    · rename_i hlisted
      rw [if_pos hlisted] at hseen
      exact (hway.sides n rfl).2 hseen
    · rename_i hlisted
      rw [if_neg hlisted] at hseen
      rw [hway.oneWay n rfl (by rw [hseen]; decide), hseen]

/-- A Hello of a neighbor that is known. -/
theorem processHello_known {packet : HelloPacket} {src routerId : IPv4Address}
    (hacc : helloAccepted s i packet = true) (hmem : routerId ∈ (s.intf i).neighbors) :
    processHello i packet src routerId s = helloFrom ⟨i, routerId⟩ packet src s := by
  have hfind : findOrCreate i src routerId s = (.ok true, s) := by
    rw [findOrCreate, Eff.get_bind_apply, if_pos hmem]
    rfl
  rw [processHello, Eff.get_bind_apply, Eff.when_pos hacc, Eff.bind_apply_ok hfind, Eff.when_pos rfl]

/-- A Hello of a neighbor that there is room for. -/
theorem processHello_new {packet : HelloPacket} {src routerId : IPv4Address}
    (hacc : helloAccepted s i packet = true) (hmem : routerId ∉ (s.intf i).neighbors)
    (hroom : (s.intf i).neighbors.length < maxNeighbors) :
    processHello i packet src routerId s = helloFrom ⟨i, routerId⟩ packet src (s.addNbr i src routerId) := by
  have hfind : findOrCreate i src routerId s = (.ok true, s.addNbr i src routerId) := by
    rw [findOrCreate, Eff.get_bind_apply, if_neg hmem, if_neg (Nat.not_le.2 hroom)]
    rfl
  rw [processHello, Eff.get_bind_apply, Eff.when_pos hacc, Eff.bind_apply_ok hfind, Eff.when_pos rfl]

/-- **A Hello that is taken** returns, and is followed exactly if it comes from no neighbor in Attempt. -/
theorem processHello_follows {hello : HelloPacket} (src : IPv4Address) {routerId : IPv4Address}
    (hacc : helloAccepted s i hello = true)
    (hroom : routerId ∈ (s.intf i).neighbors ∨ (s.intf i).neighbors.length < maxNeighbors) :
    ∃ t, processHello i hello src routerId s = (.ok (), t) ∧
      (Followed s hello (t.nbr ⟨i, routerId⟩).state ↔
        (routerId ∈ (s.intf i).neighbors → (s.nbr ⟨i, routerId⟩).state ≠ .attempt)) := by
  by_cases hmem : routerId ∈ (s.intf i).neighbors
  · obtain ⟨t, ht, hfollowed⟩ := helloFrom_way ⟨i, routerId⟩ hello src s
    refine ⟨t, by rw [processHello_known hacc hmem, ht], hfollowed.trans ?_⟩
    exact ⟨fun hne _ => hne, fun hne => hne hmem⟩
  · obtain ⟨t, ht, hfollowed⟩ := helloFrom_way ⟨i, routerId⟩ hello src (s.addNbr i src routerId)
    refine ⟨t, by rw [processHello_new hacc hmem (hroom.resolve_left hmem), ht], ?_⟩
    refine iff_of_true (hfollowed.2 ?_) fun hin => absurd hin hmem
    rw [nbr_addNbr]
    rintro ⟨⟩

/-! ## Runs -/

/-- What holds of each input of a run on a link, in the state in which it arrives. -/
def AlongLink (P : Instance → LinkInput → Prop) (i : IntfId) : Instance → List LinkInput → Prop
  | _, [] => True
  | s, x :: xs => P s x ∧ AlongLink P i (x.after i s) xs

theorem AlongLink.congr {P Q : Instance → LinkInput → Prop} {xs : List LinkInput}
    (h : ∀ s, ∀ x ∈ xs, P s x ↔ Q s x) : AlongLink P i s xs ↔ AlongLink Q i s xs := by
  induction xs generalizing s with
  | nil => exact Iff.rfl
  | cons x xs ih =>
    exact and_congr (h s x (List.mem_cons_self ..)) (ih fun s y hy => h s y (List.mem_cons_of_mem _ hy))

/-- A Hello with the parameters of the interface, of a neighbor that is known or that there is room for. -/
def Taken (i : IntfId) (s : Instance) (hello : HelloPacket) (routerId : IPv4Address) : Prop :=
  helloAccepted s i hello = true ∧
    (routerId ∈ (s.intf i).neighbors ∨ (s.intf i).neighbors.length < maxNeighbors)

/-- **Bidirectionality follows a Hello**: when it is processed, its sender is in 2-Way or above if it lists
this router, and in Init otherwise. -/
def FollowsHello (i : IntfId) (s : Instance) : LinkInput → Prop
  | .intf (.hello packet src routerId) => Taken i s packet routerId →
      ∃ t, processHello i packet src routerId s = (.ok (), t) ∧
        Followed s packet (t.nbr ⟨i, routerId⟩).state
  | _ => True

/-- A Hello that is taken comes from no neighbor in Attempt. -/
def NotAttempting (i : IntfId) (s : Instance) : LinkInput → Prop
  | .intf (.hello packet _ routerId) => Taken i s packet routerId →
      routerId ∈ (s.intf i).neighbors → (s.nbr ⟨i, routerId⟩).state ≠ .attempt
  | _ => True

theorem followsHello_iff (s : Instance) (x : LinkInput) : FollowsHello i s x ↔ NotAttempting i s x := by
  cases x with
  | nbr routerId evt => exact Iff.rfl
  | intf x =>
    cases x with
    | event evt => exact Iff.rfl
    | hello packet src routerId =>
      refine forall_congr' fun htaken => ?_
      obtain ⟨t, ht, hfollowed⟩ := processHello_follows src htaken.1 htaken.2
      rw [ht, ← hfollowed]
      constructor
      · rintro ⟨t', heq, h⟩
        cases heq
        exact h
      · exact fun h => ⟨t, rfl, h⟩

/-- **In every run**, whatever events of neighbors and of the interface come between them, each Hello is
followed exactly if each comes from no neighbor in Attempt. -/
theorem follows_iff (i : IntfId) (s : Instance) (xs : List LinkInput) :
    AlongLink (FollowsHello i) i s xs ↔ AlongLink (NotAttempting i) i s xs :=
  AlongLink.congr fun s x _ => followsHello_iff s x

/-! ### A neighbor in Attempt -/

/-- Router 1 on an NBMA network, its interface down. -/
def loneNbma : Instance :=
  Instance.init 1 Dict.empty (fun _ => { loneBroadcast.down with intfType := .nbma }) zeroMd5 (fun _ => 0) 0

/-- The neighbor that was lost is tried again. -/
def attemptInputs : List LinkInput :=
  [.intf (.event .ifUp), otherHello 1 0 0, .nbr 2 .inactivityTimer, .nbr 2 .start]

/-- Its next Hello lists this router, and leaves it in Attempt. -/
theorem not_follows : ¬∀ (i : IntfId) (s : Instance) (xs : List LinkInput), (s.intf i).state = .down →
    (s.intf i).neighbors = [] → AlongLink (FollowsHello i) i s xs := by
  intro h
  obtain ⟨-, -, -, -, hlast, -⟩ :=
    (follows_iff 0 loneNbma (attemptInputs ++ [otherHello 1 0 0])).1 (h 0 loneNbma _ rfl rfl)
  let t : Instance := attemptInputs.foldl (fun s x => x.after 0 s) loneNbma
  have hrun : helloAccepted t 0 (otherHello.packet 1 0 0) = true ∧ 2 ∈ (t.intf 0).neighbors ∧
      (t.nbr ⟨0, 2⟩).state = .attempt := by decide +kernel
  exact hlast ⟨hrun.1, .inl hrun.2.1⟩ hrun.2.1 hrun.2.2

end Ospfd
