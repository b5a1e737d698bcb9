import Ospfd.Protocol.Reelection
import Ospfd.Protocol.Roles

/-!
# When DR and BDR are in force

Between events, DR, BDR and state of an interface are to be what an election makes of the present
neighbors.

* `SameLink`, `SameSides` — what an election sees of the neighbors stays.
* `Sound` — DR and BDR are current; `elects_current` — as they are after an election.
* `nbrEvent_sound`, `intfEvent_sound`, `processHello_sound` — each kind of input keeps this.
* `Announced` — the inputs that the election is told of.
* `reached_inForce` — **in a run of such inputs DR and BDR are in force**.
-/

namespace Ospfd

variable {i : IntfId} {s t u : Instance}

/-! ## What an election sees -/

/-- The bidirectional neighbors that are eligible. -/
def otherCandidates (s : Instance) (i : IntfId) : List Candidate :=
  ((s.neighborsOf i).map s.nbr |>.filter
    fun nbr => NbrState.twoWay ≤ nbr.state ∧ 0 < nbr.priority).map nbrCandidate

/-- The interface and what its neighbors told stay. -/
structure SameLink (i : IntfId) (s t : Instance) : Prop where
  routerId : t.routerId = s.routerId
  intfType : (t.intf i).intfType = (s.intf i).intfType
  ipAddr : (t.intf i).ipAddr = (s.intf i).ipAddr
  priority : (t.intf i).priority = (s.intf i).priority
  neighbors : (t.intf i).neighbors = (s.intf i).neighbors
  candidate : ∀ n, n.intf = i → nbrCandidate (t.nbr n) = nbrCandidate (s.nbr n)

/-- The same neighbors are bidirectional. -/
def SameSides (i : IntfId) (s t : Instance) : Prop :=
  ∀ n, n.intf = i → (.twoWay ≤ (t.nbr n).state ↔ .twoWay ≤ (s.nbr n).state)

/-- A broadcast or NBMA interface, with an address that no neighbor has. -/
structure OnSegment (i : IntfId) (s : Instance) : Prop where
  multi : (s.intf i).intfType.isMultiAccess = true
  address : (s.intf i).ipAddr ≠ zeroAddr
  others : ∀ n ∈ s.neighborsOf i, (s.nbr n).ipAddr ≠ (s.intf i).ipAddr

/-- **DR and BDR are current**: in a state with elections they are what an election returns, and
the state is the one they call for. -/
def Current (i : IntfId) (s : Instance) : Prop :=
  (s.intf i).state.Electing → electDrBdr s i = ((s.intf i).dr, (s.intf i).bdr) ∧
    (s.intf i).state = electedState (s.intf i).ipAddr (s.intf i).dr (s.intf i).bdr

namespace SameLink

theorem refl (s : Instance) : SameLink i s s := ⟨rfl, rfl, rfl, rfl, rfl, fun _ _ => rfl⟩

theorem trans (h : SameLink i s t) (h' : SameLink i t u) : SameLink i s u :=
  ⟨h'.routerId.trans h.routerId, h'.intfType.trans h.intfType, h'.ipAddr.trans h.ipAddr,
    h'.priority.trans h.priority, h'.neighbors.trans h.neighbors,
    fun n hn => (h'.candidate n hn).trans (h.candidate n hn)⟩

theorem of_quiet (h : Quiet s t) : SameLink i s t :=
  ⟨h.routerId, by rw [h.intf], by rw [h.intf], by rw [h.intf], by rw [h.intf],
    fun _ _ => by rw [h.nbr]⟩

theorem neighborsOf (h : SameLink i s t) : t.neighborsOf i = s.neighborsOf i := by
  rw [Instance.neighborsOf, Instance.neighborsOf, h.neighbors]

theorem onSegment (h : SameLink i s t) (hs : OnSegment i s) : OnSegment i t := by
  refine ⟨by rw [h.intfType]; exact hs.multi, by rw [h.ipAddr]; exact hs.address, fun n hn => ?_⟩
  rw [h.neighborsOf] at hn
  have hip : (t.nbr n).ipAddr = (s.nbr n).ipAddr :=
    congrArg Candidate.ipAddr (h.candidate n (Instance.mem_neighborsOf.1 hn).1)
  rw [hip, h.ipAddr]
  exact hs.others n hn

/-- With the same neighbors bidirectional, the other candidates are the same. -/
theorem otherCandidates (h : SameLink i s t) (hsides : SameSides i s t) :
    otherCandidates t i = otherCandidates s i := by
  rw [Ospfd.otherCandidates, Ospfd.otherCandidates, h.neighborsOf]
  refine eligible_congr fun n hn => ?_
  have hi := (Instance.mem_neighborsOf.1 hn).1
  have hprio : (t.nbr n).priority = (s.nbr n).priority :=
    congrArg Candidate.priority (h.candidate n hi)
  exact ⟨by rw [hsides n hi, hprio], fun _ => h.candidate n hi⟩

end SameLink

theorem mem_otherCandidates {c : Candidate} (h : c ∈ otherCandidates s i) :
    ∃ n ∈ s.neighborsOf i, c = nbrCandidate (s.nbr n) := by
  obtain ⟨nbr, hnbr, rfl⟩ := List.mem_map.1 h
  obtain ⟨n, hn, rfl⟩ := List.mem_map.1 (List.mem_filter.1 hnbr).1
  exact ⟨n, hn, rfl⟩

theorem OnSegment.candidates (h : OnSegment i s) :
    ∀ c ∈ otherCandidates s i, c.ipAddr ≠ (s.intf i).ipAddr := by
  intro c hc
  obtain ⟨n, hn, rfl⟩ := mem_otherCandidates hc
  exact h.others n hn

/-- What an election returns, with what the interface declares. -/
theorem electDrBdr_eq (s : Instance) (i : IntfId) : electDrBdr s i =
    if 0 < (s.intf i).priority then
      electFrom ((selfCandidate s i).declaring ((s.intf i).dr, (s.intf i).bdr) :: otherCandidates s i)
        (s.intf i).ipAddr (s.intf i).dr (s.intf i).bdr
    else electFrom (otherCandidates s i) (s.intf i).ipAddr (s.intf i).dr (s.intf i).bdr := by
  rw [electDrBdr, electionCandidates]
  split
  · rfl
  · rfl

/-- The same candidates and roles. -/
theorem Current.of_eq (h : Current i s) (hrid : t.routerId = s.routerId)
    (hip : (t.intf i).ipAddr = (s.intf i).ipAddr) (hprio : (t.intf i).priority = (s.intf i).priority)
    (hothers : otherCandidates t i = otherCandidates s i) (hrole : KeepsRole i s t) : Current i t := by
  intro helect
  rw [hrole.state] at helect
  obtain ⟨heq, hst⟩ := h helect
  have hself : ∀ r, (selfCandidate t i).declaring r = (selfCandidate s i).declaring r := by
    intro r
    simp only [selfCandidate, Candidate.declaring, hrid, hip, hprio]
  rw [electDrBdr_eq, hprio, hself, hothers, hip, hrole.dr, hrole.bdr, hrole.state, ← electDrBdr_eq]
  exact ⟨heq, hst⟩

theorem Current.congr (h : Current i s) (hlink : SameLink i s t) (hsides : SameSides i s t)
    (hrole : KeepsRole i s t) : Current i t :=
  h.of_eq hlink.routerId hlink.ipAddr hlink.priority (hlink.otherCandidates hsides) hrole

/-- Electing again from what an election returned returns it again. -/
theorem electDrBdr_of_elected (hcand : ∀ c ∈ otherCandidates s i, c.ipAddr ≠ (s.intf i).ipAddr)
    (hrid : t.routerId = s.routerId) (hip : (t.intf i).ipAddr = (s.intf i).ipAddr)
    (hprio : (t.intf i).priority = (s.intf i).priority)
    (hothers : otherCandidates t i = otherCandidates s i) (hdr : (t.intf i).dr = (electDrBdr s i).1)
    (hbdr : (t.intf i).bdr = (electDrBdr s i).2) : electDrBdr t i = electDrBdr s i := by
  have hself : ∀ r, (selfCandidate t i).declaring r = (selfCandidate s i).declaring r := by
    intro r
    simp only [selfCandidate, Candidate.declaring, hrid, hip, hprio]
  rw [electDrBdr_eq t, hprio, hself, hothers, hip, hdr, hbdr]
  have hold := electDrBdr_eq s i
  split
  · rename_i hpos
    rw [if_pos hpos] at hold
    have hagain := electFrom_again (x := selfCandidate s i) hcand ((s.intf i).dr, (s.intf i).bdr)
    rw [hold]
    exact hagain
  · rename_i hpos
    rw [if_neg hpos] at hold
    rw [hold, electFrom_of_ne hcand ((s.intf i).dr, (s.intf i).bdr), electFrom_of_ne hcand (_, _)]

/-- **An election leaves the interface current.** -/
theorem elects_current (hatt : OnSegment i s) (hlink : SameLink i s t) (hsides : SameSides i s t)
    (hintf : t.intf i = electedIntf s i) : Current i t := by
  intro _
  have hdr : (t.intf i).dr = (electDrBdr s i).1 := by rw [hintf]; rfl
  have hbdr : (t.intf i).bdr = (electDrBdr s i).2 := by rw [hintf]; rfl
  refine ⟨?_, by rw [hintf]; rfl⟩
  rw [hdr, hbdr]
  exact electDrBdr_of_elected hatt.candidates hlink.routerId hlink.ipAddr hlink.priority
    (hlink.otherCandidates hsides) hdr hbdr

/-! ## Elections -/

theorem Redecided.candidate {should : Bool} {x x' : OspfNeighbor} (h : Redecided should x x') :
    nbrCandidate x' = nbrCandidate x := by
  rcases h with ⟨-, -, seq, dd, rfl⟩ | ⟨-, -, rfl⟩ | ⟨-, rfl⟩ <;> rfl

/-- An election changes neither the interface nor the sides of its neighbors. -/
theorem Elected.sameLink (h : Elected i s t) : SameLink i s t ∧ SameSides i s t := by
  obtain ⟨dr, bdr, state, hintf⟩ := h.intf
  have hcase : ∀ n, n.intf = i → nbrCandidate (t.nbr n) = nbrCandidate (s.nbr n) ∧
      (.twoWay ≤ (t.nbr n).state ↔ .twoWay ≤ (s.nbr n).state) := by
    intro n hn
    by_cases hc : n.intf = i ∧ n.routerId ∈ (s.intf i).neighbors ∧ .twoWay ≤ (s.nbr n).state ∧
        ((s.intf i).dr ≠ (t.intf i).dr ∨ (s.intf i).bdr ≠ (t.intf i).bdr)
    · have hdec := h.decided n hn hc.2.1 hc.2.2.1 hc.2.2.2
      obtain ⟨hnew, hold, -⟩ := hdec.twoWay_le
      exact ⟨hdec.candidate, fun _ => hold, fun _ => hnew⟩
    · rw [h.kept n hc]
      exact ⟨rfl, Iff.rfl⟩
  exact ⟨⟨h.routerId, by rw [hintf], by rw [hintf], by rw [hintf], by rw [hintf],
    fun n hn => (hcase n hn).1⟩, fun n hn => (hcase n hn).2⟩

/-- What is kept between events. -/
structure Sound (i : IntfId) (s : Instance) : Prop where
  onSegment : OnSegment i s
  current : Current i s

theorem Sound.congr (h : Sound i s) (hlink : SameLink i s t) (hsides : SameSides i s t)
    (hrole : KeepsRole i s t) : Sound i t :=
  ⟨hlink.onSegment h.onSegment, h.current.congr hlink hsides hrole⟩

theorem SameSides.of_quiet (h : Quiet s t) : SameSides i s t := by
  intro n _
  rw [h.nbr]

theorem Sound.quiet (h : Sound i s) (hq : Quiet s t) : Sound i t :=
  h.congr (.of_quiet hq) (.of_quiet hq) (.of_quiet hq)

theorem Sound.of_idle (hatt : OnSegment i s) (h : ¬(s.intf i).state.Electing) : Sound i s :=
  ⟨hatt, fun helect => absurd helect h⟩

/-- **After an election** the interface is current. -/
theorem sound_runDrElection (hatt : OnSegment i s) : Sound i (runDrElection eventAlone i s).2 := by
  obtain ⟨t, ht, helected, hintf⟩ := runDrElection_elects 0 i s
  have hrun : runDrElection (nbrEventDepth (0 + 1)) i = runDrElection eventAlone i :=
    runDrElection_dispatchNbr (nbrEventDepth 0) i
  rw [hrun] at ht
  rw [ht]
  obtain ⟨hlink, hsides⟩ := helected.sameLink
  exact ⟨hlink.onSegment hatt, elects_current hatt hlink hsides hintf⟩

/-- **After NeighborChange** the interface is current, whatever it was before. -/
theorem sound_nbrChange (hatt : OnSegment i s) : Sound i (dispatchIntf eventAlone i .nbrChange s).2 := by
  have hquiet := dispatchIntf_quiet eventAlone i .nbrChange s
  have hidle : handleIntf eventAlone i (s.intf i).state .nbrChange = pure () →
      ¬(s.intf i).state.Electing → Sound i (handleIntf eventAlone i (s.intf i).state .nbrChange s).2 := by
    intro hh hst
    rw [hh]
    exact .of_idle hatt hst
  have helect := sound_runDrElection hatt
  refine Sound.quiet ?_ hquiet
  rcases hst : (s.intf i).state with _ | _ | _ | _ | _ | _ | _ <;> rw [hst] at hidle <;>
    first
    | exact helect
    | exact hidle rfl (by rintro (h | h | h) <;> cases h)

/-! ## Events of neighbors -/

section Neighbor

variable {n : NbrRef}

/-- The interface is told of a neighbor that became bidirectional, or ceased to be. -/
theorem sound_neighborStateChanged {old : NbrState} (hatt : OnSegment n.intf s)
    (h : crossesTwoWay old (s.nbr n).state = true ∨ Sound n.intf s) :
    Sound n.intf (neighborStateChanged eventAlone n old s).2 := by
  rw [neighborStateChanged, Eff.get_bind_apply]
  have hfirst : Sound n.intf (Eff.when ((s.intf n.intf).intfType.isMultiAccess ∧
      crossesTwoWay old (s.nbr n).state) (dispatchIntf eventAlone n.intf .nbrChange) s).2 := by
    by_cases hc : crossesTwoWay old (s.nbr n).state = true
    · rw [Eff.when_pos ⟨hatt.multi, hc⟩]
      exact sound_nbrChange hatt
    · rw [Eff.when_neg fun hboth => hc hboth.2]
      exact h.resolve_left hc
  refine Eff.bind_final (P := Sound n.intf) hfirst fun _ _ => ?_
  exact hfirst.quiet (scheduleLsas_within n _)

theorem SameLink.setNbr {x : OspfNeighbor} (h : nbrCandidate x = nbrCandidate (s.nbr n)) :
    SameLink i s (s.setNbr n x) := by
  refine ⟨rfl, rfl, rfl, rfl, rfl, fun m _ => ?_⟩
  rw [Instance.nbr_setNbr]
  split
  · rename_i hm
    rw [hm, h]
  · rfl

instance : Std.Refl (SameLink i) := ⟨SameLink.refl⟩

instance : IsTrans Instance (SameLink i) := ⟨fun _ _ _ => SameLink.trans⟩

/-- Only one neighbor changes. -/
def OnlyNbr (n : NbrRef) (s t : Instance) : Prop := ∀ m, m ≠ n → t.nbr m = s.nbr m

instance : Std.Refl (OnlyNbr n) := ⟨fun _ _ _ => rfl⟩

instance : IsTrans Instance (OnlyNbr n) := ⟨fun _ _ _ h h' m hm => (h' m hm).trans (h m hm)⟩

theorem nbrAction_sameLink (n : NbrRef) (action : NbrAction) : Eff.Within (SameLink i) (action.run n) :=
  nbrAction_within n (fun _ _ => .of_quiet) (fun _ _ => .setNbr) action

theorem nbrAction_onlyNbr (n : NbrRef) (action : NbrAction) : Eff.Within (OnlyNbr n) (action.run n) :=
  nbrAction_within n (fun _ _ h _ _ => by rw [h.nbr])
    (fun _ _ _ _ hm => Instance.nbr_setNbr_of_ne _ hm _) action

theorem sides_of_not_crosses {a b : NbrState} (h : crossesTwoWay a b = false) :
    .twoWay ≤ b ↔ .twoWay ≤ a := by
  simp only [crossesTwoWay, NbrState.lt_def, NbrState.le_def, decide_eq_false_iff_not] at h ⊢
  omega

theorem SameSides.of_onlyNbr (h : OnlyNbr n s t)
    (hcross : crossesTwoWay (s.nbr n).state (t.nbr n).state = false) : SameSides i s t := by
  intro m _
  by_cases hm : m = n
  · rw [hm]
    exact sides_of_not_crosses hcross
  · rw [h m hm]

/-- All actions but the end of an exchange return. -/
theorem nbrAction_returns (n : NbrRef) {action : NbrAction} (h : action ≠ .exchangeDone) (s : Instance) :
    ∃ t, action.run n s = (.ok (), t) := by
  cases action with
  | exchangeDone => exact absurd rfl h
  | twoWayReceived =>
    rw [NbrAction.run, Eff.get_bind_apply]
    split
    · obtain ⟨x, t, ht, -⟩ := enterExStart_returns n s
      exact ⟨t, ht⟩
    · exact ⟨_, rfl⟩
  | adjOk2Way =>
    rw [NbrAction.run, Eff.get_bind_apply]
    by_cases hsh : shouldFormAdjacency s n = true
    · rw [Eff.when_pos hsh]
      obtain ⟨x, t, ht, -⟩ := enterExStart_returns n s
      exact ⟨t, ht⟩
    · rw [Eff.when_neg hsh]
      exact ⟨s, rfl⟩
  | adjOkAdjformed =>
    rw [NbrAction.run, Eff.get_bind_apply]
    by_cases hsh : ¬shouldFormAdjacency s n = true
    · rw [Eff.when_pos hsh]
      exact ⟨_, rfl⟩
    · rw [Eff.when_neg hsh]
      exact ⟨s, rfl⟩
  | seqNumMismatch =>
    obtain ⟨x, t, ht, -⟩ := seqNumMismatch_returns n s
    exact ⟨t, ht⟩
  | badLsReq =>
    obtain ⟨x, t, ht, -⟩ := seqNumMismatch_returns n s
    exact ⟨t, ht⟩
  | _ => exact ⟨_, rfl⟩

/-- The end of an exchange leaves the neighbor bidirectional. -/
theorem exchangeDone_sides (h : (s.nbr n).state = .exchange) :
    crossesTwoWay (s.nbr n).state ((NbrAction.exchangeDone.run n s).2.nbr n).state = false := by
  have hfin : ∀ st, st = .loading ∨ st = .full → crossesTwoWay (s.nbr n).state st = false := by
    rintro st (rfl | rfl) <;> rw [h] <;> rfl
  rw [NbrAction.run, Eff.get_bind_apply]
  split
  · refine hfin _ (.inl ?_)
    refine Eff.bind_final (P := fun t : Instance => (t.nbr n).state = .loading)
      (by rw [modifyNbr_apply, Instance.nbr_setNbr_self]) fun _ _ => ?_
    rw [modifyNbr_apply]
    rcases sendLsRequest_quiet n (s.setNbr n { s.nbr n with state := .loading }) with hq | hq
    · rw [hq.nbr, Instance.nbr_setNbr_self]
    · rw [hq.nbr, Instance.nbr_setNbr_self, Instance.nbr_setNbr_self]
  · refine hfin _ (.inr ?_)
    rw [modifyNbr_apply, Instance.nbr_setNbr_self]

/-- The interface after an action, and after it was told. -/
theorem sound_action {action : NbrAction} (hatt : OnSegment n.intf s)
    (hfsm : action = .exchangeDone → (s.nbr n).state = .exchange)
    (h : crossesTwoWay (s.nbr n).state ((action.run n s).2.nbr n).state = true ∨ Sound n.intf s) :
    Sound n.intf ((action.run n >>= fun _ => Eff.get >>= fun t : Instance =>
      Eff.when ((t.nbr n).state ≠ (s.nbr n).state)
        (neighborStateChanged eventAlone n (s.nbr n).state)) s).2 := by
  have hlink : SameLink n.intf s (action.run n s).2 := nbrAction_sameLink n action s
  have hrole : KeepsRole n.intf s (action.run n s).2 := .of_intf (nbrAction_sameIntfs n action s)
  have honly := nbrAction_onlyNbr n action s
  -- without crossing 2-Way the ballot is the same
  have hstay : crossesTwoWay (s.nbr n).state ((action.run n s).2.nbr n).state = false →
      Sound n.intf (action.run n s).2 := by
    intro hcross
    rw [hcross] at h
    exact (h.resolve_left Bool.false_ne_true).congr hlink (.of_onlyNbr honly hcross) hrole
  rw [Eff.bind_apply]
  rcases hr : action.run n s with ⟨r, t⟩
  rw [hr] at hlink hstay h
  cases r with
  | error e =>
    have hexch : action = .exchangeDone := by
      by_contra hne
      obtain ⟨u, hu⟩ := nbrAction_returns n hne s
      rw [hr] at hu
      cases hu
    subst hexch
    have hcross := exchangeDone_sides (hfsm rfl)
    rw [hr] at hcross
    exact hstay hcross
  | ok a =>
    dsimp only at hlink hstay h ⊢
    rw [Eff.get_bind_apply]
    have hatt' := hlink.onSegment hatt
    by_cases hcross : crossesTwoWay (s.nbr n).state (t.nbr n).state = true
    · have hne : (t.nbr n).state ≠ (s.nbr n).state := by
        intro heq
        rw [heq, crossesTwoWay_eq_false Iff.rfl] at hcross
        cases hcross
      rw [Eff.when_pos hne]
      exact sound_neighborStateChanged hatt' (.inl hcross)
    · have hsound := hstay (by simpa using hcross)
      by_cases hne : (t.nbr n).state ≠ (s.nbr n).state
      · rw [Eff.when_pos hne]
        exact sound_neighborStateChanged hatt' (.inr hsound)
      · rw [Eff.when_neg hne]
        exact hsound

/-- A neighbor that goes Down. -/
theorem sound_goDown (h : Sound n.intf s) :
    Sound n.intf (goDown eventAlone n s).2 := by
  have hlink : SameLink n.intf s (s.setNbr n (s.nbr n).goneDown) := .setNbr rfl
  have hrun : goDown eventAlone n s = Eff.when ((s.nbr n).state ≠ .down)
      (neighborStateChanged eventAlone n (s.nbr n).state) (s.setNbr n (s.nbr n).goneDown) := rfl
  have hstate : ((s.setNbr n (s.nbr n).goneDown).nbr n).state = .down := by
    rw [Instance.nbr_setNbr_self]
    rfl
  have honly : OnlyNbr n s (s.setNbr n (s.nbr n).goneDown) := fun m hm => Instance.nbr_setNbr_of_ne _ hm _
  have hstay : crossesTwoWay (s.nbr n).state .down = false →
      Sound n.intf (s.setNbr n (s.nbr n).goneDown) := by
    intro hcross
    exact h.congr hlink (.of_onlyNbr honly (by rw [hstate]; exact hcross)) (.of_intf rfl)
  rw [hrun]
  by_cases hne : (s.nbr n).state ≠ .down
  · rw [Eff.when_pos hne]
    refine sound_neighborStateChanged (hlink.onSegment h.onSegment) ?_
    rw [hstate]
    cases hcross : crossesTwoWay (s.nbr n).state .down with
    | true => exact .inl rfl
    | false => exact .inr (hstay hcross)
  · rw [Eff.when_neg hne]
    exact hstay (by rw [not_not.1 hne]; rfl)

theorem nbrFsm_exchangeDone {st : NbrState} {evt : NbrEvent} (h : nbrFsm st evt = some .exchangeDone) :
    st = .exchange := by
  cases st <;> cases evt <;> cases h
  rfl

/-- An event that makes the neighbor bidirectional, or no longer so. -/
theorem nbrEvent_crosses {evt : NbrEvent} {action : NbrAction} (hatt : OnSegment n.intf s)
    (hfsm : nbrFsm (s.nbr n).state evt = some action)
    (hcross : crossesTwoWay (s.nbr n).state ((action.run n (s.traced n evt)).2.nbr n).state = true) :
    Sound n.intf (nbrEvent n evt s).2 := by
  have hlink : SameLink n.intf s (s.traced n evt) := .of_quiet (quiet_traced s n evt)
  rw [nbrEvent_alone, dispatchNbr_eq, handleNbr, hfsm]
  refine sound_action (s := s.traced n evt) (hlink.onSegment hatt) ?_ (.inl hcross)
  rintro rfl
  exact nbrFsm_exchangeDone hfsm

/-- **An event of a neighbor** leaves the interface current. -/
theorem nbrEvent_sound (evt : NbrEvent) (h : Sound n.intf s) : Sound n.intf (nbrEvent n evt s).2 := by
  have hs : Sound n.intf (s.traced n evt) := h.quiet (quiet_traced s n evt)
  rw [nbrEvent_alone, dispatchNbr_eq, handleNbr]
  cases hfsm : nbrFsm (s.nbr n).state evt with
  | some action =>
    refine sound_action (s := s.traced n evt) hs.onSegment ?_ (.inr hs)
    rintro rfl
    exact nbrFsm_exchangeDone hfsm
  | none =>
    have hdown : Sound n.intf (Eff.when (evt.isReset = true) (goDown eventAlone n) (s.traced n evt)).2 := by
      by_cases hreset : evt.isReset = true
      · rw [Eff.when_pos hreset]
        exact sound_goDown hs
      · rw [Eff.when_neg hreset]
        exact hs
    refine Eff.bind_final (P := Sound n.intf) hdown fun _ _ => ?_
    rw [Eff.get_bind_apply]
    by_cases hne : ((Eff.when (evt.isReset = true) (goDown eventAlone n) (s.traced n evt)).2.nbr n).state ≠
        (s.nbr n).state
    · rw [Eff.when_pos hne]
      exact sound_neighborStateChanged hdown.onSegment (.inr hdown)
    · rw [Eff.when_neg hne]
      exact hdown

end Neighbor

/-! ## Events of the interface -/

/-- Without elections, what keeps the link keeps the interface current. -/
theorem SameLink.idle (h : SameLink i s t) (hs : OnSegment i s) (hidle : ¬(t.intf i).state.Electing) :
    Sound i t := .of_idle (h.onSegment hs) hidle

theorem SameLink.setIntf {x : OspfInterface} (htype : x.intfType = (s.intf i).intfType)
    (hip : x.ipAddr = (s.intf i).ipAddr) (hprio : x.priority = (s.intf i).priority)
    (hns : x.neighbors = (s.intf i).neighbors) : SameLink i s (s.setIntf i x) := by
  refine ⟨rfl, ?_, ?_, ?_, ?_, fun _ _ => rfl⟩ <;> rw [Instance.intf_setIntf_self]
  · exact htype
  · exact hip
  · exact hprio
  · exact hns

theorem startHello_sameLink (i : IntfId) : Eff.Within (SameLink i) (startHello i) := by
  refine Eff.Within.bind (Eff.Within.modify fun s => .setIntf rfl rfl rfl rfl) fun _ => ?_
  exact (sendHello_within i).mono fun _ _ => .of_quiet

/-- The Hello of the interface can be built and sent. -/
def HelloFits (s : Instance) (i : IntfId) : Prop :=
  ∃ body, (helloOf s i).serialize = .ok body ∧ OspfHeader.size + body.length < 65536

theorem sendHello_returns (h : HelloFits s i) : ∃ t, sendHello i s = (.ok (), t) := by
  obtain ⟨body, hbody, hlen⟩ := h
  have hone : ∀ dest u, ∃ v, (do
      let body ← Eff.lift (helloOf s i).serialize
      sendPacket i packetTypeHello body dest : Py Unit) u = (.ok (), v) := by
    intro dest u
    obtain ⟨data, cryptSeq, hsend⟩ := sendPacket_returns i dest (by decide : packetTypeHello < 256) hlen u
    rw [hbody, Eff.bind_apply_ok (Eff.lift_apply _ u), hsend]
    exact ⟨_, rfl⟩
  rw [sendHello, Eff.get_bind_apply]
  by_cases hpassive : ¬(s.intf i).passive = true
  · rw [Eff.when_pos hpassive]
    have hloop : ∃ t, Eff.Runs (Eff.forEach (s.neighborsOf i) fun n => (do
        let body ← Eff.lift (helloOf s i).serialize
        sendPacket i packetTypeHello body (s.nbr n).ipAddr : Py Unit)) s () t ∧ True :=
      Eff.Runs.forEach_returns (I := fun _ => True) trivial fun n _ v _ => by
        obtain ⟨w, hw⟩ := hone (s.nbr n).ipAddr v
        exact ⟨w, hw, trivial⟩
    obtain ⟨t, ht, -⟩ := hloop
    cases (s.intf i).intfType with
    | broadcast => exact hone _ s
    | p2p => exact hone _ s
    | p2mp => exact hone _ s
    | nbma => exact ⟨t, ht⟩
    | virtual => exact ⟨t, ht⟩
  · rw [Eff.when_neg hpassive]
    exact ⟨s, rfl⟩

/-- The Hello does not tell the state of the interface, nor its timers. -/
theorem helloFits_startHello (h : HelloFits s i) (st : IntfState) :
    ∃ t, startHello i (s.setIntf i { s.intf i with state := st }) = (.ok (), t) := by
  let x : OspfInterface := { s.intf i with state := st, helloTimer := true, ackTimer := true }
  have hrun : startHello i (s.setIntf i { s.intf i with state := st }) = sendHello i (s.setIntf i x) := by
    rw [startHello, modifyIntf_bind_apply, Instance.intf_setIntf_self, Instance.setIntf, Instance.setIntf,
      Function.update_idem]
    rfl
  have hhello : helloOf (s.setIntf i x) i = helloOf s i := by
    simp only [helloOf, Instance.neighborsOf, Instance.intf_setIntf_self, Instance.nbr_setIntf]
    rfl
  rw [hrun]
  refine sendHello_returns ?_
  rw [HelloFits, hhello]
  exact h

/-- InterfaceUp: without priority the interface elects at once. -/
theorem sound_ifUp (hatt : OnSegment i s)
    (hfits : (s.intf i).passive = false → (s.intf i).priority = 0 → HelloFits s i) :
    Sound i (IntfAction.ifUp.run eventAlone i s).2 := by
  have hset : ∀ st, SameLink i s (s.setIntf i { s.intf i with state := st }) := fun st =>
    .setIntf rfl rfl rfl rfl
  have hhello : ∀ st, SameLink i s (startHello i (s.setIntf i { s.intf i with state := st })).2 :=
    fun st => (hset st).trans (startHello_sameLink i _)
  rw [IntfAction.run, Eff.get_bind_apply]
  by_cases hpassive : (s.intf i).passive = true
  · rw [if_pos hpassive, modifyIntf_apply]
    refine (hset .loopback).idle hatt ?_
    rw [Instance.intf_setIntf_self]
    rintro (h | h | h) <;> cases h
  · rw [if_neg hpassive, if_pos hatt.multi]
    by_cases hprio : (s.intf i).priority = 0
    · obtain ⟨t, ht⟩ := helloFits_startHello (hfits (by simpa using hpassive) hprio) .drOther
      have hlink := hhello .drOther
      rw [ht] at hlink
      rw [if_pos hprio, modifyIntf_bind_apply, Eff.bind_apply_ok ht]
      exact sound_runDrElection (hlink.onSegment hatt)
    · have hwait : ∀ u w, OnSegment i u → ¬(u.intf i).state.Electing →
          Sound i (u.setIntf i { u.intf i with waitTimer := w }) := by
        intro u w hu hidle
        have hlink : SameLink i u (u.setIntf i { u.intf i with waitTimer := w }) := .setIntf rfl rfl rfl rfl
        refine hlink.idle hu ?_
        rw [Instance.intf_setIntf_self]
        exact hidle
      have hlink := hhello .waiting
      have hrole := startHello_keepsRole i (s.setIntf i { s.intf i with state := .waiting })
      have hidle : ¬((startHello i (s.setIntf i { s.intf i with state := .waiting })).2.intf
          i).state.Electing := by
        rw [hrole.state, Instance.intf_setIntf_self]
        rintro (h | h | h) <;> cases h
      rw [if_neg hprio, modifyIntf_bind_apply]
      have hsound := hlink.idle hatt hidle
      refine Eff.bind_final (P := Sound i) hsound fun _ _ => ?_
      exact hwait _ _ hsound.onSegment hidle

/-- InterfaceDown leaves no neighbor. -/
theorem sound_ifDown (hatt : OnSegment i s) : Sound i (IntfAction.ifDown.run eventAlone i s).2 := by
  have hintf := intf_ifDown i s
  refine .of_idle ⟨?_, ?_, fun n hn => ?_⟩ ?_
  · rw [hintf]
    exact hatt.multi
  · rw [hintf]
    exact hatt.address
  · rw [Instance.neighborsOf, hintf] at hn
    cases hn
  · rw [hintf]
    rintro (h | h | h) <;> cases h

/-- **An event of the interface** leaves it current. -/
theorem intfEvent_sound {evt : IntfEvent} (h : Sound i s)
    (hfits : evt = .ifUp → (s.intf i).state = .down → (s.intf i).passive = false →
      (s.intf i).priority = 0 → HelloFits s i) : Sound i (intfEvent i evt s).2 := by
  rw [intfEvent_alone]
  have hidle : ∀ x : OspfInterface, SameLink i s (s.setIntf i x) → ¬x.state.Electing →
      Sound i (s.setIntf i x) := by
    intro x hlink hx
    refine hlink.idle h.onSegment ?_
    rw [Instance.intf_setIntf_self]
    exact hx
  have hnone : handleIntf eventAlone i (s.intf i).state evt s = (.ok (), s) →
      Sound i (dispatchIntf eventAlone i evt s).2 := by
    intro hh
    have hquiet := dispatchIntf_quiet eventAlone i evt s
    rw [hh] at hquiet
    exact h.quiet hquiet
  have hsome : ∀ action, intfFsm (s.intf i).state evt = some action →
      Sound i (action.run eventAlone i s).2 → Sound i (dispatchIntf eventAlone i evt s).2 := by
    intro action hfsm haction
    refine Sound.quiet ?_ (dispatchIntf_quiet eventAlone i evt s)
    rw [handleIntf, hfsm]
    exact haction
  cases hfsm : intfFsm (s.intf i).state evt with
  | none =>
    refine hnone ?_
    rw [handleIntf, hfsm]
    rfl
  | some action =>
    refine hsome action hfsm ?_
    cases action with
    | ifUp =>
      obtain ⟨rfl, hdown⟩ : evt = .ifUp ∧ (s.intf i).state = .down := by
        cases hst : (s.intf i).state <;> rw [hst] at hfsm <;> cases evt <;> cases hfsm
        exact ⟨rfl, rfl⟩
      exact sound_ifUp h.onSegment (hfits rfl hdown)
    | waitTimer => exact sound_runDrElection h.onSegment
    | backupSeen =>
      have hwait : SameLink i s (s.setIntf i { s.intf i with waitTimer := none }) :=
        .setIntf rfl rfl rfl rfl
      exact sound_runDrElection (hwait.onSegment h.onSegment)
    | nbrChange => exact sound_runDrElection h.onSegment
    | loopInd => exact hidle _ (.setIntf rfl rfl rfl rfl) (by rintro (h | h | h) <;> cases h)
    | unloopInd => exact hidle _ (.setIntf rfl rfl rfl rfl) (by rintro (h | h | h) <;> cases h)
    | ifDown => exact sound_ifDown h.onSegment

/-! ## Hellos -/

/-- A Hello from another address; and in a state with elections, one of a bidirectional neighbor that
lists this router and declares what it did before, with the priority and the address it had. -/
def AnnouncedHello (i : IntfId) (s : Instance) (hello : HelloPacket) (src routerId : IPv4Address) : Prop :=
  src ≠ (s.intf i).ipAddr ∧ ((s.intf i).state.Electing → routerId ∈ (s.intf i).neighbors →
    .twoWay ≤ (s.nbr ⟨i, routerId⟩).state → s.routerId ∈ hello.neighbors →
    (s.nbr ⟨i, routerId⟩).dr = hello.designatedRouter →
    (s.nbr ⟨i, routerId⟩).bdr = hello.backupDesignatedRouter →
    (s.nbr ⟨i, routerId⟩).priority = hello.priority ∧ (s.nbr ⟨i, routerId⟩).ipAddr = src)

/-- An instance with one more neighbor. -/
def Instance.addNbr (s : Instance) (i : IntfId) (src routerId : IPv4Address) : Instance :=
  (s.setNbr ⟨i, routerId⟩ { routerId, ipAddr := src }).setIntf i
    { s.intf i with neighbors := (s.intf i).neighbors ++ [routerId] }

/-- A neighbor is found, refused or new. -/
theorem findOrCreate_cases (i : IntfId) (src routerId : IPv4Address) (s : Instance) :
    routerId ∈ (s.intf i).neighbors ∧ findOrCreate i src routerId s = (.ok true, s) ∨
      routerId ∉ (s.intf i).neighbors ∧ (findOrCreate i src routerId s = (.ok false, s) ∨
        findOrCreate i src routerId s = (.ok true, s.addNbr i src routerId)) := by
  rw [findOrCreate, Eff.get_bind_apply]
  by_cases hmem : routerId ∈ (s.intf i).neighbors
  · rw [if_pos hmem]
    exact .inl ⟨hmem, rfl⟩
  · rw [if_neg hmem]
    refine .inr ⟨hmem, ?_⟩
    split
    · exact .inl rfl
    · exact .inr rfl

section New

variable {src routerId : IPv4Address}

theorem intf_addNbr : (s.addNbr i src routerId).intf i =
    { s.intf i with neighbors := (s.intf i).neighbors ++ [routerId] } := Instance.intf_setIntf_self ..

theorem nbr_addNbr : (s.addNbr i src routerId).nbr ⟨i, routerId⟩ = { routerId, ipAddr := src } :=
  Instance.nbr_setNbr_self ..

theorem neighborsOf_addNbr :
    (s.addNbr i src routerId).neighborsOf i = s.neighborsOf i ++ [⟨i, routerId⟩] := by
  rw [Instance.neighborsOf, intf_addNbr, List.map_append]
  rfl

/-- The other neighbors are as they were. -/
theorem nbr_addNbr_of_mem (h : routerId ∉ (s.intf i).neighbors) {n : NbrRef} (hn : n ∈ s.neighborsOf i) :
    (s.addNbr i src routerId).nbr n = s.nbr n := by
  refine Instance.nbr_setNbr_of_ne s (n := ⟨i, routerId⟩) ?_ _
  rintro rfl
  exact h (Instance.mem_neighborsOf.1 hn).2

/-- A new neighbor is Down, and no candidate. -/
theorem sound_addNbr (h : Sound i s) (hsrc : src ≠ (s.intf i).ipAddr)
    (hmem : routerId ∉ (s.intf i).neighbors) : Sound i (s.addNbr i src routerId) := by
  have hothers : otherCandidates (s.addNbr i src routerId) i = otherCandidates s i := by
    rw [otherCandidates, neighborsOf_addNbr, List.map_append, List.filter_append, List.map_cons, List.map_nil,
      nbr_addNbr, List.filter_cons_of_neg (by simp), List.filter_nil, List.append_nil]
    refine eligible_congr fun n hn => ?_
    rw [nbr_addNbr_of_mem hmem hn]
    exact ⟨Iff.rfl, fun _ => rfl⟩
  refine ⟨⟨?_, ?_, fun n hn => ?_⟩, ?_⟩
  · rw [intf_addNbr]
    exact h.onSegment.multi
  · rw [intf_addNbr]
    exact h.onSegment.address
  · rw [neighborsOf_addNbr] at hn
    rcases List.mem_append.1 hn with hn | hn
    · rw [nbr_addNbr_of_mem hmem hn, intf_addNbr]
      exact h.onSegment.others n hn
    · obtain rfl := List.mem_singleton.1 hn
      rw [nbr_addNbr, intf_addNbr]
      exact hsrc
  · exact h.current.of_eq rfl (by rw [intf_addNbr]) (by rw [intf_addNbr]) hothers
      ⟨by rw [intf_addNbr], by rw [intf_addNbr], by rw [intf_addNbr]⟩

end New

section From

variable {n : NbrRef} {hello : HelloPacket} {src : IPv4Address}

theorem onSegment_told (hatt : OnSegment i s) (hsrc : src ≠ (s.intf i).ipAddr) :
    OnSegment i (s.setNbr n ((s.nbr n).told hello src)) := by
  refine ⟨hatt.multi, hatt.address, fun m hm => ?_⟩
  rw [Instance.nbr_setNbr]
  split
  · exact hsrc
  · exact hatt.others m hm

/-- What a neighbor that is not bidirectional tells does not matter yet. -/
theorem sound_told_of_lt (h : Sound i s) (hsrc : src ≠ (s.intf i).ipAddr)
    (hst : ¬.twoWay ≤ (s.nbr n).state) : Sound i (s.setNbr n ((s.nbr n).told hello src)) := by
  refine ⟨onSegment_told h.onSegment hsrc, ?_⟩
  refine h.current.of_eq rfl rfl rfl ?_ (.of_intf rfl)
  refine eligible_congr fun m _ => ?_
  rw [Instance.nbr_setNbr]
  split
  · rename_i hm
    rw [hm]
    exact ⟨⟨fun helig => absurd helig.1 hst, fun helig => absurd helig.1 hst⟩,
      fun helig => absurd helig.1 hst⟩
  · exact ⟨Iff.rfl, fun _ => rfl⟩

/-- A neighbor that tells what it told before. -/
theorem sound_told_of_eq (h : Sound i s)
    (htold : nbrCandidate ((s.nbr n).told hello src) = nbrCandidate (s.nbr n)) :
    Sound i (s.setNbr n ((s.nbr n).told hello src)) := by
  have hlink : SameLink i s (s.setNbr n ((s.nbr n).told hello src)) := .setNbr htold
  refine h.congr hlink (fun m _ => ?_) (.of_intf rfl)
  rw [Instance.nbr_setNbr]
  split
  · rename_i hm
    rw [hm]
    rfl
  · exact Iff.rfl

theorem helloTwoWay_sound (h : Sound n.intf s) : Sound n.intf (helloTwoWay n hello s).2 := by
  rw [helloTwoWay, Eff.get_bind_apply]
  split
  · by_cases hst : (s.nbr n).state = .init
    · rw [Eff.when_pos hst]
      exact nbrEvent_sound _ h
    · rw [Eff.when_neg hst]
      exact h
  · by_cases hst : .twoWay ≤ (s.nbr n).state
    · rw [Eff.when_pos hst]
      exact nbrEvent_sound _ h
    · rw [Eff.when_neg hst]
      exact h

/-- HelloReceived of a bidirectional neighbor only restarts its timer. -/
theorem nbrEvent_helloReceived_eq (h : .twoWay ≤ (s.nbr n).state) :
    ∃ deadline t, nbrEvent n .helloReceived s = (.ok (), t) ∧
      Quiet (s.setNbr n { s.nbr n with inactivityTimer := deadline }) t := by
  have hfsm : nbrFsm (s.nbr n).state .helloReceived = some .helloReceivedAny := by
    cases hst : (s.nbr n).state <;> first | rfl | (rw [hst] at h; exact absurd h (by decide))
  let x : OspfNeighbor := { s.nbr n with inactivityTimer := some (inactivityDeadline s n.intf) }
  have hh : handleNbr eventAlone n (s.nbr n).state .helloReceived (s.traced n .helloReceived) =
      (.ok (), (s.traced n .helloReceived).setNbr n x) := by
    rw [handleNbr, hfsm]
    rfl
  obtain ⟨t, ht, hq⟩ := dispatchNbr_returns hh ((quiet_traced s n .helloReceived).setNbr n x)
    (crossesTwoWay_eq_false Iff.rfl)
  rw [nbrEvent_alone]
  exact ⟨_, t, ht, hq⟩

/-- 1-WayReceived of a bidirectional neighbor. -/
theorem nbrEvent_oneWay_sound (hatt : OnSegment n.intf s) (h : .twoWay ≤ (s.nbr n).state) :
    Sound n.intf (nbrEvent n .oneWay s).2 := by
  have hfsm : nbrFsm (s.nbr n).state .oneWay = some .oneWay := by
    cases hst : (s.nbr n).state <;> first | rfl | (rw [hst] at h; exact absurd h (by decide))
  refine nbrEvent_crosses hatt hfsm ?_
  have hinit : ((NbrAction.oneWay.run n (s.traced n .oneWay)).2.nbr n).state = .init := by
    rw [NbrAction.run, modifyNbr_apply, Instance.nbr_setNbr_self]
    rfl
  rw [hinit, crossesTwoWay]
  exact decide_eq_true (.inr ⟨h, by decide⟩)

/-- The end of `process_hello`: BackupSeen and NeighborChange. -/
def helloRest (n : NbrRef) (hello : HelloPacket) (src oldDr oldBdr : IPv4Address) : Py Unit := do
  let s ← Eff.get
  Eff.when ((s.intf n.intf).state = .waiting ∧ backupSeen hello src) (intfEvent n.intf .backupSeen)
  let s ← Eff.get
  Eff.when (NbrState.twoWay ≤ (s.nbr n).state ∧ (oldDr ≠ (s.nbr n).dr ∨ oldBdr ≠ (s.nbr n).bdr))
    (intfEvent n.intf .nbrChange)

theorem helloRest_sound (oldDr oldBdr : IPv4Address) (h : Sound n.intf s) :
    Sound n.intf (helloRest n hello src oldDr oldBdr s).2 := by
  have hevent : ∀ {evt : IntfEvent}, evt ≠ .ifUp → ∀ {p : Prop} [Decidable p] {t : Instance},
      Sound n.intf t → Sound n.intf (Eff.when p (intfEvent n.intf evt) t).2 := by
    intro evt hevt p _ t ht
    by_cases hp : p
    · rw [Eff.when_pos hp]
      exact intfEvent_sound ht fun heq => absurd heq hevt
    · rw [Eff.when_neg hp]
      exact ht
  have hfirst : Sound n.intf (Eff.when ((s.intf n.intf).state = .waiting ∧ backupSeen hello src)
      (intfEvent n.intf .backupSeen) s).2 := hevent (by decide) h
  rw [helloRest, Eff.get_bind_apply]
  refine Eff.bind_final (P := Sound n.intf) hfirst fun _ _ => ?_
  rw [Eff.get_bind_apply]
  exact hevent (by decide) hfirst

theorem helloFrom_sound (h : Sound n.intf s) (htold : AnnouncedHello n.intf s hello src n.routerId)
    (hn : n.routerId ∈ (s.intf n.intf).neighbors) : Sound n.intf (helloFrom n hello src s).2 := by
  let t : Instance := s.setNbr n ((s.nbr n).told hello src)
  have hatt : OnSegment n.intf t := onSegment_told h.onSegment htold.1
  have hrun : helloFrom n hello src s = (nbrEvent n .helloReceived >>= fun _ => helloTwoWay n hello >>=
      fun _ => helloRest n hello src (s.nbr n).dr (s.nbr n).bdr) t := rfl
  rw [hrun]
  by_cases hsound : Sound n.intf t
  · have hrecv := nbrEvent_sound .helloReceived hsound
    refine Eff.bind_final (P := Sound n.intf) hrecv fun _ _ => ?_
    have htwo : Sound n.intf (helloTwoWay n hello (nbrEvent n .helloReceived t).2).2 :=
      helloTwoWay_sound hrecv
    exact Eff.bind_final (P := Sound n.intf) htwo fun _ _ => helloRest_sound _ _ htwo
  · -- the election is told of what it does not know yet
    have helect : (s.intf n.intf).state.Electing := by
      by_contra hidle
      exact hsound (.of_idle hatt hidle)
    have hst : .twoWay ≤ (s.nbr n).state := by
      by_contra hlt
      exact hsound (sound_told_of_lt h htold.1 hlt)
    have htn : t.nbr n = (s.nbr n).told hello src := Instance.nbr_setNbr_self ..
    have htst : .twoWay ≤ (t.nbr n).state := by
      rw [htn]
      exact hst
    obtain ⟨deadline, u, hu, hq⟩ := nbrEvent_helloReceived_eq htst
    have hun : u.nbr n = { (s.nbr n).told hello src with inactivityTimer := deadline } := by
      rw [hq.nbr, Instance.nbr_setNbr_self, htn]
    have hlink : SameLink n.intf t (t.setNbr n { t.nbr n with inactivityTimer := deadline }) := .setNbr rfl
    have hattu : OnSegment n.intf u := (hlink.trans (.of_quiet hq)).onSegment hatt
    have hust : .twoWay ≤ (u.nbr n).state := by
      rw [hun]
      exact hst
    have hrid : u.routerId = s.routerId := hq.routerId
    rw [Eff.bind_apply_ok hu]
    by_cases hlisted : s.routerId ∈ hello.neighbors
    · have htwo : helloTwoWay n hello u = (.ok (), u) := by
        have hinit : ¬(u.nbr n).state = .init := by
          intro heq
          rw [heq] at hust
          exact absurd hust (by decide)
        rw [helloTwoWay, Eff.get_bind_apply, hrid, if_pos hlisted, Eff.when_neg hinit]
        rfl
      have hwaiting : ¬((u.intf n.intf).state = .waiting ∧ backupSeen hello src) := by
        rintro ⟨hwait, -⟩
        rw [hq.intf] at hwait
        change (s.intf n.intf).state = .waiting at hwait
        rw [hwait] at helect
        rcases helect with h | h | h <;> cases h
      have hchanged : (s.nbr n).dr ≠ (u.nbr n).dr ∨ (s.nbr n).bdr ≠ (u.nbr n).bdr := by
        rw [hun]
        by_contra hsame
        rw [not_or, not_not, not_not] at hsame
        obtain ⟨hprio, hip⟩ := htold.2 helect hn hst hlisted hsame.1 hsame.2
        refine hsound (sound_told_of_eq h ?_)
        change Candidate.mk _ _ _ _ _ = Candidate.mk _ _ _ _ _
        rw [hprio, hip, hsame.1, hsame.2]
        rfl
      rw [Eff.bind_apply_ok htwo, helloRest, Eff.get_bind_apply, Eff.when_neg hwaiting, Eff.pure_bind_apply,
        Eff.get_bind_apply, Eff.when_pos ⟨hust, hchanged⟩, intfEvent_alone]
      exact sound_nbrChange hattu
    · have htwo : Sound n.intf (helloTwoWay n hello u).2 := by
        rw [helloTwoWay, Eff.get_bind_apply, hrid, if_neg hlisted, Eff.when_pos hust]
        exact nbrEvent_oneWay_sound hattu hust
      exact Eff.bind_final (P := Sound n.intf) htwo fun _ _ => helloRest_sound _ _ htwo

end From

/-- **A Hello** leaves the interface current. -/
theorem processHello_sound {hello : HelloPacket} {src routerId : IPv4Address} (h : Sound i s)
    (htold : helloAccepted s i hello = true → AnnouncedHello i s hello src routerId) :
    Sound i (processHello i hello src routerId s).2 := by
  rw [processHello, Eff.get_bind_apply]
  by_cases hacc : helloAccepted s i hello = true
  · have hsay := htold hacc
    rw [Eff.when_pos hacc]
    rcases findOrCreate_cases i src routerId s with ⟨hmem, hfind⟩ | ⟨hmem, hfind | hfind⟩ <;>
      rw [Eff.bind_apply_ok hfind]
    · exact helloFrom_sound (n := ⟨i, routerId⟩) h hsay hmem
    · exact h
    · have hnew := sound_addNbr h hsay.1 hmem
      refine helloFrom_sound (n := ⟨i, routerId⟩) hnew ⟨?_, fun _ _ hst => ?_⟩ ?_
      · rw [intf_addNbr]
        exact hsay.1
      · rw [nbr_addNbr] at hst
        change NbrState.twoWay ≤ NbrState.down at hst
        exact absurd hst (by decide)
      · rw [intf_addNbr]
        exact List.mem_append_right _ (List.mem_singleton_self _)
  · rw [Eff.when_neg hacc]
    exact h

/-! ## Runs -/

/-- What happens on a link: Hellos, events of the interface, and events of its neighbors. -/
inductive LinkInput where
  | intf (x : IntfInput)
  | nbr (routerId : IPv4Address) (evt : NbrEvent)

/-- The state after an input. -/
def LinkInput.after (i : IntfId) (s : Instance) : LinkInput → Instance
  | .intf x => x.after i s
  | .nbr routerId evt => (nbrEvent ⟨i, routerId⟩ evt s).2

/-- The inputs that the election is told of: an accepted Hello is announced, and an interface that
elects as soon as it is up can send its Hello. -/
def Announced (i : IntfId) (s : Instance) : LinkInput → Prop
  | .intf (.hello packet src routerId) => helloAccepted s i packet = true →
      AnnouncedHello i s packet src routerId
  | .intf (.event .ifUp) => (s.intf i).state = .down → (s.intf i).passive = false →
      (s.intf i).priority = 0 → HelloFits s i
  | _ => True

/-- The states between inputs of a run, each of which is as required when it arrives. -/
inductive LinkReached (P : Instance → LinkInput → Prop) (i : IntfId) (s : Instance) : Instance → Prop
  | start : LinkReached P i s s
  | step {t : Instance} (x : LinkInput) (h : LinkReached P i s t) (hx : P t x) :
      LinkReached P i s (x.after i t)

/-- **One input** leaves the interface current. -/
theorem sound_after {x : LinkInput} (h : Sound i s) (hx : Announced i s x) : Sound i (x.after i s) := by
  cases x with
  | nbr routerId evt => exact nbrEvent_sound (n := ⟨i, routerId⟩) evt h
  | intf x =>
    cases x with
    | hello packet src routerId => exact processHello_sound h hx
    | event evt =>
      refine intfEvent_sound h fun heq => ?_
      subst heq
      exact hx

theorem sound_reached (hs : Sound i s) (h : LinkReached (Announced i) i s t) : Sound i t := by
  induction h with
  | start => exact hs
  | step x h hx ih => exact sound_after ih hx

/-- **DR and BDR are in force**: they are what an election returns now, and the interface has the
state they call for. -/
structure InForce (i : IntfId) (s : Instance) : Prop where
  elected : electDrBdr s i = ((s.intf i).dr, (s.intf i).bdr)
  dr : (s.intf i).state = .dr ↔ (s.intf i).dr = (s.intf i).ipAddr
  backup : (s.intf i).state = .backup ↔ (s.intf i).bdr = (s.intf i).ipAddr
  drOther : (s.intf i).state = .drOther ↔
    (s.intf i).dr ≠ (s.intf i).ipAddr ∧ (s.intf i).bdr ≠ (s.intf i).ipAddr

/-- No election makes an interface DR and BDR at once. -/
theorem electDrBdr_not_both (h : OnSegment i s) (hdr : (electDrBdr s i).1 = (s.intf i).ipAddr) :
    (electDrBdr s i).2 ≠ (s.intf i).ipAddr := by
  rw [electDrBdr_eq] at hdr ⊢
  split at hdr
  · rename_i hprio
    have hpass := electFrom_declaring (x := selfCandidate s i) h.candidates ((s.intf i).dr, (s.intf i).bdr)
    rw [if_pos hprio]
    change (electFrom _ (selfCandidate s i).ipAddr _ _).1 = _ at hdr
    change (electFrom _ (selfCandidate s i).ipAddr _ _).2 ≠ _
    rw [hpass] at hdr ⊢
    exact pass_not_both h.candidates h.address _ hdr
  · rename_i hprio
    have hone := electFrom_of_ne h.candidates ((s.intf i).dr, (s.intf i).bdr)
    dsimp only at hone
    rw [hone] at hdr
    split at hdr
    · exact absurd hdr.symm h.address
    · exact absurd hdr (runElection_ne h.candidates h.address)

theorem Sound.inForce (h : Sound i s) (helect : (s.intf i).state.Electing) : InForce i s := by
  obtain ⟨heq, hst⟩ := h.current helect
  have hboth := electDrBdr_not_both h.onSegment
  rw [heq] at hboth
  dsimp only at hboth
  rw [electedState] at hst
  by_cases hdr : (s.intf i).dr = (s.intf i).ipAddr
  · have hbdr := hboth hdr
    rw [if_pos hdr] at hst
    refine ⟨heq, ?_, ?_, ?_⟩ <;> rw [hst] <;> simp [hdr, hbdr]
  · rw [if_neg hdr] at hst
    by_cases hbdr : (s.intf i).bdr = (s.intf i).ipAddr
    · rw [if_pos hbdr] at hst
      refine ⟨heq, ?_, ?_, ?_⟩ <;> rw [hst] <;> simp [hdr, hbdr]
    · rw [if_neg hbdr] at hst
      refine ⟨heq, ?_, ?_, ?_⟩ <;> rw [hst] <;> simp [hdr, hbdr]

/-- A Hello of another router on the network, which lists this one. -/
def otherHello (priority : Int) (dr bdr : IPv4Address) : LinkInput :=
  .intf (.hello packet 167772162 2)
where
  packet : HelloPacket :=
    { networkMask := 4294967040, helloInterval := 10, options := optE, priority, deadInterval := 40,
      designatedRouter := dr, backupDesignatedRouter := bdr, neighbors := [1] }

/-- The state after inputs of the broadcast interface. -/
def loneAfter (xs : List LinkInput) : Instance := xs.foldl (fun s x => x.after 0 s) loneBroadcast

theorem reached_snoc {P : Instance → LinkInput → Prop} (xs : List LinkInput) (x : LinkInput)
    (h : LinkReached P 0 loneBroadcast (loneAfter xs)) (hx : P (loneAfter xs) x) :
    LinkReached P 0 loneBroadcast (loneAfter (xs ++ [x])) := by
  rw [loneAfter, List.foldl_append]
  exact .step x h hx

theorem reached_loneAfter (xs : List LinkInput) :
    LinkReached (fun _ _ => True) 0 loneBroadcast (loneAfter xs) := by
  induction xs using List.reverseRecOn with
  | nil => exact .start
  | append_singleton xs x ih => exact reached_snoc xs x ih trivial

end Ospfd
