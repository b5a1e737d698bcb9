import Mathlib.Data.Fintype.Card
import Ospfd.Protocol.Waiting

/-!
# The neighbor limit

A neighbor that goes Down keeps its entry, and the entries are what the limit counts.

* `LimitsLive` — a Hello is refused for the limit only where that many neighbors are above Down.
* `FullLive` — no entry of a full table is Down; `limitsLive_iff_fullLive`: the same.
* `SameLive`, `Steady` — what events do with an entry that is, or is not, Down.
* `limits_iff` — **in every run**, the limit counts live neighbors exactly if no entry of a full table is
  brought down, and the last one is given away beside live ones only.
-/

namespace Ospfd

variable {s t u : Instance} {i : IntfId} {n : NbrRef}

/-! ## The limit -/

/-- The neighbors of an interface that are above Down. -/
def Instance.liveNeighbors (s : Instance) (i : IntfId) : List NbrRef :=
  (s.neighborsOf i).filter fun n => (s.nbr n).state ≠ .down

/-- A Hello of a router without an entry passes the parameter checks, and is refused. -/
def RefusesHello (s : Instance) (i : IntfId) (hello : HelloPacket) (src routerId : IPv4Address) : Prop :=
  helloAccepted s i hello = true ∧ routerId ∉ (s.intf i).neighbors ∧
    (findOrCreate i src routerId s).1 = .ok false

/-- A Hello is refused only where that many neighbors are above Down. -/
def LimitsLive (i : IntfId) (s : Instance) : Prop :=
  ∀ hello src routerId, RefusesHello s i hello src routerId → maxNeighbors ≤ (s.liveNeighbors i).length

/-- No more entries fit. -/
def Saturated (i : IntfId) (s : Instance) : Prop := maxNeighbors ≤ (s.intf i).neighbors.length

/-- Every entry is above Down. -/
def AllLive (i : IntfId) (s : Instance) : Prop := ∀ n ∈ s.neighborsOf i, (s.nbr n).state ≠ .down

/-- A full table has live entries only. -/
def FullLive (i : IntfId) (s : Instance) : Prop := Saturated i s → AllLive i s

/-- An input with which a full table keeps to live neighbors: no entry of a full table is brought down,
and the last entry is given away beside live ones only. -/
def KeepsLive (i : IntfId) (s : Instance) : LinkInput → Prop
  | .nbr routerId evt => evt.isReset = true → routerId ∈ (s.intf i).neighbors → ¬Saturated i s
  | .intf (.hello packet _ routerId) => helloAccepted s i packet = true →
      routerId ∉ (s.intf i).neighbors → (s.intf i).neighbors.length + 1 = maxNeighbors → AllLive i s
  | .intf (.event _) => True

/-- The state at the beginning of a run, and after each of its inputs. -/
def Throughout (P : Instance → Prop) (i : IntfId) : Instance → List LinkInput → Prop
  | s, [] => P s
  | s, x :: xs => P s ∧ Throughout P i (x.after i s) xs

theorem findOrCreate_refuses_iff {src routerId : IPv4Address} (h : routerId ∉ (s.intf i).neighbors) :
    (findOrCreate i src routerId s).1 = .ok false ↔ Saturated i s := by
  rw [findOrCreate, Eff.get_bind_apply, if_neg h]
  by_cases hfull : maxNeighbors ≤ (s.intf i).neighbors.length
  · rw [if_pos hfull]
    exact iff_of_true rfl hfull
  · rw [if_neg hfull]
    exact iff_of_false (fun heq => by cases heq) hfull

/-- There are more routers than entries. -/
theorem exists_stranger (h : (s.intf i).neighbors.length ≤ maxNeighbors) :
    ∃ routerId, routerId ∉ (s.intf i).neighbors := by
  by_contra hall
  push Not at hall
  have hle : (Finset.univ : Finset IPv4Address).card ≤ (s.intf i).neighbors.toFinset.card :=
    Finset.card_le_card fun a _ => List.mem_toFinset.2 (hall a)
  have hlen := List.toFinset_card_le (s.intf i).neighbors
  rw [Finset.card_univ, Fintype.card_fin] at hle
  rw [maxNeighbors] at h
  omega

/-- A Hello with the parameters of an interface. -/
def Instance.matching (s : Instance) (i : IntfId) : HelloPacket :=
  { helloOf s i with designatedRouter := zeroAddr, backupDesignatedRouter := zeroAddr, neighbors := [] }

theorem helloAccepted_matching (s : Instance) (i : IntfId) : helloAccepted s i (s.matching i) = true := by
  simp [helloAccepted, Instance.matching, helloOf]

/-- **The limit counts live neighbors exactly if a full table has live entries only.** -/
theorem limitsLive_iff_fullLive (h : (s.intf i).neighbors.length ≤ maxNeighbors) :
    LimitsLive i s ↔ FullLive i s := by
  have hle := List.length_filter_le (fun n => decide ((s.nbr n).state ≠ .down)) (s.neighborsOf i)
  have hlen : (s.neighborsOf i).length = (s.intf i).neighbors.length := List.length_map ..
  constructor
  · intro hlimit hfull
    obtain ⟨routerId, hnew⟩ := exists_stranger h
    have hlive := hlimit (s.matching i) 0 routerId
      ⟨helloAccepted_matching s i, hnew, (findOrCreate_refuses_iff hnew).2 hfull⟩
    have hall := List.length_filter_eq_length_iff.1 (Nat.le_antisymm hle (by
      rw [hlen]
      exact Nat.le_trans h hlive))
    exact fun n hn => of_decide_eq_true (hall n hn)
  · rintro hfull hello src routerId ⟨-, hnew, hrefused⟩
    have hsat := (findOrCreate_refuses_iff hnew).1 hrefused
    have hall : s.liveNeighbors i = s.neighborsOf i := by
      rw [Instance.liveNeighbors, List.filter_eq_self]
      exact fun n hn => decide_eq_true (hfull hsat n hn)
    rw [hall, hlen]
    exact hsat

/-! ## Events that bring no neighbor down -/

/-- The table stays as it is, and the same entries are Down. -/
structure SameLive (i : IntfId) (s t : Instance) : Prop where
  table : (t.intf i).neighbors = (s.intf i).neighbors
  down : ∀ m : NbrRef, m.intf = i → ((t.nbr m).state = .down ↔ (s.nbr m).state = .down)

namespace SameLive

theorem refl (i : IntfId) (s : Instance) : SameLive i s s := ⟨rfl, fun _ _ => Iff.rfl⟩

theorem trans (h : SameLive i s t) (h' : SameLive i t u) : SameLive i s u :=
  ⟨h'.table.trans h.table, fun m hm => (h'.down m hm).trans (h.down m hm)⟩

instance : Std.Refl (SameLive i) := ⟨refl i⟩

instance : IsTrans Instance (SameLive i) := ⟨fun _ _ _ => trans⟩

theorem of_quiet (h : Quiet s t) : SameLive i s t := ⟨by rw [h.intf], fun _ _ => by rw [h.nbr]⟩

theorem of_setIntf (i : IntfId) (s : Instance) {x : OspfInterface} (hx : x.neighbors = (s.intf i).neighbors) :
    SameLive i s (s.setIntf i x) :=
  ⟨by rw [Instance.intf_setIntf_self, hx], fun _ _ => Iff.rfl⟩

/-- An election moves bidirectional neighbors, and leaves them bidirectional. -/
theorem of_elected (h : Elected i s t) : SameLive i s t := by
  refine ⟨?_, fun m hm => ?_⟩
  · obtain ⟨dr, bdr, state, hx⟩ := h.intf
    rw [hx]
  · have hway := SameWay.of_elected h
    have hdown : ¬NbrState.twoWay ≤ .down := by decide
    constructor
    · intro ht
      rw [← hway.oneWay m hm (fun htwo => hdown (ht ▸ (hway.sides m hm).2 htwo)), ht]
    · intro hs
      rw [hway.oneWay m hm (by rw [hs]; exact hdown), hs]

theorem allLive_iff (h : SameLive i s t) : AllLive i t ↔ AllLive i s := by
  have hof : t.neighborsOf i = s.neighborsOf i := by rw [Instance.neighborsOf, h.table]; rfl
  rw [AllLive, hof]
  exact forall₂_congr fun n hn => not_congr (h.down n (Instance.mem_neighborsOf.1 hn).1)

theorem fullLive_iff (h : SameLive i s t) : FullLive i t ↔ FullLive i s := by
  rw [FullLive, FullLive, Saturated, Saturated, h.table, h.allLive_iff]

end SameLive

/-- The table stays as it is, a neighbor is not brought down, and the same of the others are Down. -/
structure Steady (n : NbrRef) (s t : Instance) : Prop where
  table : (t.intf n.intf).neighbors = (s.intf n.intf).neighbors
  live : (s.nbr n).state ≠ .down → (t.nbr n).state ≠ .down
  others : ∀ m : NbrRef, m.intf = n.intf → m ≠ n → ((t.nbr m).state = .down ↔ (s.nbr m).state = .down)

namespace Steady

theorem refl (n : NbrRef) (s : Instance) : Steady n s s := ⟨rfl, id, fun _ _ _ => Iff.rfl⟩

theorem trans (h : Steady n s t) (h' : Steady n t u) : Steady n s u :=
  ⟨h'.table.trans h.table, fun hs => h'.live (h.live hs),
    fun m hm hne => (h'.others m hm hne).trans (h.others m hm hne)⟩

instance : Std.Refl (Steady n) := ⟨refl n⟩

instance : IsTrans Instance (Steady n) := ⟨fun _ _ _ => trans⟩

theorem of_sameLive (h : SameLive n.intf s t) : Steady n s t :=
  ⟨h.table, fun hs ht => hs ((h.down n rfl).1 ht), fun m hm _ => h.down m hm⟩

theorem of_quiet (h : Quiet s t) : Steady n s t := of_sameLive (.of_quiet h)

/-- A neighbor that is set to a state above Down, and nothing else that matters. -/
theorem of_setNbr {x : OspfNeighbor} (hx : (s.nbr n).state ≠ .down → x.state ≠ .down)
    (h : Quiet (s.setNbr n x) t) : Steady n s t := by
  refine trans (t := s.setNbr n x) ⟨rfl, fun hs => ?_, fun m _ hne => ?_⟩ (of_quiet h)
  · rw [Instance.nbr_setNbr_self]
    exact hx hs
  · rw [Instance.nbr_setNbr_of_ne s hne]

theorem modify (n : NbrRef) {f : Instance → OspfNeighbor}
    (hf : ∀ s : Instance, (s.nbr n).state ≠ .down → (f s).state ≠ .down) :
    Eff.Within (Steady n) (Eff.modify fun s => s.setNbr n (f s) : Py Unit) :=
  fun s => of_setNbr (hf s) (.refl _)

end Steady

/-- The actions of the state machine bring no neighbor down. -/
theorem nbrAction_steady (n : NbrRef) (action : NbrAction) : Eff.Within (Steady n) (action.run n) := by
  have hset : ∀ {state}, state ≠ .down → Eff.Within (Steady n) (modifyNbr n fun x => { x with state }) :=
    fun hne => Steady.modify n fun _ _ => hne
  have henter : Eff.Within (Steady n) (modifyNbr n (fun x => { x with state := .exStart }) >>= fun _ =>
      startDdExchange n) := by
    intro s
    obtain ⟨x, t, ht, ⟨seq, dd, rfl⟩, hq⟩ := enterExStart_returns n s
    rw [ht]
    exact .of_setNbr (fun _ => by nofun) hq
  have hmismatch : Eff.Within (Steady n) (seqNumMismatch n) := by
    intro s
    obtain ⟨x, t, ht, ⟨seq, dd, rfl⟩, hq⟩ := seqNumMismatch_returns n s
    rw [ht]
    exact .of_setNbr (fun _ => by nofun) hq
  cases action with
  | helloReceivedDown => exact Steady.modify n fun _ _ => by nofun
  | helloReceivedAny => exact Steady.modify n fun _ hs => hs
  | start => exact Steady.modify n fun _ _ => by nofun
  | twoWayReceived => exact Eff.Within.read fun s => Eff.Within.ite henter (hset (by decide))
  | adjOk2Way => exact Eff.Within.read fun s => Eff.Within.when fun _ => henter
  | adjOkAdjformed => exact Eff.Within.read fun s => Eff.Within.when fun _ => Steady.modify n fun _ _ => by nofun
  | negotiationDone => exact Steady.modify n fun _ _ => by nofun
  | exchangeDone =>
    refine Eff.Within.read fun s => Eff.Within.ite (Eff.Within.bind (hset (by decide)) fun _ => fun t => ?_)
      (Steady.modify n fun _ _ => by nofun)
    rcases sendLsRequest_quiet n t with hq | hq
    · exact .of_quiet hq
    · exact .of_setNbr (x := { t.nbr n with rxmtTimer := true }) (fun ht => ht) hq
  | loadingDone => exact hset (by decide)
  | seqNumMismatch => exact hmismatch
  | badLsReq => exact hmismatch
  | oneWay => exact Steady.modify n fun _ _ => by nofun

theorem runDrElection_sameLive (i : IntfId) : Eff.Within (SameLive i) (runDrElection eventAlone i) := by
  intro s
  obtain ⟨t, ht, helected, -⟩ := runDrElection_elects 0 i s
  have hrun : runDrElection (nbrEventDepth (0 + 1)) i = runDrElection eventAlone i :=
    runDrElection_dispatchNbr (nbrEventDepth 0) i
  rw [← hrun, ht]
  exact .of_elected helected

theorem modifyIntf_sameLive (i : IntfId) {f : OspfInterface → OspfInterface} (hf : ∀ x, (f x).neighbors = x.neighbors) :
    Eff.Within (SameLive i) (modifyIntf i f) :=
  fun s => .of_setIntf i s (hf _)

/-- The actions of the interface, but for InterfaceDown, bring no neighbor down. -/
theorem intfAction_sameLive (i : IntfId) {action : IntfAction} (h : action ≠ .ifDown) :
    Eff.Within (SameLive i) (action.run eventAlone i) := by
  have helect := runDrElection_sameLive i
  have hstart : Eff.Within (SameLive i) (startHello i) :=
    Eff.Within.bind (modifyIntf_sameLive i fun _ => rfl) fun _ => (sendHello_within i).mono fun _ _ => .of_quiet
  have hset : ∀ state, Eff.Within (SameLive i) (modifyIntf i fun x => { x with state }) :=
    fun _ => modifyIntf_sameLive i fun _ => rfl
  cases action with
  | ifUp =>
    refine Eff.Within.read fun s => ?_
    dsimp only
    refine Eff.Within.ite (hset _) (Eff.Within.ite (Eff.Within.ite ?_ ?_) ?_)
    · exact Eff.Within.bind (hset _) fun _ => Eff.Within.bind hstart fun _ => helect
    · refine Eff.Within.bind (hset _) fun _ => Eff.Within.bind hstart fun _ => ?_
      exact fun t => .of_setIntf i t rfl
    · exact Eff.Within.bind (hset _) fun _ => hstart
  | waitTimer => exact helect
  | backupSeen => exact Eff.Within.bind (modifyIntf_sameLive i fun _ => rfl) fun _ => helect
  | nbrChange => exact helect
  | loopInd => exact modifyIntf_sameLive i fun _ => rfl
  | unloopInd => exact hset _
  | ifDown => exact absurd rfl h

/-- **An event of the interface** leaves a table as it is, or empties it. -/
theorem intfEvent_sameLive (i : IntfId) (evt : IntfEvent) (s : Instance) :
    SameLive i s (intfEvent i evt s).2 ∨ ((intfEvent i evt s).2.intf i).neighbors = [] := by
  have hchanged : ∀ t, SameLive i t (Eff.when ((t.intf i).state ≠ (s.intf i).state) (intfStateChanged i) t).2 :=
    fun t => Eff.Within.when (fun _ => (intfStateChanged_within i).mono fun _ _ => .of_quiet) t
  rw [intfEvent_alone, dispatchIntf, Eff.get_bind_apply]
  by_cases hdown : intfFsm (s.intf i).state evt = some .ifDown
  · have hintf := intf_ifDown i s
    rw [handleIntf, hdown]
    right
    refine Eff.bind_final (P := fun t : Instance => (t.intf i).neighbors = []) (by rw [hintf]) fun _ _ => ?_
    exact (hchanged _).table.trans (by rw [hintf])
  · left
    have hact : Eff.Within (SameLive i) (handleIntf eventAlone i (s.intf i).state evt) := by
      rw [handleIntf]
      rcases haction : intfFsm (s.intf i).state evt with _ | action
      · exact Eff.Within.pure ()
      · exact intfAction_sameLive i fun heq => hdown (by rw [haction, heq])
    exact Eff.bind_final (hact s) fun _ _ => (hact s).trans (hchanged _)

theorem intfEvent_steady (n : NbrRef) {evt : IntfEvent} (hevt : evt = .backupSeen ∨ evt = .nbrChange) :
    Eff.Within (Steady n) (intfEvent n.intf evt) := by
  intro s
  rw [intfEvent_alone]
  refine .of_sameLive (Eff.Within.read (fun u => Eff.Within.bind ?_ fun _ => Eff.Within.read fun t =>
    Eff.Within.when fun _ => (intfStateChanged_within _).mono fun _ _ => .of_quiet) s)
  rw [handleIntf]
  rcases haction : intfFsm (u.intf n.intf).state evt with _ | action
  · exact Eff.Within.pure ()
  · refine intfAction_sameLive n.intf ?_
    rintro rfl
    rcases hevt with rfl | rfl <;> cases hst : (u.intf n.intf).state <;> rw [hst] at haction <;> cases haction

theorem neighborStateChanged_steady (n : NbrRef) (old : NbrState) :
    Eff.Within (Steady n) (neighborStateChanged eventAlone n old) := by
  have helect : Eff.Within (Steady n) (dispatchIntf eventAlone n.intf .nbrChange) := by
    rw [← intfEvent_alone]
    exact intfEvent_steady n (.inr rfl)
  refine Eff.Within.read fun s => Eff.Within.bind (Eff.Within.when fun _ => helect) fun _ => ?_
  refine Eff.Within.read fun t => Eff.Within.bind ((scheduleRouterLsa_within _).mono fun _ _ => .of_quiet) fun _ => ?_
  exact Eff.Within.when fun _ => (scheduleNetworkLsa_within _).mono fun _ _ => .of_quiet

/-- **An event that does not reset a neighbor** brings none down. -/
theorem nbrEvent_steady (n : NbrRef) {evt : NbrEvent} (h : evt.isReset = false) :
    Eff.Within (Steady n) (nbrEvent n evt) := by
  rw [nbrEvent_alone]
  refine Eff.Within.bind (fun s => .of_quiet (quiet_traced s n evt)) fun _ => Eff.Within.read fun s =>
    Eff.Within.bind ?_ fun _ => Eff.Within.read fun t => Eff.Within.when fun _ => neighborStateChanged_steady n _
  rw [handleNbr]
  rcases nbrFsm (s.nbr n).state evt with _ | action
  · exact Eff.Within.when fun hreset => absurd hreset (by rw [h]; exact Bool.false_ne_true)
  · exact nbrAction_steady n action

/-! ## Hellos -/

theorem helloFrom_steady (n : NbrRef) (hello : HelloPacket) (src : IPv4Address) :
    Eff.Within (Steady n) (helloFrom n hello src) := by
  have htwo : Eff.Within (Steady n) (helloTwoWay n hello) := Eff.Within.read fun _ => Eff.Within.ite
    (Eff.Within.when fun _ => nbrEvent_steady n rfl) (Eff.Within.when fun _ => nbrEvent_steady n rfl)
  refine Eff.Within.read fun s => Eff.Within.bind (Steady.modify n fun _ hs => hs) fun _ => ?_
  refine Eff.Within.bind (nbrEvent_steady n rfl) fun _ => Eff.Within.bind htwo fun _ => ?_
  refine Eff.Within.read fun t =>
    Eff.Within.bind (Eff.Within.when fun _ => intfEvent_steady n (.inl rfl)) fun _ => ?_
  exact Eff.Within.read fun u => Eff.Within.when fun _ => intfEvent_steady n (.inr rfl)

/-- After its Hello a neighbor that was not in Attempt is above Down. -/
theorem helloFrom_live (hello : HelloPacket) (src : IPv4Address) (h : (s.nbr n).state ≠ .attempt) :
    ((helloFrom n hello src s).2.nbr n).state ≠ .down := by
  obtain ⟨t, ht, hfollowed⟩ := helloFrom_way n hello src s
  have hway := hfollowed.2 h
  rw [ht]
  intro hdown
  rw [Followed, hdown] at hway
  split at hway
  · exact absurd hway (by decide)
  · cases hway

theorem Steady.allLive (h : Steady n s t) (hs : AllLive n.intf s) : AllLive n.intf t := by
  intro m hm
  rw [Instance.mem_neighborsOf, h.table, ← Instance.mem_neighborsOf] at hm
  by_cases hne : m = n
  · rw [hne] at hm ⊢
    exact h.live (hs n hm)
  · exact fun hdown => hs m hm ((h.others m (Instance.mem_neighborsOf.1 hm).1 hne).1 hdown)

theorem Steady.fullLive (h : Steady n s t) (hs : FullLive n.intf s) : FullLive n.intf t := by
  intro hfull
  rw [Saturated, h.table] at hfull
  exact h.allLive (hs hfull)

/-- The table after the Hello of a new neighbor: the others are Down as before. -/
theorem helloFrom_new (hello : HelloPacket) (src : IPv4Address) (hn : n.routerId ∉ (s.intf n.intf).neighbors) :
    ((helloFrom n hello src (s.addNbr n.intf src n.routerId)).2.intf n.intf).neighbors =
      (s.intf n.intf).neighbors ++ [n.routerId] ∧
    (AllLive n.intf (helloFrom n hello src (s.addNbr n.intf src n.routerId)).2 ↔ AllLive n.intf s) := by
  have hsteady := helloFrom_steady n hello src (s.addNbr n.intf src n.routerId)
  have htable := hsteady.table
  rw [intf_addNbr] at htable
  have hlive : ((helloFrom n hello src (s.addNbr n.intf src n.routerId)).2.nbr n).state ≠ .down := by
    refine helloFrom_live hello src ?_
    have hnew : (s.addNbr n.intf src n.routerId).nbr n = _ := nbr_addNbr
    rw [hnew]
    nofun
  have hof : (helloFrom n hello src (s.addNbr n.intf src n.routerId)).2.neighborsOf n.intf =
      s.neighborsOf n.intf ++ [n] := by
    rw [Instance.neighborsOf, htable, List.map_append]
    rfl
  have hothers : ∀ m ∈ s.neighborsOf n.intf,
      (((helloFrom n hello src (s.addNbr n.intf src n.routerId)).2.nbr m).state = .down ↔
        (s.nbr m).state = .down) := by
    intro m hm
    obtain ⟨hmi, hmem⟩ := Instance.mem_neighborsOf.1 hm
    have hne : m ≠ n := by
      rintro rfl
      exact hn hmem
    rw [hsteady.others m hmi hne, nbr_addNbr_of_mem hn hm]
  refine ⟨htable, ?_⟩
  rw [AllLive, hof]
  constructor
  · exact fun h m hm => mt (hothers m hm).2 (h m (List.mem_append_left _ hm))
  · intro h m hm
    rcases List.mem_append.1 hm with hm | hm
    · exact mt (hothers m hm).1 (h m hm)
    · rw [List.mem_singleton.1 hm]
      exact hlive

/-! ## Runs -/

/-- A reset leaves the table and the other neighbors as they are, and the neighbor in Down. -/
theorem nbrEvent_reset_down {evt : NbrEvent} (h : evt.isReset = true) (n : NbrRef) (s : Instance) :
    ((nbrEvent n evt s).2.intf n.intf).neighbors = (s.intf n.intf).neighbors ∧
      ((nbrEvent n evt s).2.nbr n).state = .down ∧
      ∀ m : NbrRef, m.intf = n.intf → m ≠ n →
        (((nbrEvent n evt s).2.nbr m).state = .down ↔ (s.nbr m).state = .down) := by
  obtain ⟨hmoves, hdown⟩ := nbrEventDepth_reset 98 n h s
  have hrest : ((nbrEvent n evt s).2.intf n.intf).neighbors = (s.intf n.intf).neighbors ∧
      ∀ m : NbrRef, m.intf = n.intf → m ≠ n →
        (((nbrEvent n evt s).2.nbr m).state = .down ↔ (s.nbr m).state = .down) := by
    refine Lts.Moves.invariant (I := fun t : Instance => (t.intf n.intf).neighbors = (s.intf n.intf).neighbors ∧
      ∀ m : NbrRef, m.intf = n.intf → m ≠ n → ((t.nbr m).state = .down ↔ (s.nbr m).state = .down))
      (fun l u v hl hm hu => ?_) hmoves ⟨rfl, fun _ _ _ => Iff.rfl⟩
    rcases hl with rfl | rfl | rfl
    · have hsame : SameLive n.intf u v := .of_quiet hm
      exact ⟨hsame.table.trans hu.1, fun m hmi hne => (hsame.down m hmi).trans (hu.2 m hmi hne)⟩
    · have hsame : SameLive n.intf u v := .of_elected hm
      exact ⟨hsame.table.trans hu.1, fun m hmi hne => (hsame.down m hmi).trans (hu.2 m hmi hne)⟩
    · obtain ⟨x, -, rfl⟩ := nbr_of_move hm
      refine ⟨hu.1, fun m hmi hne => ?_⟩
      rw [Instance.nbr_setNbr_of_ne u hne]
      exact hu.2 m hmi hne
  exact ⟨hrest.1, congrArg OspfNeighbor.state hdown, hrest.2⟩

/-- An event of a neighbor. -/
theorem fullLive_nbrEvent_iff (h : FullLive n.intf s) (evt : NbrEvent) :
    ((nbrEvent n evt s).2.intf n.intf).neighbors = (s.intf n.intf).neighbors ∧
      (FullLive n.intf (nbrEvent n evt s).2 ↔ KeepsLive n.intf s (.nbr n.routerId evt)) := by
  by_cases hreset : evt.isReset = true
  · obtain ⟨htable, hdown, hothers⟩ := nbrEvent_reset_down hreset n s
    refine ⟨htable, fun hafter _ hmem hfull => ?_, fun hkeeps hfull => ?_⟩
    · have hfull' : Saturated n.intf (nbrEvent n evt s).2 := by rwa [Saturated, htable]
      exact hafter hfull' n (Instance.mem_neighborsOf.2 ⟨rfl, by rwa [htable]⟩) hdown
    · rw [Saturated, htable] at hfull
      intro m hm
      rw [Instance.mem_neighborsOf, htable, ← Instance.mem_neighborsOf] at hm
      have hne : m ≠ n := by
        rintro rfl
        exact hkeeps hreset (Instance.mem_neighborsOf.1 hm).2 hfull
      exact mt (hothers m (Instance.mem_neighborsOf.1 hm).1 hne).1 (h hfull m hm)
  · have hsteady := nbrEvent_steady n (Bool.eq_false_iff.2 hreset) s
    exact ⟨hsteady.table, iff_of_true (hsteady.fullLive h) fun heq => absurd heq hreset⟩

/-- A Hello. -/
theorem fullLive_processHello_iff (hle : (s.intf n.intf).neighbors.length ≤ maxNeighbors) (h : FullLive n.intf s)
    (hello : HelloPacket) (src : IPv4Address) :
    ((processHello n.intf hello src n.routerId s).2.intf n.intf).neighbors.length ≤ maxNeighbors ∧
      (FullLive n.intf (processHello n.intf hello src n.routerId s).2 ↔
        KeepsLive n.intf s (.intf (.hello hello src n.routerId))) := by
  by_cases hacc : helloAccepted s n.intf hello = true
  · by_cases hmem : n.routerId ∈ (s.intf n.intf).neighbors
    · rw [processHello_known hacc hmem]
      have hsteady := helloFrom_steady n hello src s
      refine ⟨by rwa [hsteady.table], iff_of_true (hsteady.fullLive h) fun _ hnew => absurd hmem hnew⟩
    · by_cases hroom : (s.intf n.intf).neighbors.length < maxNeighbors
      · rw [processHello_new hacc hmem hroom]
        obtain ⟨htable, hlive⟩ := helloFrom_new hello src hmem
        rw [FullLive, Saturated, hlive, htable, List.length_append, List.length_singleton]
        refine ⟨hroom, fun hafter _ _ hlast => hafter (le_of_eq hlast.symm), fun hkeeps hfull => ?_⟩
        exact hkeeps hacc hmem (Nat.le_antisymm hroom hfull)
      · rw [processHello_refused fun htaken => htaken.2.elim hmem hroom]
        refine ⟨hle, iff_of_true h fun _ _ hlast => absurd (Nat.lt_of_succ_le (le_of_eq hlast)) hroom⟩
  · rw [processHello_refused fun htaken => hacc htaken.1]
    exact ⟨hle, iff_of_true h fun hacc' => absurd hacc' hacc⟩

/-- **One input** leaves a full table with live entries exactly if it keeps to live neighbors. -/
theorem fullLive_after_iff (hle : (s.intf i).neighbors.length ≤ maxNeighbors) (h : FullLive i s) (x : LinkInput) :
    ((x.after i s).intf i).neighbors.length ≤ maxNeighbors ∧ (FullLive i (x.after i s) ↔ KeepsLive i s x) := by
  cases x with
  | nbr routerId evt =>
    obtain ⟨htable, hiff⟩ := fullLive_nbrEvent_iff (n := ⟨i, routerId⟩) h evt
    exact ⟨(congrArg List.length htable).trans_le hle, hiff⟩
  | intf x =>
    cases x with
    | hello packet src routerId => exact fullLive_processHello_iff (n := ⟨i, routerId⟩) hle h packet src
    | event evt =>
      rcases intfEvent_sameLive i evt s with hsame | hempty
      · exact ⟨(congrArg List.length hsame.table).trans_le hle, iff_of_true (hsame.fullLive_iff.2 h) trivial⟩
      · have hzero : ((intfEvent i evt s).2.intf i).neighbors.length = 0 := by rw [hempty]; rfl
        refine ⟨hzero.trans_le (Nat.zero_le _), iff_of_true (fun hfull => ?_) trivial⟩
        change maxNeighbors ≤ ((intfEvent i evt s).2.intf i).neighbors.length at hfull
        rw [hzero] at hfull
        exact absurd hfull (by decide)

/-- **In every run**, from a state in which it does, the limit counts live neighbors throughout exactly
if every input keeps to live neighbors. -/
theorem throughout_iff (xs : List LinkInput) (hle : (s.intf i).neighbors.length ≤ maxNeighbors)
    (h : FullLive i s) : Throughout (LimitsLive i) i s xs ↔ AlongLink (KeepsLive i) i s xs := by
  have hnow := (limitsLive_iff_fullLive hle).2 h
  induction xs generalizing s with
  | nil => exact iff_of_true hnow trivial
  | cons x xs ih =>
    obtain ⟨hle', hstep⟩ := fullLive_after_iff hle h x
    have hlimit := limitsLive_iff_fullLive hle'
    constructor
    · rintro ⟨-, hrest⟩
      have hnext : LimitsLive i (x.after i s) := by
        cases xs with
        | nil => exact hrest
        | cons y ys => exact hrest.1
      have hfull := hlimit.1 hnext
      exact ⟨hstep.1 hfull, (ih hle' hfull hnext).1 hrest⟩
    · rintro ⟨hkeeps, hrest⟩
      have hfull := hstep.2 hkeeps
      exact ⟨hnow, (ih hle' hfull (hlimit.2 hfull)).2 hrest⟩

theorem fullLive_of_nil (h : (s.intf i).neighbors = []) : (s.intf i).neighbors.length ≤ maxNeighbors ∧ FullLive i s := by
  have hzero : (s.intf i).neighbors.length = 0 := by rw [h]; rfl
  refine ⟨by rw [hzero]; exact Nat.zero_le _, fun hfull => ?_⟩
  rw [Saturated, hzero] at hfull
  exact absurd hfull (by decide)

/-- **From an empty table**, the limit counts live neighbors throughout a run exactly if every input
keeps to live neighbors. -/
theorem limits_iff (i : IntfId) (s : Instance) (xs : List LinkInput) (h : (s.intf i).neighbors = []) :
    Throughout (LimitsLive i) i s xs ↔ AlongLink (KeepsLive i) i s xs :=
  throughout_iff xs (fullLive_of_nil h).1 (fullLive_of_nil h).2

/-- The limit is kept on a link that comes up. -/
theorem limits_linkRouter :
    Throughout (LimitsLive 0) 0 (linkRouter .none) [.intf (.event .ifUp), .nbr 2 .inactivityTimer] ↔
      AlongLink (KeepsLive 0) 0 (linkRouter .none) [.intf (.event .ifUp), .nbr 2 .inactivityTimer] :=
  limits_iff 0 (linkRouter .none) _ rfl

/-! ### One neighbor that timed out -/

theorem AlongLink.append {P : Instance → LinkInput → Prop} {xs ys : List LinkInput}
    (h : AlongLink P i s (xs ++ ys)) : AlongLink P i (xs.foldl (fun s x => x.after i s) s) ys := by
  induction xs generalizing s with
  | nil => exact h
  | cons x xs ih => exact ih h.2

/-- Hellos of strangers fill an empty table. -/
theorem exists_filling (i : IntfId) (h : (s.intf i).neighbors = []) (k : Nat) (hk : k ≤ maxNeighbors) :
    ∃ xs : List LinkInput, ((xs.foldl (fun s x => x.after i s) s).intf i).neighbors.length = k := by
  induction k with
  | zero => exact ⟨[], by rw [List.foldl_nil, h]; rfl⟩
  | succ k ih =>
    obtain ⟨xs, hxs⟩ := ih (Nat.le_of_succ_le hk)
    let t : Instance := xs.foldl (fun s x => x.after i s) s
    obtain ⟨routerId, hnew⟩ := exists_stranger (s := t) (i := i) (by rw [hxs]; exact Nat.le_of_succ_le hk)
    have hroom : (t.intf i).neighbors.length < maxNeighbors := by rw [hxs]; exact hk
    have htable := (helloFrom_new (n := ⟨i, routerId⟩) (t.matching i) 0 hnew).1
    rw [← processHello_new (helloAccepted_matching t i) hnew hroom] at htable
    refine ⟨xs ++ [.intf (.hello (t.matching i) 0 routerId)], ?_⟩
    rw [List.foldl_append]
    change ((processHello i (t.matching i) 0 routerId t).2.intf i).neighbors.length = k + 1
    rw [htable, List.length_append, hxs]
    rfl

/-- The table is full, and its first neighbor times out. -/
theorem not_limits : ¬∀ (i : IntfId) (s : Instance) (xs : List LinkInput), (s.intf i).neighbors = [] →
    Throughout (LimitsLive i) i s xs := by
  intro hall
  obtain ⟨xs, hxs⟩ := exists_filling (s := linkRouter .none) 0 rfl maxNeighbors le_rfl
  let t : Instance := xs.foldl (fun s x => x.after 0 s) (linkRouter .none)
  obtain ⟨routerId, hmem⟩ : ∃ routerId, routerId ∈ (t.intf 0).neighbors :=
    List.exists_mem_of_length_pos (hxs.symm ▸ by decide)
  have hrun := (throughout_iff _ (fullLive_of_nil rfl).1 (fullLive_of_nil rfl).2).1
    (hall 0 (linkRouter .none) (xs ++ [.nbr routerId .inactivityTimer]) rfl)
  exact hrun.append.1 rfl hmem (le_of_eq hxs.symm)

end Ospfd
