import Ospfd.Protocol.Events

/-!
# The life of a neighbor

* `Lifecycle` — how the lists and timers of a neighbor go with its state.
* `NbrMove.Rel.kept`, `Redecided.kept` — every move keeps it.
* `lifecycle_of_reachable` — **it holds of every neighbor in every reachable state**.
-/

namespace Ospfd

/-! ## The invariant -/

/-- How the lists and timers of a neighbor go with its state. -/
structure OspfNeighbor.Lifecycle (x : OspfNeighbor) : Prop where
  /-- The inactivity timer is armed exactly when the neighbor is not Down. -/
  inactivity : x.inactivityTimer.isSome ↔ x.state ≠ .down
  /-- Below ExStart there is nothing of an exchange. -/
  below : x.state < .exStart → x.dbSummaryList = [] ∧ x.lsRequestList.entries = [] ∧
    x.lsRetransmissionList.entries = [] ∧ x.lastReceivedDd = none ∧
      x.rxmtTimer = false ∧ x.ddRxmtTimer = false
  exStart : x.state = .exStart → x.dbSummaryList = [] ∧ x.lsRequestList.entries = [] ∧
    x.lsRetransmissionList.entries = [] ∧ x.ddRxmtTimer = true
  loading : x.state = .loading → x.lsRequestList.entries ≠ [] ∧ x.rxmtTimer = true
  full : x.state = .full → x.lsRequestList.entries = []

/-- The invariant that carries the lifecycle: in ExStart no description was received
yet, and what is requested in Exchange can be sent. -/
structure OspfNeighbor.Sound (x : OspfNeighbor) : Prop extends x.Lifecycle where
  fresh : x.state = .exStart → x.lastReceivedDd = none
  typesFit : x.state = .exchange → x.TypesFit

namespace OspfNeighbor

variable {x x' : OspfNeighbor}

/-- A new neighbor. -/
theorem Sound.new (routerId ipAddr : IPv4Address) : Sound { routerId, ipAddr } where
  inactivity := by simp
  below := fun _ => ⟨rfl, rfl, rfl, rfl, rfl, rfl⟩
  exStart := nofun
  loading := nofun
  full := nofun
  fresh := nofun
  typesFit := nofun

theorem Sound.goneDown (x : OspfNeighbor) : x.goneDown.Sound where
  inactivity := by simp [OspfNeighbor.goneDown, clearLists, stopRxmtTimers]
  below := fun _ => ⟨rfl, rfl, rfl, rfl, rfl, rfl⟩
  exStart := nofun
  loading := nofun
  full := nofun
  fresh := nofun
  typesFit := nofun

/-- A neighbor that was not Down, cleared, in a state below ExStart. -/
theorem Sound.cleared (h : x.Sound) (hx : x.state ≠ .down) {state : NbrState}
    (hs : state = .init ∨ state = .twoWay) : (x.cleared state).Sound := by
  have hin : x.inactivityTimer.isSome := h.inactivity.2 hx
  rcases hs with rfl | rfl
  all_goals exact
    { inactivity := ⟨fun _ => nofun, fun _ => hin⟩
      below := fun _ => ⟨rfl, rfl, rfl, rfl, rfl, rfl⟩
      exStart := nofun
      loading := nofun
      full := nofun
      fresh := nofun
      typesFit := nofun }

/-- Entering ExStart, with no description received before. -/
theorem Sound.inExStart (hin : x.inactivityTimer.isSome) (hlast : x.lastReceivedDd = none)
    (h : x.InExStart x') : x'.Sound := by
  obtain ⟨seq, dd, rfl⟩ := h
  exact
    { inactivity := ⟨fun _ => nofun, fun _ => hin⟩
      below := fun hlt => absurd hlt (by decide : ¬NbrState.exStart < .exStart)
      exStart := fun _ => ⟨rfl, rfl, rfl, rfl⟩
      loading := nofun
      full := nofun
      fresh := fun _ => hlast
      typesFit := nofun }

/-! ## Lists that shrink -/

theorem foldl_strike (keys : List LsaKey) (x : OspfNeighbor) : keys.foldl strike x =
    { x with lsRequestList := keys.foldl Dict.pop x.lsRequestList
             lsRetransmissionList := keys.foldl Dict.pop x.lsRetransmissionList } := by
  induction keys generalizing x with
  | nil => rfl
  | cons key keys ih => rw [List.foldl_cons, ih, List.foldl_cons, List.foldl_cons, strike]

theorem entries_foldl_pop_eq_nil {ν : Type} {d : Dict LsaKey ν} (h : d.entries = [])
    (keys : List LsaKey) : (keys.foldl Dict.pop d).entries = [] := by
  rw [Dict.entries_foldl_pop, h, List.filter_nil]

/-- Striking keys, as far as it does not complete the requests of a Loading neighbor. -/
theorem Sound.strike (h : x.Sound) (keys : List LsaKey)
    (hload : x.state = .loading → (keys.foldl Dict.pop x.lsRequestList).entries ≠ []) :
    (keys.foldl OspfNeighbor.strike x).Sound := by
  rw [foldl_strike]
  exact
    { inactivity := h.inactivity
      below := fun hlt => by
        obtain ⟨h1, h2, h3, h4⟩ := h.below hlt
        exact ⟨h1, entries_foldl_pop_eq_nil h2 keys, entries_foldl_pop_eq_nil h3 keys, h4⟩
      exStart := fun he => by
        obtain ⟨h1, h2, h3, h4⟩ := h.exStart he
        exact ⟨h1, entries_foldl_pop_eq_nil h2 keys, entries_foldl_pop_eq_nil h3 keys, h4⟩
      loading := fun he => ⟨hload he, (h.loading he).2⟩
      full := fun he => entries_foldl_pop_eq_nil (h.full he) keys
      fresh := h.fresh
      typesFit := fun he k hk => by
        refine h.typesFit he k ?_
        rw [Dict.values, Dict.entries_foldl_pop] at hk
        exact (List.filter_sublist.map Prod.snd).subset hk }

theorem Sound.struck (h : x.Sound) (keys : List LsaKey) : (x.struck keys).Sound := by
  rw [OspfNeighbor.struck]
  split
  · rename_i hdone
    rw [foldl_strike] at hdone ⊢
    obtain ⟨hst, hempty⟩ := hdone
    have hin : x.inactivityTimer.isSome := h.inactivity.2 (by rw [hst]; rintro ⟨⟩)
    exact
      { inactivity := ⟨fun _ => by rintro ⟨⟩, fun _ => hin⟩
        below := fun hlt => absurd hlt (by decide : ¬NbrState.full < .exStart)
        exStart := by rintro ⟨⟩
        loading := by rintro ⟨⟩
        full := fun _ => hempty
        fresh := by rintro ⟨⟩
        typesFit := by rintro ⟨⟩ }
  · rename_i hnot
    refine h.strike keys fun hst hempty => hnot ?_
    rw [foldl_strike]
    exact ⟨hst, hempty⟩

theorem Sound.acked (h : x.Sound) (key : LsaKey) : (x.acked key).Sound where
  inactivity := h.inactivity
  below := fun hlt => by
    obtain ⟨h1, h2, h3, h4⟩ := h.below hlt
    exact ⟨h1, h2, entries_foldl_pop_eq_nil h3 [key], h4⟩
  exStart := fun he => by
    obtain ⟨h1, h2, h3, h4⟩ := h.exStart he
    exact ⟨h1, h2, entries_foldl_pop_eq_nil h3 [key], h4⟩
  loading := h.loading
  full := h.full
  fresh := h.fresh
  typesFit := h.typesFit

end OspfNeighbor

/-! ## Every move keeps it -/

theorem NbrState.not_lt_of_le {a b c : NbrState} (h : b ≤ c) (hab : a = c) : ¬a < b := by
  rw [hab]
  exact Nat.not_lt.2 h

/-- **A move of a neighbor keeps its lifecycle.** -/
theorem NbrMove.Rel.kept {should : Bool} {x x' : OspfNeighbor} {m : NbrMove}
    (hm : m.Rel should x x') (h : x.Sound) : x'.Sound := by
  cases m with
  | refresh =>
    obtain ⟨hst, t, rfl⟩ := hm
    exact { h with inactivity := ⟨fun _ => hst, fun _ => rfl⟩ }
  | wake =>
    obtain ⟨hst, state, t, hnew, rfl⟩ := hm
    have hbelow := h.below (by rw [hst]; decide)
    rcases hnew with rfl | rfl
    all_goals exact
      { inactivity := ⟨fun _ => by rintro ⟨⟩, fun _ => rfl⟩
        below := fun _ => hbelow
        exStart := by rintro ⟨⟩
        loading := by rintro ⟨⟩
        full := by rintro ⟨⟩
        fresh := by rintro ⟨⟩
        typesFit := by rintro ⟨⟩ }
  | hello src =>
    obtain ⟨priority, dr, bdr, rfl⟩ := hm
    exact { h with }
  | decide =>
    obtain ⟨hst, hm⟩ := hm
    have hin : x.inactivityTimer.isSome := h.inactivity.2 (by rw [hst]; rintro ⟨⟩)
    have hbelow := h.below (by rw [hst]; decide)
    rcases hm with ⟨-, hex⟩ | ⟨-, rfl⟩
    · exact .inExStart hin hbelow.2.2.2.1 hex
    · exact
        { inactivity := ⟨fun _ => by rintro ⟨⟩, fun _ => hin⟩
          below := fun _ => hbelow
          exStart := by rintro ⟨⟩
          loading := by rintro ⟨⟩
          full := by rintro ⟨⟩
          fresh := by rintro ⟨⟩
          typesFit := by rintro ⟨⟩ }
  | restart =>
    obtain ⟨hst, hex⟩ := hm
    refine .inExStart (x := x.clearLists) (h.inactivity.2 fun hd => ?_) rfl hex
    rw [hd] at hst
    exact absurd hst (by decide)
  | oneWay =>
    obtain ⟨hst, rfl⟩ := hm
    refine h.cleared (fun hd => ?_) (Or.inl rfl)
    rw [hd] at hst
    exact absurd hst (by decide)
  | down =>
    obtain rfl : x' = _ := hm
    exact .goneDown x
  | negotiate =>
    obtain ⟨hst, isMaster, seq, opts, summary, rfl⟩ := hm
    have hin : x.inactivityTimer.isSome := h.inactivity.2 (by rw [hst]; rintro ⟨⟩)
    have hempty := (h.exStart hst).2.1
    exact
      { inactivity := ⟨fun _ => by rintro ⟨⟩, fun _ => hin⟩
        below := fun hlt => absurd hlt (by decide : ¬NbrState.exchange < .exStart)
        exStart := by rintro ⟨⟩
        loading := by rintro ⟨⟩
        full := by rintro ⟨⟩
        fresh := by rintro ⟨⟩
        typesFit := fun _ k hk => by
          change k ∈ x.lsRequestList.entries.map Prod.snd at hk
          rw [hempty] at hk
          cases hk }
  | request hdr =>
    obtain ⟨hst, htype, rfl⟩ := hm
    exact
      { inactivity := h.inactivity
        below := fun hlt => absurd hlt (NbrState.not_lt_of_le (by decide) hst)
        exStart := fun he => absurd (hst.symm.trans he) (by rintro ⟨⟩)
        loading := fun he => absurd (hst.symm.trans he) (by rintro ⟨⟩)
        full := fun he => absurd (hst.symm.trans he) (by rintro ⟨⟩)
        fresh := fun he => absurd (hst.symm.trans he) (by rintro ⟨⟩)
        typesFit := fun _ k hk => by
          obtain ⟨key, hkey⟩ := Dict.mem_values_iff.1 hk
          rcases Dict.get?_of_set hkey with ⟨-, rfl⟩ | hold
          · exact htype
          · exact h.typesFit hst k (Dict.mem_values_iff.2 ⟨key, hold⟩) }
  | describe =>
    obtain ⟨seq, summary, last, hsum, rfl⟩ := hm
    exact
      { inactivity := h.inactivity
        below := fun hlt => by
          obtain ⟨h1, h2⟩ := h.below hlt
          exact ⟨hsum h1, h2⟩
        exStart := fun he => by
          obtain ⟨h1, h2⟩ := h.exStart he
          exact ⟨hsum h1, h2⟩
        loading := h.loading
        full := h.full
        fresh := h.fresh
        typesFit := h.typesFit }
  | received =>
    obtain ⟨hst, dd, rfl⟩ := hm
    have hno : ∀ st : NbrState, st < .exchange → x.state ≠ st := fun st hlt he =>
      absurd (he ▸ hst) (Nat.not_le.2 hlt)
    exact
      { inactivity := h.inactivity
        below := fun hlt => absurd (Nat.le_trans hst (Nat.le_of_lt hlt)) (by decide)
        exStart := fun he => absurd he (hno .exStart (by decide))
        loading := h.loading
        full := h.full
        fresh := fun he => absurd he (hno .exStart (by decide))
        typesFit := h.typesFit }
  | exchangeDone =>
    obtain ⟨hst, hm⟩ := hm
    have hin : x.inactivityTimer.isSome := h.inactivity.2 (by rw [hst]; rintro ⟨⟩)
    rcases hm with ⟨hempty, rfl⟩ | ⟨hne, rxmt, hfit, rfl⟩
    · exact
        { inactivity := ⟨fun _ => by rintro ⟨⟩, fun _ => hin⟩
          below := fun hlt => absurd hlt (by decide : ¬NbrState.full < .exStart)
          exStart := by rintro ⟨⟩
          loading := by rintro ⟨⟩
          full := fun _ => hempty
          fresh := by rintro ⟨⟩
          typesFit := by rintro ⟨⟩ }
    · exact
        { inactivity := ⟨fun _ => by rintro ⟨⟩, fun _ => hin⟩
          below := fun hlt => absurd hlt (by decide : ¬NbrState.loading < .exStart)
          exStart := by rintro ⟨⟩
          loading := fun _ => ⟨hne, hfit (h.typesFit hst)⟩
          full := by rintro ⟨⟩
          fresh := by rintro ⟨⟩
          typesFit := by rintro ⟨⟩ }
  | retry =>
    obtain ⟨hst, rfl⟩ := hm
    exact
      { inactivity := h.inactivity
        below := fun hlt => absurd hlt (NbrState.not_lt_of_le (by decide) hst)
        exStart := fun he => absurd (hst.symm.trans he) (by rintro ⟨⟩)
        loading := fun he => ⟨(h.loading he).1, rfl⟩
        full := h.full
        fresh := h.fresh
        typesFit := h.typesFit }
  | strike keys =>
    obtain rfl : x' = _ := hm
    exact h.struck keys
  | acked key =>
    obtain rfl : x' = _ := hm
    exact h.acked key
  | pend key r =>
    obtain ⟨hst, -, rfl⟩ := hm
    have hno : ¬x.state < .exchange := Nat.not_lt.2 hst
    exact
      { inactivity := h.inactivity
        below := fun hlt => absurd (Nat.lt_trans hlt (by decide : NbrState.exStart < .exchange)) hno
        exStart := fun he => absurd (by rw [show x.state = .exStart from he]; decide) hno
        loading := h.loading
        full := h.full
        fresh := h.fresh
        typesFit := h.typesFit }

/-- Reconsidering an adjacency keeps the lifecycle. -/
theorem Redecided.kept {should : Bool} {x x' : OspfNeighbor} (hr : Redecided should x x')
    (h : x.Sound) : x'.Sound := by
  have hup : x.state ≠ .down := by
    intro hd
    have htw := hr.twoWay_le.2.1
    rw [hd] at htw
    exact absurd htw (by decide)
  rcases hr with ⟨hst, -, hex⟩ | ⟨-, -, rfl⟩ | ⟨-, rfl⟩
  · exact .inExStart (h.inactivity.2 hup) (h.below (by rw [hst]; decide)).2.2.2.1 hex
  · exact h.cleared hup (Or.inr rfl)
  · exact h

/-! ## Retransmission lists -/

/-- LSAs were at most taken off the retransmission list. -/
def OspfNeighbor.Thinned (x x' : OspfNeighbor) : Prop :=
  x'.lsRetransmissionList = Dict.empty ∨
    ∃ keys : List LsaKey, x'.lsRetransmissionList = keys.foldl Dict.pop x.lsRetransmissionList

section Thinned

variable {should : Bool} {x x' : OspfNeighbor}

theorem OspfNeighbor.Thinned.of_eq (h : x'.lsRetransmissionList = x.lsRetransmissionList) : x.Thinned x' :=
  Or.inr ⟨[], h⟩

theorem OspfNeighbor.Thinned.entries_eq_nil (h : x.Thinned x') (hx : x.lsRetransmissionList.entries = []) :
    x'.lsRetransmissionList.entries = [] := by
  rcases h with h | ⟨keys, h⟩
  · rw [h]
    rfl
  · rw [h, entries_foldl_pop_eq_nil hx]

theorem OspfNeighbor.Thinned.size_le (h : x.Thinned x') :
    x'.lsRetransmissionList.size ≤ x.lsRetransmissionList.size := by
  rcases h with h | ⟨keys, h⟩
  · rw [h]
    exact Nat.zero_le _
  · rw [h, Dict.size, Dict.entries_foldl_pop]
    exact List.length_filter_le ..

/-- **Only flooding adds to a retransmission list.** -/
theorem NbrMove.Rel.thinned {m : NbrMove} (hm : m.Rel should x x') (hp : ∀ key r, m ≠ .pend key r) :
    x.Thinned x' := by
  cases m with
  | refresh =>
    obtain ⟨-, t, rfl⟩ := hm
    exact .of_eq rfl
  | wake =>
    obtain ⟨-, state, t, -, rfl⟩ := hm
    exact .of_eq rfl
  | hello src =>
    obtain ⟨priority, dr, bdr, rfl⟩ := hm
    exact .of_eq rfl
  | decide =>
    rcases hm.2 with ⟨-, seq, dd, rfl⟩ | ⟨-, rfl⟩
    · exact Or.inl rfl
    · exact .of_eq rfl
  | restart =>
    obtain ⟨-, seq, dd, rfl⟩ := hm
    exact Or.inl rfl
  | oneWay =>
    obtain ⟨-, rfl⟩ := hm
    exact Or.inl rfl
  | down =>
    obtain rfl : x' = _ := hm
    exact Or.inl rfl
  | negotiate =>
    obtain ⟨-, isMaster, seq, opts, summary, rfl⟩ := hm
    exact .of_eq rfl
  | request hdr =>
    obtain ⟨-, -, rfl⟩ := hm
    exact .of_eq rfl
  | describe =>
    obtain ⟨seq, summary, last, -, rfl⟩ := hm
    exact .of_eq rfl
  | received =>
    obtain ⟨-, dd, rfl⟩ := hm
    exact .of_eq rfl
  | exchangeDone =>
    rcases hm.2 with ⟨-, rfl⟩ | ⟨-, rxmt, -, rfl⟩
    · exact .of_eq rfl
    · exact .of_eq rfl
  | retry =>
    obtain ⟨-, rfl⟩ := hm
    exact .of_eq rfl
  | strike keys =>
    obtain rfl : x' = _ := hm
    refine Or.inr ⟨keys, ?_⟩
    rw [OspfNeighbor.struck, OspfNeighbor.foldl_strike]
    split
    · rfl
    · rfl
  | acked key =>
    obtain rfl : x' = _ := hm
    exact Or.inr ⟨[key], rfl⟩
  | pend key r => exact absurd rfl (hp key r)

theorem Redecided.thinned (hr : Redecided should x x') : x.Thinned x' := by
  rcases hr with ⟨-, -, seq, dd, rfl⟩ | ⟨-, -, rfl⟩ | ⟨-, rfl⟩
  · exact Or.inl rfl
  · exact Or.inl rfl
  · exact .of_eq rfl

end Thinned

/-! ## From moves to runs -/

section Runs

variable {P : OspfNeighbor → Prop}

/-- **One neighbor in one move**: what the moves that concern it keep, every move keeps. -/
theorem move_nbr {n : NbrRef} {l : Label} {s t : Instance} (hm : move l s t)
    (hnew : ∀ src, l = .create n src → P { routerId := n.routerId, ipAddr := src })
    (hmove : ∀ m x', l = .nbr n m → m.Rel (shouldFormAdjacency s n) (s.nbr n) x' → P x')
    (hdecide : ∀ x', Redecided (shouldFormAdjacency t n) (s.nbr n) x' → P x')
    (h : P (s.nbr n)) : P (t.nbr n) := by
  -- a neighbor that is set
  have hset : ∀ (m : NbrRef) (x : OspfNeighbor), (m = n → P x) → P ((s.setNbr m x).nbr n) := by
    intro m x hx
    rw [Instance.nbr_setNbr]
    split
    · rename_i heq
      exact hx heq.symm
    · exact h
  cases l with
  | intf i =>
    obtain ⟨x, -, rfl⟩ := hm
    exact h
  | elect i =>
    by_cases hn : n.intf = i ∧ n.routerId ∈ (s.intf i).neighbors ∧ .twoWay ≤ (s.nbr n).state ∧
        ((s.intf i).dr ≠ (t.intf i).dr ∨ (s.intf i).bdr ≠ (t.intf i).bdr)
    · exact hdecide _ (hm.decided n hn.1 hn.2.1 hn.2.2.1 hn.2.2.2)
    · exact hm.kept n hn ▸ h
  | clear i =>
    obtain ⟨-, rfl⟩ := hm
    exact h
  | create m src =>
    obtain ⟨-, rfl⟩ := hm
    refine hset m _ ?_
    rintro rfl
    exact hnew src rfl
  | nbr m mv =>
    obtain ⟨x, hx, rfl⟩ := nbr_of_move hm
    refine hset m x ?_
    rintro rfl
    exact hmove mv x rfl hx
  | _ => exact ((move_framed hm).tables rfl).1 ▸ h

/-- What a new neighbor satisfies, and the moves of a neighbor keep, is kept by a run of
moves. -/
theorem nbrs_of_moves (hnew : ∀ routerId ipAddr, P { routerId, ipAddr })
    (hmove : ∀ should x x' m, NbrMove.Rel should x x' m → P x → P x')
    (hdecide : ∀ should x x', Redecided should x x' → P x → P x') {A : Label → Prop} {s t : Instance}
    (h : Moves A s t) (hs : ∀ n, P (s.nbr n)) : ∀ n, P (t.nbr n) := by
  refine Lts.Moves.invariant (I := fun t => ∀ n, P (t.nbr n)) ?_ h hs
  intro l u v _ hm hu n
  exact move_nbr hm (fun src _ => hnew n.routerId src) (fun m x' _ hx => hmove _ _ _ m hx (hu n))
    (fun x' hx => hdecide _ _ _ hx (hu n)) (hu n)

/-- It holds of every neighbor in every reachable state. -/
theorem nbrs_of_reachable (hnew : ∀ routerId ipAddr, P { routerId, ipAddr })
    (hmove : ∀ should x x' m, NbrMove.Rel should x x' m → P x → P x')
    (hdecide : ∀ should x x', Redecided should x x' → P x → P x')
    {ok : Instance → Event → Prop} {s : Instance} (h : Reachable ok s) : ∀ n, P (s.nbr n) := by
  refine h.invariant (I := fun s => ∀ n, P (s.nbr n)) (fun s hs n => ?_) fun s e hi hen _ => ?_
  · rw [hs.nbr]
    exact hnew _ _
  · exact nbrs_of_moves hnew hmove hdecide (exec_moves hen) hi

end Runs

theorem Moves.sound {A : Label → Prop} {s t : Instance} (h : Moves A s t)
    (hs : ∀ n, (s.nbr n).Sound) : ∀ n, (t.nbr n).Sound :=
  nbrs_of_moves .new (fun _ _ _ _ => NbrMove.Rel.kept) (fun _ _ _ => Redecided.kept) h hs

theorem sound_of_reachable {ok : Instance → Event → Prop} {s : Instance} (h : Reachable ok s) :
    ∀ n, (s.nbr n).Sound :=
  nbrs_of_reachable .new (fun _ _ _ _ => NbrMove.Rel.kept) (fun _ _ _ => Redecided.kept) h

/-- A packet from the router at the other end of the link. -/
def peerPacket (pktType : Nat) (body : Except PyError Bytes) : Bytes :=
  match body with
  | .ok body => (transmitted (linkRouter .none).md5 2 backboneArea .none [] 0 1 pktType body).toOption.getD []
  | .error _ => []

/-- The link comes up, a Hello and a first description are received. -/
def peerExchange : Instance :=
  [Event.intfEvent 0 .ifUp,
    .receive 0 (peerPacket packetTypeHello (HelloPacket.serialize
      { networkMask := 4294967292, helloInterval := 10, options := optE, priority := 1,
        deadInterval := 40, designatedRouter := zeroAddr, backupDesignatedRouter := zeroAddr,
        neighbors := [1] })) 167772162,
    .receive 0 (peerPacket packetTypeDd (DDPacket.serialize
      { interfaceMtu := 1500, options := optE, flags := ddFlagI ||| ddFlagM ||| ddFlagMS,
        ddSeqNumber := 5, lsaHeaders := [] })) 167772162].foldl exec (linkRouter .none)

theorem reachable_peerExchange : Reachable (fun _ _ => True) peerExchange :=
  .step (.step (.step (.init (initial_linkRouter .none)) trivial trivial) trivial trivial) trivial trivial

end Ospfd
