import Ospfd.Protocol.Retransmission

/-!
# Descriptions in sequence

Which descriptions are processed while a neighbor is in Exchange, and in which order.

* `Stay`, `Stayed` — runs that remember, for every neighbor, how its latest stay in
  Exchange began and the numbers of the descriptions whose headers were processed in it.
* `OspfNeighbor.Lasting` — what the other events leave of an exchange.
* `Stay.Fits` — the invariant: the numbers are consecutive, and the neighbor goes on where
  they end.
* `processed_in_order` — **headers are processed once and in order, and the router with
  the higher ID is master**.
-/

namespace Ospfd

/-! ## Stays in Exchange -/

/-- A stay of a neighbor in Exchange: the role and the number that were negotiated, and
the numbers of the descriptions whose headers were processed. -/
structure Stay where
  isMaster : Bool := false
  negotiated : Int := 0
  processed : List Int := []
  deriving DecidableEq, Repr

namespace Stay

/-- The number of the first description to process: a slave answers the negotiated one
without headers. -/
def first (stay : Stay) : Int := if stay.isMaster then stay.negotiated else stay.negotiated + 1

/-- A description in ExStart may settle master and slave; a master processes it. -/
def negotiate (stay : Stay) (s : Instance) (n : NbrRef) (dd : DDPacket) : Stay :=
  if dd.claimsMaster then
    if s.routerId < (s.nbr n).routerId then
      { isMaster := false, negotiated := dd.ddSeqNumber, processed := [] }
    else stay
  else if ¬dd.isInit ∧ ¬dd.isMaster ∧ (s.nbr n).routerId < s.routerId ∧
      dd.ddSeqNumber = (s.nbr n).ddSeqNumber then
    { isMaster := true, negotiated := (s.nbr n).ddSeqNumber, processed := [dd.ddSeqNumber] }
  else stay

/-- A description in Exchange is processed if it is expected. -/
def exchange (stay : Stay) (s : Instance) (n : NbrRef) (dd : DDPacket) : Stay :=
  if (s.nbr n).isDuplicateDd dd then stay
  else if ¬(s.nbr n).expectsDd dd then stay
  else { stay with processed := stay.processed ++ [dd.ddSeqNumber] }

/-- What `process_dd` makes of a stay. -/
def next (stay : Stay) (s : Instance) (n : NbrRef) (dd : DDPacket) : Stay :=
  match (s.nbr n).state with
  | .init =>
      match nbrEvent n .twoWayReceived s with
      | (.ok (), t) => if (t.nbr n).state = .exStart then stay.negotiate t n dd else stay
      | (.error _, _) => stay
  | .exStart => stay.negotiate s n dd
  | .exchange => stay.exchange s n dd
  | _ => stay

end Stay

/-- The stays of all neighbors after an event. -/
def nextStays (s : Instance) (e : Event) (stays : NbrRef → Stay) : NbrRef → Stay :=
  match heard s e with
  | some (n, _, .dd dd) =>
      if n.routerId ∈ (s.intf n.intf).neighbors then
        Function.update stays n ((stays n).next s n dd)
      else stays
  | _ => stays

/-- The states of a daemon that runs from certain ones, with the latest stay of every
neighbor. -/
inductive Stayed (start : Instance → Prop) : Instance → (NbrRef → Stay) → Prop where
  | init {s : Instance} (h : start s) : Stayed start s fun _ => {}
  | step {s : Instance} {stays : NbrRef → Stay} {e : Event} (h : Stayed start s stays)
      (hen : e.Enabled s) : Stayed start (exec s e) (nextStays s e stays)

theorem Stayed.mono {start start' : Instance → Prop} (hstart : ∀ s, start s → start' s) {s : Instance}
    {stays : NbrRef → Stay} (h : Stayed start s stays) : Stayed start' s stays := by
  induction h with
  | init h => exact .init (hstart _ h)
  | step _ hen ih => exact .step ih hen

theorem Stayed.reachable {s : Instance} {stays : NbrRef → Stay} (h : Stayed Instance.Initial s stays) :
    Reachable (fun _ _ => True) s := by
  induction h with
  | init h => exact .init h
  | step _ hen ih => exact .step ih hen trivial

/-! ## Descriptions that are not processed -/

/-- Every move but a header that goes on the request list. -/
def Unread (n : NbrRef) (l : Label) : Prop := ∀ h, l ≠ .nbr n (.request h)

section Unread

variable {n : NbrRef} {dd : DDPacket} {s : Instance}

theorem Quiet.unread {s t : Instance} (h : Quiet s t) : Moves (Unread n) s t :=
  h.moves fun _ => nofun

theorem EventMoves.unread {m : NbrMove} {l : Label} (hm : ∀ h, m ≠ .request h)
    (h : EventMoves n m l) : Unread n l := by
  rintro hdr rfl
  rcases h with h | h | h
  · cases h
  · cases h
  · cases h
    exact hm hdr rfl

theorem seqNumMismatch_unread (n : NbrRef) (s : Instance) :
    Moves (Unread n) s (nbrEvent n .seqNumMismatch s).2 :=
  (nbrEvent_restart n (Or.inl rfl) s).mono fun _ => EventMoves.unread (m := .restart) fun _ => nofun

theorem repeat_unread (p : Prop) [Decidable p] (s : Instance) :
    Moves (Unread n) s (Eff.when p (retransmitLastDd n) s).2 :=
  (Eff.Within.when (fun _ => retransmitLastDd_within n) s).unread

theorem processDdExstart_unread (hst : (s.nbr n).state = .exStart)
    (h : (Stay.negotiate {} s n dd).processed = []) :
    Moves (Unread n) s (processDdExstart n dd s).2 := by
  rw [processDdExstart, Eff.get_bind_apply, Eff.ite_apply]
  rw [Stay.negotiate] at h
  by_cases hclaim : dd.claimsMaster = true
  · rw [if_pos hclaim]
    by_cases hid : s.routerId < (s.nbr n).routerId
    · rw [Eff.when_pos hid]
      refine (becomeSlave_moves hst).mono fun l hl hdr => ?_
      rintro rfl
      rcases hl with hl | hl | hl <;> cases hl
    · rw [Eff.when_neg hid]
      exact .refl s
  · rw [if_neg hclaim] at h ⊢
    by_cases hack : ¬dd.isInit ∧ ¬dd.isMaster ∧ (s.nbr n).routerId < s.routerId ∧
        dd.ddSeqNumber = (s.nbr n).ddSeqNumber
    · rw [if_pos hack] at h
      cases h
    · rw [Eff.when_neg hack]
      exact .refl s

theorem processDdExchange_unread (h : (Stay.exchange {} s n dd).processed = []) :
    Moves (Unread n) s (processDdExchange n dd s).2 := by
  rw [processDdExchange, Eff.get_bind_apply]
  rw [Stay.exchange] at h
  by_cases hdup : (s.nbr n).isDuplicateDd dd = true
  · rw [if_pos hdup]
    exact repeat_unread _ s
  · rw [if_neg hdup] at h ⊢
    by_cases hexp : (s.nbr n).expectsDd dd = true
    · rw [if_neg (not_not.2 hexp)] at h
      cases h
    · rw [if_pos hexp]
      exact seqNumMismatch_unread n s

/-- **A description that is not processed puts no header on the request list.** -/
theorem processDd_unread (h : (Stay.next {} s n dd).processed = []) :
    Moves (Unread n) s (processDd n dd s).2 := by
  have hloaded : Moves (Unread n) s (processDdLoaded n dd s).2 := by
    rw [processDdLoaded, Eff.get_bind_apply, Eff.ite_apply]
    split
    · exact repeat_unread _ s
    · exact seqNumMismatch_unread n s
  rw [processDd, Eff.get_bind_apply]
  rw [Stay.next] at h
  cases hst : (s.nbr n).state with
  | down => exact .refl s
  | attempt => exact .refl s
  | twoWay => exact .refl s
  | loading => exact hloaded
  | full => exact hloaded
  | exStart =>
    rw [hst] at h
    exact processDdExstart_unread hst h
  | exchange =>
    rw [hst] at h
    exact processDdExchange_unread h
  | init =>
    have htwo : Moves (Unread n) s (nbrEvent n .twoWayReceived s).2 :=
      (nbrEvent_twoWayReceived n s).mono fun _ => EventMoves.unread (m := .decide) fun _ => by rintro ⟨⟩
    rw [hst] at h
    dsimp only at h ⊢
    rw [Eff.bind_apply]
    rcases hr : nbrEvent n .twoWayReceived s with ⟨_ | ⟨⟩, t⟩ <;> rw [hr] at htwo h
    · exact htwo
    · dsimp only at h ⊢
      rw [Eff.get_bind_apply]
      by_cases hex : (t.nbr n).state = .exStart
      · rw [if_pos hex] at h
        rw [Eff.when_pos hex]
        exact htwo.trans (processDdExstart_unread hex h)
      · rw [Eff.when_neg hex]
        exact htwo

end Unread

/-! ## What lasts -/

/-- In Exchange or above the neighbor was there before, on the same terms, and with the
same last description. -/
def OspfNeighbor.Lasting (x x' : OspfNeighbor) : Prop :=
  .exchange ≤ x'.state →
    .exchange ≤ x.state ∧ (x'.state = .exchange → x.state = .exchange) ∧ x.SameTerms x' ∧
      x'.lastReceivedDd = x.lastReceivedDd

namespace OspfNeighbor

variable {x x' y : OspfNeighbor} {should : Bool}

theorem Lasting.refl (x : OspfNeighbor) : x.Lasting x := fun h => ⟨h, id, .refl x, rfl⟩

theorem Lasting.trans (h : x.Lasting x') (h' : x'.Lasting y) : x.Lasting y := by
  intro hy
  obtain ⟨hx', hst', hsame', hlast'⟩ := h' hy
  obtain ⟨hx, hst, hsame, hlast⟩ := h hx'
  exact ⟨hx, fun he => hst (hst' he), hsame.trans hsame', hlast'.trans hlast⟩

theorem Lasting.of_below (h : x'.state < .exchange) : x.Lasting x' :=
  fun hup => absurd h (Nat.not_lt.2 hup)

theorem Lasting.of_same (hst : x'.state = x.state) (h : x.SameTerms x')
    (hlast : x'.lastReceivedDd = x.lastReceivedDd) : x.Lasting x' :=
  fun hup => ⟨hst ▸ hup, fun he => hst.symm.trans he, h, hlast⟩

/-- **Every move but those of the exchange itself.** -/
theorem Lasting.of_move {m : NbrMove} (hm : m.Rel should x x') (hn : m ≠ .negotiate)
    (hd : m ≠ .describe) (hr : m ≠ .received) : x.Lasting x' := by
  cases m with
  | refresh =>
    obtain ⟨-, t, rfl⟩ := hm
    exact .of_same rfl ⟨rfl, rfl, rfl, rfl, rfl⟩ rfl
  | wake =>
    obtain ⟨-, state, t, hnew, rfl⟩ := hm
    rcases hnew with rfl | rfl
    · exact .of_below (by decide : NbrState.init < .exchange)
    · exact .of_below (by decide : NbrState.attempt < .exchange)
  | hello src =>
    obtain ⟨priority, dr, bdr, rfl⟩ := hm
    exact .of_same rfl ⟨rfl, rfl, rfl, rfl, rfl⟩ rfl
  | decide =>
    rcases hm.2 with ⟨-, seq, dd, rfl⟩ | ⟨-, rfl⟩
    · exact .of_below (by decide : NbrState.exStart < .exchange)
    · exact .of_below (by decide : NbrState.twoWay < .exchange)
  | restart =>
    obtain ⟨-, seq, dd, rfl⟩ := hm
    exact .of_below (by decide : NbrState.exStart < .exchange)
  | oneWay =>
    obtain ⟨-, rfl⟩ := hm
    exact .of_below (by decide : NbrState.init < .exchange)
  | down =>
    obtain rfl : x' = _ := hm
    exact .of_below (by decide : NbrState.down < .exchange)
  | negotiate => exact absurd rfl hn
  | request hdr =>
    obtain ⟨-, -, rfl⟩ := hm
    exact .of_same rfl ⟨rfl, rfl, rfl, rfl, rfl⟩ rfl
  | describe => exact absurd rfl hd
  | received => exact absurd rfl hr
  | exchangeDone =>
    obtain ⟨hst, hm⟩ := hm
    have hup : NbrState.exchange ≤ x.state := by
      rw [hst]
      decide
    rcases hm with ⟨-, rfl⟩ | ⟨-, rxmt, -, rfl⟩
    · exact fun _ => ⟨hup, by rintro ⟨⟩, ⟨rfl, rfl, rfl, rfl, rfl⟩, rfl⟩
    · exact fun _ => ⟨hup, by rintro ⟨⟩, ⟨rfl, rfl, rfl, rfl, rfl⟩, rfl⟩
  | retry =>
    obtain ⟨-, rfl⟩ := hm
    exact .of_same rfl ⟨rfl, rfl, rfl, rfl, rfl⟩ rfl
  | strike keys =>
    obtain rfl : x' = _ := hm
    rw [struck, foldl_strike]
    split
    · rename_i hdone
      have hst : x.state = .loading := hdone.1
      exact fun _ => ⟨by rw [hst]; decide, by rintro ⟨⟩, ⟨rfl, rfl, rfl, rfl, rfl⟩, rfl⟩
    · exact .of_same rfl ⟨rfl, rfl, rfl, rfl, rfl⟩ rfl
  | acked key =>
    obtain rfl : x' = _ := hm
    exact .of_same rfl ⟨rfl, rfl, rfl, rfl, rfl⟩ rfl
  | pend key r =>
    obtain ⟨-, -, rfl⟩ := hm
    exact .of_same rfl ⟨rfl, rfl, rfl, rfl, rfl⟩ rfl

theorem Lasting.of_redecided (hr : Redecided should x x') : x.Lasting x' := by
  rcases hr with ⟨-, -, seq, dd, rfl⟩ | ⟨-, -, rfl⟩ | ⟨-, rfl⟩
  · exact .of_below (by decide : NbrState.exStart < .exchange)
  · exact .of_below (by decide : NbrState.twoWay < .exchange)
  · exact .refl _

end OspfNeighbor

section Events

variable {n : NbrRef} {s t : Instance} {l : Label}

theorem move_lasting (hl : Aside n l) (hm : move l s t) : (s.nbr n).Lasting (t.nbr n) := by
  refine move_nbr (P := (s.nbr n).Lasting) hm (fun _ _ => ?_) (fun m x' heq hx => ?_)
    (fun _ => .of_redecided) (.refl _)
  · exact .of_below (by decide : NbrState.down < .exchange)
  · exact .of_move hx (fun hc => hl m (Or.inl hc) heq) (fun hc => hl m (Or.inr (Or.inl hc)) heq)
      (fun hc => hl m (Or.inr (Or.inr hc)) heq)

theorem Moves.lasting (h : Moves (Aside n) s t) :
    (s.nbr n).Lasting (t.nbr n) ∧ t.routerId = s.routerId := by
  refine Lts.Moves.invariant
    (I := fun u : Instance => (s.nbr n).Lasting (u.nbr n) ∧ u.routerId = s.routerId) ?_ h ⟨.refl _, rfl⟩
  intro l u v hl hm hu
  exact ⟨hu.1.trans (move_lasting hl hm), (move_framed hm).routerId.trans hu.2⟩

theorem EventMoves.aside {m : NbrMove} (hn : m ≠ .negotiate) (hd : m ≠ .describe)
    (hr : m ≠ .received) (h : EventMoves n m l) : Aside n l := by
  rintro k hk rfl
  rcases h with h | h | h
  · cases h
  · cases h
  · cases h
    rcases hk with rfl | rfl | rfl
    · exact hn rfl
    · exact hd rfl
    · exact hr rfl

theorem seqNumMismatch_aside (n : NbrRef) :
    Eff.Within (Moves (Aside n)) (nbrEvent n .seqNumMismatch) :=
  (nbrEvent_restart n (Or.inl rfl)).mono fun _ _ => Lts.Moves.mono fun _ =>
    EventMoves.aside (m := .restart) nofun nofun nofun

theorem twoWayReceived_aside (n : NbrRef) :
    Eff.Within (Moves (Aside n)) (nbrEvent n .twoWayReceived) :=
  (nbrEvent_twoWayReceived n).mono fun _ _ => Lts.Moves.mono fun _ =>
    EventMoves.aside (m := .decide) nofun nofun nofun

theorem retransmitLastDd_aside (n : NbrRef) :
    Eff.Within (Moves (Aside n)) (retransmitLastDd n) :=
  Quiet.within (fun _ _ => nofun) (retransmitLastDd_within n)

theorem processDdLoaded_aside (n : NbrRef) (dd : DDPacket) :
    Eff.Within (Moves (Aside n)) (processDdLoaded n dd) :=
  Eff.Within.read fun _ => Eff.Within.ite (Eff.Within.when fun _ => retransmitLastDd_aside n)
    (seqNumMismatch_aside n)

end Events

/-! ## The invariant -/

/-- The numbers from `a` on. -/
def consecutive (a : Int) (k : Nat) : List Int := (List.range k).map fun i => a + i

theorem consecutive_succ (a : Int) (k : Nat) : consecutive a (k + 1) = consecutive a k ++ [a + k] := by
  simp [consecutive, List.range_succ]

/-- The numbers of a stay are consecutive, and in Exchange or above the neighbor goes on
where they end; the router with the higher ID is master. -/
structure Stay.Fits (stay : Stay) (s : Instance) (n : NbrRef) : Prop where
  processed : stay.processed = consecutive stay.first stay.processed.length
  isMaster : .exchange ≤ (s.nbr n).state → (s.nbr n).isMaster = stay.isMaster
  ddSeqNumber : .exchange ≤ (s.nbr n).state →
    (s.nbr n).ddSeqNumber = stay.negotiated + stay.processed.length
  master : .exchange ≤ (s.nbr n).state → stay.isMaster = true → (s.nbr n).routerId < s.routerId
  slave : .exchange ≤ (s.nbr n).state → stay.isMaster = false → s.routerId < (s.nbr n).routerId

/-- `t` is `s` with a neighbor that has the given role and number. -/
structure Dealt (n : NbrRef) (isMaster : Bool) (seq : Int) (s t : Instance) : Prop where
  routerId : (t.nbr n).routerId = (s.nbr n).routerId
  isMaster : (t.nbr n).isMaster = isMaster
  ddSeqNumber : (t.nbr n).ddSeqNumber = seq
  ownId : t.routerId = s.routerId

section Reactions

variable {n : NbrRef} {s t u : Instance} {isMaster : Bool} {seq : Int} {stay : Stay} {dd : DDPacket}

theorem Dealt.same (h : Dealt n isMaster seq s t) (hs : SameTerms n dd t u) : Dealt n isMaster seq s u :=
  ⟨hs.nbr.routerId.trans h.routerId, hs.nbr.isMaster.trans h.isMaster,
    hs.nbr.ddSeqNumber.trans h.ddSeqNumber, hs.ownId.trans h.ownId⟩

theorem Poised.dealt (h : Poised n dd isMaster seq s u) : Dealt n isMaster seq s u :=
  ⟨h.routerId, h.isMaster, h.ddSeqNumber, h.ownId⟩

/-- Sending the next batch leaves role and number. -/
theorem Poised.sent (h : Poised n dd isMaster seq s u) (flags : Nat) :
    Dealt n isMaster seq s (sendDdBatch n flags u).2 := by
  obtain ⟨last, hq⟩ := sendDdBatch_quiet n flags u
  have hnbr := congrFun hq.nbr n
  rw [Instance.nbr_setNbr_self] at hnbr
  refine ⟨?_, ?_, ?_, hq.routerId.trans h.ownId⟩
  · rw [hnbr]
    exact h.routerId
  · rw [hnbr]
    exact h.isMaster
  · rw [hnbr]
    exact h.ddSeqNumber

namespace Stay.Fits

/-- Where an exchange is left aside, its stay still fits. -/
theorem aside (h : stay.Fits s n) (hm : Moves (Aside n) s t) : stay.Fits t n := by
  obtain ⟨hlast, hown⟩ := hm.lasting
  refine ⟨h.processed, fun hup => ?_, fun hup => ?_, fun hup => ?_, fun hup => ?_⟩
  all_goals obtain ⟨hold, -, hsame, -⟩ := hlast hup
  · rw [hsame.isMaster]
    exact h.isMaster hold
  · rw [hsame.ddSeqNumber]
    exact h.ddSeqNumber hold
  · rw [hsame.routerId, hown]
    exact h.master hold
  · rw [hsame.routerId, hown]
    exact h.slave hold

/-- A stay that begins with a slave. -/
theorem begin_slave (h : Dealt n false seq s t) (hid : s.routerId < (s.nbr n).routerId) :
    Fits { isMaster := false, negotiated := seq, processed := [] } t n where
  processed := rfl
  isMaster := fun _ => h.isMaster
  ddSeqNumber := fun _ => by simp [h.ddSeqNumber]
  master := fun _ => nofun
  slave := fun _ _ => by rw [h.ownId, h.routerId]; exact hid

/-- A stay that begins with a master, and the acknowledgment of its number. -/
theorem begin_master (h : Dealt n true (seq + 1) s t) (hid : (s.nbr n).routerId < s.routerId) :
    Fits { isMaster := true, negotiated := seq, processed := [seq] } t n where
  processed := by simp [consecutive, first]
  isMaster := fun _ => h.isMaster
  ddSeqNumber := fun _ => by simp [h.ddSeqNumber]
  master := fun _ _ => by rw [h.ownId, h.routerId]; exact hid
  slave := fun _ => nofun

/-- The next description is processed. -/
theorem extend (h : stay.Fits s n) (hst : .exchange ≤ (s.nbr n).state)
    (hseq : seq = stay.first + stay.processed.length)
    (hd : Dealt n (s.nbr n).isMaster ((s.nbr n).ddSeqNumber + 1) s t) :
    Fits { stay with processed := stay.processed ++ [seq] } t n where
  processed := by
    change stay.processed ++ [seq] = consecutive stay.first (stay.processed ++ [seq]).length
    rw [List.length_append, List.length_singleton, consecutive_succ, ← h.processed, hseq]
  isMaster := fun _ => hd.isMaster.trans (h.isMaster hst)
  ddSeqNumber := fun _ => by
    rw [hd.ddSeqNumber, h.ddSeqNumber hst]
    simp only [List.length_append, List.length_singleton, Nat.cast_add, Nat.cast_one]
    omega
  master := fun _ hm => by rw [hd.ownId, hd.routerId]; exact h.master hst hm
  slave := fun _ hm => by rw [hd.ownId, hd.routerId]; exact h.slave hst hm

/-- A description in ExStart. -/
theorem negotiate (h : stay.Fits s n) (hst : (s.nbr n).state = .exStart) :
    (stay.negotiate s n dd).Fits (processDdExstart n dd s).2 n := by
  rw [processDdExstart, Eff.get_bind_apply, Eff.ite_apply, Stay.negotiate]
  by_cases hclaim : dd.claimsMaster = true
  · rw [if_pos hclaim, if_pos hclaim]
    by_cases hid : s.routerId < (s.nbr n).routerId
    · rw [if_pos hid, Eff.when_pos hid]
      obtain ⟨u, hu, -, hrun⟩ := becomeSlave_poised dd hst
      rw [hrun]
      exact begin_slave (hu.sent 0) hid
    · rw [if_neg hid, Eff.when_neg hid]
      exact h
  · rw [if_neg hclaim, if_neg hclaim]
    by_cases hack : ¬dd.isInit ∧ ¬dd.isMaster ∧ (s.nbr n).routerId < s.routerId ∧
        dd.ddSeqNumber = (s.nbr n).ddSeqNumber
    · rw [if_pos hack, Eff.when_pos hack, hack.2.2.2]
      obtain ⟨u, hu, -, hrun⟩ := becomeMaster_poised dd hst
      rw [hrun]
      exact begin_master (hu.sent ddFlagMS) hack.2.2.1
    · rw [if_neg hack, Eff.when_neg hack]
      exact h

/-- A description in Exchange. -/
theorem exchange (h : stay.Fits s n) (hst : (s.nbr n).state = .exchange) :
    (stay.exchange s n dd).Fits (processDdExchange n dd s).2 n := by
  have hup : NbrState.exchange ≤ (s.nbr n).state := by
    rw [hst]
    decide
  have hnum := h.ddSeqNumber hup
  rw [processDdExchange, Eff.get_bind_apply, Stay.exchange]
  by_cases hdup : (s.nbr n).isDuplicateDd dd = true
  · rw [if_pos hdup, if_pos hdup]
    exact h.aside (Eff.Within.when (R := Moves (Aside n)) (fun _ => retransmitLastDd_aside n) s)
  rw [if_neg hdup, if_neg hdup]
  by_cases hexp : (s.nbr n).expectsDd dd = true
  · rw [if_neg (not_not.2 hexp), if_neg (not_not.2 hexp)]
    rw [OspfNeighbor.expectsDd] at hexp
    by_cases hmaster : (s.nbr n).isMaster = true
    · rw [if_pos hmaster] at hexp ⊢
      have hfirst : stay.first = stay.negotiated := if_pos ((h.isMaster hup).symm.trans hmaster)
      obtain ⟨u, hu, -, hsame⟩ := masterExchange_poised dd hst
      refine h.extend hup ?_ ?_
      · rw [hfirst, ← hnum]
        exact (of_decide_eq_true hexp).1
      · rcases hsame with hsame | ⟨hsame, -⟩
        · exact (hu.sent ddFlagMS).same hsame
        · exact hu.dealt.same hsame
    · rw [if_neg hmaster] at hexp ⊢
      have hseq : dd.ddSeqNumber = (s.nbr n).ddSeqNumber + 1 := (of_decide_eq_true hexp).1
      have hfirst : stay.first = stay.negotiated + 1 :=
        if_neg fun hs => hmaster ((h.isMaster hup).trans hs)
      obtain ⟨u, hu, -, hsame⟩ := slaveExchange_poised dd hst
      refine h.extend hup ?_ ?_
      · rw [hfirst, hseq, hnum]
        omega
      · rw [hseq] at hu
        exact (hu.sent 0).same hsame
  · rw [if_pos hexp, if_pos hexp]
    exact h.aside (seqNumMismatch_aside n s)

/-- **A description.** -/
theorem next (h : stay.Fits s n) : (stay.next s n dd).Fits (processDd n dd s).2 n := by
  rw [processDd, Eff.get_bind_apply, Stay.next]
  cases hst : (s.nbr n).state with
  | down => exact h
  | attempt => exact h
  | twoWay => exact h
  | exStart => exact h.negotiate hst
  | exchange => exact h.exchange hst
  | init =>
    have htwo := h.aside (twoWayReceived_aside n s)
    dsimp only
    rw [Eff.bind_apply]
    rcases hr : nbrEvent n .twoWayReceived s with ⟨_ | ⟨⟩, t⟩ <;> rw [hr] at htwo
    · exact htwo
    · dsimp only
      rw [Eff.get_bind_apply]
      by_cases hex : (t.nbr n).state = .exStart
      · rw [if_pos hex, Eff.when_pos hex]
        exact htwo.negotiate hex
      · rw [if_neg hex, Eff.when_neg hex]
        exact htwo
  | loading => exact h.aside (processDdLoaded_aside n dd s)
  | full => exact h.aside (processDdLoaded_aside n dd s)

end Stay.Fits
end Reactions

/-- **In every run the stay of every neighbor fits.** -/
theorem Stayed.fits {s : Instance} {stays : NbrRef → Stay} (h : Stayed Instance.Initial s stays)
    (n : NbrRef) : (stays n).Fits s n := by
  induction h with
  | @init s h =>
    have hst : (s.nbr n).state = .down := by rw [h.nbr]
    have hlow : ¬NbrState.exchange ≤ (s.nbr n).state := by
      rw [hst]
      decide
    exact ⟨rfl, fun h => absurd h hlow, fun h => absurd h hlow, fun h => absurd h hlow,
      fun h => absurd h hlow⟩
  | @step s stays e _ hen ih =>
    by_cases hdd : ∃ src dd, heard s e = some (n, src, .dd dd)
    · obtain ⟨src, dd, hh⟩ := hdd
      rw [exec_heard hh, processPacket, forNeighbor, Eff.get_bind_apply, nextStays, hh]
      dsimp only
      by_cases hlist : n.routerId ∈ (s.intf n.intf).neighbors
      · rw [if_pos hlist, Eff.when_pos hlist, Function.update_self]
        exact ih.next
      · rw [if_neg hlist, Eff.when_neg hlist]
        exact ih
    · have hno : ∀ src dd, heard s e ≠ some (n, src, .dd dd) := fun src dd hh => hdd ⟨src, dd, hh⟩
      have hsame : nextStays s e stays n = stays n := by
        rw [nextStays]
        rcases hh : heard s e with _ | ⟨m, src, packet⟩
        · rfl
        · cases packet with
          | dd dd =>
            have hne : n ≠ m := by
              rintro rfl
              exact hno src dd hh
            dsimp only
            split
            · exact Function.update_of_ne hne ..
            · rfl
          | _ => rfl
      rw [hsame]
      exact ih.aside (exec_aside hen hno)

/-- **The headers of descriptions are processed once and in order.**  In every run, the
descriptions processed in a stay have consecutive numbers from its first one on; in
Exchange or above this router is master exactly when it has the higher ID, so that of two
such routers one is master and one is slave. -/
theorem processed_in_order {s : Instance} {stays : NbrRef → Stay}
    (h : Stayed Instance.Initial s stays) (n : NbrRef) :
    (stays n).processed = consecutive (stays n).first (stays n).processed.length ∧
      (.exchange ≤ (s.nbr n).state → (s.nbr n).isMaster = (stays n).isMaster ∧
        ((s.nbr n).isMaster = true ↔ (s.nbr n).routerId < s.routerId)) ∧
      ∀ (t : Instance) (stays' : NbrRef → Stay), Stayed Instance.Initial t stays' → ∀ m,
        .exchange ≤ (s.nbr n).state → .exchange ≤ (t.nbr m).state →
        (s.nbr n).routerId = t.routerId → (t.nbr m).routerId = s.routerId →
          (t.nbr m).isMaster = !(s.nbr n).isMaster := by
  have hrole : ∀ {s : Instance} {stays : NbrRef → Stay} {n : NbrRef},
      Stayed Instance.Initial s stays → .exchange ≤ (s.nbr n).state →
        ((s.nbr n).isMaster = true ↔ (s.nbr n).routerId < s.routerId) := by
    intro s stays n h hst
    have hfits := h.fits n
    rw [hfits.isMaster hst]
    refine ⟨hfits.master hst, fun hlt => ?_⟩
    by_contra hne
    exact absurd hlt (lt_asymm (hfits.slave hst (by simpa using hne)))
  refine ⟨(h.fits n).processed, fun hst => ⟨(h.fits n).isMaster hst, hrole h hst⟩, ?_⟩
  intro t stays' h' m hst hst' hid hid'
  have hs := hrole h hst
  have ht := hrole h' hst'
  rw [hid] at hs
  rw [hid'] at ht
  cases hmaster : (s.nbr n).isMaster with
  | true =>
    have hlt : t.routerId < s.routerId := hs.1 hmaster
    rw [Bool.not_true, ← Bool.not_eq_true, ht]
    exact lt_asymm hlt
  | false =>
    have hne : ¬t.routerId < s.routerId := fun hlt => by
      rw [hs.2 hlt] at hmaster
      cases hmaster
    have hslave := (h.fits n).slave hst (((h.fits n).isMaster hst).symm.trans hmaster)
    rw [hid] at hslave
    exact ht.2 hslave

/-- The peer is master; its second description is the first that is processed. -/
theorem processed_nextDescription : ∃ stays,
    Stayed Instance.Initial (exec peerExchange nextDescription) stays ∧ (stays ⟨0, 2⟩).processed = [6] ∧
      (stays ⟨0, 2⟩).processed = consecutive (stays ⟨0, 2⟩).first (stays ⟨0, 2⟩).processed.length := by
  have h : ∃ stays, Stayed Instance.Initial (exec peerExchange nextDescription) stays ∧
      (stays ⟨0, 2⟩).processed = [6] :=
    ⟨_, .step (.step (.step (.step (.init (initial_linkRouter .none)) trivial) trivial) trivial) trivial,
      by decide +kernel⟩
  obtain ⟨stays, h, hone⟩ := h
  exact ⟨stays, h, hone, (processed_in_order h ⟨0, 2⟩).1⟩

end Ospfd
