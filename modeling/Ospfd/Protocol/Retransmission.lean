import Ospfd.Protocol.Lifecycle
import Ospfd.Protocol.Terms

/-!
# The exchange after a lost packet

A description that is lost has to be sent again: by the master when its retransmission
timer fires, by the slave when the master repeats its own.

* `Heard` — runs that remember the latest description of every neighbor.
* `OspfNeighbor.Disarmed`, `listed_of_reachable` — in Exchange the timer is stopped, and
  only a neighbor on the list of its interface is in Exchange.
* `processDd_changes` — a description that was not recorded as received changes the
  neighbor.
* `survivesLoss_iff` — **when the exchange survives the loss of a packet**.
-/

namespace Ospfd

/-! ## Runs with their latest descriptions -/

/-- The latest description of every neighbor after an event. -/
def latestDd (s : Instance) (e : Event) (latest : NbrRef → Option DDPacket) :
    NbrRef → Option DDPacket :=
  match heard s e with
  | some (n, _, .dd dd) => Function.update latest n (some dd)
  | _ => latest

theorem latestDd_of_heard {s : Instance} {e : Event} (latest : NbrRef → Option DDPacket) {n : NbrRef}
    {src : IPv4Address} {dd : DDPacket} (h : heard s e = some (n, src, .dd dd)) :
    latestDd s e latest n = some dd := by
  rw [latestDd, h]
  exact Function.update_self ..

theorem latestDd_of_ne {s : Instance} {e : Event} (latest : NbrRef → Option DDPacket) {n : NbrRef}
    (h : ∀ src dd, heard s e ≠ some (n, src, .dd dd)) : latestDd s e latest n = latest n := by
  rw [latestDd]
  rcases hh : heard s e with _ | ⟨m, src, packet⟩
  · rfl
  · cases packet with
    | dd dd =>
      have hne : n ≠ m := by
        rintro rfl
        exact h src dd hh
      exact Function.update_of_ne hne ..
    | _ => rfl

/-- The states of a running daemon, with the latest description of every neighbor. -/
inductive Heard : Instance → (NbrRef → Option DDPacket) → Prop where
  | init {s : Instance} (h : s.Initial) : Heard s fun _ => none
  | step {s : Instance} {latest : NbrRef → Option DDPacket} {e : Event} (h : Heard s latest)
      (hen : e.Enabled s) : Heard (exec s e) (latestDd s e latest)

theorem Heard.reachable {s : Instance} {latest : NbrRef → Option DDPacket} (h : Heard s latest) :
    Reachable (fun _ _ => True) s := by
  induction h with
  | init h => exact .init h
  | step _ hen ih => exact .step ih hen trivial

/-! ## Surviving a loss -/

/-- The last description sent to a neighbor, as it would be sent now. -/
def lastDdBytes (s : Instance) (n : NbrRef) : Option Bytes :=
  (s.nbr n).lastSentDd.bind fun dd => (dd.packet s.heap).serialize.toOption

/-- Between two states the last description was sent to a neighbor once more, and
nothing else was sent. -/
def ResentLastDd (s t : Instance) (n : NbrRef) : Prop :=
  ∃ body data, lastDdBytes s n = some body ∧
    t.sent = s.sent ++ [⟨n.intf, (s.nbr n).ipAddr, packetTypeDd, body, data⟩]

/-- In Exchange no single lost packet is fatal: as master the timer runs whose callback
sends the last description again; as slave the latest description of the master, when it
is received again, is answered with the last reply and changes nothing. -/
structure SurvivesLoss (s : Instance) (latest : Option DDPacket) (n : NbrRef) : Prop where
  master : (s.nbr n).state = .exchange → (s.nbr n).isMaster = true →
    (s.nbr n).ddRxmtTimer = true ∧ ResentLastDd s (exec s (.ddRxmt n)) n
  slave : (s.nbr n).state = .exchange → (s.nbr n).isMaster = false →
    ∃ dd, latest = some dd ∧
      (processPacket n (s.nbr n).ipAddr (.dd dd) s).2.nbr n = s.nbr n ∧
        ResentLastDd s (processPacket n (s.nbr n).ipAddr (.dd dd) s).2 n

/-- A description is recorded as the last one received. -/
def OspfNeighbor.Recorded (x : OspfNeighbor) (dd : DDPacket) : Prop :=
  ∃ last, x.lastReceivedDd = some last ∧ dd.ddSeqNumber = last.ddSeqNumber ∧
    dd.flags = last.flags ∧ dd.options = last.options

/-- The last description of a neighbor can be sent again: the interface has a socket,
and the packet fits its header. -/
def CanResend (s : Instance) (n : NbrRef) : Prop :=
  (s.intf n.intf).socket = true ∧
    ∃ body ∈ lastDdBytes s n, OspfHeader.size + body.length < 65536

instance (s : Instance) (n : NbrRef) : Decidable (CanResend s n) :=
  inferInstanceAs (Decidable (_ ∧ _))

/-! ## What holds in Exchange -/

/-- In Exchange the timer that repeats descriptions is stopped. -/
def OspfNeighbor.Disarmed (x : OspfNeighbor) : Prop := x.state = .exchange → x.ddRxmtTimer = false

namespace OspfNeighbor

variable {x x' : OspfNeighbor} {should : Bool}

theorem Disarmed.of_ne (h : x.state ≠ .exchange) : x.Disarmed := fun he => absurd he h

theorem Disarmed.struck (h : x.Disarmed) (keys : List LsaKey) : (x.struck keys).Disarmed := by
  rw [OspfNeighbor.struck]
  split
  · exact .of_ne (by rintro ⟨⟩)
  · intro he
    rw [foldl_strike] at he ⊢
    exact h he

/-- **Every move of a neighbor keeps it**: the timer is stopped when master and slave are
settled, and started only in ExStart. -/
theorem Disarmed.move {m : NbrMove} (hm : m.Rel should x x') (h : x.Disarmed) : x'.Disarmed := by
  cases m with
  | refresh =>
    obtain ⟨-, t, rfl⟩ := hm
    exact h
  | wake =>
    obtain ⟨-, state, t, hnew, rfl⟩ := hm
    rcases hnew with rfl | rfl
    · exact .of_ne nofun
    · exact .of_ne nofun
  | hello src =>
    obtain ⟨priority, dr, bdr, rfl⟩ := hm
    exact h
  | decide =>
    rcases hm.2 with ⟨-, seq, dd, rfl⟩ | ⟨-, rfl⟩
    · exact .of_ne nofun
    · exact .of_ne nofun
  | restart =>
    obtain ⟨-, seq, dd, rfl⟩ := hm
    exact .of_ne nofun
  | oneWay =>
    obtain ⟨-, rfl⟩ := hm
    exact .of_ne nofun
  | down =>
    obtain rfl : x' = _ := hm
    exact .of_ne nofun
  | negotiate =>
    obtain ⟨-, isMaster, seq, opts, summary, rfl⟩ := hm
    exact fun _ => rfl
  | request hdr =>
    obtain ⟨-, -, rfl⟩ := hm
    exact h
  | describe =>
    obtain ⟨seq, summary, last, -, rfl⟩ := hm
    exact h
  | received =>
    obtain ⟨-, dd, rfl⟩ := hm
    exact h
  | exchangeDone =>
    rcases hm.2 with ⟨-, rfl⟩ | ⟨-, rxmt, -, rfl⟩
    · exact .of_ne nofun
    · exact .of_ne nofun
  | retry =>
    obtain ⟨-, rfl⟩ := hm
    exact h
  | strike keys =>
    obtain rfl : x' = _ := hm
    exact h.struck keys
  | acked key =>
    obtain rfl : x' = _ := hm
    exact h
  | pend key r =>
    obtain ⟨-, -, rfl⟩ := hm
    exact h

theorem Disarmed.redecided (hr : Redecided should x x') (h : x.Disarmed) : x'.Disarmed := by
  rcases hr with ⟨-, -, seq, dd, rfl⟩ | ⟨-, -, rfl⟩ | ⟨-, rfl⟩
  · exact .of_ne nofun
  · exact .of_ne nofun
  · exact h

/-- **How a move changes the state of a neighbor**: only waking up ends Down, only settling
master and slave leads into Exchange from below. -/
theorem state_of_move {m : NbrMove} (hm : m.Rel should x x') :
    x'.state = x.state ∨ x'.state = .down ∨ m = .wake ∧ x'.state < .exchange ∨
      x.state ≠ .down ∧ x'.state < .exchange ∨ m = .negotiate ∧ x.state = .exStart ∨
        .exchange ≤ x.state ∧ .exchange < x'.state := by
  have hup : ∀ {st : NbrState}, .down < st → st ≤ x.state → x.state ≠ .down := by
    intro st hst hle hd
    rw [hd] at hle
    exact absurd hle (Nat.not_le.2 hst)
  cases m with
  | refresh =>
    obtain ⟨-, t, rfl⟩ := hm
    exact Or.inl rfl
  | wake =>
    obtain ⟨-, state, t, hnew, rfl⟩ := hm
    refine Or.inr (Or.inr (Or.inl ⟨rfl, ?_⟩))
    rcases hnew with rfl | rfl
    · exact (by decide : NbrState.init < .exchange)
    · exact (by decide : NbrState.attempt < .exchange)
  | hello src =>
    obtain ⟨priority, dr, bdr, rfl⟩ := hm
    exact Or.inl rfl
  | decide =>
    obtain ⟨hst, hm⟩ := hm
    refine Or.inr (Or.inr (Or.inr (Or.inl ⟨by rw [hst]; exact nofun, ?_⟩)))
    rcases hm with ⟨-, seq, dd, rfl⟩ | ⟨-, rfl⟩
    · exact (by decide : NbrState.exStart < .exchange)
    · exact (by decide : NbrState.twoWay < .exchange)
  | restart =>
    obtain ⟨hst, seq, dd, rfl⟩ := hm
    exact Or.inr (Or.inr (Or.inr (Or.inl ⟨hup (by decide) hst, (by decide : NbrState.exStart < .exchange)⟩)))
  | oneWay =>
    obtain ⟨hst, rfl⟩ := hm
    exact Or.inr (Or.inr (Or.inr (Or.inl ⟨hup (by decide) hst, (by decide : NbrState.init < .exchange)⟩)))
  | down =>
    obtain rfl : x' = _ := hm
    exact Or.inr (Or.inl rfl)
  | negotiate => exact Or.inr (Or.inr (Or.inr (Or.inr (Or.inl ⟨rfl, hm.1⟩))))
  | request hdr =>
    obtain ⟨-, -, rfl⟩ := hm
    exact Or.inl rfl
  | describe =>
    obtain ⟨seq, summary, last, -, rfl⟩ := hm
    exact Or.inl rfl
  | received =>
    obtain ⟨-, dd, rfl⟩ := hm
    exact Or.inl rfl
  | exchangeDone =>
    obtain ⟨hst, hm⟩ := hm
    refine Or.inr (Or.inr (Or.inr (Or.inr (Or.inr ⟨by rw [hst]; decide, ?_⟩))))
    rcases hm with ⟨-, rfl⟩ | ⟨-, rxmt, -, rfl⟩
    · exact (by decide : NbrState.exchange < .full)
    · exact (by decide : NbrState.exchange < .loading)
  | retry =>
    obtain ⟨-, rfl⟩ := hm
    exact Or.inl rfl
  | strike keys =>
    obtain rfl : x' = _ := hm
    rw [struck]
    split
    · rename_i hdone
      rw [foldl_strike] at hdone
      refine Or.inr (Or.inr (Or.inr (Or.inr (Or.inr ⟨?_, (by decide : NbrState.exchange < .full)⟩))))
      rw [show x.state = .loading from hdone.1]
      decide
    · rw [foldl_strike]
      exact Or.inl rfl
  | acked key =>
    obtain rfl : x' = _ := hm
    exact Or.inl rfl
  | pend key r =>
    obtain ⟨-, -, rfl⟩ := hm
    exact Or.inl rfl

theorem state_of_down {m : NbrMove} (hm : m.Rel should x x') (hw : m ≠ .wake)
    (h : x.state = .down) : x'.state = .down := by
  rcases state_of_move hm with he | he | ⟨he, -⟩ | ⟨he, -⟩ | ⟨-, he⟩ | ⟨he, -⟩
  · exact he.trans h
  · exact he
  · exact absurd he hw
  · exact absurd h he
  · exact absurd (h.symm.trans he) nofun
  · exact absurd (h ▸ he) (by decide)

theorem below_of_move {m : NbrMove} (hm : m.Rel should x x') (hn : m ≠ .negotiate)
    (h : x.state < .exchange) : x'.state < .exchange := by
  rcases state_of_move hm with he | he | ⟨-, he⟩ | ⟨-, he⟩ | ⟨he, -⟩ | ⟨he, -⟩
  · rwa [he]
  · rw [he]
    decide
  · exact he
  · exact he
  · exact absurd he hn
  · exact absurd h (Nat.not_lt.2 he)

theorem below_of_redecided (hr : Redecided should x x') (h : x.state < .exchange) :
    x'.state < .exchange := by
  rcases hr with ⟨-, -, seq, dd, rfl⟩ | ⟨-, -, rfl⟩ | ⟨-, rfl⟩
  · exact (by decide : NbrState.exStart < .exchange)
  · exact (by decide : NbrState.twoWay < .exchange)
  · exact h

end OspfNeighbor

/-- A neighbor that is not Down is on the list of its interface. -/
def Instance.Listed (s : Instance) : Prop :=
  ∀ n, (s.nbr n).state ≠ .down → n.routerId ∈ (s.intf n.intf).neighbors

theorem move_listed {l : Label} {s t : Instance} (hm : move l s t) (h : s.Listed) : t.Listed := by
  have hlist : ∀ {t : Instance}, t.nbr = s.nbr →
      (∀ j, (t.intf j).neighbors = (s.intf j).neighbors) → t.Listed := by
    intro t hn hi n hst
    rw [hi]
    exact h n (by rwa [hn] at hst)
  cases l with
  | intf i =>
    obtain ⟨x, hx, rfl⟩ := hm
    refine hlist rfl fun j => ?_
    rw [Instance.intf_setIntf]
    split
    · rename_i heq
      rw [heq]
      exact hx.neighbors
    · rfl
  | elect i =>
    intro n hst
    have hold : (s.nbr n).state ≠ .down := by
      by_cases hn : n.intf = i ∧ n.routerId ∈ (s.intf i).neighbors ∧ .twoWay ≤ (s.nbr n).state ∧
          ((s.intf i).dr ≠ (t.intf i).dr ∨ (s.intf i).bdr ≠ (t.intf i).bdr)
      · intro hd
        have hle := hn.2.2.1
        rw [hd] at hle
        exact absurd hle (by decide)
      · rwa [hm.kept n hn] at hst
    have hmem := h n hold
    by_cases hi : n.intf = i
    · obtain ⟨dr, bdr, state, hti⟩ := hm.intf
      rw [hi] at hmem ⊢
      rw [hti]
      exact hmem
    · rw [hm.other n.intf hi]
      exact hmem
  | clear i =>
    obtain ⟨hdown, rfl⟩ := hm
    intro n hst
    have hmem := h n hst
    by_cases hi : n.intf = i
    · refine absurd (hdown n (Instance.mem_neighborsOf.2 ⟨hi, ?_⟩)) hst
      rwa [hi] at hmem
    · rw [Instance.intf_setIntf_of_ne _ hi]
      exact hmem
  | create m src =>
    obtain ⟨-, rfl⟩ := hm
    intro n hst
    rw [Instance.intf_setIntf]
    split
    · rename_i hi
      by_cases hn : n = m
      · rw [hn]
        exact List.mem_append_right _ (List.mem_singleton_self _)
      · have hmem := h n (by
          rwa [Instance.nbr_setIntf, Instance.nbr_setNbr_of_ne _ hn] at hst)
        rw [hi] at hmem
        exact List.mem_append_left _ hmem
    · rename_i hi
      have hn : n ≠ m := fun hc => hi (by rw [hc])
      rw [Instance.nbr_setIntf, Instance.nbr_setNbr_of_ne _ hn] at hst
      exact h n hst
  | nbr m mv =>
    by_cases hw : mv = .wake
    · subst hw
      obtain ⟨hmem, x, -, rfl⟩ := hm
      intro n hst
      by_cases hn : n = m
      · rw [hn]
        exact hmem
      · rw [Instance.nbr_setNbr_of_ne _ hn] at hst
        exact h n hst
    · obtain ⟨x, hx, rfl⟩ := nbr_of_move hm
      intro n hst
      by_cases hn : n = m
      · subst hn
        rw [Instance.nbr_setNbr_self] at hst
        exact h n fun hd => hst (OspfNeighbor.state_of_down hx hw hd)
      · rw [Instance.nbr_setNbr_of_ne _ hn] at hst
        exact h n hst
  | _ =>
    obtain ⟨hnbr, hintf⟩ := (move_framed hm).tables rfl
    exact hlist hnbr fun j => by rw [hintf]

section Reached

variable {ok : Instance → Event → Prop} {s : Instance}

theorem disarmed_of_reachable (h : Reachable ok s) : ∀ n, (s.nbr n).Disarmed :=
  nbrs_of_reachable (fun _ _ => .of_ne nofun) (fun _ _ _ _ => .move) (fun _ _ _ => .redecided) h

theorem listed_of_reachable (h : Reachable ok s) : s.Listed := by
  refine h.invariant (I := Instance.Listed) (fun s hs n hst => ?_) fun s e hi hen _ => ?_
  · rw [hs.nbr] at hst
    exact absurd rfl hst
  · exact Lts.Moves.invariant (fun _ _ _ _ => move_listed) (exec_moves hen) hi

end Reached

/-! ## Only a description settles master and slave -/

/-- Every move but the one that settles master and slave. -/
def Unsettling (n : NbrRef) (l : Label) : Prop := l ≠ .nbr n .negotiate

/-- Every move but those that settle master and slave, page through the summary, or
record a description. -/
def Aside (n : NbrRef) (l : Label) : Prop :=
  ∀ m : NbrMove, m = .negotiate ∨ m = .describe ∨ m = .received → l ≠ .nbr n m

section Aside

variable {n m : NbrRef} {l : Label}

theorem Aside.unsettling (h : Aside n l) : Unsettling n l := h _ (Or.inl rfl)

theorem Spreads.aside (h : Spreads l) : Aside n l := by
  rintro _ (rfl | rfl | rfl) rfl
  all_goals
    cases h with
    | flood h => cases h

theorem Receives.aside {keys : List LsaKey} (h : Receives m keys l) : Aside n l := by
  rintro _ (rfl | rfl | rfl) rfl
  all_goals
    cases h with
    | spread h => exact h.aside _ (by simp) rfl

theorem IntfMoves.aside {i : IntfId} (h : IntfMoves i l) : Aside n l := by
  rintro _ (rfl | rfl | rfl) rfl
  all_goals rcases h with (h | h | ⟨k, -, h⟩) | h | h <;> cases h

theorem Works.aside (h : Works l) : Aside n l := by
  rintro _ (rfl | rfl | rfl) rfl
  all_goals
    cases h with
    | intf h => exact h.aside _ (by simp) rfl
    | spread h => exact h.aside _ (by simp) rfl

theorem Greets.aside {src : IPv4Address} (h : Greets m src l) : Aside n l := by
  rintro _ (rfl | rfl | rfl) rfl
  all_goals
    cases h with
    | intf h => exact h.aside _ (by simp) rfl

theorem Negotiates.aside (h : Negotiates m l) (hne : m ≠ n) : Aside n l := by
  rintro _ (rfl | rfl | rfl) rfl
  · cases h with
    | exchange h => cases h
    | negotiate => exact hne rfl
  all_goals
    cases h with
    | exchange h =>
      cases h with
      | _ => exact hne rfl

theorem Answers.aside (h : Answers m l) : Aside n l := by
  rintro _ (rfl | rfl | rfl) rfl
  all_goals cases h

theorem Updates.aside {keys : List LsaKey} (h : Updates m keys l) : Aside n l := by
  rintro _ (rfl | rfl | rfl) rfl
  all_goals
    cases h with
    | receive h => exact h.aside _ (by simp) rfl

/-- An event that brings no description from a neighbor leaves the exchange with it aside. -/
theorem exec_aside {s : Instance} {e : Event} (hen : e.Enabled s)
    (h : ∀ src dd, heard s e ≠ some (n, src, .dd dd)) : Moves (Aside n) s (exec s e) := by
  rcases hh : heard s e with _ | ⟨m, src, packet⟩
  · exact (exec_works hen hh).mono fun _ => Works.aside
  · cases packet with
    | hello hello => exact (exec_hello hh).mono fun _ => Greets.aside
    | dd dd =>
      have hne : m ≠ n := by
        rintro rfl
        exact h src dd hh
      exact (exec_dd hh).mono fun _ hl => hl.aside hne
    | lsr lsr => exact (exec_lsr hh).mono fun _ => Answers.aside
    | lsu lsu => exact (exec_lsu hh).mono fun _ => Updates.aside
    | lsack ack => exact (exec_lsack hh).mono fun _ => Receives.aside

end Aside

/-- What does not settle master and slave does not lead into Exchange. -/
theorem move_below {n : NbrRef} {l : Label} {s t : Instance} (hl : Unsettling n l) (hm : move l s t)
    (h : (s.nbr n).state < .exchange) : (t.nbr n).state < .exchange := by
  refine move_nbr (P := fun x => x.state < .exchange) hm (fun _ _ => ?_) (fun m x' heq hx => ?_)
    (fun x' hx => OspfNeighbor.below_of_redecided hx h) h
  · exact (by decide : NbrState.down < .exchange)
  · exact OspfNeighbor.below_of_move hx (fun hc => hl (by rw [heq, hc])) h

/-- **A neighbor in Exchange or above has sent a description.** -/
theorem Heard.latest_of_exchange {s : Instance} {latest : NbrRef → Option DDPacket}
    (h : Heard s latest) {n : NbrRef} (hst : .exchange ≤ (s.nbr n).state) :
    ∃ dd, latest n = some dd := by
  induction h with
  | init h =>
    rw [h.nbr] at hst
    exact absurd hst (by decide : ¬NbrState.exchange ≤ .down)
  | @step s latest e _ hen ih =>
    by_cases hdd : ∃ src dd, heard s e = some (n, src, .dd dd)
    · obtain ⟨src, dd, hh⟩ := hdd
      exact ⟨dd, latestDd_of_heard latest hh⟩
    · have hno : ∀ src dd, heard s e ≠ some (n, src, .dd dd) := fun src dd hh => hdd ⟨src, dd, hh⟩
      rw [latestDd_of_ne latest hno]
      refine ih ?_
      by_contra hlow
      refine absurd hst (Nat.not_le.2 ?_)
      exact Lts.Moves.invariant (I := fun t : Instance => (t.nbr n).state < .exchange)
        (fun _ _ _ hl => move_below hl.unsettling)
        (exec_aside hen hno) (Nat.not_le.1 hlow)

/-! ## Descriptions in Exchange -/

/-- SeqNumberMismatch in Exchange. -/
theorem nbrEvent_seqNumMismatch {n : NbrRef} {s : Instance} (h : (s.nbr n).state = .exchange) :
    ((nbrEvent n .seqNumMismatch s).2.nbr n).state = .exStart := by
  have hh : handleNbr (nbrEventDepth (98 + 1)) n (s.nbr n).state .seqNumMismatch =
      seqNumMismatch n := by rw [h]; rfl
  obtain ⟨x, t, ht, hx, hq⟩ := seqNumMismatch_returns n (s.traced n .seqNumMismatch)
  have hst : x.state = .exStart := by
    obtain ⟨seq, dd, rfl⟩ := hx
    rfl
  obtain ⟨t', ht', hq'⟩ : ∃ t', dispatchNbr (nbrEventDepth (98 + 1)) n .seqNumMismatch s = (.ok (), t') ∧
      Quiet (s.setNbr n x) t' :=
    dispatchNbr_returns (by rw [hh]; exact ht) (((quiet_traced s n .seqNumMismatch).setNbr n x).trans hq)
      (by rw [h, hst]; rfl)
  rw [nbrEvent_eq, ht', hq'.nbr, Instance.nbr_setNbr_self]
  exact hst

/-- An expected description moves the sequence number of a slave on. -/
theorem slaveExchange_seq {n : NbrRef} {dd : DDPacket} {s : Instance}
    (hst : (s.nbr n).state = .exchange) :
    ((slaveExchange n dd s).2.nbr n).ddSeqNumber = dd.ddSeqNumber := by
  obtain ⟨u, hu, -, hsame⟩ := slaveExchange_poised dd hst
  obtain ⟨last, hsend⟩ : ∃ last, Quiet (u.setNbr n { u.nbr n with
      dbSummaryList := (u.nbr n).dbSummaryList.drop (maxDdHeaders u n), lastSentDd := last })
        (sendDdSlave n u).2 := sendDdBatch_quiet n 0 u
  rw [hsame.nbr.ddSeqNumber, hsend.nbr, Instance.nbr_setNbr_self]
  exact hu.ddSeqNumber

theorem OspfNeighbor.isDuplicateDd_iff {x : OspfNeighbor} {dd : DDPacket} :
    x.isDuplicateDd dd = true ↔ x.Recorded dd := by
  rw [isDuplicateDd, Recorded]
  rcases x.lastReceivedDd with _ | last
  · simp
  · simp

section Slave

variable {n : NbrRef} {dd : DDPacket} {s : Instance}

/-- What a slave does with a description in Exchange. -/
theorem processPacket_dd (src : IPv4Address) (hst : (s.nbr n).state = .exchange)
    (hlist : n.routerId ∈ (s.intf n.intf).neighbors) :
    processPacket n src (.dd dd) s = processDdExchange n dd s := by
  rw [processPacket, forNeighbor, Eff.get_bind_apply, Eff.when_pos hlist, processDd,
    Eff.get_bind_apply, hst]

/-- **A description that is not recorded changes the slave**: it is out of sequence, or
the next one. -/
theorem processDdExchange_changes (hst : (s.nbr n).state = .exchange)
    (hslave : (s.nbr n).isMaster = false) (hrec : ¬(s.nbr n).Recorded dd) :
    (processDdExchange n dd s).2.nbr n ≠ s.nbr n := by
  rw [processDdExchange, Eff.get_bind_apply]
  rw [if_neg fun h => hrec (OspfNeighbor.isDuplicateDd_iff.1 h)]
  by_cases hexp : (s.nbr n).expectsDd dd = true
  · rw [if_neg (not_not.2 hexp), if_neg (by rw [hslave]; exact Bool.false_ne_true)]
    have hnext : dd.ddSeqNumber = (s.nbr n).ddSeqNumber + 1 := by
      rw [OspfNeighbor.expectsDd, hslave] at hexp
      simp only [Bool.false_eq_true, if_false, decide_eq_true_eq] at hexp
      exact hexp.1
    intro heq
    have hseq : ((slaveExchange n dd s).2.nbr n).ddSeqNumber = dd.ddSeqNumber := slaveExchange_seq hst
    rw [heq, hnext] at hseq
    omega
  · rw [if_pos hexp]
    intro heq
    have hex := nbrEvent_seqNumMismatch hst
    rw [heq, hst] at hex
    cases hex

/-- A recorded description is answered with the last reply. -/
theorem processDdExchange_recorded (hslave : (s.nbr n).isMaster = false)
    (hrec : (s.nbr n).Recorded dd) : processDdExchange n dd s = retransmitLastDd n s := by
  rw [processDdExchange, Eff.get_bind_apply, if_pos (OspfNeighbor.isDuplicateDd_iff.2 hrec),
    Eff.when_pos (by rw [hslave]; exact Bool.false_ne_true)]

/-- Sending the last description again succeeds exactly when it can be sent. -/
theorem retransmitLastDd_resends (n : NbrRef) (s : Instance) :
    ResentLastDd s (retransmitLastDd n s).2 n ↔ CanResend s n := by
  have hnone : ¬∃ packet, s.sent = s.sent ++ [packet] := by
    rintro ⟨packet, h⟩
    exact absurd (congrArg List.length h) (by simp)
  -- the call that sends the bytes, if there are any
  have hrun : (retransmitLastDd n s).2 = match lastDdBytes s n with
      | none => s
      | some body => (sendPacket n.intf packetTypeDd body (s.nbr n).ipAddr s).2 := by
    rw [retransmitLastDd, Eff.get_bind_apply, lastDdBytes]
    rcases (s.nbr n).lastSentDd with _ | dd
    · rfl
    · dsimp only [Option.bind_some]
      rw [Eff.lift_bind_apply]
      cases (dd.packet s.heap).serialize <;> rfl
  rw [hrun]
  rcases hbytes : lastDdBytes s n with _ | body
  · constructor
    · rintro ⟨body, data, hbody, -⟩
      exact absurd (hbytes.symm.trans hbody) nofun
    · rintro ⟨-, body, hbody, -⟩
      exact absurd (hbytes.symm.trans hbody) nofun
  dsimp only
  by_cases hfit : (s.intf n.intf).socket = true ∧ OspfHeader.size + body.length < 65536
  · obtain ⟨data, cryptSeq, hsend⟩ :=
      sendPacket_returns n.intf (s.nbr n).ipAddr (by decide : packetTypeDd < 256) hfit.2 s
    rw [hsend]
    exact ⟨fun _ => ⟨hfit.1, body, hbytes, hfit.2⟩, fun _ => ⟨body, data, hbytes, if_pos hfit.1⟩⟩
  · rw [sendPacket_unsent hfit]
    constructor
    · rintro ⟨_, data, -, hsent⟩
      exact absurd ⟨_, hsent⟩ hnone
    · rintro ⟨hsock, body', hbody, hlen⟩
      obtain rfl := Option.some.inj (hbytes.symm.trans hbody)
      exact absurd ⟨hsock, hlen⟩ hfit

end Slave

/-- **When the exchange survives the loss of a packet**: in every run, in Exchange, this
router has to be the slave, the latest description of the master has to be recorded (the
one that settled master and slave is not), and the last reply has to fit a packet. -/
theorem survivesLoss_iff {s : Instance} {latest : NbrRef → Option DDPacket} (h : Heard s latest)
    (n : NbrRef) : SurvivesLoss s (latest n) n ↔
      ((s.nbr n).state = .exchange → (s.nbr n).isMaster = false ∧
        (∃ dd, latest n = some dd ∧ (s.nbr n).Recorded dd) ∧ CanResend s n) := by
  have hlist : (s.nbr n).state = .exchange → n.routerId ∈ (s.intf n.intf).neighbors := fun hst =>
    listed_of_reachable h.reachable n (by rw [hst]; exact nofun)
  constructor
  · intro hsurv hst
    have hslave : (s.nbr n).isMaster = false := by
      by_contra hmaster
      have harmed := (hsurv.master hst (by simpa using hmaster)).1
      rw [disarmed_of_reachable h.reachable n hst] at harmed
      cases harmed
    obtain ⟨dd, hdd, hkept, hsent⟩ := hsurv.slave hst hslave
    rw [processPacket_dd _ hst (hlist hst)] at hkept hsent
    have hrec : (s.nbr n).Recorded dd := by
      by_contra hrec
      exact processDdExchange_changes hst hslave hrec hkept
    rw [processDdExchange_recorded hslave hrec] at hsent
    exact ⟨hslave, ⟨dd, hdd, hrec⟩, (retransmitLastDd_resends n s).1 hsent⟩
  · intro hcond
    refine ⟨fun hst hmaster => ?_, fun hst hslave => ?_⟩
    · rw [(hcond hst).1] at hmaster
      cases hmaster
    · obtain ⟨-, ⟨dd, hdd, hrec⟩, hcan⟩ := hcond hst
      refine ⟨dd, hdd, ?_⟩
      rw [processPacket_dd _ hst (hlist hst), processDdExchange_recorded hslave hrec]
      refine ⟨?_, (retransmitLastDd_resends n s).2 hcan⟩
      rw [(retransmitLastDd_within n s).nbr]

/-! ### The replies of a slave -/

/-- Nothing that settles master and slave is recorded: the master that repeats its first
description is taken to be out of sequence. -/
theorem not_survivesLoss : ¬∀ (s : Instance) (latest : NbrRef → Option DDPacket), Heard s latest →
    ∀ n, SurvivesLoss s (latest n) n := by
  intro hall
  have hheard : ∃ latest, Heard peerExchange latest :=
    ⟨_, .step (.step (.step (.init (initial_linkRouter .none)) trivial) trivial) trivial⟩
  obtain ⟨latest, h⟩ := hheard
  have hst : (peerExchange.nbr ⟨0, 2⟩).state = .exchange := by decide +kernel
  have hslave : (peerExchange.nbr ⟨0, 2⟩).isMaster = false := by decide +kernel
  have hnone : (peerExchange.nbr ⟨0, 2⟩).lastReceivedDd.isNone = true := by decide +kernel
  obtain ⟨dd, -, hkept, -⟩ := (hall _ _ h ⟨0, 2⟩).slave hst hslave
  rw [processPacket_dd _ hst (listed_of_reachable h.reachable _ (by rw [hst]; exact nofun))] at hkept
  refine processDdExchange_changes hst hslave ?_ hkept
  rintro ⟨last, hlast, -⟩
  rw [hlast] at hnone
  cases hnone

/-- The next description of the master, with more to come. -/
def nextDescription : Event :=
  .receive 0 (peerPacket packetTypeDd (DDPacket.serialize
    { interfaceMtu := 1500, options := optE, flags := ddFlagM ||| ddFlagMS, ddSeqNumber := 6,
      lsaHeaders := [] })) 167772162

/-- Once a description of the master is recorded, the reply to it may be lost. -/
theorem survivesLoss_nextDescription : ∃ latest : NbrRef → Option DDPacket,
    ((exec peerExchange nextDescription).nbr ⟨0, 2⟩).state = .exchange ∧
      SurvivesLoss (exec peerExchange nextDescription) (latest ⟨0, 2⟩) ⟨0, 2⟩ := by
  have hheard : ∃ latest, Heard (exec peerExchange nextDescription) latest ∧
      ((latest ⟨0, 2⟩).any ((exec peerExchange nextDescription).nbr ⟨0, 2⟩).isDuplicateDd) = true :=
    ⟨_, .step (.step (.step (.step (.init (initial_linkRouter .none)) trivial) trivial) trivial) trivial,
      by decide +kernel⟩
  obtain ⟨latest, h, hdup⟩ := hheard
  obtain ⟨dd, hdd, hdup⟩ := (Option.any_eq_true _ _).1 hdup
  refine ⟨latest, by decide +kernel, (survivesLoss_iff h ⟨0, 2⟩).2 fun _ => ⟨by decide +kernel, ?_⟩⟩
  exact ⟨⟨dd, hdd, OspfNeighbor.isDuplicateDd_iff.1 hdup⟩, by decide +kernel⟩

end Ospfd
