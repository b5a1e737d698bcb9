import Ospfd.Lsdb.Silence
import Ospfd.Protocol.Runs

/-!
# What is requested, and what is on its way

A request waits for an update of the neighbor, and what was flooded to it for an acknowledgment.

* `NbrMove.OnLists` — **what a move does to the two lists** of a neighbor in Exchange or above.
* `acknowledged`, `delivered` — the keys that a packet of a neighbor strikes from its lists.
* `pending_stays` — **only an acknowledgment of its key takes an instance off the retransmission list**,
  and no flood replaces it.
* `request_stays` — **only an update with its key answers a request**, and before that the neighbor is
  not Full.
-/

namespace Ospfd

/-! ## What a move does to the lists -/

/-- What a move does to the lists of a neighbor. -/
inductive NbrMove.OnLists (x x' : OspfNeighbor) : NbrMove → Prop
  | kept {m : NbrMove} (hreq : x'.lsRequestList = x.lsRequestList)
      (hrxmt : x'.lsRetransmissionList = x.lsRetransmissionList) : OnLists x x' m
  | request {h : LsaHeader} (hreq : x'.lsRequestList = x.lsRequestList.set h.key h)
      (hrxmt : x'.lsRetransmissionList = x.lsRetransmissionList) : OnLists x x' (.request h)
  | strike {keys : List LsaKey} (hreq : x'.lsRequestList = keys.foldl Dict.pop x.lsRequestList)
      (hrxmt : x'.lsRetransmissionList = keys.foldl Dict.pop x.lsRetransmissionList) :
      OnLists x x' (.strike keys)
  | acked {key : LsaKey} (hreq : x'.lsRequestList = x.lsRequestList)
      (hrxmt : x'.lsRetransmissionList = x.lsRetransmissionList.pop key) : OnLists x x' (.acked key)
  | pend {key : LsaKey} {r : LsaRef} (hfree : x.lsRetransmissionList.get? key = none)
      (hreq : x'.lsRequestList = x.lsRequestList)
      (hrxmt : x'.lsRetransmissionList = x.lsRetransmissionList.set key r) : OnLists x x' (.pend key r)

section Lists

variable {x x' : OspfNeighbor} {should : Bool}

/-- **A move that does not settle master and slave** does this, or leaves the neighbor below Exchange. -/
theorem NbrMove.Rel.onLists {m : NbrMove} (hm : m.Rel should x x') (hneg : m ≠ .negotiate) :
    x'.state < .exchange ∨ m.OnLists x x' := by
  cases m with
  | refresh =>
    obtain ⟨-, t, rfl⟩ := hm
    exact Or.inr (.kept rfl rfl)
  | wake =>
    obtain ⟨-, state, t, -, rfl⟩ := hm
    exact Or.inr (.kept rfl rfl)
  | hello src =>
    obtain ⟨priority, dr, bdr, rfl⟩ := hm
    exact Or.inr (.kept rfl rfl)
  | decide =>
    rcases hm.2 with ⟨-, seq, dd, rfl⟩ | ⟨-, rfl⟩
    · exact Or.inl (by decide : NbrState.exStart < .exchange)
    · exact Or.inr (.kept rfl rfl)
  | restart =>
    obtain ⟨-, seq, dd, rfl⟩ := hm
    exact Or.inl (by decide : NbrState.exStart < .exchange)
  | oneWay =>
    obtain ⟨-, rfl⟩ := hm
    exact Or.inl (by decide : NbrState.init < .exchange)
  | down =>
    obtain rfl : x' = _ := hm
    exact Or.inl (by decide : NbrState.down < .exchange)
  | negotiate => exact absurd rfl hneg
  | request hdr =>
    obtain ⟨-, -, rfl⟩ := hm
    exact Or.inr (.request rfl rfl)
  | describe =>
    obtain ⟨seq, summary, last, -, rfl⟩ := hm
    exact Or.inr (.kept rfl rfl)
  | received =>
    obtain ⟨-, dd, rfl⟩ := hm
    exact Or.inr (.kept rfl rfl)
  | exchangeDone =>
    rcases hm.2 with ⟨-, rfl⟩ | ⟨-, rxmt, -, rfl⟩
    · exact Or.inr (.kept rfl rfl)
    · exact Or.inr (.kept rfl rfl)
  | retry =>
    obtain ⟨-, rfl⟩ := hm
    exact Or.inr (.kept rfl rfl)
  | strike keys =>
    obtain rfl : x' = _ := hm
    refine Or.inr (.strike ?_ ?_)
    all_goals
      rw [OspfNeighbor.struck, OspfNeighbor.foldl_strike]
      split
      · rfl
      · rfl
  | acked key =>
    obtain rfl : x' = _ := hm
    exact Or.inr (.acked rfl rfl)
  | pend key r =>
    obtain ⟨-, hfree, rfl⟩ := hm
    exact Or.inr (.pend hfree rfl rfl)

/-- Reconsidering an adjacency keeps the lists, or ends the adjacency. -/
theorem Redecided.onLists (hr : Redecided should x x') : x'.state < .exchange ∨ x' = x := by
  rcases hr with ⟨-, -, seq, dd, rfl⟩ | ⟨-, -, rfl⟩ | ⟨-, rfl⟩
  · exact Or.inl (by decide : NbrState.exStart < .exchange)
  · exact Or.inl (by decide : NbrState.twoWay < .exchange)
  · exact Or.inr rfl

end Lists

/-! ## The moves of an event -/

/-- The moves that strike a key from the request list, and the one that starts an exchange. -/
def NbrMove.answers (key : LsaKey) : NbrMove → Bool
  | .negotiate => true
  | .strike keys => key ∈ keys
  | _ => false

/-- Those that take it off the retransmission list. -/
def NbrMove.acknowledges (key : LsaKey) : NbrMove → Bool
  | .acked k => k = key
  | m => m.answers key

/-- The move leaves the request under a key alone. -/
def Spares (n : NbrRef) (key : LsaKey) (l : Label) : Prop := ∀ m, l = .nbr n m → m.answers key = false

/-- The move leaves what is pending under it alone, too. -/
def Retains (n : NbrRef) (key : LsaKey) (l : Label) : Prop := ∀ m, l = .nbr n m → m.acknowledges key = false

/-- `r` waits under a key on the retransmission list, unless the adjacency is over. -/
def OspfNeighbor.Pends (key : LsaKey) (r : LsaRef) (x : OspfNeighbor) : Prop :=
  x.state < .exchange ∨ x.lsRetransmissionList.get? key = some r

/-- The key is requested, unless the adjacency is over. -/
def OspfNeighbor.Wants (key : LsaKey) (x : OspfNeighbor) : Prop :=
  x.state < .exchange ∨ x.lsRequestList.contains key = true

section Moves

variable {n : NbrRef} {key : LsaKey} {r : LsaRef} {l : Label} {s t : Instance}

/-- **A list keeps what it has** under the moves that leave the key alone. -/
theorem move_pends (hl : Retains n key l) (hm : move l s t) (h : (s.nbr n).Pends key r) :
    (t.nbr n).Pends key r := by
  refine move_nbr (P := OspfNeighbor.Pends key r) hm (fun _ _ => ?_) (fun m x' heq hx => ?_)
    (fun x' hx => ?_) h
  · exact Or.inl (by decide : NbrState.down < .exchange)
  · subst heq
    have hkeeps := hl m rfl
    have hneg : m ≠ .negotiate := by
      rintro rfl
      cases hkeeps
    rcases h with hlow | h
    · exact Or.inl (OspfNeighbor.below_of_move hx hneg hlow)
    rcases hx.onLists hneg with hlow | hlists
    · exact Or.inl hlow
    refine Or.inr ?_
    cases hlists with
    | kept _ hrxmt => rw [hrxmt, h]
    | request _ hrxmt => rw [hrxmt, h]
    | strike _ hrxmt => rw [hrxmt, Dict.get?_foldl_pop, if_neg (of_decide_eq_false hkeeps), h]
    | acked _ hrxmt => rw [hrxmt, Dict.get?_pop_of_ne _ (of_decide_eq_false hkeeps), h]
    | @pend k r' hfree _ hrxmt =>
      rw [hrxmt, Dict.get?_set_of_ne _ fun heq => ?_, h]
      rw [heq, h] at hfree
      cases hfree
  · rcases h with hlow | h
    · exact Or.inl (OspfNeighbor.below_of_redecided hx hlow)
    rcases hx.onLists with hlow | rfl
    · exact Or.inl hlow
    · exact Or.inr h

theorem move_wants (hl : Spares n key l) (hm : move l s t) (h : (s.nbr n).Wants key) :
    (t.nbr n).Wants key := by
  refine move_nbr (P := OspfNeighbor.Wants key) hm (fun _ _ => ?_) (fun m x' heq hx => ?_)
    (fun x' hx => ?_) h
  · exact Or.inl (by decide : NbrState.down < .exchange)
  · subst heq
    have hkeeps := hl m rfl
    have hneg : m ≠ .negotiate := by
      rintro rfl
      cases hkeeps
    rcases h with hlow | h
    · exact Or.inl (OspfNeighbor.below_of_move hx hneg hlow)
    rcases hx.onLists hneg with hlow | hlists
    · exact Or.inl hlow
    refine Or.inr ?_
    cases hlists with
    | kept hreq _ => rw [hreq, h]
    | request hreq _ =>
      rw [hreq, Dict.contains, Dict.get?_set]
      split
      · rfl
      · exact h
    | strike hreq _ =>
      rw [hreq, Dict.contains, Dict.get?_foldl_pop, if_neg (of_decide_eq_false hkeeps)]
      exact h
    | acked hreq _ => rw [hreq, h]
    | pend _ hreq _ => rw [hreq, h]
  · rcases h with hlow | h
    · exact Or.inl (OspfNeighbor.below_of_redecided hx hlow)
    rcases hx.onLists with hlow | rfl
    · exact Or.inl hlow
    · exact Or.inr h

end Moves

/-! ## The packets of a neighbor -/

/-- The keys of the update that an event brings from a neighbor. -/
def delivered (s : Instance) (e : Event) (n : NbrRef) : List LsaKey :=
  match heard s e with
  | some (m, _, .lsu lsu) => if m = n then lsu.lsas.map Lsa.key else []
  | _ => []

/-- The keys that an event acknowledges for a neighbor: those of the LSAck, or of the update, that it
sent. -/
def acknowledged (s : Instance) (e : Event) (n : NbrRef) : List LsaKey :=
  match heard s e with
  | some (m, _, .lsu lsu) => if m = n then lsu.lsas.map Lsa.key else []
  | some (m, _, .lsack ack) => if m = n then ack.lsaHeaders.map LsaHeader.key else []
  | _ => []

section Labels

variable {n m : NbrRef} {key : LsaKey} {keys : List LsaKey} {l : Label}

theorem Retains.spares (h : Retains n key l) : Spares n key l := by
  rintro m rfl
  have hm := h m rfl
  cases m with
  | acked k => rfl
  | _ => exact hm

theorem Floods.retains (h : Floods l) : Retains n key l := by
  rintro x rfl
  cases h <;> rfl

theorem IntfMoves.retains {i : IntfId} (h : IntfMoves i l) : Retains n key l := by
  rintro x rfl
  rcases h with (h | h | ⟨k, -, h⟩) | h | h <;> cases h
  rfl

theorem Spreads.retains (h : Spreads l) : Retains n key l := by
  cases h with
  | flood h => exact h.retains
  | _ => rintro x ⟨⟩

theorem Works.retains (h : Works l) : Retains n key l := by
  cases h with
  | intf h => exact h.retains
  | spread h => exact h.retains
  | _ =>
    rintro x ⟨⟩
    try rfl

theorem Greets.retains {src : IPv4Address} (h : Greets m src l) : Retains n key l := by
  cases h with
  | intf h => exact h.retains
  | _ =>
    rintro x ⟨⟩
    try rfl

theorem Exchanges.retains (h : Exchanges m l) : Retains n key l := by
  cases h with
  | _ =>
    rintro x ⟨⟩
    try rfl

/-- A negotiation is with one neighbor. -/
theorem Negotiates.retains (h : Negotiates m l) (hne : m ≠ n) : Retains n key l := by
  cases h with
  | exchange h => exact h.retains
  | decide =>
    rintro x ⟨⟩
    rfl
  | negotiate =>
    rintro x ⟨⟩
    exact absurd rfl hne

theorem Answers.retains (h : Answers m l) : Retains n key l := by
  cases h with
  | _ =>
    rintro x ⟨⟩
    try rfl

theorem Receives.spares (h : Receives m keys l) : Spares n key l := by
  cases h with
  | spread h => exact h.retains.spares
  | intf => rintro x ⟨⟩
  | acked h =>
    rintro x ⟨⟩
    rfl

/-- Among the moves of a reception, only an acknowledged key leaves the retransmission list. -/
theorem Receives.retains (h : Receives m keys l) (hk : m = n → key ∉ keys) : Retains n key l := by
  cases h with
  | spread h => exact h.retains
  | intf => rintro x ⟨⟩
  | @acked k h =>
    rintro x ⟨⟩
    refine decide_eq_false fun heq => hk rfl ?_
    rwa [← heq]

theorem Updates.spares (h : Updates m keys l) (hk : m = n → key ∉ keys) : Spares n key l := by
  cases h with
  | receive h => exact h.spares
  | strike =>
    rintro x ⟨⟩
    exact decide_eq_false (hk rfl)

theorem Updates.retains (h : Updates m keys l) (hk : m = n → key ∉ keys) : Retains n key l := by
  cases h with
  | receive h => exact h.retains hk
  | strike =>
    rintro x ⟨⟩
    exact decide_eq_false (hk rfl)

end Labels

section Events

variable {s : Instance} {e : Event} {n : NbrRef} {key : LsaKey}

/-- **An event** leaves what is pending alone, unless it acknowledges the key. -/
theorem exec_retains (hen : e.Enabled s) (hst : .exchange ≤ (s.nbr n).state)
    (hack : key ∉ acknowledged s e n) : Moves (Retains n key) s (exec s e) := by
  rcases hh : heard s e with _ | ⟨m, src, packet⟩
  · exact (exec_works hen hh).mono fun _ => Works.retains
  rw [acknowledged, hh] at hack
  cases packet with
  | hello hello => exact (exec_hello hh).mono fun _ => Greets.retains
  | dd dd =>
    by_cases hmn : m = n
    · -- a description of the neighbor itself starts no exchange any more
      subst hmn
      have htypes : ∀ k ∈ dd.lsaHeaders, k.lsType < 4294967296 := fun k hk =>
        lt_trans (wireRange_of_heard hh k hk).lsType (by decide)
      rw [exec_heard hh, processPacket, forNeighbor, Eff.get_bind_apply]
      by_cases hm : m.routerId ∈ (s.intf m.intf).neighbors
      · rw [Eff.when_pos hm]
        exact (processDd_exchanges hst htypes).mono fun _ => Exchanges.retains
      · rw [Eff.when_neg hm]
        exact .refl s
    · exact (exec_dd hh).mono fun _ hl => hl.retains hmn
  | lsr lsr => exact (exec_lsr hh).mono fun _ => Answers.retains
  | lsu lsu =>
    refine (exec_lsu hh).mono fun _ hl => hl.retains fun hmn => ?_
    dsimp only at hack
    rwa [if_pos hmn] at hack
  | lsack ack =>
    refine (exec_lsack hh).mono fun _ hl => hl.retains fun hmn => ?_
    dsimp only at hack
    rwa [if_pos hmn] at hack

/-- It leaves a request alone, unless it brings an update with the key. -/
theorem exec_spares (hen : e.Enabled s) (hst : .exchange ≤ (s.nbr n).state)
    (hlsu : key ∉ delivered s e n) : Moves (Spares n key) s (exec s e) := by
  by_cases hack : key ∈ acknowledged s e n
  · rcases hh : heard s e with _ | ⟨m, src, packet⟩
    · rw [acknowledged, hh] at hack
      cases hack
    rw [acknowledged, hh] at hack
    cases packet with
    | lsu lsu =>
      rw [delivered, hh] at hlsu
      exact absurd hack hlsu
    | lsack ack => exact (exec_lsack hh).mono fun _ => Receives.spares
    | _ => cases hack
  · exact (exec_retains hen hst hack).mono fun _ => Retains.spares

end Events

/-! ## Runs -/

/-- The neighbor stays adjacent, and does not acknowledge the key. -/
structure AwaitsAck (n : NbrRef) (key : LsaKey) (s : Instance) (e : Event) : Prop where
  adjacent : .exchange ≤ ((exec s e).nbr n).state
  unacked : key ∉ acknowledged s e n

/-- The neighbor stays adjacent, and sends no update with the key. -/
structure AwaitsUpdate (n : NbrRef) (key : LsaKey) (s : Instance) (e : Event) : Prop where
  adjacent : .exchange ≤ ((exec s e).nbr n).state
  undelivered : key ∉ delivered s e n

section Runs

variable {s t : Instance} {n : NbrRef} {key : LsaKey} {r : LsaRef}

/-- The lists of a neighbor below Exchange are empty. -/
theorem exchange_of_listed (hs : Reachable (fun _ _ => True) s)
    (h : (s.nbr n).lsRequestList.contains key = true ∨ (s.nbr n).lsRetransmissionList.contains key = true) :
    .exchange ≤ (s.nbr n).state := by
  by_contra hlow
  obtain ⟨hreq, hrxmt⟩ := (sound_of_reachable hs n).toLifecycle.lists_of_lt (Nat.not_le.1 hlow)
  rw [Dict.contains, Dict.contains, Dict.entries_eq_nil_iff.1 hreq key, Dict.entries_eq_nil_iff.1 hrxmt key] at h
  rcases h with h | h <;> cases h

/-- **What is pending stays pending** until its key is acknowledged, as long as the neighbor stays
adjacent; and whatever is flooded then does not replace it. -/
theorem pending_stays (hs : Reachable (fun _ _ => True) s)
    (hr : (s.nbr n).lsRetransmissionList.get? key = some r) (h : Leads (AwaitsAck n key) s t) :
    (t.nbr n).lsRetransmissionList.get? key = some r ∧
      ∀ r' areaId recvIntf, ((floodLsa r' areaId recvIntf t).2.nbr n).lsRetransmissionList.get? key = some r ∨
        ((floodLsa r' areaId recvIntf t).2.nbr n).state < .exchange := by
  have hadj : .exchange ≤ (s.nbr n).state := exchange_of_listed hs (Or.inr (by rw [Dict.contains, hr]; rfl))
  have hstays : .exchange ≤ (t.nbr n).state ∧ (t.nbr n).lsRetransmissionList.get? key = some r := by
    refine h.keeps (I := fun u => .exchange ≤ (u.nbr n).state ∧ (u.nbr n).lsRetransmissionList.get? key = some r)
      ⟨hadj, hr⟩ fun u e _ hen hok hu => ⟨hok.adjacent, ?_⟩
    have hpends : ((exec u e).nbr n).Pends key r :=
      Lts.Moves.invariant (I := fun v : Instance => (v.nbr n).Pends key r) (fun _ _ _ => move_pends)
        (exec_retains hen hu.1 hok.unacked) (Or.inr hu.2)
    exact hpends.resolve_left (Nat.not_lt.2 hok.adjacent)
  refine ⟨hstays.2, fun r' areaId recvIntf => ?_⟩
  have hpends : ((floodLsa r' areaId recvIntf t).2.nbr n).Pends key r :=
    Lts.Moves.invariant (I := fun v : Instance => (v.nbr n).Pends key r)
      (fun l _ _ hl => move_pends (l := l) hl.retains) (floodLsa_within r' areaId recvIntf t) (Or.inr hstays.2)
  exact hpends.symm

/-- The Router-LSA stays pending while time passes. -/
theorem pending_stays_peerFlooded :
    ((exec peerFlooded (.tick second)).nbr ⟨0, 2⟩).lsRetransmissionList.get? ⟨lsaTypeRouter, 1, 1⟩ = some 0 ∧
      ∀ r' areaId recvIntf, ((floodLsa r' areaId recvIntf (exec peerFlooded (.tick second))).2.nbr
          ⟨0, 2⟩).lsRetransmissionList.get? ⟨lsaTypeRouter, 1, 1⟩ = some 0 ∨
        ((floodLsa r' areaId recvIntf (exec peerFlooded (.tick second))).2.nbr ⟨0, 2⟩).state < .exchange := by
  have hpending : (peerFlooded.nbr ⟨0, 2⟩).lsRetransmissionList.get? ⟨lsaTypeRouter, 1, 1⟩ = some 0 := by
    decide +kernel
  have hadjacent : .exchange ≤ ((exec peerFlooded (.tick second)).nbr ⟨0, 2⟩).state := by
    decide +kernel
  exact pending_stays reachable_peerFlooded hpending (.step .refl trivial ⟨hadjacent, by rintro ⟨⟩⟩)

/-- **What is requested stays requested** until an update with its key comes from the neighbor, as long
as that stays adjacent; and until then it is not Full. -/
theorem request_stays (hs : Reachable (fun _ _ => True) s) (hr : (s.nbr n).lsRequestList.contains key = true)
    (h : Leads (AwaitsUpdate n key) s t) :
    (t.nbr n).lsRequestList.contains key = true ∧ (t.nbr n).state ≠ .full := by
  have hadj : .exchange ≤ (s.nbr n).state := exchange_of_listed hs (Or.inl hr)
  have hstays : .exchange ≤ (t.nbr n).state ∧ (t.nbr n).lsRequestList.contains key = true := by
    refine h.keeps (I := fun u => .exchange ≤ (u.nbr n).state ∧ (u.nbr n).lsRequestList.contains key = true)
      ⟨hadj, hr⟩ fun u e _ hen hok hu => ⟨hok.adjacent, ?_⟩
    have hwants : ((exec u e).nbr n).Wants key :=
      Lts.Moves.invariant (I := fun v : Instance => (v.nbr n).Wants key) (fun _ _ _ => move_wants)
        (exec_spares hen hu.1 hok.undelivered) (Or.inr hu.2)
    exact hwants.resolve_left (Nat.not_lt.2 hok.adjacent)
  refine ⟨hstays.2, fun hfull => ?_⟩
  have hempty := (sound_of_reachable (h.reachable hs) n).toLifecycle.full hfull
  rw [Dict.contains, Dict.entries_eq_nil_iff.1 hempty key] at hstays
  cases hstays.2

/-- A description with a Router-LSA that this router lacks. -/
def peerDescription : Event :=
  .receive 0 (peerPacket packetTypeDd (DDPacket.serialize
    { interfaceMtu := 1500, options := optE, flags := ddFlagM ||| ddFlagMS, ddSeqNumber := 6,
      lsaHeaders := [{ lsAge := 1, options := optE, lsType := lsaTypeRouter, linkStateId := 2,
                       advertisingRouter := 2, lsSequenceNumber := initialSeqNum, lsChecksum := 0,
                       length := 36 }] })) 167772162

/-- It is requested while time passes. -/
theorem request_stays_peerDescription :
    ((exec (exec peerExchange peerDescription) (.tick second)).nbr ⟨0, 2⟩).lsRequestList.contains
        ⟨lsaTypeRouter, 2, 2⟩ = true ∧
      ((exec (exec peerExchange peerDescription) (.tick second)).nbr ⟨0, 2⟩).state ≠ .full := by
  have hreach : Reachable (fun _ _ => True) (exec peerExchange peerDescription) :=
    .step reachable_peerExchange trivial trivial
  have hrequested : ((exec peerExchange peerDescription).nbr ⟨0, 2⟩).lsRequestList.contains
      ⟨lsaTypeRouter, 2, 2⟩ = true := by decide +kernel
  have hadjacent : .exchange ≤ ((exec (exec peerExchange peerDescription) (.tick second)).nbr ⟨0, 2⟩).state := by
    decide +kernel
  exact request_stays hreach hrequested (.step .refl trivial ⟨hadjacent, by rintro ⟨⟩⟩)

end Runs
end Ospfd
