import Ospfd.Lsdb.Silence

/-!
# What the updates carry

* `Wrote` — the body of an update that some LSA objects were serialized to.
* `Idle` — no update was sent, and the database is as it was.
* `exec_rests`, `exec_unsent`, `exec_idle` — which events send none.
* `Tells W` — the updates that were sent carry only LSAs that `W` allows on their interface.
* `floodLsa_tells` — **flooding sends an LSA on the interfaces in its scope, and there only
  to where it came from or where a neighbor is adjacent**.
-/

namespace Ospfd

/-- A body that some LSA objects were serialized to, at some time. -/
def Instance.Wrote (s : Instance) (rs : List LsaRef) (body : Bytes) : Prop :=
  ∃ u : Instance, u.heap.Grows s.heap ∧ (∀ r ∈ rs, r < u.heap.next) ∧ (serializeLsu rs u).1 = .ok body

theorem Instance.Wrote.later {s t : Instance} {rs : List LsaRef} {body : Bytes}
    (h : s.Wrote rs body) (hg : s.heap.Grows t.heap) : t.Wrote rs body := by
  obtain ⟨u, hu, hrs, hbody⟩ := h
  exact ⟨u, hu.trans hg, hrs, hbody⟩

/-- No neighbor on an interface is adjacent. -/
def Instance.Calm (s : Instance) (i : IntfId) : Prop :=
  ∀ m : NbrRef, m.intf = i → (s.nbr m).state < .exchange

/-- The areas, and to which of them each interface belongs. -/
structure SameLayout (s t : Instance) : Prop where
  areas : t.areas = s.areas
  areaId : ∀ i, (t.intf i).areaId = (s.intf i).areaId

namespace SameLayout

variable {s t u : Instance}

theorem refl (s : Instance) : SameLayout s s := ⟨rfl, fun _ => rfl⟩

theorem trans (h : SameLayout s t) (h' : SameLayout t u) : SameLayout s u :=
  ⟨h'.areas.trans h.areas, fun i => (h'.areaId i).trans (h.areaId i)⟩

instance : Std.Refl SameLayout := ⟨refl⟩

instance : IsTrans Instance SameLayout := ⟨fun _ _ _ => trans⟩

theorem interfacesForArea (h : SameLayout s t) (areaId : IPv4Address) :
    t.interfacesForArea areaId = s.interfacesForArea areaId := by
  rw [Instance.interfacesForArea, Instance.interfacesForArea, h.areas]

theorem floodScope (h : SameLayout s t) (lsType : Nat) (areaId : IPv4Address) :
    floodScope t lsType areaId = floodScope s lsType areaId := by
  rw [Ospfd.floodScope, Ospfd.floodScope, h.areas, h.interfacesForArea]

end SameLayout

section Moves

variable {s t : Instance} {l : Label}

/-- **No move changes the layout.** -/
theorem move_layout (hm : move l s t) : SameLayout s t where
  areas := (move_framed hm).areas
  areaId := by
    intro i
    by_cases hl : ∃ j, l = .intf j
    · obtain ⟨j, rfl⟩ := hl
      obtain ⟨x, hx, rfl⟩ := hm
      rw [Instance.intf_setIntf]
      split
      · rename_i hi
        rw [hi]
        exact hx.areaId
      · rfl
    · exact move_intf (f := fun x => x.areaId) (fun _ _ _ _ _ => rfl) (fun j hj => hl ⟨j, hj⟩) hm i

theorem Moves.layout {A : Label → Prop} (h : Moves A s t) : SameLayout s t :=
  Lts.Moves.relates (fun _ _ _ _ => move_layout) h

/-- Where master and slave are not settled, calm stays. -/
theorem Moves.calm {A : Label → Prop} (hA : ∀ l, A l → ∀ n, Unsettling n l) (h : Moves A s t)
    {i : IntfId} (hc : s.Calm i) : t.Calm i :=
  Lts.Moves.invariant (I := fun u : Instance => u.Calm i)
    (fun _ _ _ hl hm hu n hn => move_below (hA _ hl n) hm (hu n hn)) h hc

theorem Spreads.unsettling (h : Spreads l) (n : NbrRef) : Unsettling n l := h.aside.unsettling

end Moves

/-! ## Nothing told -/

/-- No update was sent, and the database is as it was. -/
structure Idle (s t : Instance) : Prop where
  lsdb : t.lsdb = s.lsdb
  heap : s.heap.Grows t.heap
  layout : SameLayout s t
  sent : Sends (fun p => p.pktType ≠ packetTypeLsu) s t

theorem Quiet.idle {s t : Instance} (h : Quiet s t) (hs : Sends (fun p => p.pktType ≠ packetTypeLsu) s t) :
    Idle s t :=
  ⟨h.lsdb, .of_eq h.heap, ⟨h.areas, fun i => by rw [h.intf]⟩, hs⟩

/-- Every move that leaves the database alone. -/
def Unfiled (l : Label) : Prop :=
  (∀ areaId r, l ≠ .install areaId r) ∧ ∀ areaId key, l ≠ .remove areaId key

section Unfiled

variable {s t : Instance} {l : Label}

theorem move_lsdb (hl : Unfiled l) (hm : move l s t) : t.lsdb = s.lsdb := by
  cases l with
  | install a k => exact absurd rfl (hl.1 a k)
  | remove a k => exact absurd rfl (hl.2 a k)
  | _ => exact (move_framed hm).lsdb rfl

theorem Idle.of_moves {A : Label → Prop} (hA : ∀ l, A l → Unfiled l) (h : Moves A s t)
    (hs : Sends (fun p => p.pktType ≠ packetTypeLsu) s t) : Idle s t where
  lsdb := Lts.Moves.invariant (I := fun u : Instance => u.lsdb = s.lsdb)
    (fun _ _ _ hl hm hu => (move_lsdb (hA _ hl) hm).trans hu) h rfl
  heap := h.grows
  layout := h.layout
  sent := hs

end Unfiled

/-- The updates that were sent carry only LSAs that `W` allows on their interface, if it
allows only LSAs that are there, and the interfaces of `C` were calm. -/
structure Tells (C : IntfId → Prop) (W : IntfId → LsaRef → Prop) (s t : Instance) : Prop where
  lsdb : t.lsdb = s.lsdb
  heap : s.heap.Grows t.heap
  layout : SameLayout s t
  calm : ∀ i, s.Calm i → t.Calm i
  sent : (∀ i r, W i r → r < s.heap.next) → (∀ i, C i → s.Calm i) →
    Sends (fun p => p.pktType = packetTypeLsu → ∃ rs, t.Wrote rs p.body ∧ ∀ r ∈ rs, W p.intf r) s t

namespace Tells

variable {C : IntfId → Prop} {W : IntfId → LsaRef → Prop} {s t u : Instance}

theorem refl (s : Instance) : Tells C W s s :=
  ⟨rfl, .refl _, .refl s, fun _ h => h, fun _ _ => .refl s⟩

theorem trans (h : Tells C W s t) (h' : Tells C W t u) : Tells C W s u := by
  refine ⟨h'.lsdb.trans h.lsdb, h.heap.trans h'.heap, h.layout.trans h'.layout,
    fun i hi => h'.calm i (h.calm i hi), fun hW hC => ?_⟩
  refine Sends.trans ((h.sent hW hC).mono fun p hp htype => ?_)
    (h'.sent (fun i r hr => lt_of_lt_of_le (hW i r hr) h.heap.next) fun i hi => h.calm i (hC i hi))
  exact (hp htype).imp fun rs hrs => ⟨hrs.1.later h'.heap, hrs.2⟩

instance : Std.Refl (Tells C W) := ⟨refl⟩

instance : IsTrans Instance (Tells C W) := ⟨fun _ _ _ => trans⟩

/-- What sends no update. -/
theorem of_idle (h : Idle s t) (hcalm : ∀ i, s.Calm i → t.Calm i) : Tells C W s t :=
  ⟨h.lsdb, h.heap, h.layout, hcalm, fun _ _ => h.sent.mono fun _ hp htype => absurd htype hp⟩

end Tells

/-! ## Updates -/

section Updates

variable {C : IntfId → Prop} {W : IntfId → LsaRef → Prop} {i : IntfId} {r : LsaRef}

/-- The moves of flooding, by what they send. -/
theorem Tells.of_floods {s t : Instance} (h : Moves Floods s t)
    (hsent : (∀ i r, W i r → r < s.heap.next) → (∀ i, C i → s.Calm i) →
      Sends (fun p => p.pktType = packetTypeLsu → ∃ rs, t.Wrote rs p.body ∧ ∀ r ∈ rs, W p.intf r) s t) :
    Tells C W s t :=
  ⟨(Lts.Moves.relates (fun _ _ _ => move_sameStore) h : SameStore s t).lsdb, h.grows, h.layout,
    fun _ => h.calm fun _ hl n => Spreads.unsettling (.flood hl) n, hsent⟩

theorem Tells.of_floods_unsent {s t : Instance} (h : Moves Floods s t)
    (hsent : Sends (fun p => p.pktType ≠ packetTypeLsu) s t) : Tells C W s t :=
  .of_floods h fun _ _ => hsent.mono fun _ hp htype => absurd htype hp

/-- An update with LSAs that are allowed on its interface. -/
theorem sendLsu_tells {rs : List LsaRef} (dest : Instance → IPv4Address) {s : Instance}
    (hW : (∀ i, C i → s.Calm i) → ∀ r ∈ rs, W i r) : Tells C W s ((do
      let body ← serializeLsu rs
      let u ← Eff.get
      sendPacket i packetTypeLsu body (dest u) : Py Unit) s).2 := by
  have hwrite : Moves Floods s (serializeLsu rs s).2 := serializeLsu_within (fun r _ => .write r) s
  have hunsent : Sends (fun p => p.pktType ≠ packetTypeLsu) s (serializeLsu rs s).2 :=
    serializeLsu_sends rs s
  rw [Eff.bind_apply]
  rcases hbody : serializeLsu rs s with ⟨_ | body, u⟩ <;> rw [hbody] at hwrite hunsent
  · exact .of_floods_unsent hwrite hunsent
  · have hall : Moves Floods s (sendPacket i packetTypeLsu body (dest u) u).2 :=
      hwrite.trans (Quiet.within .quiet (sendPacket_within _ _ _ _) u)
    refine .of_floods hall fun hr hC => Sends.trans (hunsent.mono fun _ hp htype => absurd htype hp) ?_
    refine sendPacket_sends (fun _ _ => ?_) u
    exact ⟨rs, ⟨s, hall.grows, fun r hrs => hr i r (hW hC r hrs), congrArg Prod.fst hbody⟩, hW hC⟩

theorem floodMulticast_tells (dest : IPv4Address) (hW : W i r) :
    Eff.Within (Tells C W) (floodMulticast r i dest) :=
  fun _ => sendLsu_tells (fun _ => dest) fun _ k hk => by rwa [List.mem_singleton.1 hk]

theorem floodUnicast_tells (ns : List NbrRef) (hW : W i r) :
    Eff.Within (Tells C W) (floodUnicast r i ns) :=
  Eff.Within.forEach fun n _ _ => sendLsu_tells (fun u => (u.nbr n).ipAddr) fun _ k hk => by
    rwa [List.mem_singleton.1 hk]

/-- On a calm interface nothing is flooded. -/
theorem floodToInterface_of_calm {s : Instance} (h : s.Calm i) : floodToInterface r i s = (.ok (), s) := by
  have hnone : s.adjacentNeighbors i = [] := by
    refine List.filter_eq_nil_iff.2 fun n hn hadj => ?_
    have hlt := h n (Instance.mem_neighborsOf.1 hn).1
    exact absurd hlt (Nat.not_lt.2 (of_decide_eq_true hadj))
  rw [floodToInterface, Eff.get_bind_apply, Eff.when_neg (not_not.2 hnone)]
  rfl

/-- On an interface that need not be calm the LSA has to be allowed. -/
theorem floodToInterface_tells (hW : ¬C i → W i r) : Eff.Within (Tells C W) (floodToInterface r i) := by
  intro s
  by_cases hc : C i
  · refine .of_floods (floodToInterface_within r i s) fun _ hC => ?_
    rw [floodToInterface_of_calm (hC i hc)]
    exact .refl s
  · rw [floodToInterface, Eff.get_bind_apply]
    by_cases hne : s.adjacentNeighbors i ≠ []
    · have hadj : ∀ n ∈ s.adjacentNeighbors i, .exchange ≤ (s.nbr n).state := fun n hn => by
        simpa using (List.mem_filter.1 hn).2
      have hadd : Tells C W s (Eff.forUntil (s.adjacentNeighbors i) (addRetransmission r) s).2 :=
        .of_floods_unsent (addRetransmissions_moves r _ s hadj)
          (Eff.Within.forUntil (fun n _ => addRetransmission_sends (fun _ => Nat.ne_of_lt) r n) s)
      rw [Eff.when_pos hne]
      refine Eff.bind_final (P := Tells C W s) hadd fun killed _ => hadd.trans ?_
      refine Eff.Within.when (R := Tells C W) (fun _ => Eff.Within.read fun t => ?_) _
      exact Eff.Within.ite (floodMulticast_tells _ (hW hc)) (floodUnicast_tells _ (hW hc))
    · rw [Eff.when_neg hne]
      exact .refl s

/-- **Flooding** tells an LSA on the interfaces in its scope: on the one it came from, and
on those that need not be calm. -/
theorem floodLsa_tells (r : LsaRef) (areaId : IPv4Address) (recvIntf : Option IntfId) {s : Instance}
    (hW : ∀ i ∈ floodScope s (s.heap.obj r).header.lsType areaId, recvIntf = some i ∨ ¬C i → W i r) :
    Tells C W s (floodLsa r areaId recvIntf s).2 := by
  rw [floodLsa, Eff.get_bind_apply]
  refine Eff.Within.forEach (R := Tells C W) (fun i hi => Eff.Within.branch (fun hrecv => ?_) fun _ => ?_) s
  · refine Eff.Within.read fun t => Eff.Within.when fun _ => floodMulticast_tells _ (hW i hi (Or.inl hrecv))
  · exact floodToInterface_tells fun hc => hW i hi (Or.inr hc)

/-- **Sending LSAs to a neighbor.** -/
theorem sendLsUpdate_tells (n : NbrRef) {rs : List LsaRef} (hW : ∀ r ∈ rs, W n.intf r) :
    Eff.Within (Tells C W) (sendLsUpdate n rs) :=
  Eff.Within.read fun s => Eff.Within.when fun _ _ =>
    sendLsu_tells (fun _ => (s.nbr n).ipAddr) fun _ => hW

/-! ### What tells nothing -/

theorem Quiet.tells {s t : Instance} (h : Quiet s t) (hs : Sends (fun p => p.pktType ≠ packetTypeLsu) s t) :
    Tells C W s t :=
  .of_idle (h.idle hs) fun _ hc m hm => by rw [h.nbr]; exact hc m hm

theorem queueDelayedAck_tells (i : IntfId) (r : LsaRef) : Eff.Within (Tells C W) (queueDelayedAck i r) := by
  intro s
  refine .of_idle ⟨rfl, .refl _, ⟨rfl, fun j => ?_⟩, .of_eq rfl⟩ fun _ h => h
  change ((s.setIntf i _).intf j).areaId = _
  rw [Instance.intf_setIntf]
  split
  · rename_i hj
    rw [hj]
  · rfl

theorem acknowledge_tells (r : LsaRef) (n : NbrRef) : Eff.Within (Tells C W) (acknowledge r n) := by
  refine Eff.Within.read fun s => Eff.Within.ite ?_ (queueDelayedAck_tells _ _)
  refine Eff.Within.bind (fun t => Quiet.tells (serializeLsack_within _ t) (serializeLsack_sends _ t)) fun _ t => ?_
  exact (sendPacket_within _ _ _ _ t).tells (sendPacket_sends (fun _ => nofun) t)

theorem scheduleSpf_tells : Eff.Within (Tells C W) scheduleSpf :=
  fun s => Quiet.tells (scheduleSpf_within s) (scheduleSpf_sends s)

theorem receivedSame_tells (r : LsaRef) (n : NbrRef) : Eff.Within (Tells C W) (receivedSame r n) := by
  refine Eff.Within.read fun s => Eff.Within.bind (fun t => ?_) fun _ =>
    Eff.Within.when fun _ => queueDelayedAck_tells n.intf r
  refine .of_idle ⟨rfl, .refl _, ⟨rfl, fun _ => rfl⟩, .of_eq rfl⟩ fun i hc m hm => ?_
  change ((t.setNbr n ((t.nbr n).acked (s.heap.obj r).key)).nbr m).state < .exchange
  rw [Instance.nbr_setNbr]
  split
  · rename_i heq
    rw [heq] at hm
    exact hc n hm
  · exact hc m hm

theorem processLsUpdate_moves (n : NbrRef) (keys : List LsaKey) (s : Instance) :
    Moves (fun l => l = .quiet ∨ l = .nbr n (.strike keys)) s (processLsUpdate n keys s).2 := by
  obtain ⟨t, ht, hq⟩ := processLsUpdate_returns n keys s
  rw [ht]
  exact Moves.nbr_quiet (m := .strike keys) (Or.inl rfl) (Or.inr rfl) nofun rfl hq

theorem processLsUpdate_tells (n : NbrRef) (keys : List LsaKey) :
    Eff.Within (Tells C W) (processLsUpdate n keys) := by
  intro s
  have hmoves := processLsUpdate_moves n keys s
  refine .of_idle (.of_moves (fun l hl => ?_) hmoves ?_) fun i => hmoves.calm fun l hl m => ?_
  · rcases hl with rfl | rfl <;> exact ⟨nofun, nofun⟩
  · refine Eff.Within.bind (modifyNbr_sends n _) (fun _ => ?_) s
    exact Eff.Within.read fun t => Eff.Within.when fun _ => nbrEvent_sends (fun _ => Nat.ne_of_lt) n _
  · rcases hl with rfl | rfl <;> exact nofun

end Updates

/-! ## Events that tell nothing -/

section Events

variable {s t : Instance} {l : Label}

theorem EventMoves.unfiled {n : NbrRef} {m : NbrMove} (h : EventMoves n m l) : Unfiled l := by
  constructor
  all_goals
    rintro a k rfl
    rcases h with h | h | h <;> cases h

theorem IntfMoves.unfiled {i : IntfId} (h : IntfMoves i l) : Unfiled l := by
  constructor
  all_goals
    rintro a k rfl
    rcases h with (h | h | ⟨j, -, h⟩) | h | h <;> cases h

/-- The moves that leave the database alone and create no LSA. -/
def Label.rests : Label → Bool
  | .install _ _ => false
  | .remove _ _ => false
  | .alloc => false
  | _ => true

theorem unfiled_of_rests (h : l.rests = true) : Unfiled l := by
  constructor
  all_goals
    rintro a k rfl
    cases h

theorem EventMoves.rests {n : NbrRef} {m : NbrMove} (h : EventMoves n m l) : l.rests = true := by
  rcases h with rfl | rfl | rfl <;> rfl

theorem IntfMoves.rests {i : IntfId} (h : IntfMoves i l) : l.rests = true := by
  rcases h with (rfl | rfl | ⟨j, -, rfl⟩) | rfl | rfl <;> rfl

/-- **Only what floods changes the database**, or creates LSAs. -/
theorem exec_rests {e : Event} (hen : e.Enabled s) (hf : ¬e.MayFlood s) : Moves (fun l => l.rests = true) s (exec s e) := by
  have hquiet : ∀ {m : Py Unit}, Eff.Within Quiet m → Moves (fun l => l.rests = true) s (m s).2 :=
    fun h => Quiet.moves (A := fun l => l.rests = true) rfl (h s)
  rcases hh : heard s e with _ | ⟨n, src, packet⟩
  · cases e with
    | receive i data src =>
      rw [exec_receive, hh]
      exact .refl s
    | inactivity n =>
      change Moves (fun l => l.rests = true) s (inactivityTimeout n s).2
      rw [inactivityTimeout_eq]
      exact (nbrEvent_reset _ rfl s).mono fun _ => EventMoves.rests
    | rxmt n =>
      refine (rxmtTimeout_within n s).mono fun l hl => ?_
      rcases hl with rfl | rfl <;> rfl
    | ddRxmt n =>
      exact hquiet (Eff.Within.read fun _ => Eff.Within.when fun _ => retransmitLastDd_within n)
    | helloTimer i => exact hquiet (sendHello_within i)
    | waitTimer i => exact (waitTimerFire_within i s).mono fun _ => IntfMoves.rests
    | ackTimer i => exact flushDelayedAcks_within (A := fun l => l.rests = true) rfl rfl s
    | intfEvent i evt => exact (intfEvent_within i evt s).mono fun _ => IntfMoves.rests
    | killNbr n => exact (nbrEvent_reset _ rfl s).mono fun _ => EventMoves.rests
    | llDown n => exact (nbrEvent_reset _ rfl s).mono fun _ => EventMoves.rests
    | startNbr n => exact (nbrEvent_start hen).mono fun _ => EventMoves.rests
    | routerLsa areaId => exact absurd trivial hf
    | networkLsa i => exact absurd trivial hf
    | spf => exact Quiet.moves (A := fun l => l.rests = true) rfl ⟨rfl, rfl, rfl, rfl, rfl, rfl, rfl⟩
    | aging => exact absurd trivial hf
    | originate areaId lsType linkStateId body => exact absurd trivial hf
    | tick d => exact Lts.Moves.single (l := .tick) rfl ⟨d, rfl⟩
  · cases packet with
    | hello hello =>
      refine (exec_hello hh).mono fun l hl => ?_
      cases hl with
      | intf hl => exact hl.rests
      | _ => rfl
    | dd dd =>
      refine (exec_dd hh).mono fun l hl => ?_
      cases hl with
      | exchange hl => cases hl <;> rfl
      | _ => rfl
    | lsr lsr =>
      refine (exec_lsr hh).mono fun l hl => ?_
      cases hl <;> rfl
    | lsu lsu =>
      refine absurd ?_ hf
      cases e with
      | receive i data src' => exact ⟨n, src, lsu, hh⟩
      | _ => cases hh
    | lsack ack =>
      rw [exec_heard hh]
      exact forNeighbor_within (processLsAck_within n ack.lsaHeaders fun key _ => rfl) s

/-- **What an event sends**, if it holds of what is smaller than an update, of what floods or answers a
request, and of delayed acknowledgments. -/
theorem exec_sends {A : Sent → Prop} {e : Event} (hA : ∀ p, p.pktType < packetTypeLsu → A p)
    (hflood : e.MayFlood s → Sends A s (exec s e))
    (hlsr : ∀ n src lsr, heard s e = some (n, src, .lsr lsr) → Sends A s (exec s e))
    (hack : ∀ i, e = .ackTimer i → Sends A s (exec s e)) : Sends A s (exec s e) := by
  rcases hh : heard s e with _ | ⟨n, src, packet⟩
  · cases e with
    | receive i data src =>
      rw [exec_receive, hh]
      exact .refl s
    | inactivity n =>
      exact Eff.Within.bind (modifyNbr_sends n _) (fun _ => nbrEvent_sends hA n .inactivityTimer) s
    | rxmt n => exact Eff.Within.read (fun _ => Eff.Within.when fun _ => sendLsRequest_sends hA n) s
    | ddRxmt n => exact Eff.Within.read (fun _ => Eff.Within.when fun _ => retransmitLastDd_sends hA n) s
    | helloTimer i => exact sendHello_sends hA i s
    | waitTimer i => exact Eff.Within.bind (modifyIntf_sends i _) (fun _ => intfEvent_sends hA i _) s
    | ackTimer i => exact hack i rfl
    | intfEvent i evt => exact intfEvent_sends hA i evt s
    | killNbr n => exact nbrEvent_sends hA _ _ s
    | llDown n => exact nbrEvent_sends hA _ _ s
    | startNbr n => exact nbrEvent_sends hA _ _ s
    | spf => exact .of_eq rfl
    | tick d => exact .of_eq rfl
    | _ => exact hflood trivial
  · cases packet with
    | hello hello =>
      rw [exec_heard hh]
      exact processHello_sends hA n.intf hello src n.routerId s
    | dd dd =>
      rw [exec_heard hh]
      exact Eff.Within.read (fun _ => Eff.Within.when fun _ => processDd_sends hA n dd) s
    | lsr lsr => exact hlsr n src lsr hh
    | lsu lsu =>
      refine hflood ?_
      cases e with
      | receive i data src' => exact ⟨n, src, lsu, hh⟩
      | _ => cases hh
    | lsack ack =>
      rw [exec_heard hh]
      exact Eff.Within.read (fun _ => Eff.Within.when fun _ => modifyNbr_sends n _) s

/-- **Only what floods, or answers a request, sends updates.** -/
theorem exec_unsent {e : Event} (hf : ¬e.MayFlood s)
    (hlsr : ∀ n src lsr, heard s e ≠ some (n, src, .lsr lsr)) :
    Sends (fun p => p.pktType ≠ packetTypeLsu) s (exec s e) := by
  refine exec_sends (fun _ => Nat.ne_of_lt) (fun h => absurd h hf) (fun n src lsr hh => absurd hh (hlsr n src lsr)) ?_
  rintro i rfl
  refine Eff.Within.read (R := Sends _) (fun t => Eff.Within.when fun _ => ?_) s
  refine Eff.Within.bind (modifyIntf_sends i _) fun _ => Eff.Within.bind (serializeLsack_sends _) fun _ => ?_
  exact sendPacket_sends fun _ => (by decide : packetTypeLsack ≠ packetTypeLsu)

/-- **Only what floods, or answers a request, sends updates or changes the database.** -/
theorem exec_idle {e : Event} (hen : e.Enabled s) (hf : ¬e.MayFlood s)
    (hlsr : ∀ n src lsr, heard s e ≠ some (n, src, .lsr lsr)) : Idle s (exec s e) :=
  .of_moves (fun _ => unfiled_of_rests) (exec_rests hen hf) (exec_unsent hf hlsr)

end Events
end Ospfd
