import Ospfd.Lsdb.Coverage
import Ospfd.Packet.RoundTrip
import Ospfd.Protocol.Access
import Ospfd.Protocol.Retransmission

/-!
# Silence after a lost update

An LSA stays on the retransmission list of a neighbor until it is acknowledged, and is
sent when it is put there.  When that update is lost, it is for a timer to send the LSA
again.

* `Event.Armed` — the callbacks that are waiting for their time.
* `NeverSilent` — whenever a list is not empty, one of them sends what is on it.
* `callback_sends` — the callbacks send no update, but for those of an origination.
* `originate_announces` — **an origination sends its own LSA, and no other**.
* `unpended_of_reachable` — the lists stay empty as long as no LSA is flooded to a neighbor
  in Exchange or above.
* `updates_stay_lost` — **which updates stay lost**.
-/

namespace Ospfd

/-! ## Sending again -/

/-- The callbacks that the event loop will run when their time comes.  The scan of the ages
is not one of them: its timer is built for a `loop` that the instance does not have. -/
def Event.Armed (s : Instance) : Event → Prop
  | .inactivity n => (s.nbr n).inactivityTimer ≠ none
  | .rxmt n => (s.nbr n).rxmtTimer = true
  | .ddRxmt n => (s.nbr n).ddRxmtTimer = true
  | .helloTimer i => (s.intf i).helloTimer = true
  | .waitTimer i => (s.intf i).waitTimer ≠ none
  | .ackTimer i => (s.intf i).ackTimer = true
  | .routerLsa areaId => s.routerLsaPending.contains areaId = true
  | .networkLsa i => s.networkLsaPending.contains i = true
  | .spf => s.spfTimer ≠ none
  | _ => False

/-- Between two states an update was sent on the interface of a neighbor, with an LSA among
others. -/
def SentAgain (n : NbrRef) (r : LsaRef) (s t : Instance) : Prop :=
  ∃ new, t.sent = s.sent ++ new ∧ ∃ p ∈ new, p.intf = n.intf ∧ p.pktType = packetTypeLsu ∧
    ∃ rs, r ∈ rs ∧ (serializeLsu rs s).1 = .ok p.body

/-- A callback is waiting that sends every LSA on the list of a neighbor, after some time in
which nothing else happens. -/
def Resends (s : Instance) (n : NbrRef) : Prop :=
  ∃ e d, e.Armed s ∧ ∀ r ∈ (s.nbr n).lsRetransmissionList.values,
    SentAgain n r (exec s (.tick d)) (exec (exec s (.tick d)) e)

/-- What is on a retransmission list will be sent again. -/
def NeverSilent (s : Instance) : Prop :=
  ∀ n, (s.nbr n).lsRetransmissionList.entries ≠ [] → Resends s n

/-- An origination is pending. -/
def OriginationPending (s : Instance) : Prop :=
  (∃ areaId, s.routerLsaPending.contains areaId = true) ∨ ∃ i, s.networkLsaPending.contains i = true

/-- The events that can flood an LSA. -/
def Event.MayFlood (s : Instance) : Event → Prop
  | .routerLsa _ => True
  | .networkLsa _ => True
  | .aging => True
  | .originate _ _ _ _ => True
  | e => ∃ n src lsu, heard s e = some (n, src, .lsu lsu)

/-- No LSA is flooded while a neighbor is in Exchange or above. -/
def Unflooded (s : Instance) (e : Event) : Prop :=
  e.MayFlood s → ∀ n, (s.nbr n).state < .exchange

/-! ## What the callbacks send -/

/-- **The callbacks of the neighbors and interfaces send no update.** -/
theorem callback_sends {s : Instance} {e : Event} (h : e.Armed s)
    (hrouter : ∀ areaId, e ≠ .routerLsa areaId) (hnetwork : ∀ i, e ≠ .networkLsa i) :
    Eff.Within (Sends fun p => p.pktType ≠ packetTypeLsu) e.callback := by
  have hA : ∀ p : Sent, p.pktType < packetTypeLsu → p.pktType ≠ packetTypeLsu := fun _ => Nat.ne_of_lt
  cases e with
  | inactivity n =>
    exact Eff.Within.bind (modifyNbr_sends n _) fun _ => nbrEvent_sends hA n .inactivityTimer
  | rxmt n => exact Eff.Within.read fun _ => Eff.Within.when fun _ => sendLsRequest_sends hA n
  | ddRxmt n => exact Eff.Within.read fun _ => Eff.Within.when fun _ => retransmitLastDd_sends hA n
  | helloTimer i => exact sendHello_sends hA i
  | waitTimer i => exact Eff.Within.bind (modifyIntf_sends i _) fun _ => intfEvent_sends hA i .waitTimer
  | ackTimer i =>
    refine Eff.Within.read fun s => Eff.Within.when fun _ => ?_
    refine Eff.Within.bind (modifyIntf_sends i _) fun _ => Eff.Within.bind ?_ fun _ => ?_
    · exact serializeLsack_sends _
    · exact sendPacket_sends fun _ => nofun
  | routerLsa areaId => exact absurd rfl (hrouter areaId)
  | networkLsa i => exact absurd rfl (hnetwork i)
  | spf => exact modify_sends fun _ => rfl
  | _ => cases h

/-- The LSA is as it was, and every update that was sent carries it. -/
structure Announces (r : LsaRef) (s t : Instance) : Prop where
  bytes : lsuBytes t r = lsuBytes s r
  sent : Sends (fun p => p.pktType = packetTypeLsu → lsuBytes s r = .ok p.body) s t

namespace Announces

variable {r : LsaRef} {s t u : Instance}

theorem refl (s : Instance) : Announces r s s := ⟨rfl, .refl s⟩

theorem trans (h : Announces r s t) (h' : Announces r t u) : Announces r s u := by
  refine ⟨h'.bytes.trans h.bytes, h.sent.trans ?_⟩
  exact h'.sent.mono fun p hp htype => h.bytes.symm.trans (hp htype)

instance : Std.Refl (Announces r) := ⟨refl⟩

instance : IsTrans Instance (Announces r) := ⟨fun _ _ _ => trans⟩

theorem of_outside {i : IntfId} (h : Outside i r s t)
    (hs : Sends (fun p => p.pktType ≠ packetTypeLsu) s t) : Announces r s t :=
  ⟨h.bytes, hs.mono fun _ hp htype => absurd htype hp⟩

end Announces

section Flood

variable {r : LsaRef} {i : IntfId}

theorem sendLsu_announces (dest : Instance → IPv4Address) : Eff.Within (Announces r) (do
    let body ← serializeLsu [r]
    let u ← Eff.get
    sendPacket i packetTypeLsu body (dest u)) := by
  intro s
  have hwritten : Announces r s (s.written r) := ⟨lsuBytes_written s r, .of_eq rfl⟩
  rw [Eff.bind_apply, serializeLsu_eq]
  rcases hb : ((s.heap.obj r).serialize s.now).1 with e | b
  · exact hwritten
  · have hbytes : lsuBytes s r = .ok ([0, 0, 0, 1] ++ b) := by
      rw [lsuBytes_eq, hb]
      rfl
    refine hwritten.trans ⟨(sendPacket_outside _ _ _ _).bytes, sendPacket_sends (fun _ _ => ?_) _⟩
    exact (lsuBytes_written s r).trans hbytes

theorem addRetransmission_announces {n : NbrRef} (hn : n.intf = i) :
    Eff.Within (Announces r) (addRetransmission r n) := by
  intro s
  exact .of_outside (addRetransmission_outside hn s) (addRetransmission_sends (fun _ => Nat.ne_of_lt) r n s)

theorem floodToInterface_announces : Eff.Within (Announces r) (floodToInterface r i) := by
  refine Eff.Within.read fun s => Eff.Within.when fun _ => ?_
  refine Eff.Within.bind (Eff.Within.forUntil fun n hn => ?_) fun killed => ?_
  · exact addRetransmission_announces (Instance.mem_neighborsOf.1 (List.mem_of_mem_filter hn)).1
  · refine Eff.Within.when fun _ => Eff.Within.read fun t => Eff.Within.ite ?_ ?_
    · exact sendLsu_announces fun _ => floodDest (t.intf i)
    · exact Eff.Within.forEach fun n _ => sendLsu_announces fun u => (u.nbr n).ipAddr

theorem floodLsa_announces (areaId : IPv4Address) (recvIntf : Option IntfId) :
    Eff.Within (Announces r) (floodLsa r areaId recvIntf) := by
  refine Eff.Within.read fun s => Eff.Within.forEach fun i _ => Eff.Within.ite ?_ floodToInterface_announces
  exact Eff.Within.read fun _ => Eff.Within.when fun _ => sendLsu_announces fun _ => allSpfRouters

end Flood

/-- A packet that is not an update, or the update with one LSA of a key. -/
def CarriesKey (key : LsaKey) (p : Sent) : Prop :=
  p.pktType = packetTypeLsu → ∃ lsa now b, lsa.key = key ∧ (Lsa.serialize lsa now).1 = .ok b ∧
    p.body = [0, 0, 0, 1] ++ b

/-- The update with one LSA. -/
theorem carriesKey_of_lsuBytes {s : Instance} {r : LsaRef} {p : Sent}
    (h : p.pktType = packetTypeLsu → lsuBytes s r = .ok p.body) : CarriesKey (s.heap.obj r).key p := by
  intro htype
  have hbytes := h htype
  rw [lsuBytes_eq] at hbytes
  rcases hb : ((s.heap.obj r).serialize s.now).1 with e | b
  · rw [hb] at hbytes
    cases hbytes
  · rw [hb] at hbytes
    exact ⟨_, s.now, b, rfl, hb, (Except.ok.inj hbytes).symm⟩

theorem key_originated (s : Instance) (areaId : IPv4Address) (lsa : Lsa) :
    ((s.originated areaId lsa).heap.obj s.heap.next).key = lsa.key := by
  have hinst : ((s.originated areaId lsa).heap.obj s.heap.next).key =
      ((s.drafted lsa).heap.obj s.heap.next).key := by
    rw [Instance.originated, Instance.installed]
    dsimp only
    rw [LinkStateDatabase.obj_install]
    split <;> rfl
  rw [hinst, Instance.obj_drafted_self, (Lsa.serialize_sameInstance lsa s.now).key]

/-- **An origination sends its own LSA, and no other.** -/
theorem originate_announces (areaId : IPv4Address) (lsType : Nat) (linkStateId : IPv4Address)
    (body : Option LsaBody) (seqNum : Option Nat) (s : Instance) :
    Sends (CarriesKey ⟨lsType, linkStateId, s.routerId⟩) s
      (originate areaId lsType linkStateId body seqNum s).2 := by
  have hwith : ∀ n, Sends (CarriesKey ⟨lsType, linkStateId, s.routerId⟩) s
      (originateWith areaId lsType linkStateId body n s).2 := by
    intro n
    rw [originateWith_eq areaId lsType linkStateId body n s rfl]
    split
    · exact .of_eq rfl
    · split
      · have hflood := (floodLsa_announces (r := s.heap.next) areaId none (s.originated areaId
          { header := originatedHeader s lsType linkStateId n, body })).sent
        refine Sends.trans (.of_eq rfl) (hflood.mono fun p hp => ?_)
        have hcarries := carriesKey_of_lsuBytes hp
        rwa [key_originated] at hcarries
      · exact .of_eq rfl
  rcases originate_cases areaId lsType linkStateId body seqNum s with h | ⟨n, h⟩
  · rw [h]
    exact .refl s
  · rw [h]
    exact hwith n

theorem routerLsaTimer_announces (areaId : IPv4Address) (s : Instance) :
    Sends (CarriesKey ⟨lsaTypeRouter, s.routerId, s.routerId⟩) s (routerLsaTimer areaId s).2 := by
  rw [routerLsaTimer, Eff.modify_bind_apply]
  generalize hu : ({ s with routerLsaPending := s.routerLsaPending.pop areaId } : Instance) = u
  have hid : u.routerId = s.routerId := by rw [← hu]
  have hquiet : Sends (CarriesKey ⟨lsaTypeRouter, s.routerId, s.routerId⟩) s u := .of_eq (by rw [← hu])
  refine hquiet.trans ?_
  rw [originateRouterLsa, ← hid]
  have hsent := originate_announces areaId lsaTypeRouter u.routerId
    (some (.router (routerLsaBody u areaId))) none u
  exact Eff.bind_final hsent fun _ _ => hsent

theorem networkLsaTimer_announces (i : IntfId) (s : Instance) :
    Sends (CarriesKey ⟨lsaTypeNetwork, (s.intf i).dr, s.routerId⟩) s (networkLsaTimer i s).2 := by
  rw [networkLsaTimer, Eff.modify_bind_apply]
  generalize hu : ({ s with networkLsaPending := s.networkLsaPending.pop i } : Instance) = u
  have hid : u.routerId = s.routerId := by rw [← hu]
  have hintf : u.intf = s.intf := by rw [← hu]
  have hquiet : Sends (CarriesKey ⟨lsaTypeNetwork, (s.intf i).dr, s.routerId⟩) s u := .of_eq (by rw [← hu])
  refine hquiet.trans ?_
  have hsent := originate_announces (u.intf i).areaId lsaTypeNetwork (u.intf i).dr
    (some (.network (networkLsaBody u i))) none u
  rw [hid, hintf] at hsent
  have hnet : Sends (CarriesKey ⟨lsaTypeNetwork, (s.intf i).dr, s.routerId⟩) u
      (originateNetworkLsa i u).2 := by
    rw [originateNetworkLsa, Eff.get_bind_apply, Eff.ite_apply]
    split
    · exact .refl u
    · rw [hintf]
      exact hsent
  exact Eff.bind_final hnet fun _ _ => hnet

/-! ## The bytes of an LSA -/

/-- The key can be read off the bytes of an LSA. -/
theorem Lsa.key_of_serialize {lsa : Lsa} {now : Time} {b : Bytes} (h : (lsa.serialize now).1 = .ok b) :
    (LsaHeader.deserialize b).map LsaHeader.key = .ok lsa.key := by
  rw [serialize] at h
  rcases hbody : lsa.bodyBytes with e | body
  · rw [hbody] at h
    cases h
  · rw [hbody] at h
    dsimp only at h
    split at h
    · cases h
    · split at h
      · cases h
      · rename_i raw _ _ hdr hhdr
        cases h
        obtain ⟨b', hb', -, hd⟩ := LsaHeader.deserialize_serialize (LsaHeader.wireRange_of_serialize hhdr)
        obtain rfl : hdr = b' := Except.ok.inj (hhdr.symm.trans hb')
        rw [hd]
        rfl

/-- The count of an update. -/
theorem count_of_update {rs : List LsaRef} {s : Instance} {b : Bytes}
    (h : (serializeLsu rs s).1 = .ok ([0, 0, 0, 1] ++ b)) : rs.length = 1 := by
  rw [serializeLsu, Eff.lift_bind_apply] at h
  rcases hcount : (pack [.I] [.nat rs.length] : Except PyError Bytes) with e | count
  · rw [hcount] at h
    cases h
  · rw [hcount] at h
    dsimp only at h
    obtain ⟨hlt, rfl⟩ : rs.length < 4294967296 ∧ Bytes.ofNat 4 rs.length = count := by
      by_cases hlt : rs.length < 4294967296
      · simp [pack, Struct.pack, Struct.pack1, hlt] at hcount
        exact ⟨hlt, hcount⟩
      · simp [pack, Struct.pack, Struct.pack1, hlt] at hcount
    obtain ⟨lsas, hlsas⟩ : ∃ lsas, Bytes.ofNat 4 rs.length ++ lsas = [0, 0, 0, 1] ++ b := by
      rw [Eff.bind_apply] at h
      split at h
      · exact ⟨_, Except.ok.inj h⟩
      · cases h
    have hhead := congrArg (List.take 4) hlsas
    rw [List.take_left' (Bytes.length_ofNat 4 _)] at hhead
    have hone := congrArg Bytes.toNat hhead
    rw [Bytes.toNat_ofNat_of_lt (by omega)] at hone
    exact hone.trans rfl

/-- An update of some LSA objects that carries a single LSA is the update of one object,
with the key of that LSA. -/
theorem key_of_update {rs : List LsaRef} {s : Instance} {lsa : Lsa} {now : Time} {b : Bytes}
    (hb : (lsa.serialize now).1 = .ok b) (h : (serializeLsu rs s).1 = .ok ([0, 0, 0, 1] ++ b)) :
    ∀ r ∈ rs, (s.heap.obj r).key = lsa.key := by
  obtain ⟨r, rfl⟩ := List.length_eq_one_iff.1 (count_of_update h)
  intro r' hr'
  obtain rfl := List.mem_singleton.1 hr'
  rw [serializeLsu_eq] at h
  rcases hb' : ((s.heap.obj r').serialize s.now).1 with e | b'
  · rw [hb'] at h
    cases h
  · rw [hb'] at h
    obtain rfl : b' = b := List.append_cancel_left (Except.ok.inj h)
    have hkey := Lsa.key_of_serialize hb'
    rw [Lsa.key_of_serialize hb] at hkey
    exact (Except.ok.inj hkey).symm

/-! ## Silence -/

/-- What sends only updates of one key, or none, does not send the LSAs of a list with
another one. -/
theorem not_resends {s : Instance} {n : NbrRef} (hne : (s.nbr n).lsRetransmissionList.entries ≠ [])
    (h : ¬OriginationPending s ∨ ∃ r ∈ (s.nbr n).lsRetransmissionList.values,
      (s.heap.obj r).header.advertisingRouter ≠ s.routerId) : ¬Resends s n := by
  rintro ⟨e, d, harmed, hsent⟩
  generalize ht : exec s (.tick d) = t at hsent
  have hheap : t.heap = s.heap := by rw [← ht]; rfl
  have hid : t.routerId = s.routerId := by rw [← ht]; rfl
  -- an LSA that is sent is sent in an update, which an origination did not make of it
  have hkey : ∀ {key : LsaKey} {r : LsaRef}, Sends (CarriesKey key) t (exec t e) →
      SentAgain n r t (exec t e) → (t.heap.obj r).key = key := by
    rintro key r ⟨new, hnew, hcarries⟩ ⟨new', hnew', p, hp, -, htype, rs, hr, hrs⟩
    obtain rfl : new = new' := List.append_cancel_left (hnew.symm.trans hnew')
    obtain ⟨lsa, now, b, rfl, hb, hbody⟩ := hcarries p hp htype
    rw [hbody] at hrs
    exact key_of_update hb hrs r hr
  have hforeign : ∀ {lsType linkStateId}, OriginationPending s →
      Sends (CarriesKey ⟨lsType, linkStateId, t.routerId⟩) t (exec t e) → False := by
    intro lsType linkStateId hpending hcarries
    obtain ⟨r, hr, hne⟩ := h.resolve_left (not_not.2 hpending)
    have hadv := congrArg LsaKey.advertisingRouter (hkey hcarries (hsent r hr))
    rw [hheap] at hadv
    exact hne (hadv.trans hid)
  by_cases hrouter : ∃ areaId, e = .routerLsa areaId
  · obtain ⟨areaId, rfl⟩ := hrouter
    exact hforeign (Or.inl ⟨areaId, harmed⟩) (routerLsaTimer_announces areaId t)
  · by_cases hnetwork : ∃ i, e = .networkLsa i
    · obtain ⟨i, rfl⟩ := hnetwork
      exact hforeign (Or.inr ⟨i, harmed⟩) (networkLsaTimer_announces i t)
    · obtain ⟨r, hr⟩ : ∃ r, r ∈ (s.nbr n).lsRetransmissionList.values := by
        obtain ⟨p, hp⟩ := List.exists_mem_of_ne_nil _ hne
        exact ⟨p.2, List.mem_map_of_mem hp⟩
      obtain ⟨new, hnew, hother⟩ := callback_sends harmed (fun a ha => hrouter ⟨a, ha⟩)
        (fun i hi => hnetwork ⟨i, hi⟩) t
      obtain ⟨new', hnew', p, hp, -, htype, -⟩ := hsent r hr
      obtain rfl : new = new' := List.append_cancel_left (hnew.symm.trans hnew')
      exact hother p hp htype

/-! ## Empty lists -/

/-- The move puts no LSA on a retransmission list. -/
def Unpending (l : Label) : Prop := ∀ n key r, l ≠ .nbr n (.pend key r)

/-- Nothing is on a retransmission list. -/
def NothingPending (s : Instance) : Prop := ∀ n, (s.nbr n).lsRetransmissionList.entries = []

theorem Moves.nothingPending {A : Label → Prop} (hA : ∀ l, A l → Unpending l) {s t : Instance}
    (h : Moves A s t) (hs : NothingPending s) : NothingPending t := by
  refine Lts.Moves.invariant (I := NothingPending) (fun l u v hl hm hu n => ?_) h hs
  refine move_nbr (P := fun x => x.lsRetransmissionList.entries = []) hm (fun _ _ => rfl)
    (fun m x' heq hx => ?_) (fun x' hx => hx.thinned.entries_eq_nil (hu n)) (hu n)
  exact (hx.thinned fun key r hc => hA l hl n key r (by rw [heq, hc])).entries_eq_nil (hu n)

theorem IntfMoves.unpending {i : IntfId} {l : Label} (h : IntfMoves i l) : Unpending l := by
  rintro n key r rfl
  rcases h with (h | h | ⟨k, -, h⟩) | h | h <;> cases h

theorem EventMoves.unpending {n : NbrRef} {m : NbrMove} (hm : ∀ key r, m ≠ .pend key r) {l : Label}
    (h : EventMoves n m l) : Unpending l := by
  rintro k key r rfl
  rcases h with h | h | h
  · cases h
  · cases h
  · cases h
    exact hm key r rfl

theorem Greets.unpending {n : NbrRef} {src : IPv4Address} {l : Label} (h : Greets n src l) :
    Unpending l := by
  rintro k key r rfl
  cases h with
  | intf h => exact h.unpending k key r rfl

theorem Negotiates.unpending {n : NbrRef} {l : Label} (h : Negotiates n l) : Unpending l := by
  rintro k key r rfl
  cases h with
  | exchange h => cases h

theorem Answers.unpending {n : NbrRef} {l : Label} (h : Answers n l) : Unpending l := by
  rintro k key r rfl
  cases h

/-- An acknowledgment only takes LSAs off a list. -/
theorem processLsAck_nothingPending (n : NbrRef) (headers : List LsaHeader) {s : Instance}
    (hs : NothingPending s) : NothingPending (forNeighbor n (processLsAck n headers) s).2 := by
  have hacked : ∀ (keys : List LsaKey) (x : OspfNeighbor), x.lsRetransmissionList.entries = [] →
      (keys.foldl OspfNeighbor.acked x).lsRetransmissionList.entries = [] := by
    intro keys
    induction keys with
    | nil => exact fun _ h => h
    | cons key keys ih =>
      intro x h
      exact ih (x.acked key) (OspfNeighbor.entries_foldl_pop_eq_nil h [key])
  rw [forNeighbor, Eff.get_bind_apply]
  by_cases hn : n.routerId ∈ (s.intf n.intf).neighbors
  · rw [Eff.when_pos hn, processLsAck, modifyNbr_apply]
    intro m
    dsimp only
    rw [Instance.nbr_setNbr]
    split
    · exact hacked _ _ (hs n)
    · exact hs m
  · rw [Eff.when_neg hn]
    exact hs

/-- A packet that is no update. -/
theorem heard_nothingPending {s : Instance} {e : Event} {n : NbrRef} {src : IPv4Address}
    {packet : Packet} (h : heard s e = some (n, src, packet)) (hlsu : ∀ lsu, packet ≠ .lsu lsu)
    (hs : NothingPending s) : NothingPending (exec s e) := by
  cases packet with
  | hello hello => exact Moves.nothingPending (fun _ => Greets.unpending) (exec_hello h) hs
  | dd dd => exact Moves.nothingPending (fun _ => Negotiates.unpending) (exec_dd h) hs
  | lsr lsr => exact Moves.nothingPending (fun _ => Answers.unpending) (exec_lsr h) hs
  | lsu lsu => exact absurd rfl (hlsu lsu)
  | lsack ack =>
    rw [exec_heard h]
    exact processLsAck_nothingPending n ack.lsaHeaders hs

/-- **An event that floods nothing leaves empty lists empty.** -/
theorem exec_nothingPending {s : Instance} {e : Event} (hen : e.Enabled s) (hf : ¬e.MayFlood s)
    (hs : NothingPending s) : NothingPending (exec s e) := by
  have hquiet : ∀ {t : Instance}, Quiet s t → NothingPending t := fun h n => by
    rw [h.nbr]
    exact hs n
  have hreset : ∀ {n : NbrRef} {evt : NbrEvent}, evt.isReset = true →
      NothingPending (nbrEvent n evt s).2 := fun hr =>
    Moves.nothingPending (fun _ => EventMoves.unpending (m := .down) nofun) (nbrEvent_reset _ hr s) hs
  have hintf : ∀ {i : IntfId} {t : Instance}, Moves (IntfMoves i) s t → NothingPending t := fun h =>
    Moves.nothingPending (fun _ => IntfMoves.unpending) h hs
  cases e with
  | receive i data src =>
    rcases hh : heard s (.receive i data src) with _ | ⟨n, src', packet⟩
    · rw [exec_receive, hh]
      exact hs
    · refine heard_nothingPending hh ?_ hs
      rintro lsu rfl
      exact hf ⟨n, src', lsu, hh⟩
  | inactivity n =>
    change NothingPending (inactivityTimeout n s).2
    rw [inactivityTimeout_eq]
    exact hreset rfl
  | rxmt n =>
    refine Moves.nothingPending (A := fun l => l = .quiet ∨ l = .nbr n .retry) ?_ ?_ hs
    · rintro l (rfl | rfl) k key r hc <;> cases hc
    · exact rxmtTimeout_within n s
  | ddRxmt n => exact hquiet (Eff.Within.read (fun _ => Eff.Within.when fun _ => retransmitLastDd_within n) s)
  | helloTimer i => exact hquiet (sendHello_within i s)
  | waitTimer i => exact hintf (waitTimerFire_within i s)
  | ackTimer i =>
    exact hintf (flushDelayedAcks_within (A := IntfMoves i) (Or.inl (Or.inl rfl)) (Or.inr (Or.inl rfl)) s)
  | intfEvent i evt => exact hintf (intfEvent_within i evt s)
  | killNbr n => exact hreset rfl
  | llDown n => exact hreset rfl
  | startNbr n =>
    exact Moves.nothingPending (fun _ => EventMoves.unpending (m := .wake) nofun) (nbrEvent_start hen) hs
  | routerLsa areaId => exact absurd trivial hf
  | networkLsa i => exact absurd trivial hf
  | spf => exact hquiet ⟨rfl, rfl, rfl, rfl, rfl, rfl, rfl⟩
  | aging => exact absurd trivial hf
  | originate areaId lsType linkStateId body => exact absurd trivial hf
  | tick d => exact hs

/-- An event that may flood is no description. -/
theorem Event.MayFlood.not_dd {s : Instance} {e : Event} (h : e.MayFlood s) (n : NbrRef)
    (src : IPv4Address) (dd : DDPacket) : heard s e ≠ some (n, src, .dd dd) := by
  intro hh
  cases e with
  | receive i data src' =>
    obtain ⟨m, src'', lsu, hlsu⟩ := h
    rw [hh] at hlsu
    cases hlsu
  | _ => cases hh

/-- **The lists stay empty as long as no LSA is flooded to a neighbor in Exchange or above.** -/
theorem unpended_of_reachable {s : Instance} (h : Reachable Unflooded s) : NothingPending s := by
  induction h with
  | init h =>
    intro n
    rw [h.nbr]
    rfl
  | @step s e hs hen hok ih =>
    by_cases hf : e.MayFlood s
    · -- below Exchange the lists are empty, and a flood leads nobody there
      have hlow : ∀ n, ((exec s e).nbr n).state < .exchange := fun n =>
        Lts.Moves.invariant (I := fun t : Instance => (t.nbr n).state < .exchange)
          (fun _ _ _ hl => move_below hl.unsettling) (exec_aside hen (hf.not_dd n)) (hok hf n)
      intro n
      have hsound := sound_of_reachable (.step hs hen hok : Reachable Unflooded (exec s e)) n
      exact (hsound.toLifecycle.lists_of_lt (hlow n)).2
    · exact exec_nothingPending hen hf ih

/-! ## Which updates stay lost -/

/-- **Which updates stay lost**: all of them.  With no origination pending, something is sent
again whenever it has to be only if nothing has to be; a pending origination does not send
the LSA of another router.  There is nothing to send again in a run in which no LSA is
flooded while a neighbor is in Exchange or above. -/
theorem updates_stay_lost (s : Instance) :
    (Reachable (fun _ _ => True) s → ¬OriginationPending s → (NeverSilent s ↔ NothingPending s)) ∧
    (∀ n, Reachable (fun _ _ => True) s → (∃ r ∈ (s.nbr n).lsRetransmissionList.values,
      (s.heap.obj r).header.advertisingRouter ≠ s.routerId) → ¬Resends s n) ∧
    (Reachable Unflooded s → NothingPending s ∧ NeverSilent s) := by
  have hnothing : NothingPending s → NeverSilent s := fun h n hne => absurd (h n) hne
  refine ⟨fun _ hno => ⟨fun h n => ?_, hnothing⟩, fun n _ ⟨r, hr, hadv⟩ => ?_, fun h => ?_⟩
  · by_contra hne
    exact not_resends hne (Or.inl hno) (h n hne)
  · refine not_resends (fun hempty => ?_) (Or.inr ⟨r, hr, hadv⟩)
    rw [Dict.values, hempty] at hr
    cases hr
  · exact ⟨unpended_of_reachable h, hnothing (unpended_of_reachable h)⟩

/-- Six seconds later this router originates its Router-LSA, and floods it to the neighbor. -/
def peerFlooded : Instance :=
  [Event.tick (6 * second), .routerLsa backboneArea].foldl exec peerExchange

theorem due_peerFlooded : (Event.routerLsa backboneArea).Enabled (exec peerExchange (.tick (6 * second))) := by
  have hdue : ((exec peerExchange (.tick (6 * second))).routerLsaPending.get? backboneArea).any
      (fun t => t ≤ (exec peerExchange (.tick (6 * second))).now) = true := by decide +kernel
  obtain ⟨t, ht, hle⟩ := (Option.any_eq_true _ _).1 hdue
  exact ⟨t, ht, by simpa using hle⟩

theorem reachable_peerFlooded : Reachable (fun _ _ => True) peerFlooded :=
  .step (.step reachable_peerExchange trivial trivial) due_peerFlooded trivial

theorem pending_peerFlooded : (peerFlooded.nbr ⟨0, 2⟩).lsRetransmissionList.entries ≠ [] ∧
    ¬OriginationPending peerFlooded := by
  have hlist : (peerFlooded.nbr ⟨0, 2⟩).lsRetransmissionList.entries.isEmpty = false := by decide +kernel
  have hrouter : peerFlooded.routerLsaPending.entries.isEmpty = true := by decide +kernel
  have hnetwork : peerFlooded.networkLsaPending.entries.isEmpty = true := by decide +kernel
  have hempty : ∀ {κ ν : Type} [DecidableEq κ] {d : Dict κ ν} {k : κ}, d.entries.isEmpty = true →
      d.contains k ≠ true := fun {_ _ _ d k} hd => by
    rw [Dict.contains, Dict.entries_eq_nil_iff.1 (List.isEmpty_iff.1 hd) k]
    exact Bool.false_ne_true
  refine ⟨fun h => ?_, ?_⟩
  · rw [h] at hlist
    cases hlist
  · rintro (⟨areaId, h⟩ | ⟨i, h⟩)
    · exact hempty hrouter h
    · exact hempty hnetwork h

/-- The Router-LSA waits for an acknowledgment, and nothing will send it again. -/
theorem not_neverSilent : ¬∀ s, Reachable (fun _ _ => True) s → NeverSilent s := by
  intro hall
  obtain ⟨hne, hno⟩ := pending_peerFlooded
  exact not_resends hne (Or.inl hno) (hall _ reachable_peerFlooded _ hne)

/-- A router whose interface is down has nothing to send again; once it flooded its
Router-LSA it does, and stays silent. -/
theorem updates_stay_lost_peerFlooded :
    NeverSilent (linkRouter .none) ∧ (NeverSilent peerFlooded ↔ NothingPending peerFlooded) :=
  ⟨((updates_stay_lost _).2.2 (.init (initial_linkRouter .none))).2,
    (updates_stay_lost _).1 reachable_peerFlooded pending_peerFlooded.2⟩

end Ospfd
