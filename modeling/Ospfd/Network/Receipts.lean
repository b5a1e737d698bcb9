import Ospfd.Lsdb.Delivery
import Ospfd.Lsdb.Queued
import Ospfd.Network.Integrity

/-!
# What an acknowledgment says

* `Instance.Vouched` — an instance that this router installed.
* `Vouches` — **acknowledgments are queued and sent of installed instances only**.
* `Receipted` — what a router acknowledged, and what it is about to.
* `acknowledged_original` — **what is acknowledged was installed, and created by the router it names**.
* `installed_of_acknowledged` — **who acknowledges has installed an instance**.
* `pending_until_installed` — **what is flooded to a neighbor stays pending until the neighbor has
  installed an instance of it**.
-/

namespace Ospfd

/-! ## Acknowledgments -/

/-- The headers of an acknowledgment are read as they were written. -/
theorem LsackPacket.deserialize_of_serialize {lsaHeaders : List LsaHeader} {b : Bytes}
    (h : LsackPacket.serialize { lsaHeaders } = .ok b) : LsackPacket.deserialize b = .ok { lsaHeaders } := by
  have hw : ∀ x ∈ lsaHeaders, x.WireRange := by
    intro x hx
    obtain ⟨b', hb'⟩ := serialize_of_serializeAll h x hx
    exact LsaHeader.wireRange_of_serialize hb'
  obtain ⟨b', hb', -, hread⟩ := readHeaders_serializeAll hw
  obtain rfl : b' = b := Except.ok.inj (hb'.symm.trans h)
  have hnil : readHeaders b' 0 = .ok lsaHeaders := hread []
  rw [LsackPacket.deserialize, hnil]
  rfl

/-- What is no larger than an update is no acknowledgment. -/
theorem Sent.unacked {p : Sent} (h : p.pktType ≤ packetTypeLsu) : p.pktType ≠ packetTypeLsack := by
  intro heq
  rw [heq] at h
  exact absurd h (by decide)

/-- The router installed an instance with the key and the sequence number of a header. -/
def Instance.Vouched (s : Instance) (h : LsaHeader) : Prop :=
  ∃ r, s.Marked r ∧ (s.heap.obj r).key = h.key ∧ (s.heap.obj r).header.lsSequenceNumber = h.lsSequenceNumber

/-- What is queued for acknowledgment was installed. -/
def Instance.Candid (s : Instance) : Prop :=
  ∀ i, ∀ r ∈ (s.intf i).delayedAcks, r < s.heap.next ∧ s.Vouched (s.heap.obj r).header

/-- The body of an acknowledgment of what was installed. -/
def Instance.Receipt (s : Instance) (body : Bytes) : Prop :=
  ∃ lsaHeaders, LsackPacket.serialize { lsaHeaders } = .ok body ∧ ∀ h ∈ lsaHeaders, s.Vouched h

/-- Only what was installed is queued and sent for acknowledgment. -/
structure Vouches (s t : Instance) : Prop where
  heap : s.heap.Grows t.heap
  marks : ∀ r, s.Marked r → t.Marked r
  queued : ∀ i, ∀ r ∈ (t.intf i).delayedAcks,
    r ∈ (s.intf i).delayedAcks ∨ r < t.heap.next ∧ t.Vouched (t.heap.obj r).header
  sent : Sends (fun p => p.pktType = packetTypeLsack → t.Receipt p.body) s t

namespace Vouches

variable {s t u : Instance} {h : LsaHeader} {r : LsaRef} {n : NbrRef} {areaId : IPv4Address}

/-- An instance that was installed stays so. -/
theorem vouched (hv : Vouches s t) (h' : s.Vouched h) : t.Vouched h := by
  obtain ⟨r, hr, hkey, hseq⟩ := h'
  have hsame := hv.heap.same r hr.1
  exact ⟨r, hv.marks r hr, hsame.key.trans hkey, hsame.lsSequenceNumber.trans hseq⟩

/-- So does that of an object, whose header may be written anew. -/
theorem vouched_obj (hv : Vouches s t) (hr : r < s.heap.next) (h' : s.Vouched (s.heap.obj r).header) :
    r < t.heap.next ∧ t.Vouched (t.heap.obj r).header := by
  obtain ⟨e, he, hkey, hseq⟩ := hv.vouched h'
  have hsame := hv.heap.same r hr
  exact ⟨lt_of_lt_of_le hr hv.heap.next, e, he, hkey.trans hsame.key.symm,
    hseq.trans hsame.lsSequenceNumber.symm⟩

theorem receipt (hv : Vouches s t) {body : Bytes} (hb : s.Receipt body) : t.Receipt body := by
  obtain ⟨lsaHeaders, hser, hall⟩ := hb
  exact ⟨lsaHeaders, hser, fun x hx => hv.vouched (hall x hx)⟩

theorem refl (s : Instance) : Vouches s s :=
  ⟨.refl _, fun _ => id, fun _ _ hr => Or.inl hr, .refl s⟩

theorem trans (hv : Vouches s t) (hv' : Vouches t u) : Vouches s u := by
  refine ⟨hv.heap.trans hv'.heap, fun r hr => hv'.marks r (hv.marks r hr), fun i r hr => ?_, ?_⟩
  · rcases hv'.queued i r hr with hr | hr
    · rcases hv.queued i r hr with hr | ⟨hlt, hr⟩
      · exact Or.inl hr
      · exact Or.inr (hv'.vouched_obj hlt hr)
    · exact Or.inr hr
  · exact (hv.sent.mono fun p hp htype => hv'.receipt (hp htype)).trans hv'.sent

instance : Std.Refl Vouches := ⟨refl⟩

instance : IsTrans Instance Vouches := ⟨fun _ _ _ => trans⟩

/-- Moves that queue and send no acknowledgment. -/
theorem of_moves {A : Label → Prop} (hm : Moves A s t) (hq : Filed [] s t)
    (hsent : Sends (fun p => p.pktType ≠ packetTypeLsack) s t) : Vouches s t := by
  refine ⟨hm.grows, fun _ => marked_of_moves hm, fun i r hr => ?_, hsent.mono fun _ hp htype => absurd htype hp⟩
  rcases hq.acks i r hr with hr | hr
  · exact Or.inl hr
  · cases hr

theorem of_spreads {α : Type} {m : Py α} (hm : Eff.Within (Moves Spreads) m)
    (hsent : Eff.Within (Sends fun p => p.pktType ≠ packetTypeLsack) m) : Eff.Within Vouches m :=
  fun s => of_moves (hm s) (filed_of_spreads hm s) (hsent s)

/-- An acknowledgment that is queued. -/
theorem queueDelayedAck (hr : r < s.heap.next) (h' : s.Vouched (s.heap.obj r).header) (i : IntfId) :
    Vouches s (queueDelayedAck i r s).2 := by
  refine ⟨.refl _, fun _ => id, fun j k hk => ?_, .of_eq rfl⟩
  have hq := (queueDelayedAck_filed (i := i) (List.mem_singleton_self r) s).acks j k hk
  simp only [List.mem_singleton] at hq
  rcases hq with hq | rfl
  · exact Or.inl hq
  · exact Or.inr ⟨hr, h'⟩

/-- An acknowledgment that is sent. -/
theorem sendAck {rs : List LsaRef} (hrs : ∀ r ∈ rs, s.Vouched (s.heap.obj r).header) (i : IntfId)
    (dest : IPv4Address) : Vouches s ((do
      let body ← serializeLsack rs
      sendPacket i packetTypeLsack body dest : Py Unit) s).2 := by
  have hrun : serializeLsack rs s =
      (LsackPacket.serialize { lsaHeaders := rs.map fun r => (s.heap.obj r).header }, s) := rfl
  rw [Eff.bind_apply, hrun]
  rcases hbody : LsackPacket.serialize { lsaHeaders := rs.map fun r => (s.heap.obj r).header } with e | body
  · exact refl s
  · have hquiet := sendPacket_within i packetTypeLsack body dest s
    have hreceipt : s.Receipt body := by
      refine ⟨_, hbody, ?_⟩
      intro x hx
      obtain ⟨r, hr, rfl⟩ := List.mem_map.1 hx
      exact hrs r hr
    change Vouches s (sendPacket i packetTypeLsack body dest s).2
    generalize hstate : (sendPacket i packetTypeLsack body dest s).2 = t at hquiet ⊢
    have hm : Moves (Eq .quiet) s t := Quiet.moves rfl hquiet
    refine ⟨hm.grows, fun _ => marked_of_moves hm, fun j r hr => Or.inl ?_, ?_⟩
    · rwa [hquiet.intf] at hr
    · have hsends : Sends (fun p => p.pktType = packetTypeLsack → s.Receipt p.body) s t := by
        rw [← hstate]
        exact sendPacket_sends (fun _ _ => hreceipt) s
      refine hsends.mono fun p hp htype => ?_
      obtain ⟨lsaHeaders, hser, hall⟩ := hp htype
      refine ⟨lsaHeaders, hser, fun x hx => ?_⟩
      simp only [Instance.Vouched, Instance.Marked, hquiet.heap]
      exact hall x hx

/-! ### Reception -/

/-- An LSA that was installed is vouched for. -/
theorem vouched_of_marked (hr : s.Marked r) : s.Vouched (s.heap.obj r).header := ⟨r, hr, rfl, rfl⟩

theorem acknowledge (hr : s.Marked r) (n : NbrRef) : Vouches s (acknowledge r n s).2 := by
  rw [Ospfd.acknowledge, Eff.get_bind_apply, Eff.ite_apply]
  split
  · have hall : ∀ k ∈ [r], s.Vouched (s.heap.obj k).header := fun k hk => by
      obtain rfl := List.mem_singleton.1 hk
      exact vouched_of_marked hr
    exact sendAck hall n.intf _
  · exact queueDelayedAck hr.1 (vouched_of_marked hr) n.intf

/-- The stored instance vouches for one that is the same. -/
theorem receivedSame (hs : s.Stamped) (hr : r < s.heap.next)
    (hsame : ∃ e ∈ s.lsdb.lookup areaId (s.heap.obj r).key,
      compareLsa (s.heap.obj r).header (s.heap.obj e).header = 0)
    (hkey : ∀ areaId key e, s.lsdb.lookup areaId key = some e → (s.heap.obj e).key = key) :
    Vouches s (receivedSame r n s).2 := by
  obtain ⟨e, he, hcmp⟩ := hsame
  have hseq : (s.heap.obj r).header.lsSequenceNumber = (s.heap.obj e).header.lsSequenceNumber := by
    by_contra hne
    rw [compareLsa, if_pos hne] at hcmp
    split at hcmp <;> cases hcmp
  have hvouched : s.Vouched (s.heap.obj r).header := ⟨e, hs _ _ e he, hkey _ _ e he, hseq.symm⟩
  let t : Instance := s.setNbr n ((s.nbr n).acked (s.heap.obj r).key)
  have hacked : Vouches s t := ⟨.refl _, fun _ => id, fun _ _ hr => Or.inl hr, .of_eq rfl⟩
  rw [Ospfd.receivedSame, Eff.get_bind_apply, modifyNbr_bind_apply]
  refine hacked.trans ?_
  by_cases hmulti : (s.intf n.intf).intfType.isMultiAccess = true
  · rw [Eff.when_pos hmulti]
    exact queueDelayedAck (s := t) hr hvouched n.intf
  · rw [Eff.when_neg hmulti]
    exact refl t

theorem afterInstall (hr : s.Marked r) (n : NbrRef) (areaId : IPv4Address) :
    Vouches s (afterInstall r n areaId s).2 := by
  rw [Ospfd.afterInstall, Eff.get_bind_apply, Eff.ite_apply]
  split
  · rw [Eff.ite_apply]
    split
    · exact of_spreads (removeLsa_within (.remove _ _)) (modify_sends fun _ => rfl) s
    · refine of_spreads ?_ ?_ s
      · exact Eff.Within.bind (refreshLsa_within areaId r) fun _ => Eff.Within.pure ()
      · exact Eff.Within.bind (refreshLsa_sends (fun _ => Sent.unacked) areaId r) fun _ => Eff.Within.pure ()
  · have hack : Vouches s (Ospfd.acknowledge r n s).2 := acknowledge hr n
    refine Eff.bind_final (P := Vouches s) hack fun _ _ => hack.trans ?_
    exact of_spreads (Quiet.within (.flood .quiet) scheduleSpf_within) scheduleSpf_sends _

/-- **One received LSA.** -/
theorem processReceivedLsa (hs : s.Sound) (hr : r < s.heap.next) (n : NbrRef) (areaId : IPv4Address) :
    Vouches s (processReceivedLsa r n areaId s).2 := by
  rw [processReceivedLsa_eq]
  rcases hv : verdict s areaId (s.heap.obj r) with _ | _ | _ | _ | e
  · exact refl s
  · exact refl s
  · have hmarked : (s.installed areaId r).Marked r := by
      apply marked_installed hr
      rw [LinkStateDatabase.install_answer]
      exact decision_of_installed hv
    have hinst : Vouches s (s.installed areaId r) := by
      refine of_moves (A := Eq (.install areaId r)) (Lts.Moves.single (l := .install areaId r) rfl rfl) ?_ (.of_eq rfl)
      exact .of_intf rfl
    refine hinst.trans ?_
    generalize s.installed areaId r = u at hmarked
    have hflood : Vouches u (floodLsa r areaId (some n.intf) u).2 :=
      of_spreads (flood_within_spreads r areaId _) (floodLsa_sends (fun _ => Sent.unacked) r areaId _) u
    refine Eff.bind_final (P := Vouches u) hflood fun _ _ => hflood.trans ?_
    exact afterInstall (hflood.marks r hmarked) n areaId
  · have hvalid : validLsaType (s.heap.obj r).header.lsType = true := by
      by_contra hno
      rw [verdict, if_pos hno] at hv
      cases hv
    exact receivedSame hs.stamped hr ((verdict_eq_same_iff hvalid).1 hv) fun _ _ _ he => (hs.sane.of_lookup he).2
  · exact of_spreads (sendLsUpdate_within (.flood .quiet) n fun k _ => .flood (.write k))
      ((Sends.maintains fun _ => Sent.unacked).sendLsUpdate (fun _ => id) n [e]) s

/-- **An update**, once its LSAs are there. -/
theorem receives (hs : s.Sound) {rs : List LsaRef} (hrs : ∀ r ∈ rs, r < s.heap.next) (n : NbrRef)
    (areaId : IPv4Address) (keys : List LsaKey) : Vouches s ((do
      Eff.forEach rs fun r => Ospfd.processReceivedLsa r n areaId
      processLsUpdate n keys : Py Unit) s).2 := by
  have hloop : Provides s (Eff.forEach rs (fun r => Ospfd.processReceivedLsa r n areaId) s).2 ∧
      Vouches s (Eff.forEach rs (fun r => Ospfd.processReceivedLsa r n areaId) s).2 := by
    refine Eff.forEach_final (P := fun t => Provides s t ∧ Vouches s t) ⟨.refl hs.sane, refl s⟩ ?_
    rintro r hr t ⟨hp, hv⟩
    have ht := hp.sound hs
    have hlt := lt_of_lt_of_le (hrs r hr) hp.heap.next
    exact ⟨hp.trans (.processReceivedLsa ht hlt n areaId), hv.trans (processReceivedLsa ht hlt n areaId)⟩
  refine Eff.bind_final (P := Vouches s) hloop.2 fun _ _ => hloop.2.trans ?_
  generalize (Eff.forEach rs (fun r => Ospfd.processReceivedLsa r n areaId) s).2 = t
  refine of_moves (processLsUpdate_moves n keys t) ?_ ?_
  · obtain ⟨v, hv, hq⟩ := processLsUpdate_returns n keys t
    rw [hv]
    exact .of_intf hq.intf
  · refine Eff.Within.bind (modifyNbr_sends n _) (fun _ => ?_) t
    exact Eff.Within.read fun _ => Eff.Within.when fun _ =>
      nbrEvent_sends (fun _ hp => Sent.unacked (Nat.le_of_lt hp)) n _

/-! ### Events -/

/-- **The delayed acknowledgments.** -/
theorem flushDelayedAcks (hs : s.Candid) (i : IntfId) : Vouches s (flushDelayedAcks i s).2 := by
  rw [Ospfd.flushDelayedAcks, Eff.get_bind_apply]
  by_cases hne : (s.intf i).delayedAcks ≠ []
  · let t : Instance := s.setIntf i { s.intf i with delayedAcks := [] }
    have hcleared : Vouches s t := by
      refine ⟨.refl _, fun _ => id, fun j r hr => Or.inl ?_, .of_eq rfl⟩
      change r ∈ ((s.setIntf i _).intf j).delayedAcks at hr
      rw [Instance.intf_setIntf] at hr
      split at hr
      · cases hr
      · exact hr
    rw [Eff.when_pos hne, modifyIntf_bind_apply]
    exact hcleared.trans (sendAck (s := t) (fun r hr => (hs i r hr).2) i _)
  · rw [Eff.when_neg hne]
    exact refl s

end Vouches

section Events

variable {s t : Instance} {e : Event}

/-- **Only an update is acknowledged**, at once or when the timer fires. -/
theorem exec_unacked (hlsu : ∀ n src lsu, heard s e ≠ some (n, src, .lsu lsu)) (hack : ∀ i, e ≠ .ackTimer i) :
    Sends (fun p => p.pktType ≠ packetTypeLsack) s (exec s e) := by
  have hmaintains : Maintains (fun t => t ≤ packetTypeLsu) (fun _ => True)
      (Sends fun p => p.pktType ≠ packetTypeLsack) := Sends.maintains fun _ => Sent.unacked
  refine exec_sends (fun _ hp => Sent.unacked (Nat.le_of_lt hp)) (fun hf => ?_) (fun n src lsr hh => ?_)
    fun i he => absurd he (hack i)
  · cases e with
    | aging => exact hmaintains.checkAges (fun _ => id) s
    | originate areaId lsType linkStateId body =>
      rw [exec_originate]
      exact hmaintains.originate (fun _ => id) areaId _ _ _ _ s
    | routerLsa areaId =>
      rw [exec_routerLsa]
      exact Eff.Within.read (fun _ => hmaintains.originate (fun _ => id) _ _ _ _ _) _
    | networkLsa i =>
      rw [exec_networkLsa]
      refine Eff.Within.read (R := Sends _) (fun _ => ?_) _
      exact Eff.Within.ite (Eff.Within.pure none) (hmaintains.originate (fun _ => id) _ _ _ _ _)
    | receive i data src =>
      obtain ⟨n, src', lsu, hh⟩ := hf
      exact absurd hh (hlsu n src' lsu)
    | _ =>
      obtain ⟨n, src', lsu, hh⟩ := hf
      cases hh
  · rw [exec_heard hh]
    exact Eff.Within.read (fun _ => Eff.Within.when fun _ => hmaintains.processLsRequest (fun _ => id) n lsr) s

/-- **Every event** acknowledges only what was installed. -/
theorem exec_vouches (hs : s.Sound) (hc : s.Candid) (hen : e.Enabled s)
    (hproper : ∀ n src lsu, heard s e = some (n, src, .lsu lsu) → ∀ lsa ∈ lsu.lsas, lsa.Proper) :
    Vouches s (exec s e) := by
  by_cases hlsu : ∃ n src lsu, heard s e = some (n, src, .lsu lsu)
  · obtain ⟨n, src, lsu, hh⟩ := hlsu
    by_cases hn : n.routerId ∈ (s.intf n.intf).neighbors
    · obtain ⟨u, hu, hexec⟩ := exec_unpacks hh hn
      have hunpacks : Vouches s u := by
        refine ⟨hu.heap, hu.marks, fun i r hr => Or.inl ?_, .of_eq hu.sent⟩
        rwa [hu.intf] at hr
      rw [hexec]
      refine hunpacks.trans (.receives (hu.sound hs (hproper n src lsu hh)) ?_ n _ _)
      exact fun r hr => ((hu.range r).1 hr).2
    · rw [exec_heard hh, processPacket, forNeighbor, Eff.get_bind_apply, Eff.when_neg hn]
      exact .refl s
  · have hno : ∀ n src lsu, heard s e ≠ some (n, src, .lsu lsu) := fun n src lsu hh => hlsu ⟨n, src, lsu, hh⟩
    by_cases hack : ∃ i, e = .ackTimer i
    · obtain ⟨i, rfl⟩ := hack
      exact .flushDelayedAcks hc i
    · exact .of_moves (exec_moves hen) (exec_unqueued hen hno) (exec_unacked hno fun i he => hack ⟨i, he⟩)

/-- What the router acknowledged, or is about to, was installed. -/
structure Instance.Receipted (s : Instance) : Prop where
  candid : s.Candid
  sent : ∀ p ∈ s.sent, p.pktType = packetTypeLsack → s.Receipt p.body

theorem Instance.Receipted.later (h : s.Receipted) (hv : Vouches s t) : t.Receipted := by
  refine ⟨fun i r hr => ?_, fun p hp htype => ?_⟩
  · rcases hv.queued i r hr with hr | hr
    · obtain ⟨hlt, hvouched⟩ := h.candid i r hr
      exact hv.vouched_obj hlt hvouched
    · exact hr
  · obtain ⟨new, hnew, hall⟩ := hv.sent
    rw [hnew] at hp
    rcases List.mem_append.1 hp with hp | hp
    · exact hv.receipt (h.sent p hp htype)
    · exact hall p hp htype

end Events

/-! ## Routers among one another -/

variable {ι : Type} [DecidableEq ι]

section Network

variable {w : ι → Instance} {heardOn : ι → LsaRef → Option IntfId} {i : ι}

theorem Interleaved.receipted (h : Interleaved w heardOn) (i : ι) : (w i).Receipted := by
  induction h generalizing i with
  | @init w hstart =>
    refine ⟨fun j r hr => ?_, fun p hp => ?_⟩
    · rw [(hstart i).acks j] at hr
      cases hr
    · rw [(hstart i).sent] at hp
      cases hp
  | @step w heardOn e h k hen _ hsent ih =>
    by_cases hik : i = k
    · subst hik
      rw [Function.update_self]
      refine (ih i).later (exec_vouches (h.traced.sound i) (ih i).candid hen ?_)
      exact fun n src lsu hh lsa hlsa => (h.traced.original_of_genuine hsent hh lsa hlsa).1
    · rw [Function.update_of_ne hik]
      exact ih i

theorem Interleaved.reachable (h : Interleaved w heardOn) (i : ι) : Reachable (fun _ _ => True) (w i) := by
  induction h with
  | init hstart => exact .init (hstart i).empty.1
  | @step w heardOn e h k hen _ _ ih =>
    by_cases hik : i = k
    · subst hik
      rw [Function.update_self]
      exact ih.step hen trivial
    · rwa [Function.update_of_ne hik]

/-- **What a router acknowledges it has installed**, with this sequence number, and the router named in it
created it. -/
theorem acknowledged_original (h : Interleaved w heardOn) {p : Sent} (hp : p ∈ (w i).sent)
    (htype : p.pktType = packetTypeLsack) {ack : LsackPacket} (hread : LsackPacket.deserialize p.body = .ok ack) :
    ∀ hdr ∈ ack.lsaHeaders, ∃ r, (w i).Marked r ∧ ((w i).heap.obj r).key = hdr.key ∧
      ((w i).heap.obj r).header.lsSequenceNumber = hdr.lsSequenceNumber ∧
        Original w heardOn ((w i).heap.obj r) := by
  intro hdr hhdr
  obtain ⟨lsaHeaders, hser, hvouched⟩ := (h.receipted i).sent p hp htype
  rw [LsackPacket.deserialize_of_serialize hser] at hread
  obtain rfl := Except.ok.inj hread
  obtain ⟨r, hr, hkey, hseq⟩ := hvouched hdr hhdr
  exact ⟨r, hr, hkey, hseq, h.traced.original i r hr.1⟩

/-- Another router, with this ID, installed an instance of the LSA. -/
def InstalledBy (w : ι → Instance) (i : ι) (routerId : IPv4Address) (key : LsaKey) : Prop :=
  ∃ k, (w k).routerId = routerId ∧ (w k).routerId ≠ (w i).routerId ∧ ∃ r, (w k).Marked r ∧ ((w k).heap.obj r).key = key

/-- **Who acknowledges an LSA has installed an instance of it**, be it with an acknowledgment or with an
update of its own. -/
theorem installed_of_acknowledged (h : Interleaved w heardOn) {e : Event} (hsent : Genuine w i e) {n : NbrRef}
    {key : LsaKey} (hkey : key ∈ acknowledged (w i) e n) : InstalledBy w i n.routerId key := by
  rcases hh : heard (w i) e with _ | ⟨m, src, packet⟩
  · rw [acknowledged, hh] at hkey
    cases hkey
  -- the packet was sent, by a router with the ID of the neighbor
  obtain ⟨k, p, hp, hid, hother, hdecode⟩ : ∃ k, ∃ p ∈ (w k).sent, m.routerId = (w k).routerId ∧
      (w k).routerId ≠ (w i).routerId ∧ decodePacket p.pktType p.body = some packet := by
    cases e with
    | receive j data src' =>
      rcases hsent j data src' rfl with ⟨k, p, hp, rfl⟩ | hnone
      · exact ⟨k, p, hp, heard_of_framed (h.traced.framed k p hp) hh⟩
      · rw [heard, hnone] at hh
        cases hh
    | _ => cases hh
  rw [acknowledged, hh] at hkey
  cases packet with
  | lsu lsu =>
    dsimp only at hkey
    split at hkey
    · rename_i hmn
      obtain ⟨lsa, hlsa, rfl⟩ := List.mem_map.1 hkey
      obtain ⟨rs, hwrote, hmarked⟩ := h.traced.wrote k p hp (type_of_lsu hdecode)
      obtain ⟨r, hr, hsame⟩ := copies_of_wrote hwrote (h.traced.sound k).proper (decodePacket_lsu hdecode) lsa hlsa
      exact ⟨k, by rw [← hid, hmn], hother, r, hmarked r hr, hsame.key.symm⟩
    · cases hkey
  | lsack ack =>
    dsimp only at hkey
    split at hkey
    · rename_i hmn
      obtain ⟨hdr, hhdr, rfl⟩ := List.mem_map.1 hkey
      obtain ⟨htype, hread⟩ := type_of_lsack hdecode
      obtain ⟨lsaHeaders, hser, hvouched⟩ := (h.receipted k).sent p hp htype
      rw [LsackPacket.deserialize_of_serialize hser] at hread
      obtain rfl := Except.ok.inj hread
      obtain ⟨r, hr, hkey, -⟩ := hvouched hdr hhdr
      exact ⟨k, by rw [← hid, hmn], hother, r, hr, hkey⟩
    · cases hkey
  | _ => cases hkey

end Network

/-- The routers go on, and a condition holds of their states after each event. -/
inductive Continues (ok : (ι → Instance) → Prop) (w : ι → Instance) : (ι → Instance) → Prop where
  | refl : Continues ok w w
  | step {v : ι → Instance} {e : Event} (h : Continues ok w v) (i : ι) (hen : e.Enabled (v i)) (hfit : e.Fitting)
      (hsent : Genuine v i e) (hok : ok (Function.update v i (exec (v i) e))) :
      Continues ok w (Function.update v i (exec (v i) e))

section Runs

variable {ok : (ι → Instance) → Prop} {w v : ι → Instance} {heardOn : ι → LsaRef → Option IntfId} {i : ι}
  {n : NbrRef} {key : LsaKey} {r : LsaRef}

theorem Continues.interleaved (h : Interleaved w heardOn) (hrun : Continues ok w v) : ∃ heard', Interleaved v heard' := by
  induction hrun with
  | refl => exact ⟨heardOn, h⟩
  | step _ i hen hfit hsent _ ih =>
    obtain ⟨heard', ih⟩ := ih
    exact ⟨_, ih.step i hen hfit hsent⟩

/-- What was installed stays so. -/
theorem InstalledBy.update {routerId : IPv4Address} {k : ι} {e : Event} (h : InstalledBy v i routerId key)
    (hen : e.Enabled (v k)) : InstalledBy (Function.update v k (exec (v k) e)) i routerId key := by
  have hmoves := exec_moves hen
  have hids : ∀ j, (Function.update v k (exec (v k) e) j).routerId = (v j).routerId :=
    fun j => (signs_update (exec_signs _ _) j).routerId
  obtain ⟨j, hid, hother, r, hr, hkey⟩ := h
  refine ⟨j, (hids j).trans hid, by rwa [hids, hids], r, ?_⟩
  by_cases hjk : j = k
  · subst hjk
    rw [Function.update_self]
    exact ⟨marked_of_moves hmoves hr, (hmoves.grows.same r hr.1).key.trans hkey⟩
  · rw [Function.update_of_ne hjk]
    exact ⟨hr, hkey⟩

/-- **What is flooded to a neighbor stays pending until the neighbor has installed an instance of it**: in
every run, whatever becomes of the packets, as long as the neighbor stays adjacent. -/
theorem pending_until_installed (h : Interleaved w heardOn)
    (hpend : ((w i).nbr n).lsRetransmissionList.get? key = some r)
    (hrun : Continues (fun u => .exchange ≤ ((u i).nbr n).state) w v) :
    ((v i).nbr n).lsRetransmissionList.get? key = some r ∨ InstalledBy v i n.routerId key := by
  have hadj : .exchange ≤ ((w i).nbr n).state :=
    exchange_of_listed (h.reachable i) (Or.inr (by rw [Dict.contains, hpend]; rfl))
  suffices .exchange ≤ ((v i).nbr n).state ∧
      (((v i).nbr n).lsRetransmissionList.get? key = some r ∨ InstalledBy v i n.routerId key) from this.2
  induction hrun with
  | refl => exact ⟨hadj, Or.inl hpend⟩
  | @step v e hrun k hen hfit hsent hok ih =>
    refine ⟨hok, ?_⟩
    obtain ⟨hst, hlisted | hinst⟩ := ih
    · by_cases hik : i = k
      · subst hik
        by_cases hack : key ∈ acknowledged (v i) e n
        · obtain ⟨heard', hv⟩ := hrun.interleaved h
          exact Or.inr ((installed_of_acknowledged hv hsent hack).update hen)
        · left
          rw [Function.update_self] at hok ⊢
          have hpends : ((exec (v i) e).nbr n).Pends key r :=
            Lts.Moves.invariant (I := fun u : Instance => (u.nbr n).Pends key r) (fun _ _ _ => move_pends)
              (exec_retains hen hst hack) (Or.inr hlisted)
          exact hpends.resolve_left (Nat.not_lt.2 hok)
      · left
        rwa [Function.update_of_ne hik]
    · exact Or.inr (hinst.update hen)

end Runs

/-! ### Two routers on a link -/

/-- The first end keeps its adjacency. -/
def AdjacentEnd (w : Bool → Instance) : Prop := .exchange ≤ ((w false).nbr ⟨0, 2⟩).state

instance (w : Bool → Instance) : Decidable (AdjacentEnd w) :=
  inferInstanceAs (Decidable (NbrState.exchange ≤ ((w false).nbr ⟨0, 2⟩).state))

theorem Continues.turn {ok : (Bool → Instance) → Prop} {w v : Bool → Instance} (h : Continues ok w v) (i : Bool)
    {e : Event} (hen : e.Enabled (v i)) (hfit : e.Fitting) (hsent : Genuine v i e) (hok : ok (turn v i e)) :
    Continues ok w (Ospfd.turn v i e) := h.step i hen hfit hsent hok

/-- The other end acknowledges the LSA that it received. -/
def linkFlushed : Bool → Instance := turn linkTalk true (.ackTimer 0)

/-- What it acknowledges was installed, and created by the first one. -/
theorem acknowledged_original_linkFlushed : ∃ heardOn p, p ∈ (linkFlushed true).sent ∧
    ∀ hdr ∈ [((linkFlushed true).heap.obj 0).header], ∃ r, (linkFlushed true).Marked r ∧
      ((linkFlushed true).heap.obj r).key = hdr.key ∧
        ((linkFlushed true).heap.obj r).header.lsSequenceNumber = hdr.lsSequenceNumber ∧
          Original linkFlushed heardOn ((linkFlushed true).heap.obj r) := by
  have htimer : ((linkTalk true).intf 0).ackTimer = true := by decide +kernel
  have harises : Arises linkFlushed := arises_linkTalk.turn true (e := .ackTimer 0) htimer trivial (by rintro _ _ _ ⟨⟩)
  obtain ⟨heardOn, h⟩ := harises
  have hlast : ∃ p ∈ (linkFlushed true).sent.getLast?, p.pktType = packetTypeLsack ∧
      LsackPacket.deserialize p.body = .ok { lsaHeaders := [((linkFlushed true).heap.obj 0).header] } := by
    decide +kernel
  obtain ⟨p, hp, htype, hread⟩ := hlast
  have hsent := List.mem_of_getLast? hp
  exact ⟨heardOn, p, hsent, acknowledged_original h hsent htype hread⟩

/-- The first one receives the acknowledgment. -/
def linkAcked : Bool → Instance := turn linkFlushed false (brought linkFlushed false)

/-- The LSA is no longer pending: the other end has installed it. -/
theorem pending_until_installed_linkAcked :
    ((linkAcked false).nbr ⟨0, 2⟩).lsRetransmissionList.get? ⟨lsaTypeSummary, 167772164, 1⟩ = none ∧
      InstalledBy linkAcked false 2 ⟨lsaTypeSummary, 167772164, 1⟩ := by
  obtain ⟨heardOn, h⟩ := arises_linkFlood
  have hpending : ((linkFlood false).nbr ⟨0, 2⟩).lsRetransmissionList.get? ⟨lsaTypeSummary, 167772164, 1⟩ =
      some 0 := by
    decide +kernel
  have htimer : ((linkTalk true).intf 0).ackTimer = true := by decide +kernel
  have htalk : Continues AdjacentEnd linkFlood linkTalk :=
    Continues.refl.turn true (e := brought linkFlood true) trivial trivial (genuine_brought (by decide +kernel))
      (by decide +kernel)
  have hflushed : Continues AdjacentEnd linkFlood linkFlushed :=
    htalk.turn true (e := .ackTimer 0) htimer trivial (by rintro _ _ _ ⟨⟩) (by decide +kernel)
  have hrun : Continues AdjacentEnd linkFlood linkAcked :=
    hflushed.turn false (e := brought linkFlushed false) trivial trivial (genuine_brought (by decide +kernel))
      (by decide +kernel)
  have hgone : ((linkAcked false).nbr ⟨0, 2⟩).lsRetransmissionList.get? ⟨lsaTypeSummary, 167772164, 1⟩ = none := by
    decide +kernel
  rcases pending_until_installed h hpending hrun with hkept | hinst
  · rw [hgone] at hkept
    cases hkept
  · exact ⟨hgone, hinst⟩

end Ospfd
