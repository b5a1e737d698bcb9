import Ospfd.Network.Provenance

/-!
# Routers among one another

* `Interleaved` — the states of any number of routers, in any order of their events, whatever
  becomes of the packets between them.
* `Original` — an LSA that the router named in it created itself.
* `Traced` — **the invariant**: every LSA is a copy of an original one.
* `lsas_original` — **no router holds an LSA that the router named in it did not create**.
-/

namespace Ospfd

variable {ι : Type}

/-- What some router has sent. -/
def InTransit (w : ι → Instance) (data : Bytes) : Prop := ∃ k, ∃ p ∈ (w k).sent, p.data = data

/-- A packet that a router receives was sent by some router, or is not accepted. -/
def Genuine (w : ι → Instance) (i : ι) (e : Event) : Prop :=
  ∀ j data src, e = .receive j data src →
    InTransit w data ∨ acceptPacket (w i).md5 (w i).routerId ((w i).intf j) data src = none

/-- A router that starts: nothing stored, nothing sent or queued, and no LSA created. -/
structure Instance.Starts (s : Instance) : Prop where
  empty : s.Empty
  sent : s.sent = []
  heap : s.heap.next = 0
  acks : ∀ i, (s.intf i).delayedAcks = []

/-- The states of the routers, with the interface on which each LSA was received.  Packets are lost,
doubled, late and out of order; if they are made up or altered, they are not accepted. -/
inductive Interleaved [DecidableEq ι] : (ι → Instance) → (ι → LsaRef → Option IntfId) → Prop where
  | init {w : ι → Instance} (h : ∀ i, (w i).Starts) : Interleaved w fun _ _ => none
  | step {w : ι → Instance} {heardOn : ι → LsaRef → Option IntfId} {e : Event} (h : Interleaved w heardOn)
      (i : ι) (hen : e.Enabled (w i)) (hfit : e.Fitting) (hsent : Genuine w i e) :
      Interleaved (Function.update w i (exec (w i) e))
        (Function.update heardOn i (recordIntfs (w i) e (heardOn i)))

/-- The router named in an LSA created it: it has this instance, and did not receive it. -/
def Original (w : ι → Instance) (heardOn : ι → LsaRef → Option IntfId) (lsa : Lsa) : Prop :=
  ∃ k r, r < (w k).heap.next ∧ heardOn k r = none ∧ (w k).routerId = lsa.header.advertisingRouter ∧
    ((w k).heap.obj r).SameInstance lsa

/-- The LSAs of every router are traced to their origin, as is what is under way. -/
structure Traced (w : ι → Instance) (heardOn : ι → LsaRef → Option IntfId) : Prop where
  sound : ∀ i, (w i).Sound
  fresh : ∀ i r, (w i).heap.next ≤ r → heardOn i r = none
  original : ∀ i r, r < (w i).heap.next → Original w heardOn ((w i).heap.obj r)
  framed : ∀ i, ∀ p ∈ (w i).sent, p.Framed (w i).routerId
  wrote : ∀ i, ∀ p ∈ (w i).sent, p.pktType = packetTypeLsu →
    ∃ rs, (w i).Wrote rs p.body ∧ ∀ r ∈ rs, (w i).Marked r

theorem Original.same {w : ι → Instance} {heardOn : ι → LsaRef → Option IntfId} {x y : Lsa}
    (h : Original w heardOn x) (hxy : x.SameInstance y) : Original w heardOn y := by
  obtain ⟨k, r, hr, hown, hid, hsame⟩ := h
  exact ⟨k, r, hr, hown, hid.trans (congrArg LsaKey.advertisingRouter hxy.key).symm, hsame.trans hxy⟩

section Step

variable {w : ι → Instance} {heardOn : ι → LsaRef → Option IntfId} {i : ι} {t : Instance}
  {heard' : LsaRef → Option IntfId} {x : Lsa}

/-- **What an update carries are copies** of LSAs that are traced. -/
theorem Traced.original_of_read (h : Traced w heardOn) {p : Sent} {lsu : LsuPacket} (hp : p ∈ (w i).sent)
    (htype : p.pktType = packetTypeLsu) (hread : LsuPacket.deserialize p.body = .ok lsu) :
    ∀ lsa ∈ lsu.lsas, lsa.Proper ∧ Original w heardOn lsa := by
  intro lsa hlsa
  obtain ⟨rs, hwrote, hmarked⟩ := h.wrote i p hp htype
  obtain ⟨r, hr, hsame⟩ := copies_of_wrote hwrote (h.sound i).proper hread lsa hlsa
  have hlt := (hmarked r hr).1
  exact ⟨((h.sound i).proper r hlt).same hsame, (h.original i r hlt).same hsame⟩

theorem Traced.original_of_heard (h : Traced w heardOn) {j : IntfId} {data : Bytes} {src src' : IPv4Address}
    {n : NbrRef} {lsu : LsuPacket} (htransit : InTransit w data)
    (hh : heard (w i) (.receive j data src) = some (n, src', .lsu lsu)) :
    ∀ lsa ∈ lsu.lsas, lsa.Proper ∧ Original w heardOn lsa := by
  obtain ⟨k, p, hp, rfl⟩ := htransit
  obtain ⟨-, -, hdecode⟩ := heard_of_framed (h.framed k p hp) hh
  exact h.original_of_read hp (type_of_lsu hdecode) (decodePacket_lsu hdecode)

/-- Whatever update is heard, its LSAs are traced. -/
theorem Traced.original_of_genuine (h : Traced w heardOn) {e : Event} {n : NbrRef} {src : IPv4Address}
    {lsu : LsuPacket} (hsent : Genuine w i e) (hh : heard (w i) e = some (n, src, .lsu lsu)) :
    ∀ lsa ∈ lsu.lsas, lsa.Proper ∧ Original w heardOn lsa := by
  cases e with
  | receive j data src' =>
    rcases hsent j data src' rfl with htransit | hnone
    · exact h.original_of_heard htransit hh
    · rw [heard, hnone] at hh
      cases hh
  | _ => cases hh

variable [DecidableEq ι]

/-- When one router goes on, everybody keeps what it is made with. -/
theorem signs_update (hsigns : Signs (w i) t) (k : ι) : Signs (w k) (Function.update w i t k) := by
  have hall := (Function.forall_update_iff w fun k u => Signs (w k) u).2 ⟨hsigns, fun k _ => refl_of Signs (w k)⟩
  exact hall k

/-- What was created stays. -/
theorem Original.later (h : Original w heardOn x) (hg : (w i).heap.Grows t.heap) (hid : t.routerId = (w i).routerId)
    (hold : ∀ r, r < (w i).heap.next → heard' r = heardOn i r) :
    Original (Function.update w i t) (Function.update heardOn i heard') x := by
  obtain ⟨k, r, hr, hown, hk, hsame⟩ := h
  refine ⟨k, r, ?_⟩
  by_cases hki : k = i
  · subst hki
    rw [Function.update_self, Function.update_self]
    exact ⟨lt_of_lt_of_le hr hg.next, (hold r hr).trans hown, hid.trans hk, (hg.same r hr).symm.trans hsame⟩
  · rw [Function.update_of_ne hki, Function.update_of_ne hki]
    exact ⟨hr, hown, hk, hsame⟩

/-- **One router goes on**, and the LSAs that are new are traced, too. -/
theorem Traced.update (h : Traced w heardOn) (hg : (w i).heap.Grows t.heap) (hsigns : Signs (w i) t)
    (ht : t.Sound) (hmarks : ∀ r, (w i).Marked r → t.Marked r)
    (hsent : Sends (fun p => p.pktType = packetTypeLsu → ∃ rs, t.Wrote rs p.body ∧ ∀ r ∈ rs, t.Marked r) (w i) t)
    (hold : ∀ r, r < (w i).heap.next → heard' r = heardOn i r) (hfresh : ∀ r, t.heap.next ≤ r → heard' r = none)
    (hnew : ∀ r, (w i).heap.next ≤ r → r < t.heap.next →
      Original w heardOn (t.heap.obj r) ∨
        heard' r = none ∧ (t.heap.obj r).header.advertisingRouter = t.routerId) :
    Traced (Function.update w i t) (Function.update heardOn i heard') := by
  have hid := hsigns.routerId
  -- the other routers stay as they are
  have hall : ∀ {P : Instance → (LsaRef → Option IntfId) → Prop}, P t heard' → (∀ k, P (w k) (heardOn k)) →
      ∀ k, P (Function.update w i t k) (Function.update heardOn i heard' k) := fun hP hk k => by
    by_cases hki : k = i
    · subst hki
      rwa [Function.update_self, Function.update_self]
    · rw [Function.update_of_ne hki, Function.update_of_ne hki]
      exact hk k
  refine ⟨hall (P := fun u _ => u.Sound) ht h.sound,
    hall (P := fun u heard => ∀ r, u.heap.next ≤ r → heard r = none) hfresh h.fresh,
    hall (P := fun u _ => ∀ r, r < u.heap.next → Original _ _ (u.heap.obj r)) (fun r hr => ?_)
      fun k r hr => (h.original k r hr).later hg hid hold,
    hall (P := fun u _ => ∀ p ∈ u.sent, p.Framed u.routerId) (fun p hp => ?_) h.framed,
    hall (P := fun u _ => ∀ p ∈ u.sent, p.pktType = packetTypeLsu →
      ∃ rs, u.Wrote rs p.body ∧ ∀ r ∈ rs, u.Marked r) (fun p hp htype => ?_) h.wrote⟩
  · by_cases hlt : r < (w i).heap.next
    · exact ((h.original i r hlt).later hg hid hold).same (hg.same r hlt)
    · rcases hnew r (Nat.not_lt.1 hlt) hr with horig | ⟨hown, hadv⟩
      · exact horig.later hg hid hold
      · refine ⟨i, r, ?_⟩
        rw [Function.update_self, Function.update_self]
        exact ⟨hr, hown, hadv.symm, .rfl' _⟩
  · obtain ⟨new, hnew', hall'⟩ := hsigns.sent
    rw [hnew'] at hp
    rw [hid]
    exact (List.mem_append.1 hp).elim (h.framed i p) fun hp => (hall' p hp).framed
  · obtain ⟨new, hnew', hall'⟩ := hsent
    rw [hnew'] at hp
    rcases List.mem_append.1 hp with hp | hp
    · obtain ⟨rs, hrs, hmarked⟩ := h.wrote i p hp htype
      exact ⟨rs, hrs.later hg, fun r hr => hmarks r (hmarked r hr)⟩
    · exact hall' p hp htype

/-- **Every event of any router.** -/
theorem Traced.step {e : Event} (h : Traced w heardOn) (hen : e.Enabled (w i)) (hfit : e.Fitting) (hsent : Genuine w i e) :
    Traced (Function.update w i (exec (w i) e)) (Function.update heardOn i (recordIntfs (w i) e (heardOn i))) := by
  by_cases hlsu : ∃ n src lsu, heard (w i) e = some (n, src, .lsu lsu) ∧
      n.routerId ∈ ((w i).intf n.intf).neighbors
  · obtain ⟨n, src, lsu, hh, hn⟩ := hlsu
    have hcopies := h.original_of_genuine hsent hh
    obtain ⟨u, hunpacks, hu, hp⟩ := exec_receives (h.sound i) hh hn fun lsa hlsa => (hcopies lsa hlsa).1
    have hrange := hunpacks.range
    have hrecord : ∀ r, recordIntfs (w i) e (heardOn i) r =
        if r ∈ received (w i) lsu then some n.intf else heardOn i r := recordIntfs_lsu hh hn
    refine h.update (hunpacks.heap.trans hp.heap) (exec_signs _ _) (hp.sound hu)
      (fun r hr => hp.marks r (hunpacks.marks r hr)) ?_ (fun r hr => ?_) (fun r hr => ?_) fun r hr hr' => ?_
    · obtain ⟨new, hn', hall⟩ := hp.sent
      exact ⟨new, by rw [hn', hunpacks.sent], hall⟩
    · rw [hrecord, if_neg fun hmem => absurd hr (Nat.not_lt.2 ((hrange r).1 hmem).1)]
    · rw [hrecord, if_neg fun hmem => absurd ((hrange r).1 hmem).2 (Nat.not_lt.2 (hp.heap.next.trans hr))]
      exact h.fresh i r (hunpacks.heap.next.trans (hp.heap.next.trans hr))
    · by_cases hlt : r < u.heap.next
      · left
        have hobj := hunpacks.objs r ((hrange r).2 ⟨hr, hlt⟩)
        exact (hcopies _ hobj).2.same (hp.heap.same r hlt)
      · right
        refine ⟨?_, (hp.made r (Nat.not_lt.1 hlt) hr').2.trans hp.routerId.symm⟩
        rw [hrecord, if_neg fun hmem => hlt ((hrange r).1 hmem).2]
        exact h.fresh i r hr
  · have hno : ∀ n src lsu, heard (w i) e = some (n, src, .lsu lsu) →
        n.routerId ∉ ((w i).intf n.intf).neighbors := fun n src lsu hh hn => hlsu ⟨n, src, lsu, hh, hn⟩
    have hp := exec_provides (h.sound i) hen hfit hno
    rw [recordIntfs_other hno]
    exact h.update hp.heap (exec_signs _ _) (hp.sound (h.sound i)) hp.marks hp.sent (fun _ _ => rfl)
      (fun r hr => h.fresh i r (hp.heap.next.trans hr)) fun r hr hr' =>
        Or.inr ⟨h.fresh i r hr, (hp.made r hr hr').2.trans hp.routerId.symm⟩

theorem Instance.Starts.sound {s : Instance} (h : s.Starts) : s.Sound := by
  have hsane : s.Sane := ⟨.init h.empty.2, h.empty.1.routerId⟩
  have hnone : ∀ r, ¬r < s.heap.next := fun r => by
    rw [h.heap]
    exact Nat.not_lt_zero r
  exact ⟨hsane, fun r hr => absurd hr (hnone r), fun _ _ r hr => absurd (hsane.of_lookup hr).1 (hnone r)⟩

/-- **The invariant** of every run. -/
theorem Interleaved.traced (h : Interleaved w heardOn) : Traced w heardOn := by
  induction h with
  | @init w hstart =>
    refine ⟨fun i => (hstart i).sound, fun _ _ _ => rfl, fun i r hr => ?_, fun i p hp => ?_, fun i p hp => ?_⟩
    · rw [(hstart i).heap] at hr
      cases hr
    · rw [(hstart i).sent] at hp
      cases hp
    · rw [(hstart i).sent] at hp
      cases hp
  | step _ i hen hfit hsent ih => exact ih.step hen hfit hsent

end Step

/-- **No router holds an LSA that the router named in it did not create**: whatever is lost, doubled or out
of order, an LSA that is stored anywhere, or was ever received or created anywhere, has the key, the sequence
number, the options and the body that a router of that name gave it. -/
theorem lsas_original [DecidableEq ι] {w : ι → Instance} {heardOn : ι → LsaRef → Option IntfId}
    (h : Interleaved w heardOn) (i : ι) :
    (∀ r, r < (w i).heap.next → Original w heardOn ((w i).heap.obj r)) ∧
      (∀ areaId key r, (w i).lsdb.lookup areaId key = some r →
        ((w i).heap.obj r).key = key ∧ Original w heardOn ((w i).heap.obj r)) ∧
      ∀ p ∈ (w i).sent, p.pktType = packetTypeLsu → ∀ lsu, LsuPacket.deserialize p.body = .ok lsu →
        ∀ lsa ∈ lsu.lsas, Original w heardOn lsa := by
  have ht := h.traced
  refine ⟨ht.original i, fun areaId key r hr => ?_, fun p hp htype lsu hread lsa hlsa => ?_⟩
  · obtain ⟨hlt, hkey⟩ := (ht.sound i).sane.of_lookup hr
    exact ⟨hkey, ht.original i r hlt⟩
  · exact (ht.original_of_read hp htype hread lsa hlsa).2

/-! ### Two routers on a link -/

/-- The two ends of a point-to-point link. -/
def linkEnds : Bool → Instance
  | false => linkRouter .none
  | true => Instance.init 2 (Dict.empty.set backboneArea { areaId := backboneArea, interfaces := [0] })
      (fun _ => { linkEnd .none with ipAddr := 167772162 }) zeroMd5 (fun _ => 0) 0

/-- One end goes on. -/
def turn (w : Bool → Instance) (i : Bool) (e : Event) : Bool → Instance := Function.update w i (exec (w i) e)

/-- One end receives what the other has sent last. -/
def brought (w : Bool → Instance) (i : Bool) : Event :=
  .receive 0 (((w !i).sent.getLast?.map Sent.data).getD []) ((w !i).intf 0).ipAddr

/-- Both ends come up, and the first one gets into Exchange and originates an LSA. -/
def linkFlood : Bool → Instance :=
  let w := turn (turn linkEnds false (.intfEvent 0 .ifUp)) true (.intfEvent 0 .ifUp)
  let w := turn w true (brought w true)
  let w := turn w true (.helloTimer 0)
  let w := turn w false (brought w false)
  let w := turn w false (.helloTimer 0)
  let w := turn w true (brought w true)
  let w := turn w false (brought w false)
  let w := turn w false (.tick (6 * second))
  turn w false (.originate backboneArea lsaTypeSummary 167772164
    (.summary { networkMask := 4294967292, metric := 10 }))

/-- The other one receives it. -/
def linkTalk : Bool → Instance := turn linkFlood true (brought linkFlood true)

/-- The routers come to be in these states. -/
def Arises (w : Bool → Instance) : Prop := ∃ heardOn, Interleaved w heardOn

theorem Arises.turn {w : Bool → Instance} (h : Arises w) (i : Bool) {e : Event} (hen : e.Enabled (w i))
    (hfit : e.Fitting) (hsent : ∀ j data src, e ≠ .receive j data src) : Arises (turn w i e) := by
  obtain ⟨heardOn, h⟩ := h
  exact ⟨_, h.step i hen hfit fun j data src heq => absurd heq (hsent j data src)⟩

theorem genuine_brought {w : Bool → Instance} {i : Bool} (hsent : (w !i).sent.isEmpty = false) :
    Genuine w i (brought w i) := by
  refine fun j data src heq => Or.inl ?_
  rcases hlast : (w !i).sent.getLast? with _ | p
  · rw [List.getLast?_eq_none_iff.1 hlast] at hsent
    cases hsent
  · rw [Ospfd.brought, hlast] at heq
    cases heq
    exact ⟨!i, p, List.mem_of_getLast? hlast, rfl⟩

theorem Arises.brought {w : Bool → Instance} (h : Arises w) (i : Bool) (hsent : (w !i).sent.isEmpty = false) :
    Arises (Ospfd.turn w i (brought w i)) := by
  obtain ⟨heardOn, h⟩ := h
  exact ⟨_, h.step i trivial trivial (genuine_brought hsent)⟩

theorem arises_linkEnds : Arises linkEnds := by
  refine ⟨_, .init fun i => ?_⟩
  cases i <;> exact ⟨⟨Instance.initial_init fun _ => rfl, fun _ => rfl⟩, rfl, rfl, fun _ => rfl⟩

theorem arises_linkFlood : Arises linkFlood := by
  have hup := (arises_linkEnds.turn false (e := .intfEvent 0 .ifUp) trivial trivial nofun).turn true
    (e := .intfEvent 0 .ifUp) trivial trivial nofun
  have hhello := ((hup.brought true (by decide +kernel)).turn true (e := .helloTimer 0) (by
    change (OspfInterface.helloTimer _) = true
    decide +kernel) trivial nofun).brought false (by decide +kernel)
  have hexchange := (((hhello.turn false (e := .helloTimer 0) (by
    change (OspfInterface.helloTimer _) = true
    decide +kernel) trivial nofun).brought true (by decide +kernel)).brought false (by decide +kernel)).turn false
      (e := .tick (6 * second)) trivial trivial nofun
  refine hexchange.turn false (e := .originate backboneArea lsaTypeSummary 167772164
    (.summary { networkMask := 4294967292, metric := 10 })) trivial (fun _ _ => ?_) nofun
  exact ⟨Or.inl rfl, by decide⟩

theorem arises_linkTalk : Arises linkTalk := arises_linkFlood.brought true (by decide +kernel)

/-- The other end holds the LSA that the first one originated. -/
theorem lsas_original_linkTalk : ∃ heardOn, Interleaved linkTalk heardOn ∧
    (linkTalk true).lsdb.lookup backboneArea ⟨lsaTypeSummary, 167772164, 1⟩ = some 0 ∧
      Original linkTalk heardOn ((linkTalk true).heap.obj 0) := by
  obtain ⟨heardOn, h⟩ := arises_linkTalk
  have hstored : (linkTalk true).lsdb.lookup backboneArea ⟨lsaTypeSummary, 167772164, 1⟩ = some 0 := by decide +kernel
  exact ⟨heardOn, h, hstored, ((lsas_original h true).2.1 _ _ _ hstored).2⟩

end Ospfd
