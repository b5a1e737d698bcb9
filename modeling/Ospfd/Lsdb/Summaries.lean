import Ospfd.Protocol.Sending
import Ospfd.Protocol.Terms

/-!
# What the descriptions list

The summary of a neighbor is taken once, when master and slave are settled; the
descriptions list what is on it, batch by batch, and are sent again as they are.

* `AreaOnly` — the description in a body lists no AS-wide LSA.
* `Tidy stub` — none was sent, nor is any to be sent, on the interfaces of `stub`.
* `exec_tidy` — **a summary of an area without AS-wide LSAs keeps it so**.
-/

namespace Ospfd

/-- The description in a packet body lists no AS-wide LSA. -/
def AreaOnly (body : Bytes) : Prop :=
  ∀ dd, DDPacket.deserialize body = .ok dd → ∀ h ∈ dd.lsaHeaders, asWide h.lsType = false

theorem areaOnly_of_serialize {dd : DDPacket} {body : Bytes} (h : dd.serialize = .ok body)
    (hdd : ∀ k ∈ dd.lsaHeaders, asWide k.lsType = false) : AreaOnly body := by
  obtain ⟨b, hb, -, hd⟩ := DDPacket.deserialize_serialize (DDPacket.wireRange_of_serialize h)
  obtain rfl : body = b := Except.ok.inj (h.symm.trans hb)
  intro dd' hd'
  obtain rfl : dd = dd' := Except.ok.inj (hd.symm.trans hd')
  exact hdd

/-- The LSA is there, and belongs to an area. -/
def InArea (s : Instance) (r : LsaRef) : Prop :=
  r < s.heap.next ∧ asWide (s.heap.obj r).header.lsType = false

theorem InArea.later {s t : Instance} {r : LsaRef} (h : InArea s r) (hg : s.heap.Grows t.heap) :
    InArea t r := by
  refine ⟨lt_of_lt_of_le h.1 hg.next, ?_⟩
  have htype : (t.heap.obj r).header.lsType = (s.heap.obj r).header.lsType :=
    congrArg LsaKey.lsType (hg.same r h.1).key
  rw [htype]
  exact h.2

/-- On some interfaces no description lists an AS-wide LSA, and none will. -/
structure Tidy (stub : IntfId → Prop) (s : Instance) : Prop where
  summarized : ∀ n : NbrRef, stub n.intf → ∀ r ∈ (s.nbr n).summarized, InArea s r
  sent : ∀ p ∈ s.sent, p.pktType = packetTypeDd → stub p.intf → AreaOnly p.body

section Tidy

variable {stub : IntfId → Prop} {s t : Instance}

theorem Tidy.step (h : Tidy stub s) (hsum : ∀ n : NbrRef, stub n.intf → ∀ r ∈ (t.nbr n).summarized, InArea t r)
    (hsent : Sends (fun p => p.pktType = packetTypeDd → stub p.intf → AreaOnly p.body) s t) : Tidy stub t := by
  refine ⟨hsum, fun p hp => ?_⟩
  obtain ⟨new, hnew, hall⟩ := hsent
  rw [hnew] at hp
  rcases List.mem_append.1 hp with hp | hp
  · exact h.sent p hp
  · exact hall p hp

theorem Tidy.of_unsaid (h : Tidy stub s) (hu : Unsaid s t) : Tidy stub t :=
  h.step (fun n hn r hr => (h.summarized n hn r (hu.summarized n hr)).later hu.heap) (.of_eq hu.sent)

theorem Tidy.of_quiet (h : Tidy stub s) (hq : Quiet s t)
    (hsent : Sends (fun p => p.pktType = packetTypeDd → stub p.intf → AreaOnly p.body) s t) : Tidy stub t :=
  h.step (fun n hn r hr => (h.summarized n hn r (by rwa [hq.nbr] at hr)).later (.of_eq hq.heap)) hsent

/-- A description of LSAs of the area. -/
theorem sendDescribed_tidy {n : NbrRef} {dd : SentDD} {body : Bytes} (h : Tidy stub s)
    (hdd : stub n.intf → ∀ r ∈ dd.lsaHeaders, InArea s r) (hbody : (dd.packet s.heap).serialize = .ok body)
    (dest : IPv4Address) : Tidy stub (sendPacket n.intf packetTypeDd body dest s).2 := by
  refine h.of_quiet (sendPacket_within _ _ _ _ s) (sendPacket_sends (fun _ _ hn => ?_) s)
  refine areaOnly_of_serialize hbody fun k hk => ?_
  obtain ⟨r, hr, rfl⟩ := List.mem_map.1 hk
  exact (hdd hn r hr).2

theorem sendDd_tidy (n : NbrRef) (flags : Nat) {lsaHeaders : List LsaRef} (h : Tidy stub s)
    (hall : stub n.intf → ∀ r ∈ lsaHeaders, InArea s r) : Tidy stub (sendDd n flags lsaHeaders s).2 := by
  rw [sendDd, Eff.get_bind_apply, Eff.lift_bind_apply]
  split
  · rename_i body hbody
    have hsent := sendDescribed_tidy h hall hbody (s.nbr n).ipAddr
    have hq := sendPacket_within n.intf packetTypeDd body (s.nbr n).ipAddr s
    refine Eff.bind_final (P := Tidy stub) hsent fun _ _ => hsent.step (fun m hm r hr => ?_) (.of_eq rfl)
    rw [modifyNbr_apply, Instance.nbr_setNbr] at hr
    refine InArea.later ?_ (.of_eq rfl : LsaHeap.Grows _ _)
    split at hr
    · rename_i heq
      subst heq
      rcases List.mem_append.1 hr with hr | hr
      · exact hsent.summarized m hm r (List.mem_append_left _ hr)
      · exact (hall hm r hr).later (.of_eq hq.heap)
    · exact hsent.summarized m hm r hr
  · exact h

theorem sendDdBatch_tidy (n : NbrRef) (flags : Nat) (h : Tidy stub s) :
    Tidy stub (sendDdBatch n flags s).2 := by
  rw [sendDdBatch, Eff.get_bind_apply, modifyNbr_bind_apply]
  refine sendDd_tidy n _ (h.of_unsaid (.setNbr s fun r hr => ?_)) fun hn r hr => ?_
  · rcases List.mem_append.1 hr with hr | hr
    · exact List.mem_append_left _ (List.mem_of_mem_drop hr)
    · exact List.mem_append_right _ hr
  · exact h.summarized n hn r (List.mem_append_left _ (List.mem_of_mem_take hr))

theorem retransmitLastDd_tidy (n : NbrRef) (h : Tidy stub s) : Tidy stub (retransmitLastDd n s).2 := by
  rw [retransmitLastDd, Eff.get_bind_apply]
  rcases hdd : (s.nbr n).lastSentDd with _ | dd
  · exact h
  · dsimp only
    rw [Eff.lift_bind_apply]
    split
    · rename_i body hbody
      refine sendDescribed_tidy h (fun hn r hr => h.summarized n hn r (List.mem_append_right _ ?_)) hbody _
      rw [hdd]
      exact hr
    · exact h

end Tidy

/-! ## Summaries -/

/-- Every LSA that would be summarized belongs to an area. -/
def Instance.Plain (s : Instance) : Prop := ∀ areaId, ∀ r ∈ s.lsdb.getAllHeaders areaId, InArea s r

/-- The descriptions stay tidy, if the summaries of the neighbors of `D` are plain. -/
structure Tidies (stub : IntfId → Prop) (D : Prop) (s t : Instance) : Prop where
  plain : s.Plain → t.Plain
  tidy : (D → s.Plain) → Tidy stub s → Tidy stub t

namespace Tidies

variable {stub : IntfId → Prop} {D : Prop} {s t u : Instance}

theorem refl (s : Instance) : Tidies stub D s s := ⟨id, fun _ => id⟩

theorem trans (h : Tidies stub D s t) (h' : Tidies stub D t u) : Tidies stub D s u :=
  ⟨fun hs => h'.plain (h.plain hs), fun hD hs => h'.tidy (fun hd => h.plain (hD hd)) (h.tidy hD hs)⟩

instance : Std.Refl (Tidies stub D) := ⟨refl⟩

instance : IsTrans Instance (Tidies stub D) := ⟨fun _ _ _ => trans⟩

theorem of_same (hlsdb : t.lsdb = s.lsdb) (hheap : s.heap.Grows t.heap) (h : Tidy stub s → Tidy stub t) :
    Tidies stub D s t := by
  refine ⟨fun hs areaId r hr => (hs areaId r ?_).later hheap, fun _ => h⟩
  rwa [hlsdb] at hr

theorem of_quiet (hq : Quiet s t) (h : Tidy stub s → Tidy stub t) : Tidies stub D s t :=
  of_same hq.lsdb (.of_eq hq.heap) h

theorem conducts (stub : IntfId → Prop) (D : Prop) :
    Conducts (fun _ => True) (fun n => stub n.intf → D) (Tidies stub D) where
  keeps := fun hu hlsdb => of_same hlsdb hu.heap fun h => h.of_unsaid hu
  sends := fun i body dest _ _ hne s => of_quiet (sendPacket_within _ _ _ _ s) fun h =>
    h.of_quiet (sendPacket_within _ _ _ _ s) (sendPacket_sends (fun _ htype => absurd htype hne) s)
  starts := fun n flags s => by
    obtain ⟨last, hq⟩ := sendDd_quiet n flags [] s
    exact of_same hq.lsdb (.of_eq hq.heap) fun h => sendDd_tidy n flags h fun _ _ => nofun
  batch := fun n flags s => by
    obtain ⟨last, hq⟩ := sendDdBatch_quiet n flags s
    exact of_same hq.lsdb (.of_eq hq.heap) (sendDdBatch_tidy n flags)
  repeats := fun n s => of_quiet (retransmitLastDd_within n s) (retransmitLastDd_tidy n)
  negotiates := by
    intro s n hD
    refine ⟨fun hs => hs, fun hplain h => h.step (fun m hm r hr => ?_) (.of_eq rfl)⟩
    rw [Instance.nbr_setNbr] at hr
    split at hr
    · rename_i heq
      subst heq
      rcases List.mem_append.1 hr with hr | hr
      · exact hplain (hD hm) _ r hr
      · exact h.summarized m hm r (List.mem_append_right _ hr)
    · exact h.summarized m hm r hr

end Tidies

/-- Where no summary is taken, the database may change as well. -/
theorem Tidy.maintains (stub : IntfId → Prop) : Maintains (fun _ => True) (fun n => ¬stub n.intf)
    fun s t => Tidy stub s → Tidy stub t where
  keeps := fun hu _ h => h.of_unsaid hu
  sends := fun i body dest ht hhello hne s =>
    ((Tidies.conducts stub False).sends i body dest ht hhello hne s).tidy nofun
  starts := fun n flags s => ((Tidies.conducts stub False).starts n flags s).tidy nofun
  batch := fun n flags s => ((Tidies.conducts stub False).batch n flags s).tidy nofun
  repeats := fun n s => ((Tidies.conducts stub False).repeats n s).tidy nofun
  negotiates := fun hn => ((Tidies.conducts stub False).negotiates fun h => absurd h hn).tidy nofun
  files := fun hu h => h.of_unsaid hu

/-- **Descriptions on some interfaces list no AS-wide LSA**, as long as there is none in the
database when master and slave are settled there. -/
theorem exec_tidy {stub : IntfId → Prop} {s : Instance} {e : Event} (h : Tidy stub s)
    (hplain : ∀ n src dd, heard s e = some (n, src, .dd dd) → n.routerId ∈ (s.intf n.intf).neighbors →
      (s.nbr n).state = .init ∨ (s.nbr n).state = .exStart → stub n.intf → s.Plain) :
    Tidy stub (exec s e) := by
  have : Std.Refl fun s t => Tidy stub s → Tidy stub t := ⟨fun _ => id⟩
  have : IsTrans Instance fun s t => Tidy stub s → Tidy stub t := ⟨fun _ _ _ h h' => h' ∘ h⟩
  by_cases hdd : ∃ n src dd, heard s e = some (n, src, .dd dd)
  · obtain ⟨n, src, dd, hh⟩ := hdd
    rw [exec_heard hh, processPacket, forNeighbor, Eff.get_bind_apply]
    by_cases hn : n.routerId ∈ (s.intf n.intf).neighbors
    · rw [Eff.when_pos hn]
      generalize hD : ((s.nbr n).state = .init ∨ (s.nbr n).state = .exStart) = D
      have htidies := (Tidies.conducts stub (stub n.intf ∧ D)).processDd (fun _ _ => trivial) n dd (s := s)
        fun hst hstub => ⟨hstub, hD ▸ hst⟩
      exact htidies.tidy (fun hd => hplain n src dd hh hn (hD ▸ hd.2) hd.1) h
    · rw [Eff.when_neg hn]
      exact h
  · refine (Tidy.maintains stub).exec (fun _ => trivial) (fun ht => ?_) (fun i _ => ?_) (fun n src dd hh => ?_) h
    · have hfired : (e.fired s).nbr = s.nbr ∧ (e.fired s).heap = s.heap ∧ (e.fired s).sent = s.sent := by
        cases e <;> exact ⟨rfl, rfl, rfl⟩
      refine ht.step (fun n hn r hr => ?_) (.of_eq hfired.2.2)
      rw [hfired.1] at hr
      exact (ht.summarized n hn r hr).later (.of_eq hfired.2.1)
    · exact fun s ht => ht.of_quiet (sendHello_within i s)
        (sendHello_of_sends (fun _ _ _ => sendPacket_sends fun _ htype =>
          absurd htype (by decide : packetTypeHello ≠ packetTypeDd)) i s)
    · exact absurd ⟨n, src, dd, hh⟩ hdd

end Ospfd
