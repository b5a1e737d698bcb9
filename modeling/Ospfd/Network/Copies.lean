import Ospfd.Lsdb.Packable
import Ospfd.Lsdb.Updates
import Ospfd.Protocol.Transport

/-!
# What a packet is read as

* `Sent.Framed` — a packet that was sent is a header with the router ID of the sender, the body, and
  what authentication appends.
* `Signs` — what is sent is headed with the settings of the interface, and they stay.
* `body_of_framed` — **whoever accepts it reads the body that was sent**, and is another router.
* `Lsa.Proper` — an LSA whose body is of its type, if it can be sent.
* `readAs_of_serialize`, `copies_of_wrote` — **what is read of an update are copies of the LSAs it was
  written from**.
-/

namespace Ospfd

/-! ## Packets -/

/-- Header, body, and the rest. -/
def Sent.Framed (routerId : IPv4Address) (p : Sent) : Prop :=
  ∃ header rest, OspfHeader.WireRange header ∧ header.type = p.pktType ∧ header.routerId = routerId ∧
    header.length = OspfHeader.size + p.body.length ∧ p.data = header.bytes ++ p.body ++ rest

section Frames

variable {md5 : Md5} {routerId areaId : IPv4Address} {authType : AuthType} {authKey : Bytes}
  {keyId cryptSeq pktType : Nat} {body data : Bytes}

/-- Only a type that fits its byte is sent. -/
theorem type_of_transmitted
    (h : transmitted md5 routerId areaId authType authKey keyId cryptSeq pktType body = .ok data) :
    pktType < 256 := by
  by_contra hno
  have hser : ∀ header : OspfHeader, header.type = pktType → header.serialize = .error .structError := by
    intro header htype
    have hnone : Struct.pack OspfHeader.format header.fields = none := by
      simp [OspfHeader.format, OspfHeader.fields, Struct.pack, Struct.pack1, htype, hno]
    rw [OspfHeader.serialize, pack, hnone]
  rw [transmitted, hser _ rfl] at h
  cases h

/-- Only what fits the length field is sent. -/
theorem length_of_transmitted
    (h : transmitted md5 routerId areaId authType authKey keyId cryptSeq pktType body = .ok data) :
    OspfHeader.size + body.length < 65536 := by
  by_contra hlen
  rw [transmitted_error md5 routerId areaId authType authKey keyId cryptSeq pktType hlen] at h
  cases h

theorem framed_of_transmitted {i : IntfId} {dest : IPv4Address}
    (h : transmitted md5 routerId areaId authType authKey keyId cryptSeq pktType body = .ok data) :
    Sent.Framed routerId ⟨i, dest, pktType, body, data⟩ := by
  have htype := type_of_transmitted h
  have hlen := length_of_transmitted h
  rw [transmitted_eq md5 routerId areaId authType authKey keyId cryptSeq htype hlen] at h
  exact ⟨_, _, wireRange_sentHeader _ _ _ _ _ _ htype hlen, rfl, rfl, rfl, (Except.ok.inj h).symm⟩

/-- A packet with the router ID, the area and the authentication of the interface it was sent on. -/
def Sent.Headed (s : Instance) (p : Sent) : Prop :=
  ∃ md5 cryptSeq, transmitted md5 s.routerId (s.intf p.intf).areaId (s.intf p.intf).authType
    (s.intf p.intf).authKey (s.intf p.intf).authKeyId cryptSeq p.pktType p.body = .ok p.data

theorem Sent.Headed.framed {s : Instance} {p : Sent} (h : p.Headed s) : p.Framed s.routerId := by
  obtain ⟨md5, cryptSeq, hdata⟩ := h
  exact framed_of_transmitted hdata

/-- With the same settings the packet would have been the same. -/
theorem Sent.Headed.same {s t : Instance} {p : Sent} (hid : t.routerId = s.routerId)
    (hset : ∀ i, (t.intf i).asCreated = (s.intf i).asCreated) (h : p.Headed s) : p.Headed t := by
  obtain ⟨md5, cryptSeq, hdata⟩ := h
  have harea := OspfInterface.setting_eq (hset p.intf) OspfInterface.areaId
  have htype := OspfInterface.setting_eq (hset p.intf) OspfInterface.authType
  have hkey := OspfInterface.setting_eq (hset p.intf) OspfInterface.authKey
  have hkeyId := OspfInterface.setting_eq (hset p.intf) OspfInterface.authKeyId
  refine ⟨md5, cryptSeq, ?_⟩
  rw [hid, harea, htype, hkey, hkeyId]
  exact hdata

/-- The router remains what it is, and heads everything it sends. -/
structure Signs (s t : Instance) : Prop extends Remains s t where
  sent : Sends (Sent.Headed s) s t

namespace Signs

variable {s t u : Instance}

theorem of_eq (hr : Remains s t) (hsent : t.sent = s.sent) : Signs s t := ⟨hr, .of_eq hsent⟩

theorem trans (h : Signs s t) (h' : Signs t u) : Signs s u := by
  refine ⟨h.toRemains.trans h'.toRemains, h.sent.trans (h'.sent.mono fun p hp => ?_)⟩
  exact hp.same h.routerId.symm fun i => (h.settings i).symm

instance : Std.Refl Signs := ⟨fun s => of_eq (.refl s) rfl⟩

instance : IsTrans Instance Signs := ⟨fun _ _ _ => trans⟩

end Signs

theorem sendPacket_signs (i : IntfId) (pktType : Nat) (body : Bytes) (dest : IPv4Address) :
    Eff.Within Signs (sendPacket i pktType body dest) := by
  intro s
  by_cases hsocket : (s.intf i).socket = true
  · rw [sendPacket, Eff.get_bind_apply, Eff.when_pos hsocket, Eff.lift_bind_apply]
    rcases hdata : transmitted s.md5 s.routerId (s.intf i).areaId (s.intf i).authType (s.intf i).authKey
        (s.intf i).authKeyId ((s.cryptSeq i + 1) % 4294967296) pktType body with e | data
    · exact refl_of Signs s
    · have hone : Sent.Headed s ⟨i, dest, pktType, body, data⟩ := ⟨_, _, hdata⟩
      exact ⟨.of_eq rfl rfl rfl, [⟨i, dest, pktType, body, data⟩], rfl, by simpa using hone⟩
  · rw [sendPacket, Eff.get_bind_apply, Eff.when_neg hsocket]
    exact refl_of Signs s

theorem signs_maintains : Maintains (fun _ => True) (fun _ => True) Signs := by
  have hdd : ∀ n flags lsaHeaders, Eff.Within Signs (sendDd n flags lsaHeaders) := fun n _ _ =>
    Eff.Within.read fun _ => Eff.Within.bind (Eff.Within.lift _) fun _ =>
      Eff.Within.bind (sendPacket_signs _ _ _ _) fun _ _ => .of_eq (.of_eq rfl rfl rfl) rfl
  refine { keeps := fun h _ => .of_eq h.remains h.sent,
           sends := fun i body dest _ _ _ => sendPacket_signs i _ body dest,
           starts := fun n flags => hdd n flags [], batch := fun n flags => ?_, repeats := fun n => ?_,
           negotiates := fun _ => .of_eq (.of_eq rfl rfl rfl) rfl, files := fun h => .of_eq h.remains h.sent }
  · exact Eff.Within.read fun _ => Eff.Within.bind (fun _ => .of_eq (.of_eq rfl rfl rfl) rfl) fun _ => hdd n _ _
  · refine Eff.Within.read fun s => ?_
    split
    · exact Eff.Within.pure ()
    · exact Eff.Within.bind (Eff.Within.lift _) fun _ => sendPacket_signs _ _ _ _

/-- **Every event signs what it sends.** -/
theorem exec_signs (s : Instance) (e : Event) : Signs s (exec s e) := by
  refine signs_maintains.exec (fun _ => trivial) ?_ (fun i _ => ?_) fun _ _ _ _ _ _ => trivial
  · cases e <;> exact .of_eq (.of_eq rfl rfl rfl) rfl
  · exact sendHello_of_sends (fun i body dest => sendPacket_signs i _ body dest) i

/-- **The body of a framed packet** is read from it, whoever accepts it; it comes from another router. -/
theorem body_of_framed {p : Sent} {peerId src : IPv4Address} {peer : OspfInterface} {header : OspfHeader}
    (hp : p.Framed routerId) (h : acceptPacket md5 peerId peer p.data src = some (header, body)) :
    header.type = p.pktType ∧ header.routerId = routerId ∧ routerId ≠ peerId ∧ body = p.body := by
  obtain ⟨sent, rest, hw, htype, hid, hlen, hdata⟩ := hp
  have hde : OspfHeader.deserialize p.data = .ok sent := by
    rw [hdata, List.append_assoc]
    exact OspfHeader.deserialize_bytes hw _
  rw [acceptPacket, hde] at h
  dsimp only at h
  split_ifs at h with _ hother
  obtain ⟨rfl, rfl⟩ := Prod.mk.inj (Option.some.inj h)
  refine ⟨htype, hid, fun heq => hother (hid.trans heq), ?_⟩
  rw [hdata]
  exact slice_packet hw _ _ hlen

/-- A framed packet that is heard is what its type and its body say, from the router that sent it. -/
theorem heard_of_framed {p : Sent} {s : Instance} {i : IntfId} {src src' : IPv4Address} {n : NbrRef}
    {packet : Packet} (hp : p.Framed routerId) (h : heard s (.receive i p.data src) = some (n, src', packet)) :
    n.routerId = routerId ∧ routerId ≠ s.routerId ∧ decodePacket p.pktType p.body = some packet := by
  rw [heard] at h
  split at h
  · cases h
  · rename_i header body hacc
    obtain ⟨htype, hid, hother, rfl⟩ := body_of_framed hp hacc
    rcases hd : decodePacket header.type p.body with _ | packet'
    · rw [hd] at h
      cases h
    · rw [hd] at h
      cases h
      exact ⟨hid, hother, by rw [← htype, hd]⟩

theorem map_toOption_ne {α : Type} {f : α → Packet} {packet : Packet} (hf : ∀ a, f a ≠ packet) (o : Option α) :
    o.map f ≠ some packet := by
  intro h
  obtain ⟨a, -, ha⟩ := Option.map_eq_some_iff.1 h
  exact hf a ha

theorem type_of_lsu {lsu : LsuPacket} (h : decodePacket pktType body = some (.lsu lsu)) :
    pktType = packetTypeLsu := by
  rw [decodePacket] at h
  split_ifs at h with hhello hdd hlsr hlsu
  · exact absurd h (map_toOption_ne (by rintro _ ⟨⟩) _)
  · exact absurd h (map_toOption_ne (by rintro _ ⟨⟩) _)
  · exact absurd h (map_toOption_ne (by rintro _ ⟨⟩) _)
  · exact hlsu
  · exact absurd h (map_toOption_ne (by rintro _ ⟨⟩) _)

theorem type_of_lsack {ack : LsackPacket} (h : decodePacket pktType body = some (.lsack ack)) :
    pktType = packetTypeLsack ∧ LsackPacket.deserialize body = .ok ack := by
  rw [decodePacket] at h
  split_ifs at h with hhello hdd hlsr hlsu hlsack
  · exact absurd h (map_toOption_ne (by rintro _ ⟨⟩) _)
  · exact absurd h (map_toOption_ne (by rintro _ ⟨⟩) _)
  · exact absurd h (map_toOption_ne (by rintro _ ⟨⟩) _)
  · exact absurd h (map_toOption_ne (by rintro _ ⟨⟩) _)
  · refine ⟨hlsack, ?_⟩
    rcases hread : LsackPacket.deserialize body with e | a
    · rw [hread] at h
      cases h
    · rw [hread] at h
      cases h
      rfl

end Frames

/-! ## LSAs -/

namespace Lsa

/-- An LSA whose body is of its type, if it can be sent. -/
def Proper (lsa : Lsa) : Prop :=
  ∀ b, lsa.bodyBytes = .ok b → ∃ body, lsa.body = some body ∧ body.Matches lsa.header.lsType

/-- Bytes that are read as a copy of an LSA, wherever they stand. -/
def ReadAs (lsa : Lsa) (b : Bytes) (copy : Lsa) : Prop :=
  lsa.SameInstance copy ∧ LsaHeader.size ≤ b.length ∧
    ∀ pre post, deserialize (pre ++ b ++ post) pre.length = .ok (copy, b.length)

variable {x y lsa copy : Lsa} {b : Bytes} {now : Time}

theorem SameInstance.symm (h : x.SameInstance y) : y.SameInstance x :=
  ⟨h.options.symm, h.key.symm, h.lsSequenceNumber.symm, h.body.symm⟩

theorem SameInstance.lsType (h : x.SameInstance y) : y.header.lsType = x.header.lsType :=
  congrArg LsaKey.lsType h.key

theorem Proper.same (hx : x.Proper) (h : x.SameInstance y) : y.Proper := by
  intro b hb
  obtain ⟨body, hbody, hmatches⟩ := hx b (by rwa [bodyBytes, ← h.body])
  exact ⟨body, h.body.trans hbody, by rwa [h.lsType]⟩

/-- The LSA that a serialization sends: at the age it has then, and not installed. -/
def fresh (lsa : Lsa) (now : Time) : Lsa where
  header := (lsa.header.aged (min (lsa.currentAge now) maxAge)).completed 0 0
  body := lsa.body

theorem serialize_fresh (lsa : Lsa) (now : Time) : ((lsa.fresh now).serialize now).1 = (lsa.serialize now).1 := by
  have hage : (lsa.fresh now).currentAge now = min (lsa.currentAge now) maxAge := rfl
  refine serialize_congr rfl fun n => ?_
  simp only [stamped, withChecksum, hage, min_assoc, min_self]
  rfl

/-- An LSA that is sent is well-formed, if it is proper. -/
theorem wellFormed_fresh (h : lsa.Proper) (hs : (lsa.serialize now).1 = .ok b) : (lsa.fresh now).WellFormed := by
  have hsame := lsa.serialize_sameInstance now
  have hpack := packable_of_serialize hs
  obtain ⟨body, hbody, hlen⟩ := hpack.body
  rw [bodyBytes, hsame.body] at hbody
  have hage : min (lsa.currentAge now) maxAge ≤ maxAge := Nat.min_le_right ..
  refine ⟨⟨lt_of_le_of_lt hage (by decide), ?_, ?_, ?_, Nat.zero_lt_succ _, Nat.zero_lt_succ _⟩, hage, rfl, rfl,
    h body hbody, fun b hb => ?_⟩
  · exact hsame.options ▸ hpack.header.options
  · exact hsame.lsType ▸ hpack.header.lsType
  · exact hsame.lsSequenceNumber ▸ hpack.header.lsSequenceNumber
  · obtain rfl := Except.ok.inj (hb.symm.trans hbody)
    exact Nat.le_of_lt_succ hlen

/-- **A proper LSA is read back.** -/
theorem readAs_of_serialize (h : lsa.Proper) (hs : (lsa.serialize now).1 = .ok b) :
    ∃ copy, lsa.ReadAs b copy := by
  obtain ⟨b', hb', hmin, hread⟩ := deserialize_serialize (wellFormed_fresh h hs) now
  have hsent := serialize_fresh lsa now
  rw [hb', hs] at hsent
  obtain rfl := Except.ok.inj hsent
  exact ⟨(lsa.fresh now).filled b', ⟨rfl, rfl, rfl, rfl⟩, hmin, hread⟩

end Lsa

/-! ## Updates -/

/-- The number of LSAs, as it is packed. -/
theorem counted {n : Nat} {count : Bytes} (h : pack [.I] [.nat n] = .ok count) :
    count.length = 4 ∧ ∀ rest, LsuPacket.deserialize (count ++ rest) =
      if n > 1000 then .error (.valueError s!"LSU num_lsas {n} exceeds limit")
      else (LsuPacket.readLsas (count ++ rest) n 4).map fun lsas => { lsas } := by
  have hn : n < 4294967296 := by
    by_contra hno
    have hnone : Struct.pack [.I] [.nat n] = none := by simp [Struct.pack, Struct.pack1, hno]
    rw [pack, hnone] at h
    cases h
  obtain ⟨b, hb, hlen, hun⟩ := word_at hn
  obtain rfl : b = count := Except.ok.inj (hb.symm.trans h)
  refine ⟨hlen, fun rest => ?_⟩
  have hword := hun [] rest
  rw [List.nil_append, List.length_nil] at hword
  rw [LsuPacket.deserialize, hword]

/-- Copies of LSAs, read from where they stand one after the other. -/
theorem readLsas_of_readAs {bs : List Bytes} {copies : List Lsa}
    (h : List.Forall₂ (fun b copy => ∃ lsa : Lsa, lsa.ReadAs b copy) bs copies) (pre : Bytes) :
    LsuPacket.readLsas (pre ++ bs.flatten) bs.length pre.length = .ok copies := by
  induction h generalizing pre with
  | nil => rfl
  | @cons b copy bs copies hcopy _ ih =>
    obtain ⟨_, _, hmin, hread⟩ := hcopy
    have hnext := ih (pre ++ b)
    have hcut : pre ++ (b :: bs).flatten = pre ++ b ++ bs.flatten := by
      rw [List.flatten_cons, List.append_assoc]
    have hpos : 0 < b.length := lt_of_lt_of_le (by decide) hmin
    have hmore : ¬(pre ++ b ++ bs.flatten).length ≤ pre.length := by
      simp only [List.length_append]
      omega
    rw [List.length_append] at hnext
    rw [hcut, List.length_cons, LsuPacket.readLsas, if_neg hmore, hread pre bs.flatten]
    simp only [if_neg (Nat.ne_of_gt hpos), hnext]

/-- The bytes that LSA objects are serialized to, one after the other. -/
theorem serializeLsas_reads : ∀ {rs : List LsaRef} {s : Instance} {b : Bytes},
    (∀ r ∈ rs, r < s.heap.next ∧ (s.heap.obj r).Proper) → (serializeLsas rs s).1 = .ok b →
      ∃ bs copies, b = bs.flatten ∧ bs.length = rs.length ∧
        List.Forall₂ (fun b copy => ∃ lsa : Lsa, lsa.ReadAs b copy) bs copies ∧
          ∀ copy ∈ copies, ∃ r ∈ rs, (s.heap.obj r).SameInstance copy
  | [], _, _, _, hb => ⟨[], [], (Except.ok.inj hb).symm, rfl, .nil, by simp⟩
  | r :: rs, s, b, hrs, hb => by
    obtain ⟨hlt, hproper⟩ := hrs r (List.mem_cons_self ..)
    have hone : serializeLsa r s = (((s.heap.obj r).serialize s.now).1, s.written r) := rfl
    have hgrows : s.heap.Grows (s.written r).heap := move_grows (l := .write r) rfl
    rw [serializeLsas, Eff.bind_apply, hone] at hb
    rcases hser : ((s.heap.obj r).serialize s.now).1 with e | b₀
    · rw [hser] at hb
      cases hb
    · rw [hser] at hb
      dsimp only at hb
      rcases hrest : serializeLsas rs (s.written r) with ⟨e | b₁, u⟩
      · rw [Eff.bind_apply_error hrest] at hb
        cases hb
      · rw [Eff.bind_apply_ok hrest] at hb
        obtain rfl : b₀ ++ b₁ = b := Except.ok.inj hb
        obtain ⟨copy, hcopy⟩ := Lsa.readAs_of_serialize hproper hser
        have hothers : ∀ k ∈ rs, k < (s.written r).heap.next ∧ ((s.written r).heap.obj k).Proper := by
          intro k hk
          obtain ⟨hk', hkp⟩ := hrs k (List.mem_cons_of_mem _ hk)
          exact ⟨lt_of_lt_of_le hk' hgrows.next, hkp.same (hgrows.same k hk')⟩
        obtain ⟨bs, copies, rfl, hlen, hreads, hsame⟩ := serializeLsas_reads hothers (by rw [hrest])
        refine ⟨b₀ :: bs, copy :: copies, rfl, by rw [List.length_cons, hlen, List.length_cons],
          .cons ⟨_, hcopy⟩ hreads, fun x hx => ?_⟩
        rcases List.mem_cons.1 hx with rfl | hx
        · exact ⟨r, List.mem_cons_self .., hcopy.1⟩
        · obtain ⟨k, hk, hkx⟩ := hsame x hx
          have hk' := (hrs k (List.mem_cons_of_mem _ hk)).1
          exact ⟨k, List.mem_cons_of_mem _ hk, (hgrows.same k hk').trans hkx⟩

/-- **An update is read as copies** of the LSAs it was written from. -/
theorem copies_of_wrote {s : Instance} {rs : List LsaRef} {body : Bytes} {lsu : LsuPacket}
    (h : s.Wrote rs body) (hproper : ∀ r, r < s.heap.next → (s.heap.obj r).Proper)
    (hread : LsuPacket.deserialize body = .ok lsu) :
    ∀ lsa ∈ lsu.lsas, ∃ r ∈ rs, (s.heap.obj r).SameInstance lsa := by
  obtain ⟨u, hu, hrs, hbody⟩ := h
  have hold : ∀ r ∈ rs, r < u.heap.next ∧ (u.heap.obj r).Proper := fun r hr =>
    ⟨hrs r hr, (hproper r (lt_of_lt_of_le (hrs r hr) hu.next)).same (hu.same r (hrs r hr)).symm⟩
  rw [serializeLsu, Eff.lift_bind_apply] at hbody
  rcases hcount : pack [.I] [.nat rs.length] with e | count
  · rw [hcount] at hbody
    cases hbody
  · rw [hcount] at hbody
    dsimp only at hbody
    rcases hrun : serializeLsas rs u with ⟨e | b, v⟩
    · rw [Eff.bind_apply_error hrun] at hbody
      cases hbody
    · rw [Eff.bind_apply_ok hrun] at hbody
      obtain rfl : count ++ b = body := Except.ok.inj hbody
      obtain ⟨bs, copies, rfl, hlen, hreads, hsame⟩ := serializeLsas_reads hold (by rw [hrun])
      have hlsas : lsu.lsas = copies := by
        obtain ⟨hfour, hde⟩ := counted hcount
        have hcopies := readLsas_of_readAs hreads count
        rw [hfour, hlen] at hcopies
        rw [hde, hcopies] at hread
        split at hread
        · cases hread
        · exact (congrArg LsuPacket.lsas (Except.ok.inj hread)).symm
      intro lsa hlsa
      rw [hlsas] at hlsa
      obtain ⟨r, hr, hcopy⟩ := hsame lsa hlsa
      exact ⟨r, hr, (hu.same r (hrs r hr)).symm.trans hcopy⟩

end Ospfd
