import Ospfd.Protocol.Transport

/-!
# Packet checksums on the wire

The checksum of a packet covers everything but the authentication field, which is taken as zero.

* `Summed` — a packet has the right checksum.
* `summed_iff` — read off the words of its header and body.
* `summed_sent_iff` — **what is sent is summed** exactly when it is not authenticated.
* `summed_received_iff` — **what is accepted is summed** without authentication when its
  authentication field sums up to nothing, and otherwise when its checksum happens to be right.
* `acceptPacket_withChecksum` — with a password any checksum is accepted.
-/

namespace Ospfd

/-! ## Checksums -/

/-- A packet with its authentication field, bytes 16 to 23, taken as zero. -/
def zeroAuth (data : Bytes) : Bytes := Bytes.overwrite data 16 (List.replicate 8 0)

/-- A packet has the right checksum. -/
def Summed (data : Bytes) : Prop := verifyIpChecksum (zeroAuth data) = true

/-- The checksum that a packet is to have. -/
def rightChecksum (data : Bytes) : Nat := ipChecksum (Bytes.overwrite (zeroAuth data) 12 [0, 0])

/-- The words of a packet: the fields of its header before the checksum, the checksum, the
authentication type and field, and the body. -/
theorem sum_packet {h : OspfHeader} (hw : h.WireRange) (body : Bytes) :
    (words16 (padEven (h.bytes ++ body))).sum = (words16 h.leading).sum + h.checksum + h.authType +
      (words16 h.authData).sum + (words16 (padEven body)).sum := by
  have hfield : ∀ c, c < 65536 → (words16 (Bytes.ofNat 2 c)).sum = c := by
    intro c hc
    rw [Bytes.ofNat_two, words16_field hc, List.sum_singleton]
  have hlead : h.leading.length % 2 = 0 := by rw [OspfHeader.length_leading]
  have hsum : (h.leading ++ Bytes.ofNat 2 h.checksum).length % 2 = 0 := by simp
  have htype : (h.leading ++ Bytes.ofNat 2 h.checksum ++ Bytes.ofNat 2 h.authType).length % 2 = 0 := by simp
  rw [OspfHeader.bytes, sum_words16_field body htype (by rw [hw.authData]), words16_append hsum,
    words16_append hlead, List.sum_append, List.sum_append, hfield _ hw.checksum, hfield _ hw.authType]

theorem sum_zeros : (words16 (List.replicate 8 (0 : UInt8))).sum = 0 := rfl

theorem zeroAuth_packet {h : OspfHeader} (hw : h.WireRange) (body : Bytes) :
    zeroAuth (h.bytes ++ body) = { h with authData := List.replicate 8 0 }.bytes ++ body :=
  OspfHeader.overwrite_authData hw.authData rfl body

theorem wireRange_zeroAuth {h : OspfHeader} (hw : h.WireRange) :
    OspfHeader.WireRange { h with authData := List.replicate 8 0 } :=
  ⟨hw.version, hw.type, hw.length, hw.checksum, hw.authType, rfl⟩

/-- The words before the checksum sum up to at least the version. -/
theorem sum_leading_pos {h : OspfHeader} (hversion : h.version = 2) : 0 < (words16 h.leading).sum := by
  have htype : (Bytes.ofNat 1 h.type).length = 1 := Bytes.length_ofNat 1 _
  obtain ⟨b, hb⟩ := List.length_eq_one_iff.1 htype
  have hlead : h.leading = 2 :: b :: (Bytes.ofNat 2 h.length ++ packed h.routerId ++ packed h.areaId) := by
    rw [OspfHeader.leading, hversion, hb]
    simp [Bytes.ofNat]
  rw [hlead, words16, List.sum_cons]
  have htwo : (2 : UInt8).toNat = 2 := rfl
  omega

/-- **When a packet of version 2 has the right checksum.** -/
theorem summed_iff {h : OspfHeader} (hw : h.WireRange) (hversion : h.version = 2) (body : Bytes) :
    Summed (h.bytes ++ body) ↔
      ((words16 h.leading).sum + h.checksum + h.authType + (words16 (padEven body)).sum) % 65535 = 0 := by
  have hpos := sum_leading_pos hversion
  have hsum := sum_packet (wireRange_zeroAuth hw) body
  rw [sum_zeros] at hsum
  change _ = (words16 h.leading).sum + h.checksum + h.authType + 0 + _ at hsum
  rw [Summed, zeroAuth_packet hw, verifyIpChecksum_iff, hsum]
  omega

/-- The right checksum complements the other words. -/
theorem rightChecksum_add_mod {h : OspfHeader} (hw : h.WireRange) (body : Bytes) :
    (rightChecksum (h.bytes ++ body) + ((words16 h.leading).sum + h.authType +
      (words16 (padEven body)).sum)) % 65535 = 0 := by
  have hwz : OspfHeader.WireRange { h with checksum := 0, authData := List.replicate 8 0 } :=
    ⟨hw.version, hw.type, hw.length, Nat.zero_lt_succ _, hw.authType, rfl⟩
  have hsum := sum_packet hwz body
  rw [sum_zeros] at hsum
  change _ = (words16 h.leading).sum + 0 + h.authType + 0 + _ at hsum
  have hfield : Bytes.overwrite (zeroAuth (h.bytes ++ body)) 12 [0, 0] =
      { h with checksum := 0, authData := List.replicate 8 0 }.bytes ++ body := by
    rw [zeroAuth_packet hw]
    exact OspfHeader.overwrite_checksum _ 0 body
  have hmod := ipChecksum_add_mod (Bytes.overwrite (zeroAuth (h.bytes ++ body)) 12 [0, 0])
  rw [hfield] at hmod
  rw [hsum] at hmod
  rw [rightChecksum, hfield]
  omega

theorem summed_iff_rightChecksum {h : OspfHeader} (hw : h.WireRange) (hversion : h.version = 2)
    (body : Bytes) : Summed (h.bytes ++ body) ↔
      h.checksum % 65535 = rightChecksum (h.bytes ++ body) % 65535 := by
  have hmod := rightChecksum_add_mod hw body
  rw [summed_iff hw hversion]
  omega

/-! ## Sending -/

/-- What is transmitted fits its header. -/
theorem fits_of_transmitted {md5 : Md5} {routerId areaId : IPv4Address} {authType : AuthType}
    {authKey : Bytes} {keyId cryptSeq pktType : Nat} {body data : Bytes}
    (h : transmitted md5 routerId areaId authType authKey keyId cryptSeq pktType body = .ok data) :
    pktType < 256 ∧ OspfHeader.size + body.length < 65536 := by
  let draft := draftHeader routerId areaId pktType body
  change (draft.serialize >>= fun raw => _) = _ at h
  rcases hser : draft.serialize with e | raw
  · rw [hser] at h
    cases h
  · rw [OspfHeader.serialize, pack] at hser
    split at hser
    · rename_i b hb
      have hfilled : List.Forall₂ Struct.Filled OspfHeader.format draft.fields := by
        simp only [OspfHeader.format, OspfHeader.fields, List.forall₂_cons, Struct.Filled]
        refine ⟨?_, ?_, ?_, ?_, ?_, ?_, ?_, ?_, .nil⟩ <;> rintro n bs ⟨⟩ ⟨⟩
        · exact length_packed _
        · exact length_packed _
        · rfl
      have hfits := Struct.fits_of_pack hb hfilled
      simp only [OspfHeader.format, OspfHeader.fields, List.forall₂_cons, Struct.Fits] at hfits
      exact ⟨hfits.2.1, hfits.2.2.1⟩
    · cases hser

section Wire

variable {s : Instance} {i : IntfId} {pktType : Nat} {body : Bytes} {dest : IPv4Address} {packet : Sent}

/-- **What `send_packet` emits.** -/
theorem data_of_emitted (h : (sendPacket i pktType body dest s).2.sent = s.sent ++ [packet]) :
    pktType < 256 ∧ OspfHeader.size + body.length < 65536 ∧ packet.data = nextPacket s i pktType body := by
  have hnothing : ¬s.sent = s.sent ++ [packet] := by simp
  by_cases hsock : (s.intf i).socket = true
  · rcases ht : transmitted s.md5 s.routerId (s.intf i).areaId (s.intf i).authType (s.intf i).authKey
        (s.intf i).authKeyId (nextCryptSeq s i) pktType body with e | data
    · rw [nextCryptSeq] at ht
      rw [sendPacket, Eff.get_bind_apply, Eff.when_pos hsock, Eff.lift_bind_apply, ht] at h
      exact absurd h hnothing
    · obtain ⟨htype, hlen⟩ := fits_of_transmitted ht
      rw [sendPacket_of_socket dest hsock htype hlen] at h
      have hpacket := List.cons.inj (List.append_cancel_left h)
      exact ⟨htype, hlen, by rw [← hpacket.1]⟩
  · rw [sendPacket, Eff.get_bind_apply, Eff.when_neg hsock] at h
    exact absurd h hnothing

/-- **A packet that is sent is summed** exactly when it is not authenticated: AuType is written after
the checksum was computed. -/
theorem summed_sent_iff (hne : (s.intf i).authType ≠ .md5) (htype : pktType < 256)
    (hlen : OspfHeader.size + body.length < 65536) :
    Summed (nextPacket s i pktType body) ↔ (s.intf i).authType = .none := by
  have hw : (nextHeader s i pktType body).WireRange := wireRange_sentHeader _ _ _ _ _ _ htype hlen
  have hpacket : nextPacket s i pktType body = (nextHeader s i pktType body).bytes ++ body := by
    rw [nextPacket]
    cases hauth : (s.intf i).authType with
    | md5 => exact absurd hauth hne
    | none => exact List.append_nil _
    | simple => exact List.append_nil _
  -- the checksum is that of the draft, which has AuType 0
  let draft := draftHeader s.routerId (s.intf i).areaId pktType body
  have hdraft : (words16 (padEven (draft.bytes ++ body))).sum = (words16 draft.leading).sum +
      draft.checksum + draft.authType + (words16 draft.authData).sum + (words16 (padEven body)).sum :=
    sum_packet (wireRange_draftHeader s.routerId (s.intf i).areaId htype hlen) body
  have hzero : draft.checksum = 0 ∧ draft.authType = 0 ∧ (words16 draft.authData).sum = 0 := ⟨rfl, rfl, sum_zeros⟩
  have hmod := ipChecksum_add_mod (draft.bytes ++ body)
  rw [hdraft, hzero.1, hzero.2.1, hzero.2.2] at hmod
  have hlead : (nextHeader s i pktType body).leading = draft.leading := rfl
  have hsum : (nextHeader s i pktType body).checksum = ipChecksum (draft.bytes ++ body) := rfl
  have hnum : (nextHeader s i pktType body).authType = (s.intf i).authType.num := rfl
  rw [hpacket, summed_iff hw rfl, hlead, hsum, hnum]
  cases hauth : (s.intf i).authType with
  | md5 => exact absurd hauth hne
  | none =>
    have hauth0 : AuthType.none.num = 0 := rfl
    refine iff_of_true ?_ rfl
    rw [hauth0]
    omega
  | simple =>
    have hauth1 : AuthType.simple.num = 1 := rfl
    refine iff_of_false ?_ (by rintro ⟨⟩)
    rw [hauth1]
    omega

end Wire

/-! ## Receiving -/

section Reception

variable {md5 : Md5} {routerId src : IPv4Address} {intf : OspfInterface} {data body : Bytes} {header : OspfHeader}

/-- An accepted packet: its header and its body, cut from what was received. -/
theorem packet_of_accepted (h : acceptPacket md5 routerId intf data src = some (header, body)) :
    header.WireRange ∧ header.version = 2 ∧ data.take header.length = header.bytes ++ body ∧
      (intf.authType = .none → verifyIpChecksum (header.bytes ++ body) = true) := by
  rw [acceptPacket] at h
  split at h
  · cases h
  · rename_i header' hd
    obtain ⟨hw, hbytes⟩ := OspfHeader.bytes_of_deserialize hd
    simp only at h
    split_ifs at h
    cases h
    rename_i hlink hversion hown hlong hmin hsum hauth harea
    have hcut : data.take header.length = header.bytes ++ Bytes.slice data OspfHeader.size header.length := by
      rw [hbytes, Bytes.slice]
      have hlen : header.length = OspfHeader.size + (header.length - OspfHeader.size) := by omega
      rw [hlen, List.take_add, Nat.add_sub_cancel_left]
    refine ⟨hw, not_not.1 hversion, hcut, fun hnone => ?_⟩
    rw [← hcut]
    by_contra hbad
    exact hsum ⟨hnone, hbad⟩

/-- **When an accepted packet is summed**: without authentication its checksum was verified with the
authentication field, and so this has to sum up to nothing; otherwise it was not looked at. -/
theorem summed_received_iff (h : acceptPacket md5 routerId intf data src = some (header, body)) :
    Summed (data.take header.length) ↔
      if intf.authType = .none then (words16 header.authData).sum % 65535 = 0
      else header.checksum % 65535 = rightChecksum (data.take header.length) % 65535 := by
  obtain ⟨hw, hversion, hcut, hverify⟩ := packet_of_accepted h
  rw [hcut]
  by_cases hnone : intf.authType = .none
  · have hsum := (verifyIpChecksum_iff _).1 (hverify hnone)
    rw [sum_packet hw] at hsum
    rw [if_pos hnone, summed_iff hw hversion]
    omega
  · rw [if_neg hnone, summed_iff_rightChecksum hw hversion]

/-- **With a password any checksum is accepted.** -/
theorem acceptPacket_withChecksum (hauth : intf.authType = .simple)
    (h : acceptPacket md5 routerId intf data src = some (header, body)) {c : Nat} (hc : c < 65536) :
    acceptPacket md5 routerId intf (Bytes.overwrite data 12 (Bytes.ofNat 2 c)) src =
      some ({ header with checksum := c }, body) := by
  obtain ⟨hw, -, hcut, -⟩ := packet_of_accepted h
  have hwc : OspfHeader.WireRange { header with checksum := c } :=
    ⟨hw.version, hw.type, hw.length, hc, hw.authType, hw.authData⟩
  rw [acceptPacket] at h
  split at h
  · cases h
  · rename_i header' hd
    have hbytes := (OspfHeader.bytes_of_deserialize hd).2
    simp only at h
    split_ifs at h
    cases h
    rename_i hlink hversion hown hlong hmin hsum hver harea
    have h24 : header.bytes.length = OspfHeader.size := OspfHeader.length_bytes hw
    have hdata : data = header.bytes ++ data.drop OspfHeader.size := by
      rw [hbytes, List.take_append_drop]
    have hnew : Bytes.overwrite data 12 (Bytes.ofNat 2 c) =
        { header with checksum := c }.bytes ++ data.drop OspfHeader.size := by
      have hset := OspfHeader.overwrite_checksum header c (data.drop OspfHeader.size)
      rwa [← hdata] at hset
    have hlens : (Bytes.overwrite data 12 (Bytes.ofNat 2 c)).length = data.length := by
      have hlen := congrArg List.length hdata
      rw [List.length_append, h24] at hlen
      rw [hnew, List.length_append, OspfHeader.length_bytes hwc]
      exact hlen.symm
    have hbody : Bytes.slice (Bytes.overwrite data 12 (Bytes.ofNat 2 c)) OspfHeader.size header.length =
        Bytes.slice data OspfHeader.size header.length := by
      rw [Bytes.slice, Bytes.slice, hnew, List.drop_left' (OspfHeader.length_bytes hwc)]
    have hcutc : (Bytes.overwrite data 12 (Bytes.ofNat 2 c)).take header.length =
        { header with checksum := c }.bytes ++ Bytes.slice data OspfHeader.size header.length := by
      have hcuts : ∀ b : Bytes, b.length = OspfHeader.size →
          (b ++ data.drop OspfHeader.size).take header.length =
            b ++ Bytes.slice data OspfHeader.size header.length := by
        intro b hb
        rw [List.take_append, List.take_of_length_le (by omega), hb, Bytes.slice]
      rw [hnew, hcuts _ (OspfHeader.length_bytes hwc)]
    have hverc : verifyAuth md5 ((Bytes.overwrite data 12 (Bytes.ofNat 2 c)).take header.length)
        intf.authType intf.authKey intf.authKeyId = true := by
      rw [hcut, hauth, verifyAuth_simple md5 hw] at hver
      rw [hcutc, hauth, verifyAuth_simple md5 hwc]
      exact hver
    have hfree : ¬(intf.authType = .none ∧ ¬verifyIpChecksum
        ((Bytes.overwrite data 12 (Bytes.ofNat 2 c)).take header.length) = true) := by
      rw [hauth]
      rintro ⟨⟨⟩, -⟩
    have hde : OspfHeader.deserialize (Bytes.overwrite data 12 (Bytes.ofNat 2 c)) =
        .ok { header with checksum := c } := by
      rw [hnew]
      exact OspfHeader.deserialize_bytes hwc _
    rw [acceptPacket, hde]
    dsimp only
    rw [if_neg hversion, if_neg hown, hlens, if_neg hlong, if_neg hmin, if_neg hfree,
      if_neg (not_not.2 hverc), if_neg harea, if_neg hlink, hbody]

end Reception

/-- **Checksums on the wire**, without cryptographic authentication. What is sent is summed exactly
when it is not authenticated. What is accepted is summed, without authentication, when its
authentication field sums up to nothing, and with a password when its checksum happens to be right,
since any other checksum is accepted as well. -/
theorem checksums_iff (s : Instance) (i : IntfId) (hne : (s.intf i).authType ≠ .md5) :
    (∀ pktType body dest packet, (sendPacket i pktType body dest s).2.sent = s.sent ++ [packet] →
      (Summed packet.data ↔ (s.intf i).authType = .none)) ∧
    ∀ data src header body, acceptPacket s.md5 s.routerId (s.intf i) data src = some (header, body) →
      (Summed (data.take header.length) ↔
        if (s.intf i).authType = .none then (words16 header.authData).sum % 65535 = 0
        else header.checksum % 65535 = rightChecksum (data.take header.length) % 65535) ∧
      ((s.intf i).authType = .simple → ∀ c < 65536,
        acceptPacket s.md5 s.routerId (s.intf i) (Bytes.overwrite data 12 (Bytes.ofNat 2 c)) src =
          some ({ header with checksum := c }, body)) := by
  refine ⟨fun pktType body dest packet hsent => ?_, fun data src header body hacc => ⟨?_, ?_⟩⟩
  · obtain ⟨htype, hlen, hdata⟩ := data_of_emitted hsent
    rw [hdata]
    exact summed_sent_iff hne htype hlen
  · exact summed_received_iff hacc
  · exact fun hsimple c hc => acceptPacket_withChecksum hsimple hacc hc

/-! ### Two routers with a password -/

/-- What they send each other has a wrong checksum, and is accepted. -/
theorem not_checksums : ¬∀ (s : Instance) (i : IntfId), (s.intf i).authType ≠ .md5 →
    (∀ pktType body dest packet, (sendPacket i pktType body dest s).2.sent = s.sent ++ [packet] →
      Summed packet.data) ∧
    ∀ data src header body, acceptPacket s.md5 s.routerId (s.intf i) data src = some (header, body) →
      Summed (data.take header.length) := by
  intro h
  have hsent := (h (linkRouter .simple) 0 (by decide)).1 packetTypeLsack [] allSpfRouters _
    (congrArg Instance.sent (congrArg Prod.snd
      (sendPacket_of_socket allSpfRouters (s := linkRouter .simple) (i := 0) rfl (by decide) (by decide))))
  have hauth := (summed_sent_iff (s := linkRouter .simple) (i := 0) (by decide) (by decide) (by decide)).1 hsent
  exact absurd hauth (by decide)

/-- Without authentication the checksum is right. -/
theorem checksums_linkRouter : ∃ packet,
    (sendPacket 0 packetTypeLsack [] allSpfRouters (linkRouter .none)).2.sent = [packet] ∧ Summed packet.data := by
  have htype : packetTypeLsack < 256 := by decide
  have hlen : OspfHeader.size + ([] : Bytes).length < 65536 := by decide
  have hsent := congrArg Instance.sent (congrArg Prod.snd
    (sendPacket_of_socket allSpfRouters (s := linkRouter .none) (i := 0) rfl htype hlen))
  exact ⟨_, hsent, ((checksums_iff (linkRouter .none) 0 (by decide)).1 packetTypeLsack [] allSpfRouters _
    hsent).2 rfl⟩

end Ospfd
