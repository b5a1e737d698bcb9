import Ospfd.Protocol.Instance

/-!
# From one router to the next

What the reception checks of a peer make of the bytes `send_packet` built.

* `Peers` — a peer interface in the same area, with the same authentication settings.
* `Delivered` — the peer accepts the packet, and decodes the body that was sent.
* `delivered_iff` — **a packet is delivered exactly when it is not authenticated
  cryptographically**: the receiver cuts a packet to the length in its header, and the
  digest with it, before it looks for the digest.
-/

namespace Ospfd

/-! ## The two ends -/

/-- A peer of an interface: another router in the same area, with the same
authentication settings, for which the source of the packet is on the link. -/
structure Peers (s : Instance) (i : IntfId) (peerId : IPv4Address) (peer : OspfInterface)
    (src : IPv4Address) : Prop where
  socket : (s.intf i).socket = true
  keyId : (s.intf i).authKeyId < 256
  routerId : s.routerId ≠ peerId
  areaId : (s.intf i).areaId = peer.areaId
  authType : peer.authType = (s.intf i).authType
  authKey : peer.authKey = (s.intf i).authKey
  authKeyId : peer.authKeyId = (s.intf i).authKeyId
  onLink : peer.intfType = .broadcast →
    networkAddress src peer.ipMask = networkAddress peer.ipAddr peer.ipMask

/-- What `send_packet` sends passes the checks of the peer, and comes out as it was sent. -/
def Delivered (s : Instance) (i : IntfId) (pktType : Nat) (body : Bytes) (dest : IPv4Address)
    (peerId : IPv4Address) (peer : OspfInterface) (src : IPv4Address) : Prop :=
  ∃ packet header, (sendPacket i pktType body dest s).2.sent = s.sent ++ [packet] ∧
    acceptPacket s.md5 peerId peer packet.data src = some (header, body) ∧
    header.type = pktType ∧ header.routerId = s.routerId

/-! ## Cutting a packet open -/

theorem take_packet {h : OspfHeader} (hw : h.WireRange) (body rest : Bytes)
    (hlen : h.length = OspfHeader.size + body.length) :
    (h.bytes ++ body ++ rest).take h.length = h.bytes ++ body := by
  have h24 := OspfHeader.length_bytes hw
  rw [List.take_left' (by rw [List.length_append, h24, hlen])]

theorem slice_packet {h : OspfHeader} (hw : h.WireRange) (body rest : Bytes)
    (hlen : h.length = OspfHeader.size + body.length) :
    Bytes.slice (h.bytes ++ body ++ rest) OspfHeader.size h.length = body := by
  have h24 := OspfHeader.length_bytes hw
  have hs := Bytes.slice_append_append h.bytes body rest
  rw [h24] at hs
  rwa [hlen]

theorem authType_packet {h : OspfHeader} (hw : h.WireRange) (body : Bytes) :
    Bytes.toNat (Bytes.slice (h.bytes ++ body) 14 16) = h.authType := by
  have hs := Bytes.slice_append_append (h.leading ++ Bytes.ofNat 2 h.checksum)
    (Bytes.ofNat 2 h.authType) (h.authData ++ body)
  have hlen : (h.leading ++ Bytes.ofNat 2 h.checksum).length = 14 := by simp
  rw [hlen, Bytes.length_ofNat] at hs
  have hbytes : h.bytes ++ body = h.leading ++ Bytes.ofNat 2 h.checksum ++ Bytes.ofNat 2 h.authType ++
      (h.authData ++ body) := by
    simp only [OspfHeader.bytes, List.append_assoc]
  rw [hbytes, hs, Bytes.toNat_ofNat_of_lt hw.authType]

theorem authData_packet {h : OspfHeader} (hw : h.WireRange) (body : Bytes) :
    Bytes.slice (h.bytes ++ body) 16 24 = h.authData := by
  have hs := Bytes.slice_append_append
    (h.leading ++ Bytes.ofNat 2 h.checksum ++ Bytes.ofNat 2 h.authType) h.authData body
  have hlen : (h.leading ++ Bytes.ofNat 2 h.checksum ++ Bytes.ofNat 2 h.authType).length = 16 := by
    simp
  rwa [hlen, hw.authData] at hs

theorem length_packet {h : OspfHeader} (hw : h.WireRange) (body : Bytes) :
    Bytes.toNat (Bytes.slice (h.bytes ++ body) 2 4) = h.length := by
  have hs := Bytes.slice_append_append (Bytes.ofNat 1 h.version ++ Bytes.ofNat 1 h.type)
    (Bytes.ofNat 2 h.length) (packed h.routerId ++ packed h.areaId ++ Bytes.ofNat 2 h.checksum ++
      Bytes.ofNat 2 h.authType ++ h.authData ++ body)
  have hlen : (Bytes.ofNat 1 h.version ++ Bytes.ofNat 1 h.type).length = 2 := by simp
  rw [hlen, Bytes.length_ofNat] at hs
  have hbytes : h.bytes ++ body = Bytes.ofNat 1 h.version ++ Bytes.ofNat 1 h.type ++
      Bytes.ofNat 2 h.length ++ (packed h.routerId ++ packed h.areaId ++ Bytes.ofNat 2 h.checksum ++
        Bytes.ofNat 2 h.authType ++ h.authData ++ body) := by
    simp only [OspfHeader.bytes, OspfHeader.leading, List.append_assoc]
  rw [hbytes, hs, Bytes.toNat_ofNat_of_lt hw.length]

/-! ## The checks -/

/-- The checksum of a packet without authentication verifies. -/
theorem verifyIpChecksum_sent (routerId areaId : IPv4Address) (authKey : Bytes)
    (keyId cryptSeq pktType : Nat) (body : Bytes) :
    verifyIpChecksum
      ((sentHeader routerId areaId .none authKey keyId cryptSeq pktType body).bytes ++ body) = true := by
  let draft := draftHeader routerId areaId pktType body
  -- the checksum field of the draft is zero, and is filled in with the checksum of the draft
  have hpacket : ∀ c, { draft with checksum := c }.bytes ++ body =
      draft.leading ++ Bytes.ofNat 2 c ++ (Bytes.ofNat 2 draft.authType ++ draft.authData ++ body) := by
    intro c
    simp only [OspfHeader.bytes, OspfHeader.leading, List.append_assoc]
  have hv := verifyIpChecksum_of_field (Bytes.ofNat 2 draft.authType ++ draft.authData ++ body)
    (show draft.leading.length % 2 = 0 by rw [OspfHeader.length_leading])
  have hzero : draft.leading ++ [0, 0] ++ (Bytes.ofNat 2 draft.authType ++ draft.authData ++ body) =
      draft.bytes ++ body := (hpacket 0).symm
  simp only [hzero, ← Bytes.ofNat_two] at hv
  rw [← hpacket] at hv
  exact hv

/-- A password is compared with the authentication field, once the type is right. -/
theorem verifyAuth_simple (md5 : Md5) {h : OspfHeader} (hw : h.WireRange) (body authKey : Bytes) (keyId : Nat) :
    verifyAuth md5 (h.bytes ++ body) .simple authKey keyId =
      if h.authType ≠ AuthType.simple.num then false else h.authData == padKey 8 authKey := by
  have hsize : ¬(h.bytes ++ body).length < 24 := by
    rw [List.length_append, OspfHeader.length_bytes hw, OspfHeader.size]
    omega
  unfold verifyAuth
  rw [if_neg hsize, authType_packet hw, authData_packet hw]

/-- Authentication without cryptography is verified. -/
theorem verifyAuth_sent (md5 : Md5) (routerId areaId : IPv4Address) {authType : AuthType}
    (authKey : Bytes) (keyId cryptSeq : Nat) {pktType : Nat} {body : Bytes} (htype : pktType < 256)
    (hlen : OspfHeader.size + body.length < 65536) (hne : authType ≠ .md5) :
    verifyAuth md5
      ((sentHeader routerId areaId authType authKey keyId cryptSeq pktType body).bytes ++ body)
      authType authKey keyId = true := by
  have hw := wireRange_sentHeader routerId areaId authType authKey keyId cryptSeq htype hlen
  have h24 := OspfHeader.length_bytes hw
  have hsize : ¬((sentHeader routerId areaId authType authKey keyId cryptSeq pktType body).bytes ++
      body).length < 24 := by
    rw [List.length_append, h24, OspfHeader.size]
    omega
  have htypes : (sentHeader routerId areaId authType authKey keyId cryptSeq pktType body).authType =
      authType.num := rfl
  unfold verifyAuth
  rw [if_neg hsize, authType_packet hw, if_neg (not_not.2 htypes)]
  cases authType with
  | none => rfl
  | simple =>
    dsimp only
    rw [authData_packet hw]
    exact beq_self_eq_true _
  | md5 => exact absurd rfl hne

/-- **A packet that was cut to the length in its header carries no digest**, so
cryptographic authentication refuses it. -/
theorem verifyAuth_md5_of_length (md5 : Md5) {h : OspfHeader} (hw : h.WireRange) {body : Bytes}
    (hlen : h.length = OspfHeader.size + body.length) (authKey : Bytes) (keyId : Nat) :
    verifyAuth md5 (h.bytes ++ body) .md5 authKey keyId = false := by
  have h24 := OspfHeader.length_bytes hw
  have hshort : (h.bytes ++ body).length < Bytes.toNat (Bytes.slice (h.bytes ++ body) 2 4) + 16 := by
    rw [length_packet hw, List.length_append, h24, hlen]
    omega
  unfold verifyAuth
  dsimp only
  split_ifs <;> rfl

/-! ## Delivery -/

section Delivery

variable {s : Instance} {i : IntfId} {pktType : Nat} {body : Bytes} {dest : IPv4Address}
  {peerId src : IPv4Address} {peer : OspfInterface}

/-- The cryptographic sequence number of the next packet of an interface. -/
def nextCryptSeq (s : Instance) (i : IntfId) : Nat := (s.cryptSeq i + 1) % 4294967296

/-- The header of the next packet of an interface. -/
def nextHeader (s : Instance) (i : IntfId) (pktType : Nat) (body : Bytes) : OspfHeader :=
  sentHeader s.routerId (s.intf i).areaId (s.intf i).authType (s.intf i).authKey
    (s.intf i).authKeyId (nextCryptSeq s i) pktType body

/-- A packet as it leaves an interface. -/
def nextPacket (s : Instance) (i : IntfId) (pktType : Nat) (body : Bytes) : Bytes :=
  (nextHeader s i pktType body).bytes ++ body ++ trailer s.md5 (s.intf i).authType (s.intf i).authKey
    ((nextHeader s i pktType body).bytes ++ body)

/-- `send_packet` on an interface that has a socket. -/
theorem sendPacket_of_socket (dest : IPv4Address) (hsock : (s.intf i).socket = true) (htype : pktType < 256)
    (hlen : OspfHeader.size + body.length < 65536) :
    sendPacket i pktType body dest s = (.ok (),
      { s with
        cryptSeq := Function.update s.cryptSeq i (nextCryptSeq s i)
        sent := s.sent ++ [{ intf := i, dest, pktType, body, data := nextPacket s i pktType body }] }) := by
  have ht := transmitted_eq s.md5 s.routerId (s.intf i).areaId (s.intf i).authType
    (s.intf i).authKey (s.intf i).authKeyId (nextCryptSeq s i) htype hlen
  rw [sendPacket, Eff.get_bind_apply, Eff.when_pos hsock, Eff.lift_bind_apply]
  dsimp only [nextCryptSeq] at ht ⊢
  rw [ht]
  rfl

/-- What the checks of a peer leave of a packet. -/
theorem acceptPacket_next (hp : Peers s i peerId peer src) (htype : pktType < 256)
    (hlen : OspfHeader.size + body.length < 65536) :
    acceptPacket s.md5 peerId peer (nextPacket s i pktType body) src =
      if (s.intf i).authType = .md5 then none else some (nextHeader s i pktType body, body) := by
  have hw : (nextHeader s i pktType body).WireRange := wireRange_sentHeader _ _ _ _ _ _ htype hlen
  have hhl : (nextHeader s i pktType body).length = OspfHeader.size + body.length := rfl
  have h24 := OspfHeader.length_bytes hw
  have hde : OspfHeader.deserialize (nextPacket s i pktType body) =
      .ok (nextHeader s i pktType body) := by
    rw [nextPacket, List.append_assoc]
    exact OspfHeader.deserialize_bytes hw _
  have htake : (nextPacket s i pktType body).take (nextHeader s i pktType body).length =
      (nextHeader s i pktType body).bytes ++ body := take_packet hw _ _ hhl
  have hslice : Bytes.slice (nextPacket s i pktType body) OspfHeader.size
      (nextHeader s i pktType body).length = body := slice_packet hw _ _ hhl
  have hrid : (nextHeader s i pktType body).routerId ≠ peerId := hp.routerId
  have harea : (nextHeader s i pktType body).areaId = peer.areaId := hp.areaId
  have hversion : (nextHeader s i pktType body).version = 2 := rfl
  have hlong : ¬(nextPacket s i pktType body).length < (nextHeader s i pktType body).length := by
    rw [nextPacket, List.length_append, List.length_append, h24, hhl]
    omega
  rw [acceptPacket, hde]
  dsimp only
  rw [htake, hslice, if_neg (not_not.2 hversion), if_neg hrid, if_neg hlong,
    if_neg (by rw [hhl]; omega), hp.authType, hp.authKey, hp.authKeyId]
  by_cases hmd5 : (s.intf i).authType = .md5
  · rw [if_pos hmd5, if_neg (by simp [hmd5]), hmd5,
      verifyAuth_md5_of_length s.md5 hw hhl (s.intf i).authKey (s.intf i).authKeyId]
    rfl
  · have hsum : ¬((s.intf i).authType = .none ∧
        ¬verifyIpChecksum ((nextHeader s i pktType body).bytes ++ body) = true) := by
      rintro ⟨hnone, hbad⟩
      apply hbad
      rw [nextHeader, hnone]
      exact verifyIpChecksum_sent ..
    have hauth : verifyAuth s.md5 ((nextHeader s i pktType body).bytes ++ body) (s.intf i).authType
        (s.intf i).authKey (s.intf i).authKeyId = true :=
      verifyAuth_sent _ _ _ _ _ _ htype hlen hmd5
    have hlink : ¬(peer.intfType = .broadcast ∧
        networkAddress src peer.ipMask ≠ networkAddress peer.ipAddr peer.ipMask) :=
      fun h => h.2 (hp.onLink h.1)
    rw [if_neg hmd5, if_neg hsum, if_neg (not_not.2 hauth), if_neg (not_not.2 harea),
      if_neg hlink]

/-- **A packet is delivered exactly when it is not authenticated cryptographically.** -/
theorem delivered_iff (hp : Peers s i peerId peer src) (htype : pktType < 256)
    (hlen : 24 + body.length ≤ 65535) :
    Delivered s i pktType body dest peerId peer src ↔ (s.intf i).authType ≠ .md5 := by
  have hlen' : OspfHeader.size + body.length < 65536 := Nat.lt_succ_of_le hlen
  have hsent := sendPacket_of_socket dest hp.socket htype hlen'
  have haccept := acceptPacket_next hp htype hlen'
  constructor
  · rintro ⟨packet, header, hpacket, hok, -⟩ hmd5
    rw [hsent] at hpacket
    have hdata := List.cons.inj (List.append_cancel_left hpacket)
    rw [← hdata.1] at hok
    change acceptPacket s.md5 peerId peer (nextPacket s i pktType body) src = _ at hok
    rw [haccept, if_pos hmd5] at hok
    cases hok
  · intro hne
    refine ⟨_, nextHeader s i pktType body, by rw [hsent], ?_, rfl, rfl⟩
    change acceptPacket s.md5 peerId peer (nextPacket s i pktType body) src = _
    rw [haccept, if_neg hne]

end Delivery

/-! ## Two routers on a point-to-point link -/

theorem peers_linkRouter (authType : AuthType) :
    Peers (linkRouter authType) 0 2 (linkEnd authType) 167772162 :=
  ⟨rfl, Nat.lt_of_sub_eq_succ rfl, by simp [linkRouter, Instance.init], rfl, rfl, rfl, rfl,
    fun h => by cases h⟩

theorem delivered_linkRouter :
    Delivered (linkRouter .simple) 0 packetTypeLsack [1, 2, 3] allSpfRouters 2 (linkEnd .simple)
      167772162 ↔ ((linkRouter .simple).intf 0).authType ≠ .md5 :=
  delivered_iff (peers_linkRouter .simple) (by decide) (by decide)

/-- The router with cryptographic authentication is not heard. -/
theorem not_all_delivered : ¬∀ s i pktType body dest peerId peer src, Peers s i peerId peer src →
    pktType < 256 → 24 + body.length ≤ 65535 →
    Delivered s i pktType body dest peerId peer src := by
  intro hall
  obtain ⟨packet, header, hpacket, hok, -⟩ := hall (linkRouter .md5) 0 packetTypeLsack []
    allSpfRouters 2 (linkEnd .md5) 167772162 (peers_linkRouter .md5) (by decide) (by decide)
  rw [sendPacket_of_socket _ rfl (by decide) (by decide)] at hpacket
  rw [← (List.cons.inj (List.append_cancel_left hpacket)).1] at hok
  change acceptPacket (linkRouter .md5).md5 2 (linkEnd .md5)
    (nextPacket (linkRouter .md5) 0 packetTypeLsack []) 167772162 = _ at hok
  rw [acceptPacket_next (peers_linkRouter .md5) (by decide) (by decide)] at hok
  cases hok

end Ospfd
