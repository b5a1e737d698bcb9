import Ospfd.Packet.Checksum
import Ospfd.Packet.Wire

/-!
# The packet header and its authentication

* `OspfHeader` — the 24-byte header common to all packets.
* `applyAuth`, `verifyAuth` — the authentication field, and for cryptographic
  authentication the digest after the packet.
* `transmitted` — the bytes `send_packet` puts on the wire.
* `OspfHeader.deserialize_serialize` — a header in wire range survives the wire.
* `transmitted_eq` — **the layout of a transmitted packet**, field by field.
-/

namespace Ospfd

/-! ## The header -/

/-- The common packet header. -/
structure OspfHeader where
  version : Nat
  type : Nat
  length : Nat
  routerId : IPv4Address
  areaId : IPv4Address
  checksum : Nat
  authType : Nat
  authData : Bytes
  deriving DecidableEq, Repr

namespace OspfHeader

def format : List Struct.Code := [.B, .B, .H, .s 4, .s 4, .H, .H, .s 8]

def size : Nat := 24

def fields (h : OspfHeader) : List Struct.Value :=
  [.nat h.version, .nat h.type, .nat h.length, .bytes (packed h.routerId), .bytes (packed h.areaId),
    .nat h.checksum, .nat h.authType, .bytes h.authData]

def serialize (h : OspfHeader) : Except PyError Bytes := pack format h.fields

def deserialize (data : Bytes) : Except PyError OspfHeader :=
  if data.length < size then
    let got := data.length
    .error (.valueError s!"OSPF header requires 24 bytes, got {got}")
  else
    match unpackFrom format data 0 with
    | .ok [.nat version, .nat type, .nat length, .bytes routerId, .bytes areaId, .nat checksum,
        .nat authType, .bytes authData] =>
        .ok { version, type, length, routerId := addressField routerId,
              areaId := addressField areaId, checksum, authType, authData }
    | .ok _ => .error .structError
    | .error e => .error e

/-- A header with the version preset, and the length and checksum still to fill in. -/
def build (pktType : Nat) (routerId areaId : IPv4Address) (authType : AuthType)
    (authData : Bytes) : OspfHeader :=
  { version := ospfVersion, type := pktType, length := 0, routerId, areaId, checksum := 0,
    authType := authType.num, authData }

/-- Every field fits the bytes it is given on the wire. -/
structure WireRange (h : OspfHeader) : Prop where
  version : h.version < 256
  type : h.type < 256
  length : h.length < 65536
  checksum : h.checksum < 65536
  authType : h.authType < 65536
  authData : h.authData.length = 8

/-- The bytes before the checksum. -/
def leading (h : OspfHeader) : Bytes :=
  Bytes.ofNat 1 h.version ++ Bytes.ofNat 1 h.type ++ Bytes.ofNat 2 h.length ++ packed h.routerId ++
    packed h.areaId

/-- The bytes of a header in wire range. -/
def bytes (h : OspfHeader) : Bytes :=
  h.leading ++ Bytes.ofNat 2 h.checksum ++ Bytes.ofNat 2 h.authType ++ h.authData

@[simp] theorem length_leading (h : OspfHeader) : h.leading.length = 12 := by
  simp [leading]

theorem serialize_eq {h : OspfHeader} (hw : h.WireRange) : h.serialize = .ok h.bytes := by
  have hdata : h.authData.take 8 ++ List.replicate (8 - h.authData.length) 0 = h.authData := by
    rw [← hw.authData]
    simp
  have hp : ∀ a, (packed a).take 4 ++ List.replicate (4 - (packed a).length) 0 = packed a := by
    intro a
    simp [List.take_of_length_le]
  simp only [serialize, pack, format, fields, Struct.pack, Struct.pack1, if_pos hw.version,
    if_pos hw.type, if_pos hw.length, if_pos hw.checksum, if_pos hw.authType, hp, hdata,
    List.append_nil]
  simp only [bytes, leading, List.append_assoc]

theorem fits_fields {h : OspfHeader} (hw : h.WireRange) :
    List.Forall₂ Struct.Fits format h.fields := by
  simp only [format, fields, List.forall₂_cons, Struct.Fits, length_packed, true_and]
  exact ⟨hw.version, hw.type, hw.length, hw.checksum, hw.authType, hw.authData, .nil⟩

theorem length_bytes {h : OspfHeader} (hw : h.WireRange) : h.bytes.length = size := by
  simp [bytes, hw.authData, size]

/-- A header in wire range survives the wire. -/
theorem deserialize_bytes {h : OspfHeader} (hw : h.WireRange) (post : Bytes) :
    deserialize (h.bytes ++ post) = .ok h := by
  obtain ⟨b, hb, hlen, hun⟩ := Struct.unpackFrom_pack (fits_fields hw)
  have hbytes : b = h.bytes := by
    have hs := serialize_eq hw
    rw [serialize, pack, hb] at hs
    exact Except.ok.inj hs
  subst hbytes
  have hlen' : h.bytes.length = 24 := hlen
  have h0 := hun [] post
  rw [List.nil_append, List.length_nil] at h0
  rw [deserialize, if_neg (by rw [List.length_append, hlen', size]; omega), unpackFrom, h0]
  simp only [fields, addressField_packed]

/-- **A decoded header is in wire range**, and its bytes are the first ones of the packet. -/
theorem bytes_of_deserialize {data : Bytes} {h : OspfHeader} (hd : deserialize data = .ok h) :
    h.WireRange ∧ h.bytes = data.take size := by
  have haddr : ∀ {b : Bytes}, b.length = 4 → packed (addressField b) = b := by
    intro b hb
    have hlt := Bytes.toNat_lt b
    have hback := Bytes.ofNat_toNat b
    rw [hb] at hlt hback
    change Bytes.ofNat 4 (Bytes.toNat b % 256 ^ 4) = b
    rw [Nat.mod_eq_of_lt hlt, hback]
  rw [deserialize] at hd
  split at hd
  · cases hd
  · rename_i hlen
    have hsize : Struct.calcsize format ≤ data.length := Nat.not_lt.1 hlen
    split at hd
    · rename_i version type length routerId areaId checksum authType authData hun
      have hfits := fits_of_unpackFrom hun
      simp only [format, List.forall₂_cons, Struct.Fits] at hfits
      obtain ⟨hv, ht, hl, hr, ha, hc, hat, had, -⟩ := hfits
      obtain rfl := Except.ok.inj hd
      have hw : OspfHeader.WireRange
          { version, type, length, routerId := addressField routerId, areaId := addressField areaId,
            checksum, authType, authData } := ⟨hv, ht, hl, hc, hat, had⟩
      have hall : Struct.unpackFrom format data 0 = some (Struct.unpackAll format data) := by
        rw [Struct.unpackFrom, if_pos (by omega), List.drop_zero]
      have hpack := Struct.pack_unpackAll hsize
      rw [unpackFrom, hall] at hun
      rw [Except.ok.inj hun] at hpack
      have hser := serialize_eq hw
      rw [serialize, fields, haddr hr, haddr ha, pack, hpack] at hser
      exact ⟨hw, (Except.ok.inj hser).symm⟩
    · cases hd
    · cases hd

/-! ### Writing single fields -/

theorem overwrite_checksum (h : OspfHeader) (c : Nat) (body : Bytes) :
    Bytes.overwrite (h.bytes ++ body) 12 (Bytes.ofNat 2 c) =
      { h with checksum := c }.bytes ++ body := by
  have hlen : h.leading.length = 12 := length_leading h
  have hw := Bytes.overwrite_append_append h.leading (Bytes.ofNat 2 h.checksum)
    (Bytes.ofNat 2 h.authType ++ h.authData ++ body)
    (show (Bytes.ofNat 2 c).length = (Bytes.ofNat 2 h.checksum).length by simp)
  rw [hlen] at hw
  simpa only [bytes, leading, List.append_assoc] using hw

theorem overwrite_authType (h : OspfHeader) (t : Nat) (body : Bytes) :
    Bytes.overwrite (h.bytes ++ body) 14 (Bytes.ofNat 2 t) =
      { h with authType := t }.bytes ++ body := by
  have hlen : (h.leading ++ Bytes.ofNat 2 h.checksum).length = 14 := by simp
  have hw := Bytes.overwrite_append_append (h.leading ++ Bytes.ofNat 2 h.checksum)
    (Bytes.ofNat 2 h.authType) (h.authData ++ body)
    (show (Bytes.ofNat 2 t).length = (Bytes.ofNat 2 h.authType).length by simp)
  rw [hlen] at hw
  simpa only [bytes, leading, List.append_assoc] using hw

theorem overwrite_authData {h : OspfHeader} {d : Bytes} (hd : h.authData.length = 8)
    (hd' : d.length = 8) (body : Bytes) :
    Bytes.overwrite (h.bytes ++ body) 16 d = { h with authData := d }.bytes ++ body := by
  have hlen : (h.leading ++ Bytes.ofNat 2 h.checksum ++ Bytes.ofNat 2 h.authType).length = 16 := by
    simp
  have hw := Bytes.overwrite_append_append
    (h.leading ++ Bytes.ofNat 2 h.checksum ++ Bytes.ofNat 2 h.authType) h.authData body
    (hd'.trans hd.symm)
  rw [hlen] at hw
  simpa only [bytes, leading, List.append_assoc] using hw

end OspfHeader

/-! ## Authentication -/

/-- A hash of 16 bytes; the daemon uses MD5. -/
abbrev Md5 : Type := Bytes → { d : Bytes // d.length = 16 }

/-- `key[:n].ljust(n, b"\0")`. -/
def padKey (n : Nat) (key : Bytes) : Bytes := key.take n ++ List.replicate (n - key.length) 0

@[simp] theorem length_padKey (n : Nat) (key : Bytes) : (padKey n key).length = n := by
  simp only [padKey, List.length_append, List.length_take, List.length_replicate]
  omega

/-- The authentication field of a cryptographically authenticated packet. -/
def cryptoField (keyId cryptSeq : Nat) : Bytes :=
  [0, UInt8.ofNat (keyId % 256), 16, 0] ++ Bytes.ofNat 4 cryptSeq

@[simp] theorem length_cryptoField (keyId cryptSeq : Nat) : (cryptoField keyId cryptSeq).length = 8 := by
  simp [cryptoField]

/-- `apply_auth`: fill in AuType and the authentication field of a packet whose
checksum is computed, and append the digest where there is one. -/
def applyAuth (md5 : Md5) (packet : Bytes) (authType : AuthType) (authKey : Bytes)
    (keyId cryptSeq : Nat) : Bytes :=
  let packet := Bytes.overwrite packet 14 (Bytes.ofNat 2 authType.num)
  match authType with
  | .none => packet
  | .simple => Bytes.overwrite packet 16 (padKey 8 authKey)
  | .md5 =>
      let packet := Bytes.overwrite packet 16 (cryptoField keyId cryptSeq)
      packet ++ (md5 (packet ++ padKey 16 authKey)).1

/-- A byte of a packet, as a number. -/
def byteAt (data : Bytes) (i : Nat) : Nat := (data.getD i 0).toNat

/-- `verify_auth`. -/
def verifyAuth (md5 : Md5) (packet : Bytes) (authType : AuthType) (authKey : Bytes)
    (keyId : Nat) : Bool :=
  if packet.length < 24 then false
  else if Bytes.toNat (Bytes.slice packet 14 16) ≠ authType.num then false
  else
    match authType with
    | .none => true
    | .simple => Bytes.slice packet 16 24 == padKey 8 authKey
    | .md5 =>
        if packet.length < 24 + 16 then false
        else if byteAt packet 17 ≠ keyId then false
        else if byteAt packet 18 ≠ 16 then false
        else
          let ospfLen := Bytes.toNat (Bytes.slice packet 2 4)
          if packet.length < ospfLen + 16 then false
          else Bytes.slice packet ospfLen (ospfLen + 16) ==
            (md5 (packet.take ospfLen ++ padKey 16 authKey)).1

/-! ## Transmission -/

/-- What the checksum of a packet is computed over: everything, with the
authentication field taken as zero unless there is no authentication. -/
def checksummed (authType : AuthType) (raw : Bytes) : Bytes :=
  match authType with
  | .none => raw
  | _ => Bytes.overwrite raw 16 (List.replicate 8 0)

/-- The bytes `send_packet` hands to the socket. -/
def transmitted (md5 : Md5) (routerId areaId : IPv4Address) (authType : AuthType) (authKey : Bytes)
    (keyId cryptSeq pktType : Nat) (body : Bytes) : Except PyError Bytes := do
  let header := OspfHeader.build pktType routerId areaId .none (List.replicate 8 0)
  let header := { header with length := OspfHeader.size + body.length }
  let raw := (← header.serialize) ++ body
  let raw := Bytes.overwrite raw 12 [0, 0]
  let chksum := ipChecksum (checksummed authType raw)
  let raw := Bytes.overwrite raw 12 [UInt8.ofNat (chksum / 256), UInt8.ofNat (chksum % 256)]
  .ok (applyAuth md5 raw authType authKey keyId cryptSeq)

/-- What authentication puts into the authentication field. -/
def authField (authType : AuthType) (authKey : Bytes) (keyId cryptSeq : Nat) : Bytes :=
  match authType with
  | .none => List.replicate 8 0
  | .simple => padKey 8 authKey
  | .md5 => cryptoField keyId cryptSeq

@[simp] theorem length_authField (authType : AuthType) (authKey : Bytes) (keyId cryptSeq : Nat) :
    (authField authType authKey keyId cryptSeq).length = 8 := by
  cases authType <;> simp [authField]

/-- What authentication appends to a packet. -/
def trailer (md5 : Md5) (authType : AuthType) (authKey packet : Bytes) : Bytes :=
  match authType with
  | .md5 => (md5 (packet ++ padKey 16 authKey)).1
  | _ => []

/-- Authentication of a packet, field by field. -/
theorem applyAuth_eq (md5 : Md5) {h : OspfHeader} (hdata : h.authData = List.replicate 8 0)
    (body : Bytes) (authType : AuthType) (authKey : Bytes) (keyId cryptSeq : Nat) :
    let sent := { h with authType := authType.num, authData := authField authType authKey keyId cryptSeq }
    applyAuth md5 (h.bytes ++ body) authType authKey keyId cryptSeq =
      sent.bytes ++ body ++ trailer md5 authType authKey (sent.bytes ++ body) := by
  have hlen : ({ h with authType := authType.num } : OspfHeader).authData.length = 8 := by
    simp [hdata]
  intro sent
  cases authType with
  | none =>
    simp only [applyAuth, OspfHeader.overwrite_authType, trailer, List.append_nil]
    rw [show sent = { h with authType := AuthType.none.num } by
      change { h with authType := _, authData := List.replicate 8 0 } = _
      rw [← hdata]]
  | simple =>
    simp only [applyAuth, OspfHeader.overwrite_authType, trailer, List.append_nil]
    rw [OspfHeader.overwrite_authData hlen (length_padKey 8 authKey)]
    rfl
  | md5 =>
    simp only [applyAuth, OspfHeader.overwrite_authType, trailer]
    rw [OspfHeader.overwrite_authData hlen (length_cryptoField keyId cryptSeq)]
    rfl

theorem AuthType.num_lt (authType : AuthType) : authType.num < 65536 := by
  cases authType <;> decide

/-- The header of a packet as it is serialized first: no checksum, no authentication. -/
def draftHeader (routerId areaId : IPv4Address) (pktType : Nat) (body : Bytes) : OspfHeader :=
  { OspfHeader.build pktType routerId areaId .none (List.replicate 8 0) with
    length := OspfHeader.size + body.length }

theorem wireRange_draftHeader (routerId areaId : IPv4Address) {pktType : Nat} {body : Bytes}
    (htype : pktType < 256) (hlen : OspfHeader.size + body.length < 65536) :
    (draftHeader routerId areaId pktType body).WireRange where
  version := Nat.lt_of_sub_eq_succ rfl
  type := htype
  length := hlen
  checksum := Nat.zero_lt_succ _
  authType := AuthType.num_lt .none
  authData := List.length_replicate ..

/-- The header of a transmitted packet. -/
def sentHeader (routerId areaId : IPv4Address) (authType : AuthType) (authKey : Bytes)
    (keyId cryptSeq pktType : Nat) (body : Bytes) : OspfHeader :=
  let draft := draftHeader routerId areaId pktType body
  { draft with
    checksum := ipChecksum (draft.bytes ++ body)
    authType := authType.num
    authData := authField authType authKey keyId cryptSeq }

theorem wireRange_sentHeader (routerId areaId : IPv4Address) (authType : AuthType) (authKey : Bytes)
    (keyId cryptSeq : Nat) {pktType : Nat} {body : Bytes} (htype : pktType < 256)
    (hlen : OspfHeader.size + body.length < 65536) :
    (sentHeader routerId areaId authType authKey keyId cryptSeq pktType body).WireRange where
  version := (wireRange_draftHeader routerId areaId htype hlen).version
  type := htype
  length := hlen
  checksum := ipChecksum_lt _
  authType := AuthType.num_lt _
  authData := length_authField ..

/-- **The layout of a transmitted packet**: the header, the body, and for cryptographic
authentication the digest after them. -/
theorem transmitted_eq (md5 : Md5) (routerId areaId : IPv4Address) (authType : AuthType)
    (authKey : Bytes) (keyId cryptSeq : Nat) {pktType : Nat} {body : Bytes} (htype : pktType < 256)
    (hlen : OspfHeader.size + body.length < 65536) :
    let header := sentHeader routerId areaId authType authKey keyId cryptSeq pktType body
    transmitted md5 routerId areaId authType authKey keyId cryptSeq pktType body =
      .ok (header.bytes ++ body ++ trailer md5 authType authKey (header.bytes ++ body)) := by
  intro header
  let draft := draftHeader routerId areaId pktType body
  have hser : draft.serialize = .ok draft.bytes :=
    OspfHeader.serialize_eq (wireRange_draftHeader routerId areaId htype hlen)
  have hzero : Bytes.overwrite (draft.bytes ++ body) 12 [0, 0] = draft.bytes ++ body :=
    OspfHeader.overwrite_checksum draft 0 body
  -- the checksum is computed over the draft, whose authentication field is zero
  have hsum : checksummed authType (draft.bytes ++ body) = draft.bytes ++ body := by
    have h8 : Bytes.overwrite (draft.bytes ++ body) 16 (List.replicate 8 0) = draft.bytes ++ body :=
      OspfHeader.overwrite_authData (List.length_replicate ..) (List.length_replicate ..) body
    cases authType with
    | none => rfl
    | simple => exact h8
    | md5 => exact h8
  have hauth := applyAuth_eq md5 (h := { draft with checksum := ipChecksum (draft.bytes ++ body) })
    rfl body authType authKey keyId cryptSeq
  change (draft.serialize >>= fun raw => _) = _
  rw [hser]
  change Except.ok (applyAuth md5 (Bytes.overwrite (Bytes.overwrite (draft.bytes ++ body) 12 [0, 0])
    12 [UInt8.ofNat (_ / 256), UInt8.ofNat (_ % 256)]) authType authKey keyId cryptSeq) = _
  rw [hzero, hsum, ← Bytes.ofNat_two, OspfHeader.overwrite_checksum, hauth]
  rfl

/-- A packet that is longer than its header can say is not built. -/
theorem transmitted_error (md5 : Md5) (routerId areaId : IPv4Address) (authType : AuthType)
    (authKey : Bytes) (keyId cryptSeq pktType : Nat) {body : Bytes}
    (hlen : ¬OspfHeader.size + body.length < 65536) :
    transmitted md5 routerId areaId authType authKey keyId cryptSeq pktType body =
      .error .structError := by
  have hno : ∀ h : OspfHeader, ¬h.length < 65536 → h.serialize = .error .structError := by
    intro h hh
    have hnone : Struct.pack OspfHeader.format h.fields = none := by
      simp [OspfHeader.format, OspfHeader.fields, Struct.pack, Struct.pack1, hh]
    rw [OspfHeader.serialize, pack, hnone]
  rw [transmitted, hno _ hlen]
  rfl

end Ospfd
