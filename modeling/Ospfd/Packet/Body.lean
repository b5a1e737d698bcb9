import Ospfd.Packet.Lsa

/-!
# Packet bodies

The five OSPF packet bodies.

* `HelloPacket`, `DDPacket`, `LsrPacket`, `LsuPacket`, `LsackPacket` — with the
  decoders the receiver runs and the encoders the sender runs.
* `DDPacket.deserialize_serialize` — **a database description in wire range
  survives the wire**.
* `DDPacket.wireRange_of_deserialize`, `LsuPacket.fresh_of_deserialize` — what a
  decoder can hand on.
-/

namespace Ospfd

/-- `LsaHeader.deserialize(data[pos:])`. -/
def readHeader (data : Bytes) (pos : Nat) : Except PyError LsaHeader :=
  LsaHeader.deserialize (data.drop pos)

/-- The headers from `pos` on: `while pos + LSA_HDR_LEN <= len(data)`. -/
def readHeaders (data : Bytes) (pos : Nat) : Except PyError (List LsaHeader) :=
  readRecords (readHeader data) LsaHeader.size ((data.length - pos) / LsaHeader.size) pos

/-- A list of headers in wire range is read back. -/
theorem readHeaders_serializeAll {hs : List LsaHeader} (hw : ∀ h ∈ hs, h.WireRange) :
    ∃ b, serializeAll LsaHeader.serialize hs = .ok b ∧ b.length = LsaHeader.size * hs.length ∧
      ∀ pre : Bytes, readHeaders (pre ++ b) pre.length = .ok hs := by
  obtain ⟨b, hb, hlen, hread⟩ : ∃ b, serializeAll LsaHeader.serialize hs = .ok b ∧
      b.length = LsaHeader.size * hs.length ∧ ∀ pre post, readRecords
        (readHeader (pre ++ b ++ post)) LsaHeader.size hs.length pre.length = .ok hs := by
    refine readRecords_serializeAll hs fun h hh => ?_
    obtain ⟨b, hb, hlen, hde⟩ := LsaHeader.deserialize_serialize (hw h hh)
    refine ⟨b, hb, hlen, fun pre post => ?_⟩
    rw [readHeader, List.append_assoc, List.drop_left, hde]
  refine ⟨b, hb, hlen, fun pre => ?_⟩
  have hn : ((pre ++ b).length - pre.length) / LsaHeader.size = hs.length := by
    rw [List.length_append, Nat.add_sub_cancel_left, hlen, LsaHeader.size]
    omega
  have h := hread pre []
  rw [List.append_nil] at h
  rw [readHeaders, hn, h]

theorem wireRange_of_readRecords {data : Bytes} {n : Nat} : ∀ {pos : Nat} {hs : List LsaHeader},
    readRecords (readHeader data) LsaHeader.size n pos = .ok hs → ∀ h ∈ hs, h.WireRange := by
  induction n with
  | zero =>
    intro pos hs hr
    cases hr
    simp
  | succ n ih =>
    intro pos hs hr
    rw [readRecords] at hr
    split at hr
    · cases hr
    · rename_i h hh
      split at hr
      · cases hr
      · rename_i hs' hrest
        cases hr
        intro x hx
        rcases List.mem_cons.1 hx with rfl | hx
        · exact LsaHeader.wireRange_of_deserialize hh
        · exact ih hrest x hx

/-! ## Hello -/

/-- Hello packet body. -/
structure HelloPacket where
  networkMask : IPv4Address
  helloInterval : Int
  options : Nat
  priority : Int
  deadInterval : Int
  designatedRouter : IPv4Address
  backupDesignatedRouter : IPv4Address
  neighbors : List IPv4Address := []
  deriving DecidableEq, Repr

namespace HelloPacket

def format : List Struct.Code := [.s 4, .H, .B, .B, .I, .s 4, .s 4]

def serialize (h : HelloPacket) : Except PyError Bytes := do
  let data ← pack format [.bytes (packed h.networkMask), unsignedField h.helloInterval,
    .nat h.options, unsignedField h.priority, unsignedField h.deadInterval,
    .bytes (packed h.designatedRouter), .bytes (packed h.backupDesignatedRouter)]
  .ok (data ++ (h.neighbors.map packed).flatten)

def deserialize (data : Bytes) : Except PyError HelloPacket :=
  match unpackFrom format data 0 with
  | .ok [.bytes mask, .nat helloInterval, .nat options, .nat priority, .nat deadInterval,
      .bytes dr, .bytes bdr] =>
      match readRecords (fun p => addressOfBytes (Bytes.slice data p (p + 4))) 4
          ((data.length - 20) / 4) 20 with
      | .error e => .error e
      | .ok neighbors =>
          .ok { networkMask := addressField mask, helloInterval, options, priority, deadInterval,
                designatedRouter := addressField dr, backupDesignatedRouter := addressField bdr,
                neighbors }
  | .ok _ => .error .structError
  | .error e => .error e

end HelloPacket

/-! ## Database Description -/

/-- Database Description packet body. -/
structure DDPacket where
  interfaceMtu : Nat
  options : Nat
  /-- I, M and MS bits. -/
  flags : Nat
  ddSeqNumber : Int
  lsaHeaders : List LsaHeader := []
  deriving DecidableEq, Repr

namespace DDPacket

def isInit (dd : DDPacket) : Bool := dd.flags &&& ddFlagI != 0

def isMore (dd : DDPacket) : Bool := dd.flags &&& ddFlagM != 0

def isMaster (dd : DDPacket) : Bool := dd.flags &&& ddFlagMS != 0

def format : List Struct.Code := [.H, .B, .B, .i]

def serialize (dd : DDPacket) : Except PyError Bytes := do
  let data ← pack format [.nat dd.interfaceMtu, .nat dd.options, .nat dd.flags, .int dd.ddSeqNumber]
  let headers ← serializeAll LsaHeader.serialize dd.lsaHeaders
  .ok (data ++ headers)

def deserialize (data : Bytes) : Except PyError DDPacket :=
  match unpackFrom format data 0 with
  | .ok [.nat interfaceMtu, .nat options, .nat flags, .int ddSeqNumber] =>
      match readHeaders data 8 with
      | .error e => .error e
      | .ok lsaHeaders => .ok { interfaceMtu, options, flags, ddSeqNumber, lsaHeaders }
  | .ok _ => .error .structError
  | .error e => .error e

/-- Every field fits the bytes it is given on the wire. -/
structure WireRange (dd : DDPacket) : Prop where
  interfaceMtu : dd.interfaceMtu < 65536
  options : dd.options < 256
  flags : dd.flags < 256
  ddSeqNumber : -2147483648 ≤ dd.ddSeqNumber ∧ dd.ddSeqNumber < 2147483648
  lsaHeaders : ∀ h ∈ dd.lsaHeaders, h.WireRange

/-- **A database description in wire range survives the wire.** -/
theorem deserialize_serialize {dd : DDPacket} (hw : dd.WireRange) :
    ∃ b, dd.serialize = .ok b ∧ b.length = 8 + 20 * dd.lsaHeaders.length ∧
      deserialize b = .ok dd := by
  have hfits : List.Forall₂ Struct.Fits format
      [.nat dd.interfaceMtu, .nat dd.options, .nat dd.flags, .int dd.ddSeqNumber] := by
    simp only [format, List.forall₂_cons, Struct.Fits]
    exact ⟨hw.interfaceMtu, hw.options, hw.flags, hw.ddSeqNumber, .nil⟩
  obtain ⟨b, hb, hlen, hun⟩ := Struct.unpackFrom_pack hfits
  obtain ⟨bs, hbs, hlens, hread⟩ := readHeaders_serializeAll hw.lsaHeaders
  have hlen8 : b.length = 8 := hlen
  have hser : dd.serialize = .ok (b ++ bs) := by
    rw [serialize, pack, hb, hbs]
    rfl
  refine ⟨b ++ bs, hser, by rw [List.length_append, hlen8, hlens, LsaHeader.size], ?_⟩
  have h0 := hun [] bs
  have h8 := hread b
  rw [List.nil_append, List.length_nil] at h0
  rw [hlen8] at h8
  rw [deserialize, unpackFrom, h0, h8]

/-- A description that is serialized is in wire range. -/
theorem wireRange_of_serialize {dd : DDPacket} {b : Bytes} (h : dd.serialize = .ok b) : dd.WireRange := by
  rw [serialize] at h
  rcases hdata : (pack format [.nat dd.interfaceMtu, .nat dd.options, .nat dd.flags,
    .int dd.ddSeqNumber] : Except PyError Bytes) with e | data
  · rw [hdata] at h
    cases h
  · rw [hdata] at h
    rcases hall : serializeAll LsaHeader.serialize dd.lsaHeaders with e | headers
    · rw [hall] at h
      cases h
    · have hfilled : List.Forall₂ Struct.Filled format
          [.nat dd.interfaceMtu, .nat dd.options, .nat dd.flags, .int dd.ddSeqNumber] := by
        simp only [format, List.forall₂_cons, Struct.Filled]
        refine ⟨?_, ?_, ?_, ?_, .nil⟩ <;> rintro n bs ⟨⟩
      have hfits := Struct.fits_of_pack (Option.eq_some_of_isSome ?_) hfilled
      · simp only [format, List.forall₂_cons, Struct.Fits] at hfits
        obtain ⟨hmtu, hoptions, hflags, hseq, -⟩ := hfits
        refine ⟨hmtu, hoptions, hflags, hseq, fun k hk => ?_⟩
        obtain ⟨b', hb'⟩ := serialize_of_serializeAll hall k hk
        exact LsaHeader.wireRange_of_serialize hb'
      · rw [pack] at hdata
        split at hdata
        · rename_i b' hb'
          rw [hb']
          rfl
        · cases hdata

/-- The number of a decoded packet is that of a signed field. -/
theorem seq_of_deserialize {data : Bytes} {dd : DDPacket} (hd : deserialize data = .ok dd) :
    -2147483648 ≤ dd.ddSeqNumber ∧ dd.ddSeqNumber < 2147483648 := by
  rw [deserialize] at hd
  split at hd
  · rename_i hun
    split at hd
    · cases hd
    · cases hd
      have hfits := fits_of_unpackFrom hun
      simp only [format, List.forall₂_cons, Struct.Fits] at hfits
      exact hfits.2.2.2.1
  · cases hd
  · cases hd

/-- The headers of a decoded packet are in wire range. -/
theorem wireRange_of_deserialize {data : Bytes} {dd : DDPacket} (hd : deserialize data = .ok dd) :
    ∀ h ∈ dd.lsaHeaders, h.WireRange := by
  rw [deserialize] at hd
  split at hd
  · split at hd
    · cases hd
    · rename_i hs hread
      cases hd
      exact wireRange_of_readRecords hread
  · cases hd
  · cases hd

end DDPacket

/-! ## Link State Request -/

/-- A single request item. -/
structure LsrItem where
  lsType : Nat
  linkStateId : IPv4Address
  advertisingRouter : IPv4Address
  deriving DecidableEq, Repr

namespace LsrItem

def format : List Struct.Code := [.I, .s 4, .s 4]

def size : Nat := 12

def serialize (i : LsrItem) : Except PyError Bytes :=
  pack format [.nat i.lsType, .bytes (packed i.linkStateId), .bytes (packed i.advertisingRouter)]

def deserialize (data : Bytes) (offset : Nat) : Except PyError LsrItem :=
  match unpackFrom format data offset with
  | .ok [.nat lsType, .bytes lsId, .bytes advRtr] =>
      .ok { lsType, linkStateId := addressField lsId, advertisingRouter := addressField advRtr }
  | .ok _ => .error .structError
  | .error e => .error e

def key (i : LsrItem) : LsaKey := ⟨i.lsType, i.linkStateId, i.advertisingRouter⟩

/-- An item whose type fits four bytes is packed into twelve. -/
theorem serialize_ok {i : LsrItem} (h : i.lsType < 4294967296) :
    ∃ b, i.serialize = .ok b ∧ b.length = size := by
  have hfits : List.Forall₂ Struct.Fits format
      [.nat i.lsType, .bytes (packed i.linkStateId), .bytes (packed i.advertisingRouter)] := by
    simp only [format, List.forall₂_cons, Struct.Fits, length_packed, true_and]
    exact ⟨h, .nil⟩
  obtain ⟨b, hb, hlen, -⟩ := Struct.unpackFrom_pack hfits
  exact ⟨b, by rw [serialize, pack, hb], hlen⟩

end LsrItem

/-- Link State Request packet body. -/
structure LsrPacket where
  items : List LsrItem := []
  deriving DecidableEq, Repr

namespace LsrPacket

def serialize (p : LsrPacket) : Except PyError Bytes := serializeAll LsrItem.serialize p.items

def deserialize (data : Bytes) : Except PyError LsrPacket :=
  (readRecords (LsrItem.deserialize data) LsrItem.size (data.length / LsrItem.size) 0).map
    fun items => { items }

/-- A request whose types fit is packed into twelve bytes an item. -/
theorem serialize_ok {p : LsrPacket} (h : ∀ i ∈ p.items, i.lsType < 4294967296) :
    ∃ b, p.serialize = .ok b ∧ b.length = LsrItem.size * p.items.length := by
  rcases p with ⟨items⟩
  simp only [serialize]
  induction items with
  | nil => exact ⟨[], rfl, rfl⟩
  | cons i items ih =>
    obtain ⟨b, hb, hlen⟩ := LsrItem.serialize_ok (h i (List.mem_cons_self ..))
    obtain ⟨bs, hbs, hlens⟩ := ih fun j hj => h j (List.mem_cons_of_mem _ hj)
    refine ⟨b ++ bs, by rw [serializeAll, hb, hbs], ?_⟩
    rw [List.length_append, hlen, hlens, List.length_cons, Nat.mul_succ, Nat.add_comm]

end LsrPacket

/-! ## Link State Update -/

/-- Link State Update packet body, as it is decoded. -/
structure LsuPacket where
  lsas : List Lsa := []
  deriving DecidableEq, Repr

namespace LsuPacket

/-- Up to `n` LSAs, the first at `pos`; the loop ends where the data does. -/
def readLsas (data : Bytes) : Nat → Nat → Except PyError (List Lsa)
  | 0, _ => .ok []
  | n + 1, pos =>
      if data.length ≤ pos then .ok []
      else
        match Lsa.deserialize data pos with
        | .error e => .error e
        | .ok (lsa, consumed) =>
            if consumed = 0 then .ok []
            else
              match readLsas data n (pos + consumed) with
              | .error e => .error e
              | .ok lsas => .ok (lsa :: lsas)

def deserialize (data : Bytes) : Except PyError LsuPacket :=
  match unpackFrom [.I] data 0 with
  | .ok [.nat numLsas] =>
      if numLsas > 1000 then .error (.valueError s!"LSU num_lsas {numLsas} exceeds limit")
      else (readLsas data numLsas 4).map fun lsas => { lsas }
  | .ok _ => .error .structError
  | .error e => .error e

end LsuPacket

/-- A decoded LSA: its header is in wire range and it is not installed yet. -/
structure Lsa.Fresh (lsa : Lsa) : Prop where
  wireRange : lsa.header.WireRange
  installTime : lsa.installTime = none
  installedAge : lsa.installedAge = 0

theorem Lsa.fresh_of_deserialize {data : Bytes} {pos n : Nat} {lsa : Lsa}
    (h : Lsa.deserialize data pos = .ok (lsa, n)) : lsa.Fresh := by
  rw [Lsa.deserialize] at h
  split at h
  · cases h
  · rename_i header hh
    dsimp only at h
    split at h
    · cases h
    · split at h
      · cases h
      · split at h
        · cases h
        · cases h
          exact ⟨LsaHeader.wireRange_of_deserialize hh, rfl, rfl⟩

theorem LsuPacket.decoded_of_readLsas {data : Bytes} : ∀ {n pos : Nat} {lsas : List Lsa},
    readLsas data n pos = .ok lsas →
      ∀ lsa ∈ lsas, ∃ p consumed, pos ≤ p ∧ Lsa.deserialize data p = .ok (lsa, consumed)
  | 0, _, _, h => by
    cases h
    simp
  | n + 1, pos, lsas, h => by
    rw [readLsas] at h
    split at h
    · cases h
      simp
    · split at h
      · cases h
      · rename_i lsa consumed hlsa
        split at h
        · cases h
          simp
        · split at h
          · cases h
          · rename_i rest hrest
            cases h
            intro x hx
            rcases List.mem_cons.1 hx with rfl | hx
            · exact ⟨pos, consumed, Nat.le_refl _, hlsa⟩
            · obtain ⟨p, consumed', hp, hdec⟩ := decoded_of_readLsas hrest x hx
              exact ⟨p, consumed', by omega, hdec⟩

/-- Every LSA of a decoded update was decoded, behind the count. -/
theorem LsuPacket.decoded_of_deserialize {data : Bytes} {p : LsuPacket}
    (h : LsuPacket.deserialize data = .ok p) :
    ∀ lsa ∈ p.lsas, ∃ pos consumed, 4 ≤ pos ∧ Lsa.deserialize data pos = .ok (lsa, consumed) := by
  rw [deserialize] at h
  split at h
  · rename_i n hn
    split at h
    · cases h
    · rcases hr : readLsas data n 4 with e | lsas
      · rw [hr] at h
        cases h
      · rw [hr] at h
        cases h
        exact decoded_of_readLsas hr
  · cases h
  · cases h

theorem LsuPacket.length_of_readLsas {data : Bytes} : ∀ {n pos : Nat} {lsas : List Lsa},
    readLsas data n pos = .ok lsas → lsas.length ≤ n
  | 0, _, _, h => by
    cases h
    exact Nat.le_refl _
  | n + 1, pos, lsas, h => by
    rw [readLsas] at h
    split at h
    · cases h
      exact Nat.zero_le _
    · split at h
      · cases h
      · split at h
        · cases h
          exact Nat.zero_le _
        · split at h
          · cases h
          · rename_i rest hrest
            cases h
            exact Nat.succ_le_succ (length_of_readLsas hrest)

/-- A decoded update has at most 1,000 LSAs. -/
theorem LsuPacket.length_of_deserialize {data : Bytes} {p : LsuPacket}
    (h : LsuPacket.deserialize data = .ok p) : p.lsas.length ≤ 1000 := by
  rw [deserialize] at h
  split at h
  · rename_i n hn
    split at h
    · cases h
    · rename_i hle
      rcases hr : readLsas data n 4 with e | lsas
      · rw [hr] at h
        cases h
      · rw [hr] at h
        cases h
        exact (length_of_readLsas hr).trans (Nat.not_lt.1 hle)
  · cases h
  · cases h

/-- Every LSA of a decoded update is fresh. -/
theorem LsuPacket.fresh_of_deserialize {data : Bytes} {p : LsuPacket}
    (h : LsuPacket.deserialize data = .ok p) : ∀ lsa ∈ p.lsas, lsa.Fresh := by
  intro lsa hlsa
  obtain ⟨pos, consumed, -, hdec⟩ := decoded_of_deserialize h lsa hlsa
  exact Lsa.fresh_of_deserialize hdec

/-! ## Link State Acknowledgment -/

/-- Link State Acknowledgment packet body. -/
structure LsackPacket where
  lsaHeaders : List LsaHeader := []
  deriving DecidableEq, Repr

namespace LsackPacket

def serialize (p : LsackPacket) : Except PyError Bytes :=
  serializeAll LsaHeader.serialize p.lsaHeaders

def deserialize (data : Bytes) : Except PyError LsackPacket :=
  (readHeaders data 0).map fun lsaHeaders => { lsaHeaders }

end LsackPacket
end Ospfd
