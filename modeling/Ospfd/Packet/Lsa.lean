import Ospfd.Packet.Checksum
import Ospfd.Packet.Wire

/-!
# Link state advertisements

The LSA header, the bodies of types 1 to 5, the raw body of every other type, and
the complete LSA with its installation metadata.

* `LsaHeader`, `LsaKey` — the 20-byte header and the key an LSA is stored under.
* `LsaBody` — one constructor for each body class.
* `Lsa.currentAge` — the age an installed LSA has at a given time.
* `Lsa.serialize` — serialization, which also fills in length, age and checksum.
* `Lsa.deserialize` — decoding at an offset, with its error paths.
* `deserialize_serialize` (headers) — **a header in wire range survives the wire**.
-/

namespace Ospfd

/-! ## The header -/

/-- `(ls_type, link_state_id, advertising_router)`. -/
structure LsaKey where
  lsType : Nat
  linkStateId : IPv4Address
  advertisingRouter : IPv4Address
  deriving DecidableEq, Repr

/-- The 20-byte header common to all LSA types. -/
structure LsaHeader where
  lsAge : Nat
  options : Nat
  lsType : Nat
  linkStateId : IPv4Address
  advertisingRouter : IPv4Address
  /-- Stored unsigned. -/
  lsSequenceNumber : Nat
  lsChecksum : Nat
  length : Nat
  deriving DecidableEq, Repr

namespace LsaHeader

def format : List Struct.Code := [.H, .B, .B, .s 4, .s 4, .I, .H, .H]

def size : Nat := 20

def fields (h : LsaHeader) : List Struct.Value :=
  [.nat h.lsAge, .nat h.options, .nat h.lsType, .bytes (packed h.linkStateId),
    .bytes (packed h.advertisingRouter), .nat h.lsSequenceNumber, .nat h.lsChecksum, .nat h.length]

def serialize (h : LsaHeader) : Except PyError Bytes := pack format h.fields

def deserialize (data : Bytes) : Except PyError LsaHeader :=
  if data.length < size then
    let got := data.length
    .error (.valueError s!"LSA header requires 20 bytes, got {got}")
  else
    match unpackFrom format data 0 with
    | .ok [.nat lsAge, .nat options, .nat lsType, .bytes lsId, .bytes advRtr, .nat seqNum,
        .nat checksum, .nat length] =>
        .ok { lsAge, options, lsType, linkStateId := addressField lsId,
              advertisingRouter := addressField advRtr, lsSequenceNumber := seqNum,
              lsChecksum := checksum, length }
    | .ok _ => .error .structError
    | .error e => .error e

/-- Unique key for the LSDB. -/
def key (h : LsaHeader) : LsaKey := ⟨h.lsType, h.linkStateId, h.advertisingRouter⟩

/-- Every field fits the bytes it is given on the wire. -/
structure WireRange (h : LsaHeader) : Prop where
  lsAge : h.lsAge < 65536
  options : h.options < 256
  lsType : h.lsType < 256
  lsSequenceNumber : h.lsSequenceNumber < 4294967296
  lsChecksum : h.lsChecksum < 65536
  length : h.length < 65536

theorem fits_fields {h : LsaHeader} (hw : h.WireRange) :
    List.Forall₂ Struct.Fits format h.fields := by
  simp only [format, fields, List.forall₂_cons, Struct.Fits, length_packed, true_and]
  exact ⟨hw.lsAge, hw.options, hw.lsType, hw.lsSequenceNumber, hw.lsChecksum, hw.length, .nil⟩

/-- A header that is serialized is in wire range. -/
theorem wireRange_of_serialize {h : LsaHeader} {b : Bytes} (hs : h.serialize = .ok b) : h.WireRange := by
  have hfilled : List.Forall₂ Struct.Filled format h.fields := by
    simp only [format, fields, List.forall₂_cons, Struct.Filled]
    refine ⟨nofun, nofun, nofun, ?_, ?_, nofun, nofun, nofun, .nil⟩
    · rintro n bs ⟨⟩ ⟨⟩
      exact length_packed _
    · rintro n bs ⟨⟩ ⟨⟩
      exact length_packed _
  rw [serialize, pack] at hs
  split at hs
  · rename_i b' hb
    have hfits := Struct.fits_of_pack hb hfilled
    simp only [format, fields, List.forall₂_cons, Struct.Fits] at hfits
    obtain ⟨h1, h2, h3, -, -, h4, h5, h6, -⟩ := hfits
    exact ⟨h1, h2, h3, h4, h5, h6⟩
  · cases hs

/-- **A header in wire range survives the wire**: it serializes to 20 bytes, and
any string that starts with them is decoded to it. -/
theorem deserialize_serialize {h : LsaHeader} (hw : h.WireRange) :
    ∃ b, h.serialize = .ok b ∧ b.length = size ∧ ∀ post, deserialize (b ++ post) = .ok h := by
  obtain ⟨b, hb, hlen, hun⟩ := Struct.unpackFrom_pack (fits_fields hw)
  have hlen' : b.length = 20 := hlen
  refine ⟨b, by rw [serialize, pack, hb], hlen', fun post => ?_⟩
  have h0 := hun [] post
  rw [List.nil_append, List.length_nil] at h0
  rw [deserialize, if_neg (by rw [List.length_append, hlen', size]; omega), unpackFrom, h0]
  simp only [fields, addressField_packed]

/-- What is decoded is in wire range. -/
theorem wireRange_of_deserialize {data : Bytes} {h : LsaHeader} (hd : deserialize data = .ok h) :
    h.WireRange := by
  rw [deserialize] at hd
  split at hd
  · cases hd
  · rename_i hlen
    rw [size] at hlen
    have hun : unpackFrom format data 0 = .ok (Struct.unpackAll format data) := by
      have hs : 0 + Struct.calcsize format ≤ data.length := by
        have : Struct.calcsize format = 20 := rfl
        omega
      rw [unpackFrom, Struct.unpackFrom, if_pos hs, List.drop_zero]
    rw [hun] at hd
    simp only [format, Struct.unpackAll, Struct.unpack1, Struct.Code.size, Except.ok.injEq] at hd
    subst hd
    -- each number was read from as many bytes as its field has
    have hlt : ∀ (b : Bytes) (n : Nat), Bytes.toNat (b.take n) < 256 ^ n := by
      intro b n
      refine lt_of_lt_of_le (Bytes.toNat_lt _) (Nat.pow_le_pow_right (by omega) ?_)
      rw [List.length_take]
      omega
    exact ⟨hlt _ 2, hlt _ 1, hlt _ 1, hlt _ 4, hlt _ 2, hlt _ 2⟩

end LsaHeader

/-! ## Bodies -/

/-- A single link in a Router-LSA. -/
structure RouterLsaLink where
  linkId : IPv4Address
  linkData : IPv4Address
  type : Nat
  numTos : Nat
  metric : Int
  /-- `(tos, metric)` pairs. -/
  tosMetrics : List (Nat × Nat) := []
  deriving DecidableEq, Repr

namespace RouterLsaLink

def format : List Struct.Code := [.s 4, .s 4, .B, .B, .H]

def tosFormat : List Struct.Code := [.B, .B, .H]

def serialize (l : RouterLsaLink) : Except PyError Bytes := do
  let data ← pack format [.bytes (packed l.linkId), .bytes (packed l.linkData), .nat l.type,
    .nat l.numTos, unsignedField l.metric]
  let tos ← serializeAll (fun p : Nat × Nat => pack tosFormat [.nat p.1, .nat 0, .nat p.2])
    l.tosMetrics
  .ok (data ++ tos)

/-- One TOS metric. -/
def readTos (data : Bytes) (pos : Nat) : Except PyError (Nat × Nat) :=
  match unpackFrom tosFormat data pos with
  | .ok [.nat tos, .nat _, .nat metric] => .ok (tos, metric)
  | .ok _ => .error .structError
  | .error e => .error e

/-- The link at `offset`, and the bytes it took. -/
def deserialize (data : Bytes) (offset : Nat) : Except PyError (RouterLsaLink × Nat) :=
  match unpackFrom format data offset with
  | .ok [.bytes linkId, .bytes linkData, .nat type, .nat numTos, .nat metric] =>
      if numTos * 4 > data.length - (offset + 12) then
        .error (.valueError s!"RouterLsaLink num_tos {numTos} exceeds available data")
      else
        match readRecords (readTos data) 4 numTos (offset + 12) with
        | .error e => .error e
        | .ok tosMetrics =>
            .ok ({ linkId := addressField linkId, linkData := addressField linkData, type, numTos,
                   metric, tosMetrics }, 12 + 4 * numTos)
  | .ok _ => .error .structError
  | .error e => .error e

end RouterLsaLink

/-- Type 1: Router-LSA body. -/
structure RouterLsa where
  /-- V, E and B bits. -/
  flags : Nat
  numLinks : Nat
  links : List RouterLsaLink := []
  deriving DecidableEq, Repr

namespace RouterLsa

def format : List Struct.Code := [.B, .B, .H]

def serialize (r : RouterLsa) : Except PyError Bytes := do
  let data ← pack format [.nat r.flags, .nat 0, .nat r.numLinks]
  let links ← serializeAll RouterLsaLink.serialize r.links
  .ok (data ++ links)

/-- `n` links, the first at `pos`. -/
def readLinks (data : Bytes) : Nat → Nat → Except PyError (List RouterLsaLink)
  | 0, _ => .ok []
  | n + 1, pos =>
      match RouterLsaLink.deserialize data pos with
      | .error e => .error e
      | .ok (link, consumed) =>
          match readLinks data n (pos + consumed) with
          | .error e => .error e
          | .ok links => .ok (link :: links)

def deserialize (data : Bytes) (offset : Nat) : Except PyError RouterLsa :=
  match unpackFrom format data offset with
  | .ok [.nat flags, .nat _, .nat numLinks] =>
      if 0 < numLinks ∧ numLinks * 12 > data.length - offset - 4 then
        .error (.valueError s!"RouterLSA num_links {numLinks} exceeds available data")
      else
        match readLinks data numLinks (offset + 4) with
        | .error e => .error e
        | .ok links => .ok { flags, numLinks, links }
  | .ok _ => .error .structError
  | .error e => .error e

end RouterLsa

/-- Type 2: Network-LSA body. -/
structure NetworkLsa where
  networkMask : IPv4Address
  attachedRouters : List IPv4Address := []
  deriving DecidableEq, Repr

namespace NetworkLsa

def serialize (n : NetworkLsa) : Bytes :=
  packed n.networkMask ++ (n.attachedRouters.map packed).flatten

/-- `length` is the body length; zero stands for the rest of the data. -/
def deserialize (data : Bytes) (offset length : Nat) : Except PyError NetworkLsa :=
  match addressOfBytes (Bytes.slice data offset (offset + 4)) with
  | .error e => .error e
  | .ok networkMask =>
      let pos := offset + 4
      let stop := if length ≠ 0 then offset + length else data.length
      match readRecords (fun p => addressOfBytes (Bytes.slice data p (p + 4))) 4
          ((stop - pos) / 4) pos with
      | .error e => .error e
      | .ok attachedRouters => .ok { networkMask, attachedRouters }

end NetworkLsa

/-- Type 3 and 4: Summary-LSA body. -/
structure SummaryLsa where
  networkMask : IPv4Address
  /-- 24 bits. -/
  metric : Nat
  deriving DecidableEq, Repr

namespace SummaryLsa

def serialize (s : SummaryLsa) : Except PyError Bytes := do
  let word ← pack [.I] [.nat (s.metric % 16777216)]
  .ok (packed s.networkMask ++ word)

def deserialize (data : Bytes) (offset : Nat) : Except PyError SummaryLsa := do
  let networkMask ← addressOfBytes (Bytes.slice data offset (offset + 4))
  match ← unpackFrom [.I] data (offset + 4) with
  | [.nat word] => .ok { networkMask, metric := word % 16777216 }
  | _ => .error .structError

end SummaryLsa

/-- Type 5: AS-external-LSA body. -/
structure ExternalLsa where
  networkMask : IPv4Address
  eBit : Bool
  /-- 24 bits. -/
  metric : Nat
  forwardingAddress : IPv4Address
  externalRouteTag : Nat
  deriving DecidableEq, Repr

namespace ExternalLsa

def serialize (x : ExternalLsa) : Except PyError Bytes := do
  let word := x.metric % 16777216
  let word := if x.eBit then word ||| 0x80000000 else word
  let metricWord ← pack [.I] [.nat word]
  let tag ← pack [.I] [.nat x.externalRouteTag]
  .ok (packed x.networkMask ++ metricWord ++ packed x.forwardingAddress ++ tag)

def deserialize (data : Bytes) (offset : Nat) : Except PyError ExternalLsa := do
  let networkMask ← addressOfBytes (Bytes.slice data offset (offset + 4))
  match ← unpackFrom [.I] data (offset + 4) with
  | [.nat word] =>
      let forwardingAddress ← addressOfBytes (Bytes.slice data (offset + 8) (offset + 12))
      match ← unpackFrom [.I] data (offset + 12) with
      | [.nat externalRouteTag] =>
          .ok { networkMask, eBit := word &&& 0x80000000 != 0, metric := word % 16777216,
                forwardingAddress, externalRouteTag }
      | _ => .error .structError
  | _ => .error .structError

end ExternalLsa

/-- An LSA body.  `raw` is the body of every type without a parser: `_RawBody` when
it was received, `OpaqueLsaBody` when this router originated it. -/
inductive LsaBody where
  | router (b : RouterLsa)
  | network (b : NetworkLsa)
  | summary (b : SummaryLsa)
  | external (b : ExternalLsa)
  | raw (data : Bytes)
  deriving DecidableEq, Repr

/-- `body.serialize()`. -/
def LsaBody.serialize : LsaBody → Except PyError Bytes
  | .router b => b.serialize
  | .network b => .ok b.serialize
  | .summary b => b.serialize
  | .external b => b.serialize
  | .raw data => .ok data

/-! ## The complete LSA -/

/-- Header, body and installation metadata. -/
structure Lsa where
  header : LsaHeader
  body : Option LsaBody := none
  installTime : Option Time := none
  installedAge : Nat := 0
  deriving DecidableEq, Repr

namespace Lsa

def key (lsa : Lsa) : LsaKey := lsa.header.key

/-- The age at time `now`, from the age and time of installation. -/
def currentAge (lsa : Lsa) (now : Time) : Nat :=
  match lsa.installTime with
  | none => lsa.header.lsAge
  | some t => min (lsa.installedAge + (now - t) / second) maxAge

/-- `self.body.serialize() if self.body else b""`. -/
def bodyBytes (lsa : Lsa) : Except PyError Bytes :=
  match lsa.body with
  | some body => body.serialize
  | none => .ok []

/-- The LSA with the length and the age that `serialize` writes into its header. -/
def stamped (lsa : Lsa) (now : Time) (bodyLen : Nat) : Lsa :=
  { lsa with header := { lsa.header with
      length := LsaHeader.size + bodyLen
      lsAge := min (lsa.currentAge now) maxAge } }

/-- The LSA with a checksum in its header. -/
def withChecksum (lsa : Lsa) (c : Nat) : Lsa :=
  { lsa with header := { lsa.header with lsChecksum := c } }

/-- Serialize header and body.  Length, age and checksum are written into the
object on the way, also when packing the header then fails. -/
def serialize (lsa : Lsa) (now : Time) : Except PyError Bytes × Lsa :=
  match lsa.bodyBytes with
  | .error e => (.error e, lsa)
  | .ok body =>
      let zeroed := (lsa.stamped now body.length).withChecksum 0
      match zeroed.header.serialize with
      | .error e => (.error e, zeroed)
      | .ok raw =>
          let done := zeroed.withChecksum (fletcherChecksum (raw ++ body))
          match done.header.serialize with
          | .error e => (.error e, done)
          | .ok hdr => (.ok (hdr ++ body), done)

/-- `_BODY_DESERIALIZERS`, the raw body for the other types, and no body where the
header ends the LSA. -/
def deserializeBody (lsType : Nat) (data : Bytes) (offset len : Nat) :
    Except PyError (Option LsaBody) :=
  if len = 0 then .ok none
  else if lsType = lsaTypeRouter then
    (RouterLsa.deserialize data offset).map fun b => some (.router b)
  else if lsType = lsaTypeNetwork then
    (NetworkLsa.deserialize data offset len).map fun b => some (.network b)
  else if lsType = lsaTypeSummary ∨ lsType = lsaTypeAsbrSummary then
    (SummaryLsa.deserialize data offset).map fun b => some (.summary b)
  else if lsType = lsaTypeExternal then
    (ExternalLsa.deserialize data offset).map fun b => some (.external b)
  else .ok (some (.raw (Bytes.slice data offset (offset + len))))

/-- The LSA at `offset`, and the bytes it took. -/
def deserialize (data : Bytes) (offset : Nat) : Except PyError (Lsa × Nat) :=
  match LsaHeader.deserialize (data.drop offset) with
  | .error e => .error e
  | .ok header =>
      let length := header.length
      if length < LsaHeader.size then
        .error (.valueError s!"LSA length {length} < minimum 20")
      else if length > data.length - offset then
        .error (.valueError s!"LSA length {length} exceeds available data")
      else
        match deserializeBody header.lsType data (offset + LsaHeader.size)
            (length - LsaHeader.size) with
        | .error e => .error e
        | .ok body => .ok ({ header, body }, length)

/-- Record the installation for age tracking. -/
def markInstalled (lsa : Lsa) (now : Time) : Lsa :=
  { lsa with installedAge := lsa.header.lsAge, installTime := some now }

/-! ### What serialization and installation leave alone -/

@[simp] theorem key_stamped (lsa : Lsa) (now : Time) (n : Nat) : (lsa.stamped now n).key = lsa.key :=
  rfl

@[simp] theorem key_withChecksum (lsa : Lsa) (c : Nat) : (lsa.withChecksum c).key = lsa.key := rfl

@[simp] theorem key_markInstalled (lsa : Lsa) (now : Time) : (lsa.markInstalled now).key = lsa.key :=
  rfl

@[simp] theorem header_markInstalled (lsa : Lsa) (now : Time) :
    (lsa.markInstalled now).header = lsa.header := rfl

/-- Serialization writes the age, the checksum and the length of the header, and
nothing else. -/
structure SameInstance (a b : Lsa) : Prop where
  options : b.header.options = a.header.options
  key : b.key = a.key
  lsSequenceNumber : b.header.lsSequenceNumber = a.header.lsSequenceNumber
  body : b.body = a.body

namespace SameInstance

theorem rfl' (a : Lsa) : SameInstance a a := ⟨rfl, rfl, rfl, rfl⟩

theorem trans {a b c : Lsa} (h : SameInstance a b) (h' : SameInstance b c) : SameInstance a c :=
  ⟨h'.1.trans h.1, h'.2.trans h.2, h'.3.trans h.3, h'.4.trans h.4⟩

end SameInstance

theorem serialize_sameInstance (lsa : Lsa) (now : Time) :
    SameInstance lsa (lsa.serialize now).2 := by
  rw [serialize]
  split
  · exact .rfl' _
  · dsimp only
    split
    · exact ⟨rfl, rfl, rfl, rfl⟩
    · split <;> exact ⟨rfl, rfl, rfl, rfl⟩

theorem serialize_installTime (lsa : Lsa) (now : Time) :
    (lsa.serialize now).2.installTime = lsa.installTime ∧
      (lsa.serialize now).2.installedAge = lsa.installedAge := by
  rw [serialize]
  split
  · exact ⟨rfl, rfl⟩
  · dsimp only
    split
    · exact ⟨rfl, rfl⟩
    · split <;> exact ⟨rfl, rfl⟩

end Lsa
end Ospfd
