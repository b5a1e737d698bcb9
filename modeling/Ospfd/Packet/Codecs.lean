import Ospfd.Packet.Reencoding

/-!
# The codecs of Hello, Database Description, Link State Request and Acknowledgment

A fixed part, and then records of one size to the end of the data.  The decoders are given with
their offset; reception decodes from the start.

* `HelloPacket.deserializeFrom`, … — the decoders at an offset.
* `RecordCodec`, `RecordCodec.readAll_written`, `RecordCodec.readAll_read` — records that are
  written and read, one by one and in a row to the end of the data.
* `PacketCodec` — packets that are written and read, wherever they stand and before a partial record.
* `RecordCodec.headed` — **a codec of packets**, from the codec of their records.
* `fits_of_pack`, `length_of_serializeAll` — what is written fits, and how long it is.
* `packetCodecs` — **the four codecs**.
-/

namespace Ospfd

/-! ## The decoders at an offset -/

/-- The records from `pos` to the end of the data: `while pos + size <= len(data)`. -/
def readAll {α : Type} (decode : Bytes → Nat → Except PyError α) (size : Nat) (data : Bytes) (pos : Nat) :
    Except PyError (List α) :=
  readRecords (decode data) size ((data.length - pos) / size) pos

/-- `IPv4Address(data[pos : pos + 4])`. -/
def readAddress (data : Bytes) (pos : Nat) : Except PyError IPv4Address :=
  addressOfBytes (Bytes.slice data pos (pos + 4))

/-- `HelloPacket.deserialize(data, offset)`. -/
def HelloPacket.deserializeFrom (data : Bytes) (offset : Nat) : Except PyError HelloPacket :=
  match unpackFrom format data offset with
  | .ok [.bytes mask, .nat helloInterval, .nat options, .nat priority, .nat deadInterval,
      .bytes dr, .bytes bdr] =>
      match readAll readAddress 4 data (offset + 20) with
      | .error e => .error e
      | .ok neighbors =>
          .ok { networkMask := addressField mask, helloInterval, options, priority, deadInterval,
                designatedRouter := addressField dr, backupDesignatedRouter := addressField bdr,
                neighbors }
  | .ok _ => .error .structError
  | .error e => .error e

/-- `DDPacket.deserialize(data, offset)`. -/
def DDPacket.deserializeFrom (data : Bytes) (offset : Nat) : Except PyError DDPacket :=
  match unpackFrom format data offset with
  | .ok [.nat interfaceMtu, .nat options, .nat flags, .int ddSeqNumber] =>
      match readAll readHeader LsaHeader.size data (offset + 8) with
      | .error e => .error e
      | .ok lsaHeaders => .ok { interfaceMtu, options, flags, ddSeqNumber, lsaHeaders }
  | .ok _ => .error .structError
  | .error e => .error e

/-- `LsrPacket.deserialize(data, offset)`. -/
def LsrPacket.deserializeFrom (data : Bytes) (offset : Nat) : Except PyError LsrPacket :=
  (readAll LsrItem.deserialize LsrItem.size data offset).map fun items => { items }

/-- `LsackPacket.deserialize(data, offset)`. -/
def LsackPacket.deserializeFrom (data : Bytes) (offset : Nat) : Except PyError LsackPacket :=
  (readAll readHeader LsaHeader.size data offset).map fun lsaHeaders => { lsaHeaders }

/-- **Reception decodes from the start.** -/
theorem deserializeFrom_zero (data : Bytes) :
    HelloPacket.deserialize data = HelloPacket.deserializeFrom data 0 ∧
      DDPacket.deserialize data = DDPacket.deserializeFrom data 0 ∧
      LsrPacket.deserialize data = LsrPacket.deserializeFrom data 0 ∧
      LsackPacket.deserialize data = LsackPacket.deserializeFrom data 0 :=
  ⟨rfl, rfl, rfl, rfl⟩

/-! ## Records -/

/-- Records of a size are written and read: one in range survives the wire wherever it stands, and
whatever stands in a place that is long enough is one in range, and is written as it stood. -/
structure RecordCodec {α : Type} (encode : α → Except PyError Bytes) (decode : Bytes → Nat → Except PyError α)
    (size : Nat) (InRange : α → Prop) : Prop where
  written : ∀ x, InRange x → ∃ b, encode x = .ok b ∧ b.length = size ∧
    ∀ pre post, decode (pre ++ b ++ post) pre.length = .ok x
  read : ∀ data pos, pos + size ≤ data.length → ∃ x, decode data pos = .ok x ∧ InRange x ∧
    encode x = .ok (Bytes.slice data pos (pos + size))

/-- Packets with a fixed part and records of a size are written and read: one in range survives the
wire at any offset and before a partial record, and whatever has the fixed part is one in range, and
is written as it stood but for a partial record at its end. -/
structure PacketCodec {α : Type} (encode : α → Except PyError Bytes) (decode : Bytes → Nat → Except PyError α)
    (fixed size : Nat) (InRange : α → Prop) : Prop where
  written : ∀ p, InRange p → ∃ b, encode p = .ok b ∧
    ∀ pre tail, tail.length < size → decode (pre ++ b ++ tail) pre.length = .ok p
  read : ∀ data offset, offset + fixed ≤ data.length → ∃ p b tail, decode data offset = .ok p ∧ InRange p ∧
    encode p = .ok b ∧ data.drop offset = b ++ tail ∧ tail.length < size

namespace RecordCodec

variable {α : Type} {encode : α → Except PyError Bytes} {decode : Bytes → Nat → Except PyError α} {size : Nat}
  {InRange : α → Prop}

/-- Records in range are read back, before a partial one. -/
theorem readAll_written (h : RecordCodec encode decode size InRange) {xs : List α}
    (hxs : ∀ x ∈ xs, InRange x) : ∃ b, serializeAll encode xs = .ok b ∧
      ∀ pre tail, tail.length < size → readAll decode size (pre ++ b ++ tail) pre.length = .ok xs := by
  obtain ⟨b, hb, hlen, hread⟩ := @readRecords_serializeAll α encode decode size xs
    fun x hx => h.written x (hxs x hx)
  refine ⟨b, hb, fun pre tail htail => ?_⟩
  have hcount : ((pre ++ b ++ tail).length - pre.length) / size = xs.length := by
    rw [List.append_assoc, List.length_append, Nat.add_sub_cancel_left, List.length_append, hlen,
      Nat.mul_add_div (by omega), Nat.div_eq_of_lt htail, Nat.add_zero]
  rw [readAll, hcount]
  exact hread pre tail

theorem readRecords_read (h : RecordCodec encode decode size InRange) (data : Bytes) :
    ∀ n pos, pos + size * n ≤ data.length → ∃ xs, readRecords (decode data) size n pos = .ok xs ∧
      (∀ x ∈ xs, InRange x) ∧ serializeAll encode xs = .ok (Bytes.slice data pos (pos + size * n))
  | 0, pos, _ => ⟨[], rfl, by simp, by simp [serializeAll, Bytes.slice]⟩
  | n + 1, pos, hlen => by
    rw [Nat.mul_succ] at hlen
    obtain ⟨x, hx, hin, henc⟩ := h.read data pos (by omega)
    obtain ⟨xs, hxs, hins, hencs⟩ := readRecords_read h data n (pos + size) (by omega)
    refine ⟨x :: xs, ?_, ?_, ?_⟩
    · rw [readRecords, hx, hxs]
    · intro y hy
      rcases List.mem_cons.1 hy with rfl | hy
      · exact hin
      · exact hins y hy
    · rw [serializeAll, henc, hencs, Nat.mul_succ, Nat.add_comm (size * n), slice_append]

/-- **Whatever follows is records in range**, but for a partial one at the end. -/
theorem readAll_read (h : RecordCodec encode decode size InRange) (hsize : 0 < size) (data : Bytes) (pos : Nat) :
    ∃ xs b tail, readAll decode size data pos = .ok xs ∧ (∀ x ∈ xs, InRange x) ∧
      serializeAll encode xs = .ok b ∧ data.drop pos = b ++ tail ∧ tail.length < size := by
  by_cases hpos : pos ≤ data.length
  · have hdiv := Nat.div_add_mod (data.length - pos) size
    have hmod := Nat.mod_lt (data.length - pos) hsize
    obtain ⟨xs, hxs, hin, henc⟩ := readRecords_read h data ((data.length - pos) / size) pos (by omega)
    refine ⟨xs, _, (data.drop pos).drop (size * ((data.length - pos) / size)), hxs, hin, henc, ?_, ?_⟩
    · rw [Bytes.slice, Nat.add_sub_cancel_left, List.take_append_drop]
    · rw [List.length_drop, List.length_drop]
      omega
  · refine ⟨[], [], [], ?_, by simp, rfl, ?_, hsize⟩
    · rw [readAll, Nat.sub_eq_zero_of_le (by omega), Nat.zero_div, readRecords]
    · rw [List.drop_eq_nil_of_le (by omega), List.append_nil]

/-- A packet that is nothing but records. -/
theorem headless {β : Type} (h : RecordCodec encode decode size InRange) (hsize : 0 < size)
    (records : β → List α) (build : List α → β) (hbuild : ∀ p, build (records p) = p)
    (hrecords : ∀ xs, records (build xs) = xs) :
    PacketCodec (fun p => serializeAll encode (records p))
      (fun data offset => (readAll decode size data offset).map build) 0 size
      (fun p => ∀ x ∈ records p, InRange x) where
  written p hp := by
    obtain ⟨b, hb, hread⟩ := h.readAll_written hp
    refine ⟨b, hb, fun pre tail htail => ?_⟩
    rw [hread pre tail htail, Except.map, hbuild]
  read data offset _ := by
    obtain ⟨xs, b, tail, hxs, hin, henc, hcut, htail⟩ := h.readAll_read hsize data offset
    refine ⟨build xs, b, tail, by rw [hxs]; rfl, ?_, ?_, hcut, htail⟩
    · rw [hrecords]
      exact hin
    · rw [hrecords]
      exact henc

/-- **A codec of packets**, from the codec of the records behind the fixed part. -/
theorem headed {β : Type} (h : RecordCodec encode decode size InRange) (hsize : 0 < size)
    (fmt : List Struct.Code) (values : β → List Struct.Value) (records : β → List α)
    {encodeP : β → Except PyError Bytes} {decodeP : Bytes → Nat → Except PyError β} {InRangeP : β → Prop}
    (hencode : ∀ p, encodeP p = pack fmt (values p) >>= fun data =>
      serializeAll encode (records p) >>= fun rest => .ok (data ++ rest))
    (hdecode : ∀ data offset xs, offset + Struct.calcsize fmt ≤ data.length →
      readAll decode size data (offset + Struct.calcsize fmt) = .ok xs →
      ∃ p, decodeP data offset = .ok p ∧ values p = Struct.unpackAll fmt (data.drop offset) ∧ records p = xs)
    (hinj : ∀ p q, values p = values q → records p = records q → p = q)
    (hin : ∀ p, InRangeP p ↔ List.Forall₂ Struct.Fits fmt (values p) ∧ ∀ x ∈ records p, InRange x) :
    PacketCodec encodeP decodeP (Struct.calcsize fmt) size InRangeP where
  written p hp := by
    obtain ⟨hfits, hrecords⟩ := (hin p).1 hp
    obtain ⟨b, hb, hlen, hun⟩ := Struct.pack_of_fits hfits
    obtain ⟨rest, hrest, hread⟩ := h.readAll_written hrecords
    have hpack : pack fmt (values p) = .ok b := by rw [pack, hb]
    refine ⟨b ++ rest, by rw [hencode, hpack, hrest]; rfl, fun pre tail htail => ?_⟩
    have hcut : pre ++ (b ++ rest) ++ tail = pre ++ b ++ rest ++ tail := by simp only [List.append_assoc]
    have hpos : (pre ++ b).length = pre.length + Struct.calcsize fmt := by rw [List.length_append, hlen]
    have hall := hread (pre ++ b) tail htail
    rw [hpos] at hall
    rw [hcut]
    obtain ⟨q, hq, hvalues, hrecords'⟩ := hdecode (pre ++ b ++ rest ++ tail) pre.length (records p) (by
      simp only [List.length_append, hlen]
      omega) hall
    have hdrop : (pre ++ b ++ rest ++ tail).drop pre.length = b ++ (rest ++ tail) := by
      simp only [List.append_assoc, List.drop_left]
    rw [hdrop, hun] at hvalues
    rw [hq, hinj q p hvalues hrecords']
  read data offset hlen := by
    obtain ⟨xs, rest, tail, hxs, hrecords, hrest, hcut, htail⟩ :=
      h.readAll_read hsize data (offset + Struct.calcsize fmt)
    obtain ⟨p, hp, hvalues, rfl⟩ := hdecode data offset xs hlen hxs
    have hroom : Struct.calcsize fmt ≤ (data.drop offset).length := by
      rw [List.length_drop]
      omega
    have hpack : pack fmt (values p) = .ok ((data.drop offset).take (Struct.calcsize fmt)) := by
      rw [hvalues, pack, Struct.pack_unpackAll hroom]
    refine ⟨p, (data.drop offset).take (Struct.calcsize fmt) ++ rest, tail, hp, ?_, ?_, ?_, htail⟩
    · exact (hin p).2 ⟨by rw [hvalues]; exact Struct.fits_unpackAll hroom, hrecords⟩
    · rw [hencode, hpack, hrest]
      rfl
    · rw [List.append_assoc, ← hcut, ← List.drop_drop, List.take_append_drop]

end RecordCodec

/-! ## The records -/

theorem readAddress_codec : RecordCodec (fun a => .ok (packed a)) readAddress 4 fun _ => True where
  written a _ := ⟨packed a, rfl, length_packed a, address_at a⟩
  read data pos h := ⟨addressAt data pos, addressOfBytes_slice h, trivial, by rw [packed_addressAt h]⟩

theorem readHeader_codec : RecordCodec LsaHeader.serialize readHeader LsaHeader.size LsaHeader.WireRange where
  written h hw := by
    obtain ⟨b, hb, hlen, hde⟩ := LsaHeader.deserialize_serialize hw
    refine ⟨b, hb, hlen, fun pre post => ?_⟩
    rw [readHeader, List.append_assoc, List.drop_left, hde]
  read data pos h := by
    have hde : LsaHeader.deserialize (data.drop pos) = .ok (headerAt data pos) := headerAt_of_le h
    refine ⟨headerAt data pos, hde, LsaHeader.wireRange_of_deserialize hde, ?_⟩
    have hroom : Struct.calcsize LsaHeader.format ≤ (data.drop pos).length := by
      rw [List.length_drop]
      exact Nat.le_sub_of_add_le' h
    have hfields : (headerAt data pos).fields = Struct.unpackAll LsaHeader.format (data.drop pos) := by
      rw [LsaHeader.size] at h
      simp only [LsaHeader.fields, headerAt, packed_addressAt (show pos + 4 + 4 ≤ data.length by omega),
        packed_addressAt (show pos + 8 + 4 ≤ data.length by omega), LsaHeader.format, Struct.unpackAll,
        Struct.unpack1, Struct.Code.size, List.drop_drop, natAt_eq]
      simp [Bytes.slice, natAt]
    rw [LsaHeader.serialize, pack, hfields, Struct.pack_unpackAll hroom, Bytes.slice, Nat.add_sub_cancel_left]
    rfl

/-- A request item whose type fits its field. -/
theorem lsrItem_codec : RecordCodec LsrItem.serialize LsrItem.deserialize LsrItem.size
    fun item => item.lsType < 4294967296 where
  written item h := by
    obtain ⟨b, hb, hlen, hun⟩ := unpackFrom_at LsrItem.format
      [.nat item.lsType, .bytes (packed item.linkStateId), .bytes (packed item.advertisingRouter)] (by
        simp only [LsrItem.format, List.forall₂_cons, Struct.Fits, length_packed, true_and]
        exact ⟨h, .nil⟩)
    refine ⟨b, hb, hlen, fun pre post => ?_⟩
    rw [LsrItem.deserialize, hun]
    simp only [addressField_packed]
  read data pos h := by
    rw [LsrItem.size] at h
    have hroom : Struct.calcsize LsrItem.format ≤ (data.drop pos).length := by
      rw [List.length_drop]
      exact Nat.le_sub_of_add_le' h
    have hall : Struct.unpackAll LsrItem.format (data.drop pos) = [.nat (natAt data pos 4),
        .bytes (packed (addressAt data (pos + 4))), .bytes (packed (addressAt data (pos + 8)))] := by
      simp only [packed_addressAt (show pos + 4 + 4 ≤ data.length by omega),
        packed_addressAt (show pos + 8 + 4 ≤ data.length by omega), LsrItem.format, Struct.unpackAll,
        Struct.unpack1, Struct.Code.size, List.drop_drop, natAt_eq]
      simp [Bytes.slice]
    refine ⟨⟨natAt data pos 4, addressAt data (pos + 4), addressAt data (pos + 8)⟩, ?_, natAt_lt data pos 4, ?_⟩
    · rw [LsrItem.deserialize, unpackFrom_of_le h, hall]
      simp only [addressField_packed]
    · rw [LsrItem.serialize, pack, ← hall, Struct.pack_unpackAll hroom, Bytes.slice, Nat.add_sub_cancel_left]
      rfl

/-! ## What is written -/

theorem filled_packed (a : IPv4Address) : Struct.Filled (.s 4) (.bytes (packed a)) := by
  rintro n bs ⟨⟩ ⟨⟩
  exact length_packed a

/-- A record that is packed fits its format. -/
theorem fits_of_pack {fmt : List Struct.Code} {vs : List Struct.Value} {b : Bytes}
    (h : (pack fmt vs : Except PyError Bytes) = .ok b) (hfilled : List.Forall₂ Struct.Filled fmt vs) :
    List.Forall₂ Struct.Fits fmt vs := by
  rw [pack] at h
  split at h
  · rename_i b' hb'
    exact Struct.fits_of_pack hb' hfilled
  · cases h

theorem length_of_pack {fmt : List Struct.Code} {vs : List Struct.Value} {b : Bytes}
    (h : (pack fmt vs : Except PyError Bytes) = .ok b) (hfilled : List.Forall₂ Struct.Filled fmt vs) :
    b.length = Struct.calcsize fmt := by
  obtain ⟨b', hb', hlen, -⟩ := Struct.pack_of_fits (fits_of_pack h hfilled)
  rw [pack, hb'] at h
  cases h
  exact hlen

theorem length_of_serializeAll {α : Type} {encode : α → Except PyError Bytes} {size : Nat} {xs : List α}
    (hsize : ∀ x ∈ xs, ∀ b, encode x = .ok b → b.length = size) {b : Bytes} (h : serializeAll encode xs = .ok b) :
    b.length = size * xs.length := by
  induction xs generalizing b with
  | nil =>
    cases h
    rfl
  | cons x xs ih =>
    rw [serializeAll] at h
    split at h
    · cases h
    · rename_i b₁ hx
      split at h
      · cases h
      · rename_i b₂ hxs
        cases h
        rw [List.length_append, hsize x (List.mem_cons_self ..) b₁ hx,
          ih (fun y hy => hsize y (List.mem_cons_of_mem _ hy)) hxs, List.length_cons, Nat.mul_succ, Nat.add_comm]

/-! ## The packets -/

/-- Every field of a Hello fits the bytes it is given on the wire. -/
structure HelloPacket.WireRange (h : HelloPacket) : Prop where
  helloInterval : 0 ≤ h.helloInterval ∧ h.helloInterval < 65536
  options : h.options < 256
  priority : 0 ≤ h.priority ∧ h.priority < 256
  deadInterval : 0 ≤ h.deadInterval ∧ h.deadInterval < 4294967296

/-- The fixed part of a Hello. -/
def HelloPacket.values (h : HelloPacket) : List Struct.Value :=
  [.bytes (packed h.networkMask), unsignedField h.helloInterval, .nat h.options, unsignedField h.priority,
    unsignedField h.deadInterval, .bytes (packed h.designatedRouter), .bytes (packed h.backupDesignatedRouter)]

theorem unsignedField_inj {a b : Int} (h : unsignedField a = unsignedField b) : a = b := by
  unfold unsignedField at h
  split at h
  · split at h
    · injection h
      omega
    · cases h
  · split at h
    · cases h
    · injection h

theorem fits_unsignedField {c : Struct.Code} {bound : Nat} (hc : ∀ n, Struct.Fits c (.nat n) ↔ n < bound)
    (hint : ∀ z, ¬Struct.Fits c (.int z)) (z : Int) :
    Struct.Fits c (unsignedField z) ↔ 0 ≤ z ∧ z < bound := by
  unfold unsignedField
  split
  · rw [hc]
    omega
  · exact iff_of_false (hint z) (by omega)

theorem HelloPacket.wireRange_iff (h : HelloPacket) :
    h.WireRange ↔ List.Forall₂ Struct.Fits format h.values := by
  have hinterval := fits_unsignedField (c := .H) (fun _ => Iff.rfl) (fun _ => id) h.helloInterval
  have hpriority := fits_unsignedField (c := .B) (fun _ => Iff.rfl) (fun _ => id) h.priority
  have hdead := fits_unsignedField (c := .I) (fun _ => Iff.rfl) (fun _ => id) h.deadInterval
  simp only [format, values, List.forall₂_cons, hinterval, hpriority, hdead]
  simp only [Struct.Fits, length_packed, true_and]
  constructor
  · exact fun hw => ⟨hw.helloInterval, hw.options, hw.priority, hw.deadInterval, .nil⟩
  · rintro ⟨hi, ho, hp, hd, -⟩
    exact ⟨hi, ho, hp, hd⟩

theorem HelloPacket.filled_values (h : HelloPacket) : List.Forall₂ Struct.Filled format h.values := by
  simp only [format, values, List.forall₂_cons]
  refine ⟨filled_packed _, ?_, ?_, ?_, ?_, filled_packed _, filled_packed _, .nil⟩ <;> rintro n bs ⟨⟩

/-- **A Hello that is written is in range.** -/
theorem HelloPacket.wireRange_of_serialize {h : HelloPacket} {b : Bytes} (hser : h.serialize = .ok b) :
    h.WireRange := by
  obtain ⟨data, hdata, -⟩ := bind_eq_ok hser
  exact (wireRange_iff h).2 (fits_of_pack hdata h.filled_values)

theorem packed_inj {a b : IPv4Address} (h : packed a = packed b) : a = b := by
  rw [← addressField_packed a, h, addressField_packed]

theorem HelloPacket.codec : PacketCodec HelloPacket.serialize HelloPacket.deserializeFrom 20 4
    HelloPacket.WireRange := by
  refine readAddress_codec.headed (by omega) HelloPacket.format HelloPacket.values HelloPacket.neighbors (fun p => ?_) (fun data offset xs hlen hxs => ?_)
    (fun p q hvalues hneighbors => ?_) fun p => ?_
  · have hflat : ∀ as : List IPv4Address,
        serializeAll (fun a => .ok (packed a)) as = (.ok (as.map packed).flatten : Except PyError Bytes) := by
      intro as
      induction as with
      | nil => rfl
      | cons a as ih =>
        rw [serializeAll, ih]
        rfl
    rw [hflat]
    rfl
  · have hsize : Struct.calcsize HelloPacket.format = 20 := rfl
    rw [hsize] at hlen hxs
    have hall : Struct.unpackAll HelloPacket.format (data.drop offset) = [.bytes (packed (addressAt data offset)),
        .nat (natAt data (offset + 4) 2), .nat (natAt data (offset + 6) 1), .nat (natAt data (offset + 7) 1),
        .nat (natAt data (offset + 8) 4), .bytes (packed (addressAt data (offset + 12))),
        .bytes (packed (addressAt data (offset + 16)))] := by
      simp only [packed_addressAt (show offset + 4 ≤ data.length by omega),
        packed_addressAt (show offset + 12 + 4 ≤ data.length by omega),
        packed_addressAt (show offset + 16 + 4 ≤ data.length by omega), HelloPacket.format, Struct.unpackAll,
        Struct.unpack1, Struct.Code.size, List.drop_drop, natAt_eq]
      simp [Bytes.slice]
    refine ⟨{ networkMask := addressAt data offset, helloInterval := natAt data (offset + 4) 2,
              options := natAt data (offset + 6) 1, priority := natAt data (offset + 7) 1,
              deadInterval := natAt data (offset + 8) 4, designatedRouter := addressAt data (offset + 12),
              backupDesignatedRouter := addressAt data (offset + 16), neighbors := xs }, ?_, ?_, rfl⟩
    · rw [HelloPacket.deserializeFrom, unpackFrom_of_le (by rw [hsize]; exact hlen), hall]
      simp only [hxs, addressField_packed]
    · rw [hall]
      simp only [HelloPacket.values, unsignedField_natCast]
  · rcases p with ⟨mask, hi, opt, pri, di, dr, bdr, ns⟩
    rcases q with ⟨mask', hi', opt', pri', di', dr', bdr', ns'⟩
    simp only [HelloPacket.values, List.cons.injEq, Struct.Value.bytes.injEq, Struct.Value.nat.injEq] at hvalues
    obtain ⟨h1, h2, rfl, h4, h5, h6, h7, -⟩ := hvalues
    obtain rfl : ns = ns' := hneighbors
    rw [packed_inj h1, unsignedField_inj h2, unsignedField_inj h4, unsignedField_inj h5, packed_inj h6, packed_inj h7]
  · rw [HelloPacket.wireRange_iff]
    exact ⟨fun hw => ⟨hw, fun _ _ => trivial⟩, And.left⟩

theorem HelloPacket.deserialize_of_wireRange {h : HelloPacket} (hw : h.WireRange) :
    ∃ b, h.serialize = .ok b ∧ deserialize b = .ok h := by
  obtain ⟨b, hser, hread⟩ := codec.written h hw
  refine ⟨b, hser, ?_⟩
  have hzero := hread [] [] (by decide)
  rw [List.nil_append, List.append_nil, List.length_nil] at hzero
  exact hzero

/-- **A Hello that is written is read back.** -/
theorem HelloPacket.deserialize_of_serialize {h : HelloPacket} {b : Bytes} (hser : h.serialize = .ok b) :
    deserialize b = .ok h := by
  obtain ⟨b', hser', hread⟩ := deserialize_of_wireRange (wireRange_of_serialize hser)
  rw [hser] at hser'
  cases hser'
  exact hread

/-- A signed field is read as an integer. -/
theorem unpack1_signed (b : Bytes) : ∃ z, Struct.unpack1 .i b = .int z := by
  simp only [Struct.unpack1]
  split
  · exact ⟨_, rfl⟩
  · exact ⟨_, rfl⟩

theorem DDPacket.codec : PacketCodec DDPacket.serialize DDPacket.deserializeFrom 8 20 DDPacket.WireRange := by
  refine readHeader_codec.headed (by decide) DDPacket.format
    (fun p => [.nat p.interfaceMtu, .nat p.options, .nat p.flags, .int p.ddSeqNumber]) DDPacket.lsaHeaders (fun p => rfl) (fun data offset xs hlen hxs => ?_)
    (fun p q hvalues hheaders => ?_) fun p => ?_
  · obtain ⟨seq, hseq⟩ := unpack1_signed (((data.drop offset).drop 4).take 4)
    have hall : Struct.unpackAll DDPacket.format (data.drop offset) = [.nat (natAt data offset 2),
        .nat (natAt data (offset + 2) 1), .nat (natAt data (offset + 3) 1), .int seq] := by
      have hlast : Struct.unpackAll DDPacket.format (data.drop offset) =
          [Struct.unpack1 .H ((data.drop offset).take 2), Struct.unpack1 .B (((data.drop offset).drop 2).take 1),
            Struct.unpack1 .B (((data.drop offset).drop 3).take 1),
            Struct.unpack1 .i (((data.drop offset).drop 4).take 4)] := by
        simp [DDPacket.format, Struct.unpackAll, Struct.Code.size, List.drop_drop]
      rw [hlast, hseq]
      simp only [Struct.unpack1, List.drop_drop, natAt_eq]
    refine ⟨{ interfaceMtu := natAt data offset 2, options := natAt data (offset + 2) 1,
              flags := natAt data (offset + 3) 1, ddSeqNumber := seq, lsaHeaders := xs }, ?_, hall.symm, rfl⟩
    rw [DDPacket.deserializeFrom, unpackFrom_of_le hlen, hall]
    change (match readAll readHeader LsaHeader.size data (offset + 8) with
      | .error e => _
      | .ok lsaHeaders => _) = _
    rw [show readAll readHeader LsaHeader.size data (offset + 8) = .ok xs from hxs]
  · rcases p with ⟨mtu, opt, fl, seq, hs⟩
    rcases q with ⟨mtu', opt', fl', seq', hs'⟩
    simp only [List.cons.injEq, Struct.Value.nat.injEq, Struct.Value.int.injEq] at hvalues
    obtain ⟨rfl, rfl, rfl, rfl, -⟩ := hvalues
    obtain rfl : hs = hs' := hheaders
    rfl
  · simp only [DDPacket.format, List.forall₂_cons, Struct.Fits]
    constructor
    · exact fun hw => ⟨⟨hw.interfaceMtu, hw.options, hw.flags, hw.ddSeqNumber, .nil⟩, hw.lsaHeaders⟩
    · rintro ⟨⟨hm, ho, hf, hs, -⟩, hh⟩
      exact ⟨hm, ho, hf, hs, hh⟩

/-- **The codecs of Hello, Database Description, Link State Request and Acknowledgment.** -/
theorem packetCodecs :
    PacketCodec HelloPacket.serialize HelloPacket.deserializeFrom 20 4 HelloPacket.WireRange ∧
    PacketCodec DDPacket.serialize DDPacket.deserializeFrom 8 20 DDPacket.WireRange ∧
    PacketCodec LsrPacket.serialize LsrPacket.deserializeFrom 0 12
      (fun p => ∀ item ∈ p.items, item.lsType < 4294967296) ∧
    PacketCodec LsackPacket.serialize LsackPacket.deserializeFrom 0 20
      (fun p => ∀ h ∈ p.lsaHeaders, h.WireRange) :=
  ⟨HelloPacket.codec, DDPacket.codec,
    lsrItem_codec.headless (by decide) LsrPacket.items LsrPacket.mk (fun _ => rfl) fun _ => rfl,
    readHeader_codec.headless (by decide) LsackPacket.lsaHeaders LsackPacket.mk (fun _ => rfl) fun _ => rfl⟩

end Ospfd
