import Ospfd.Const
import Ospfd.Lib.Struct

/-!
# Exceptions, and addresses on the wire

* `PyError` — the exceptions the modelled code can raise.
* `packed`, `IPv4Address.ofBytes` — an address as four bytes, and back.
* `struct.pack` and `struct.unpack_from` with their exception (`pack`, `unpackFrom`).
* `readRecords` — the loop that reads consecutive fixed-size records.
-/

namespace Ospfd

/-- The exceptions the modelled code can raise. -/
inductive PyError where
  | structError
  | valueError (msg : String)
  | addressValueError
  | attributeError
  | recursionError
  deriving DecidableEq, Repr

/-- What raises nothing has raised nothing on the way. -/
theorem bind_eq_ok {ε α β : Type} {x : Except ε α} {f : α → Except ε β} {r : β} (h : x >>= f = .ok r) :
    ∃ a, x = .ok a ∧ f a = .ok r := by
  cases x with
  | ok a => exact ⟨a, rfl, h⟩
  | error e => cases h

/-! ## Packing with an exception -/

/-- `struct.pack(fmt, *values)`. -/
def pack (fmt : List Struct.Code) (values : List Struct.Value) : Except PyError Bytes :=
  match Struct.pack fmt values with
  | some b => .ok b
  | none => .error .structError

/-- `struct.unpack_from(fmt, data, offset)`. -/
def unpackFrom (fmt : List Struct.Code) (data : Bytes) (offset : Nat) :
    Except PyError (List Struct.Value) :=
  match Struct.unpackFrom fmt data offset with
  | some vs => .ok vs
  | none => .error .structError

theorem fits_of_unpackFrom {fmt : List Struct.Code} {data : Bytes} {offset : Nat}
    {vs : List Struct.Value} (h : unpackFrom fmt data offset = .ok vs) :
    List.Forall₂ Struct.Fits fmt vs := by
  rw [unpackFrom] at h
  split at h
  · rename_i hun
    cases h
    exact Struct.fits_of_unpackFrom hun
  · cases h

/-- A Python integer as the value of an unsigned field; negative ones are refused
when they are packed. -/
def unsignedField (z : Int) : Struct.Value := if 0 ≤ z then .nat z.toNat else .int z

/-! ## Addresses -/

/-- `addr.packed`. -/
def packed (a : IPv4Address) : Bytes := Bytes.ofNat 4 a.val

/-- `IPv4Address(b)`, which wants exactly four bytes. -/
def addressOfBytes (b : Bytes) : Except PyError IPv4Address :=
  if h : b.length = 4 then .ok ⟨Bytes.toNat b, by simpa [h] using Bytes.toNat_lt b⟩
  else .error .addressValueError

@[simp] theorem length_packed (a : IPv4Address) : (packed a).length = 4 := Bytes.length_ofNat 4 _

@[simp] theorem addressOfBytes_packed (a : IPv4Address) : addressOfBytes (packed a) = .ok a := by
  rw [addressOfBytes, dif_pos (length_packed a)]
  congr 1
  ext
  exact Bytes.toNat_ofNat_of_lt a.isLt

/-- A four-byte field read as an address. -/
def addressField (b : Bytes) : IPv4Address := Fin.ofNat 4294967296 (Bytes.toNat b)

@[simp] theorem addressField_packed (a : IPv4Address) : addressField (packed a) = a := by
  rw [addressField, packed, Bytes.toNat_ofNat_of_lt a.isLt]
  exact Fin.ofNat_val_eq_self a

/-! ## Loops over fixed-size records -/

/-- Read `n` records of `size` bytes each, the first at `pos`. -/
def readRecords {α : Type} (read : Nat → Except PyError α) (size : Nat) :
    Nat → Nat → Except PyError (List α)
  | 0, _ => .ok []
  | n + 1, pos =>
      match read pos with
      | .error e => .error e
      | .ok a =>
          match readRecords read size n (pos + size) with
          | .error e => .error e
          | .ok as => .ok (a :: as)

/-- Concatenate the serializations of a list: `for x in xs: data += x.serialize()`. -/
def serializeAll {α : Type} (serialize : α → Except PyError Bytes) :
    List α → Except PyError Bytes
  | [] => .ok []
  | x :: xs =>
      match serialize x with
      | .error e => .error e
      | .ok b =>
          match serializeAll serialize xs with
          | .error e => .error e
          | .ok bs => .ok (b ++ bs)

/-- Every element of a list that is serialized is serialized. -/
theorem serialize_of_serializeAll {α : Type} {serialize : α → Except PyError Bytes} :
    ∀ {xs : List α} {b : Bytes}, serializeAll serialize xs = .ok b → ∀ x ∈ xs, ∃ b', serialize x = .ok b'
  | [], _, _, _, hx => by cases hx
  | x :: xs, b, h, y, hy => by
    rw [serializeAll] at h
    split at h
    · cases h
    · rename_i b' hb'
      split at h
      · cases h
      · rename_i bs hbs
        rcases List.mem_cons.1 hy with rfl | hy
        · exact ⟨b', hb'⟩
        · exact serialize_of_serializeAll hbs y hy

/-- **Reading back what was written.**  If each record takes `size` bytes and is
read back from where it was put, so is a list of them, whatever follows. -/
theorem readRecords_serializeAll {α : Type} {serialize : α → Except PyError Bytes}
    {read : Bytes → Nat → Except PyError α} {size : Nat} :
    ∀ (xs : List α), (∀ x ∈ xs, ∃ b, serialize x = .ok b ∧ b.length = size ∧
        ∀ pre post, read (pre ++ b ++ post) pre.length = .ok x) →
      ∃ b, serializeAll serialize xs = .ok b ∧ b.length = size * xs.length ∧
        ∀ pre post, readRecords (read (pre ++ b ++ post)) size xs.length pre.length = .ok xs
  | [], _ => ⟨[], rfl, by simp, fun _ _ => rfl⟩
  | x :: xs, h => by
    obtain ⟨b, hb, hlen, hread⟩ := h x (List.mem_cons_self ..)
    obtain ⟨bs, hbs, hlens, hreads⟩ :=
      readRecords_serializeAll xs fun y hy => h y (List.mem_cons_of_mem _ hy)
    refine ⟨b ++ bs, by rw [serializeAll, hb, hbs], ?_, fun pre post => ?_⟩
    · rw [List.length_append, hlen, hlens, List.length_cons, Nat.mul_succ, Nat.add_comm]
    · have h1 := hread pre (bs ++ post)
      have h2 := hreads (pre ++ b) post
      rw [List.length_append, hlen] at h2
      have he : pre ++ (b ++ bs) ++ post = pre ++ b ++ (bs ++ post) := by
        simp only [List.append_assoc]
      have he' : pre ++ b ++ bs ++ post = pre ++ b ++ (bs ++ post) := by
        simp only [List.append_assoc]
      rw [he'] at h2
      rw [he, List.length_cons, readRecords, h1, h2]

end Ospfd
