import Ospfd.Packet.RoundTrip

/-!
# What the LSA decoders read

A body decoder takes its fields from fixed places, and checks them against the end of the
buffer it is given.  An LSA is decoded from its own bytes alone where its body fits the length
in its header.

* `natAt`, `addressAt`, `linkAt`, `bodyAt` — the fields and bodies that stand at a place.
* `BodyFits` — the fields of a body end by a bound.
* `deserializeBody_of_fits`, `deserializeBody_of_not_fits` — **the decoders succeed where the
  body fits the buffer, and return what stands there**.
* `Agree` — two buffers agree up to a bound; `bodyAt_congr`.
* `decodesLocally_iff` — **an LSA is decoded from its own bytes alone just where its body fits
  its length**.
-/

namespace Ospfd

/-! ## Fields at a place -/

/-- The number in the `w` bytes at `pos`. -/
def natAt (data : Bytes) (pos w : Nat) : Nat := Bytes.toNat (Bytes.slice data pos (pos + w))

/-- The address in the four bytes at `pos`. -/
def addressAt (data : Bytes) (pos : Nat) : IPv4Address :=
  addressField (Bytes.slice data pos (pos + 4))

/-- The TOS metrics from `pos` on. -/
def tosMetricsAt (data : Bytes) : Nat → Nat → List (Nat × Nat)
  | 0, _ => []
  | n + 1, pos => (natAt data pos 1, natAt data (pos + 2) 2) :: tosMetricsAt data n (pos + 4)

/-- How many TOS metrics the link at `pos` says it has. -/
def numTosAt (data : Bytes) (pos : Nat) : Nat := natAt data (pos + 9) 1

/-- The link at `pos`. -/
def linkAt (data : Bytes) (pos : Nat) : RouterLsaLink where
  linkId := addressAt data pos
  linkData := addressAt data (pos + 4)
  type := natAt data (pos + 8) 1
  numTos := numTosAt data pos
  metric := natAt data (pos + 10) 2
  tosMetrics := tosMetricsAt data (numTosAt data pos) (pos + 12)

/-- The links from `pos` on. -/
def linksAt (data : Bytes) : Nat → Nat → List RouterLsaLink
  | 0, _ => []
  | n + 1, pos => linkAt data pos :: linksAt data n (pos + (12 + 4 * numTosAt data pos))

/-- The addresses from `pos` on. -/
def addressesAt (data : Bytes) : Nat → Nat → List IPv4Address
  | 0, _ => []
  | n + 1, pos => addressAt data pos :: addressesAt data n (pos + 4)

/-- The body of `len` bytes at `pos`. -/
def bodyAt (lsType : Nat) (data : Bytes) (pos len : Nat) : LsaBody :=
  if lsType = lsaTypeRouter then
    .router { flags := natAt data pos 1, numLinks := natAt data (pos + 2) 2,
              links := linksAt data (natAt data (pos + 2) 2) (pos + 4) }
  else if lsType = lsaTypeNetwork then
    .network { networkMask := addressAt data pos,
               attachedRouters := addressesAt data ((len - 4) / 4) (pos + 4) }
  else if lsType = lsaTypeSummary ∨ lsType = lsaTypeAsbrSummary then
    .summary { networkMask := addressAt data pos, metric := natAt data (pos + 4) 4 % 16777216 }
  else if lsType = lsaTypeExternal then
    .external { networkMask := addressAt data pos,
                eBit := natAt data (pos + 4) 4 &&& 0x80000000 != 0,
                metric := natAt data (pos + 4) 4 % 16777216,
                forwardingAddress := addressAt data (pos + 8),
                externalRouteTag := natAt data (pos + 12) 4 }
  else .raw (Bytes.slice data pos (pos + len))

/-! ## Bodies that fit -/

/-- `n` links from `pos` on, each with the TOS metrics it says it has, end by `stop`. -/
def LinksFit (data : Bytes) (stop : Nat) : Nat → Nat → Prop
  | 0, _ => True
  | n + 1, pos => pos + 12 ≤ stop ∧ pos + (12 + 4 * numTosAt data pos) ≤ stop ∧
      LinksFit data stop n (pos + (12 + 4 * numTosAt data pos))

instance decidableLinksFit (data : Bytes) (stop : Nat) : ∀ n pos, Decidable (LinksFit data stop n pos)
  | 0, _ => inferInstanceAs (Decidable True)
  | n + 1, pos =>
      have := decidableLinksFit data stop n (pos + (12 + 4 * numTosAt data pos))
      inferInstanceAs (Decidable (_ ∧ _ ∧ _))

/-- The length of the fields every body of a type has. -/
def fixedLen (lsType : Nat) : Nat :=
  if lsType = lsaTypeRouter then 4
  else if lsType = lsaTypeNetwork then 4
  else if lsType = lsaTypeSummary ∨ lsType = lsaTypeAsbrSummary then 8
  else if lsType = lsaTypeExternal then 16
  else 0

theorem fixedLen_router : fixedLen lsaTypeRouter = 4 := rfl

theorem fixedLen_network : fixedLen lsaTypeNetwork = 4 := rfl

theorem fixedLen_summary {lsType : Nat} (h : lsType = lsaTypeSummary ∨ lsType = lsaTypeAsbrSummary) :
    fixedLen lsType = 8 := by
  rcases h with rfl | rfl <;> rfl

theorem fixedLen_external : fixedLen lsaTypeExternal = 16 := rfl

theorem fixedLen_le (lsType : Nat) : fixedLen lsType ≤ 16 := by
  unfold fixedLen
  repeat' split
  all_goals omega

/-- The fields of the body at `pos` end by `stop`. -/
structure BodyFits (lsType : Nat) (data : Bytes) (pos stop : Nat) : Prop where
  fixed : pos + fixedLen lsType ≤ stop
  links : lsType = lsaTypeRouter → LinksFit data stop (natAt data (pos + 2) 2) (pos + 4)

instance (lsType : Nat) (data : Bytes) (pos stop : Nat) : Decidable (BodyFits lsType data pos stop) :=
  decidable_of_iff (pos + fixedLen lsType ≤ stop ∧
    (lsType = lsaTypeRouter → LinksFit data stop (natAt data (pos + 2) 2) (pos + 4)))
    ⟨fun h => ⟨h.1, h.2⟩, fun h => ⟨h.1, h.2⟩⟩

/-- What `unpack_from` returns within the buffer. -/
theorem unpackFrom_of_le {fmt : List Struct.Code} {data : Bytes} {pos : Nat}
    (h : pos + Struct.calcsize fmt ≤ data.length) :
    unpackFrom fmt data pos = .ok (Struct.unpackAll fmt (data.drop pos)) := by
  unfold unpackFrom Struct.unpackFrom
  rw [if_pos h]

theorem unpackFrom_of_lt {fmt : List Struct.Code} {data : Bytes} {pos : Nat}
    (h : data.length < pos + Struct.calcsize fmt) : unpackFrom fmt data pos = .error .structError := by
  unfold unpackFrom Struct.unpackFrom
  rw [if_neg (Nat.not_le.2 h)]

/-- A field of an unpacked record, as it stands in the buffer. -/
theorem natAt_eq (data : Bytes) (pos w : Nat) : Bytes.toNat ((data.drop pos).take w) = natAt data pos w := by
  unfold natAt Bytes.slice
  rw [Nat.add_sub_cancel_left]

theorem addressAt_eq (data : Bytes) (pos : Nat) :
    addressField ((data.drop pos).take 4) = addressAt data pos := by
  unfold addressAt Bytes.slice
  rw [Nat.add_sub_cancel_left]

theorem addressOfBytes_slice {data : Bytes} {p : Nat} (h : p + 4 ≤ data.length) :
    addressOfBytes (Bytes.slice data p (p + 4)) = .ok (addressAt data p) := by
  have hlen : (Bytes.slice data p (p + 4)).length = 4 := by
    simp only [Bytes.slice, List.length_take, List.length_drop]
    omega
  unfold addressOfBytes addressAt addressField
  rw [dif_pos hlen]
  congr 1
  apply Fin.ext
  have hlt := Bytes.toNat_lt (Bytes.slice data p (p + 4))
  rw [hlen] at hlt
  exact (Nat.mod_eq_of_lt hlt).symm

theorem addressOfBytes_slice_of_lt {data : Bytes} {pos : Nat} (h : data.length < pos + 4) :
    addressOfBytes (Bytes.slice data pos (pos + 4)) = .error .addressValueError := by
  unfold addressOfBytes
  rw [dif_neg]
  simp only [Bytes.slice, List.length_take, List.length_drop]
  omega

theorem readTos_of_le {data : Bytes} {pos : Nat} (h : pos + 4 ≤ data.length) :
    RouterLsaLink.readTos data pos = .ok (natAt data pos 1, natAt data (pos + 2) 2) := by
  unfold RouterLsaLink.readTos
  rw [unpackFrom_of_le h]
  simp only [RouterLsaLink.tosFormat, Struct.unpackAll, Struct.unpack1, Struct.Code.size,
    List.drop_drop, natAt_eq, Nat.add_assoc, Nat.reduceAdd]

theorem tosMetrics_of_le (data : Bytes) : ∀ n pos, pos + 4 * n ≤ data.length →
    readRecords (RouterLsaLink.readTos data) 4 n pos = .ok (tosMetricsAt data n pos)
  | 0, _, _ => rfl
  | n + 1, pos, h => by
    rw [readRecords, readTos_of_le (by omega), tosMetrics_of_le data n (pos + 4) (by omega)]
    rfl

theorem addresses_of_le (data : Bytes) : ∀ n pos, pos + 4 * n ≤ data.length →
    readRecords (fun p => addressOfBytes (Bytes.slice data p (p + 4))) 4 n pos = .ok (addressesAt data n pos)
  | 0, _, _ => rfl
  | n + 1, pos, h => by
    rw [readRecords, addressOfBytes_slice (by omega), addresses_of_le data n (pos + 4) (by omega)]
    rfl

/-- The fields of a link are read from the twelve bytes at its place. -/
theorem RouterLsaLink.deserialize_of_le {data : Bytes} {pos : Nat} (h : pos + 12 ≤ data.length) :
    deserialize data pos =
      if numTosAt data pos * 4 > data.length - (pos + 12) then
        .error (.valueError s!"RouterLsaLink num_tos {numTosAt data pos} exceeds available data")
      else .ok (linkAt data pos, 12 + 4 * numTosAt data pos) := by
  unfold deserialize
  rw [unpackFrom_of_le h]
  simp only [format, Struct.unpackAll, Struct.unpack1, Struct.Code.size, List.drop_drop, natAt_eq,
    addressAt_eq, Nat.add_assoc, Nat.reduceAdd]
  show (if numTosAt data pos * 4 > _ then _ else _) = _
  split
  · rfl
  · rw [show natAt data (pos + 9) 1 = numTosAt data pos from rfl, tosMetrics_of_le data _ _ (by omega)]
    rfl

theorem RouterLsaLink.deserialize_of_fits {data : Bytes} {pos : Nat} (h : pos + 12 ≤ data.length)
    (htos : pos + (12 + 4 * numTosAt data pos) ≤ data.length) :
    deserialize data pos = .ok (linkAt data pos, 12 + 4 * numTosAt data pos) := by
  rw [deserialize_of_le h, if_neg (by omega)]

theorem RouterLsaLink.fits_of_deserialize {data : Bytes} {pos : Nat} {r : RouterLsaLink × Nat}
    (h : deserialize data pos = .ok r) :
    pos + 12 ≤ data.length ∧ pos + (12 + 4 * numTosAt data pos) ≤ data.length ∧
      r.2 = 12 + 4 * numTosAt data pos := by
  by_cases hle : pos + 12 ≤ data.length
  · rw [deserialize_of_le hle] at h
    split at h
    · cases h
    · cases h
      exact ⟨hle, by omega, rfl⟩
  · unfold deserialize at h
    rw [unpackFrom_of_lt (Nat.not_le.1 hle)] at h
    cases h

theorem RouterLsa.readLinks_of_fits (data : Bytes) : ∀ n pos, LinksFit data data.length n pos →
    readLinks data n pos = .ok (linksAt data n pos)
  | 0, _, _ => rfl
  | n + 1, pos, h => by
    rw [readLinks, RouterLsaLink.deserialize_of_fits h.1 h.2.1]
    simp only [readLinks_of_fits data n _ h.2.2]
    rfl

theorem RouterLsa.fits_of_readLinks (data : Bytes) : ∀ n pos links, readLinks data n pos = .ok links →
    LinksFit data data.length n pos
  | 0, _, _, _ => trivial
  | n + 1, pos, links, h => by
    rw [readLinks] at h
    split at h
    · cases h
    · rename_i link consumed hlink
      obtain ⟨h12, htos, hc⟩ := RouterLsaLink.fits_of_deserialize hlink
      obtain rfl : consumed = 12 + 4 * numTosAt data pos := hc
      split at h
      · cases h
      · rename_i rest hrest
        exact ⟨h12, htos, fits_of_readLinks data n _ rest hrest⟩

/-- Links that fit take twelve bytes each at least. -/
theorem LinksFit.le {data : Bytes} {stop : Nat} : ∀ {n pos}, pos ≤ stop → LinksFit data stop n pos →
    pos + 12 * n ≤ stop
  | 0, _, hpos, _ => by simpa using hpos
  | n + 1, pos, _, h => by
    have := LinksFit.le h.2.1 h.2.2
    omega

theorem RouterLsa.deserialize_of_le {data : Bytes} {pos : Nat} (h : pos + 4 ≤ data.length) :
    deserialize data pos =
      if 0 < natAt data (pos + 2) 2 ∧ natAt data (pos + 2) 2 * 12 > data.length - pos - 4 then
        .error (.valueError s!"RouterLSA num_links {natAt data (pos + 2) 2} exceeds available data")
      else
        match readLinks data (natAt data (pos + 2) 2) (pos + 4) with
        | .error e => .error e
        | .ok links => .ok { flags := natAt data pos 1, numLinks := natAt data (pos + 2) 2, links } := by
  unfold deserialize
  rw [unpackFrom_of_le h]
  simp only [format, Struct.unpackAll, Struct.unpack1, Struct.Code.size, List.drop_drop, natAt_eq,
    Nat.add_assoc, Nat.reduceAdd]
  all_goals rfl

theorem RouterLsa.deserialize_of_fits {data : Bytes} {pos : Nat} (h : pos + 4 ≤ data.length)
    (hlinks : LinksFit data data.length (natAt data (pos + 2) 2) (pos + 4)) :
    deserialize data pos =
      .ok { flags := natAt data pos 1, numLinks := natAt data (pos + 2) 2,
            links := linksAt data (natAt data (pos + 2) 2) (pos + 4) } := by
  have hroom := LinksFit.le h hlinks
  rw [deserialize_of_le h, if_neg (by omega), readLinks_of_fits data _ _ hlinks]

theorem RouterLsa.fits_of_deserialize {data : Bytes} {pos : Nat} {r : RouterLsa}
    (h : deserialize data pos = .ok r) :
    pos + 4 ≤ data.length ∧ LinksFit data data.length (natAt data (pos + 2) 2) (pos + 4) := by
  by_cases hle : pos + 4 ≤ data.length
  · rw [deserialize_of_le hle] at h
    split at h
    · cases h
    · split at h
      · cases h
      · rename_i links hlinks
        exact ⟨hle, fits_of_readLinks data _ _ links hlinks⟩
  · unfold deserialize at h
    rw [unpackFrom_of_lt (Nat.not_le.1 hle)] at h
    cases h

/-- The routers of a Network-LSA are looked for within its own length only. -/
theorem NetworkLsa.deserialize_of_fits {data : Bytes} {pos len : Nat} (hlen : len ≠ 0)
    (hin : pos + len ≤ data.length) (h : pos + 4 ≤ data.length) :
    deserialize data pos len =
      .ok { networkMask := addressAt data pos,
            attachedRouters := addressesAt data ((len - 4) / 4) (pos + 4) } := by
  have hcount : (pos + len - (pos + 4)) / 4 = (len - 4) / 4 := by
    rw [Nat.add_sub_add_left]
  unfold deserialize
  rw [addressOfBytes_slice h]
  simp only [if_pos hlen, hcount]
  by_cases h4 : 4 ≤ len
  · rw [addresses_of_le data _ _ (by omega)]
  · rw [show (len - 4) / 4 = 0 by omega]
    rfl

theorem word_of_le {data : Bytes} {pos : Nat} (h : pos + 4 ≤ data.length) :
    unpackFrom [.I] data pos = .ok [.nat (natAt data pos 4)] := by
  rw [unpackFrom_of_le h]
  simp only [Struct.unpackAll, Struct.unpack1, Struct.Code.size, natAt_eq]

theorem SummaryLsa.deserialize_of_fits {data : Bytes} {pos : Nat} (h : pos + 8 ≤ data.length) :
    deserialize data pos =
      .ok { networkMask := addressAt data pos, metric := natAt data (pos + 4) 4 % 16777216 } := by
  unfold deserialize
  rw [addressOfBytes_slice (by omega)]
  show (unpackFrom [.I] data (pos + 4) >>= _) = _
  rw [word_of_le (by omega)]
  rfl

theorem ExternalLsa.deserialize_of_fits {data : Bytes} {pos : Nat} (h : pos + 16 ≤ data.length) :
    deserialize data pos =
      .ok { networkMask := addressAt data pos,
            eBit := natAt data (pos + 4) 4 &&& 0x80000000 != 0,
            metric := natAt data (pos + 4) 4 % 16777216,
            forwardingAddress := addressAt data (pos + 8),
            externalRouteTag := natAt data (pos + 12) 4 } := by
  have h8 : pos + 8 + 4 ≤ data.length := by omega
  have hforward := addressOfBytes_slice (p := pos + 8) h8
  rw [Nat.add_assoc] at hforward
  unfold deserialize
  rw [addressOfBytes_slice (by omega)]
  show (unpackFrom [.I] data (pos + 4) >>= _) = _
  rw [word_of_le (by omega)]
  show (addressOfBytes _ >>= _) = _
  rw [hforward]
  show (unpackFrom [.I] data (pos + 12) >>= _) = _
  rw [word_of_le (by omega)]
  rfl

/-- A body that fits the buffer is read from its place. -/
theorem deserializeBody_of_fits {lsType : Nat} {data : Bytes} {pos len : Nat} (hlen : len ≠ 0)
    (hin : pos + len ≤ data.length) (h : BodyFits lsType data pos data.length) :
    Lsa.deserializeBody lsType data pos len = .ok (some (bodyAt lsType data pos len)) := by
  have hfixed := h.fixed
  unfold Lsa.deserializeBody bodyAt
  rw [if_neg hlen]
  by_cases hr : lsType = lsaTypeRouter
  · subst hr
    rw [fixedLen_router] at hfixed
    rw [if_pos rfl, if_pos rfl, RouterLsa.deserialize_of_fits hfixed (h.links rfl)]
    rfl
  rw [if_neg hr, if_neg hr]
  by_cases hn : lsType = lsaTypeNetwork
  · subst hn
    rw [fixedLen_network] at hfixed
    rw [if_pos rfl, if_pos rfl, NetworkLsa.deserialize_of_fits hlen hin hfixed]
    rfl
  rw [if_neg hn, if_neg hn]
  by_cases hs : lsType = lsaTypeSummary ∨ lsType = lsaTypeAsbrSummary
  · rw [fixedLen_summary hs] at hfixed
    rw [if_pos hs, if_pos hs, SummaryLsa.deserialize_of_fits hfixed]
    rfl
  rw [if_neg hs, if_neg hs]
  by_cases he : lsType = lsaTypeExternal
  · subst he
    rw [fixedLen_external] at hfixed
    rw [if_pos rfl, if_pos rfl, ExternalLsa.deserialize_of_fits hfixed]
    rfl
  · rw [if_neg he, if_neg he]

theorem ok_of_map {α β : Type} {x : Except PyError α} {f : α → β} {b : β} (h : x.map f = .ok b) :
    ∃ a, x = .ok a := by
  cases x with
  | error e => cases h
  | ok a => exact ⟨a, rfl⟩

theorem NetworkLsa.le_of_deserialize {data : Bytes} {pos len : Nat} {n : NetworkLsa}
    (h : deserialize data pos len = .ok n) : pos + 4 ≤ data.length := by
  refine Nat.not_lt.1 fun hlt => ?_
  unfold deserialize at h
  rw [addressOfBytes_slice_of_lt hlt] at h
  cases h

theorem SummaryLsa.le_of_deserialize {data : Bytes} {pos : Nat} {x : SummaryLsa}
    (h : deserialize data pos = .ok x) : pos + 8 ≤ data.length := by
  refine Nat.not_lt.1 fun hlt => ?_
  unfold deserialize at h
  obtain ⟨_, -, h⟩ := bind_eq_ok h
  obtain ⟨_, hword, -⟩ := bind_eq_ok h
  rw [unpackFrom_of_lt hlt] at hword
  cases hword

theorem ExternalLsa.le_of_deserialize {data : Bytes} {pos : Nat} {x : ExternalLsa}
    (h : deserialize data pos = .ok x) : pos + 16 ≤ data.length := by
  refine Nat.not_lt.1 fun hlt => ?_
  unfold deserialize at h
  obtain ⟨_, -, h⟩ := bind_eq_ok h
  obtain ⟨_, -, h⟩ := bind_eq_ok h
  split at h
  · obtain ⟨_, -, h⟩ := bind_eq_ok h
    obtain ⟨_, hword, -⟩ := bind_eq_ok h
    rw [unpackFrom_of_lt hlt] at hword
    cases hword
  · cases h

/-- A body is read only where it fits the buffer. -/
theorem fits_of_deserializeBody {lsType : Nat} {data : Bytes} {pos len : Nat} {body : Option LsaBody}
    (hlen : len ≠ 0) (hin : pos + len ≤ data.length)
    (h : Lsa.deserializeBody lsType data pos len = .ok body) : BodyFits lsType data pos data.length := by
  unfold Lsa.deserializeBody at h
  rw [if_neg hlen] at h
  by_cases hr : lsType = lsaTypeRouter
  · subst hr
    obtain ⟨r, hok⟩ := ok_of_map h
    obtain ⟨h4, hlinks⟩ := RouterLsa.fits_of_deserialize hok
    exact ⟨h4, fun _ => hlinks⟩
  refine ⟨?_, fun hrouter => absurd hrouter hr⟩
  rw [if_neg hr] at h
  by_cases hn : lsType = lsaTypeNetwork
  · rw [if_pos hn] at h
    obtain ⟨n, hok⟩ := ok_of_map h
    subst hn
    exact NetworkLsa.le_of_deserialize hok
  rw [if_neg hn] at h
  by_cases hs : lsType = lsaTypeSummary ∨ lsType = lsaTypeAsbrSummary
  · rw [if_pos hs] at h
    obtain ⟨x, hok⟩ := ok_of_map h
    rw [fixedLen_summary hs]
    exact SummaryLsa.le_of_deserialize hok
  rw [if_neg hs] at h
  by_cases he : lsType = lsaTypeExternal
  · rw [if_pos he] at h
    obtain ⟨x, hok⟩ := ok_of_map h
    subst he
    exact ExternalLsa.le_of_deserialize hok
  · have hnone : fixedLen lsType = 0 := by
      unfold fixedLen
      rw [if_neg hr, if_neg hn, if_neg hs, if_neg he]
    omega

theorem LinksFit.mono {data : Bytes} {stop stop' : Nat} (hle : stop ≤ stop') : ∀ {n pos : Nat},
    LinksFit data stop n pos → LinksFit data stop' n pos
  | 0, _, _ => trivial
  | _ + 1, _, h => ⟨h.1.trans hle, h.2.1.trans hle, LinksFit.mono hle h.2.2⟩

theorem BodyFits.mono {lsType : Nat} {data : Bytes} {pos stop stop' : Nat}
    (h : BodyFits lsType data pos stop) (hle : stop ≤ stop') : BodyFits lsType data pos stop' :=
  ⟨h.fixed.trans hle, fun hr => (h.links hr).mono hle⟩

/-! ## Buffers that agree -/

/-- Two buffers hold the same bytes below `m`. -/
structure Agree (m : Nat) (data data' : Bytes) : Prop where
  le : m ≤ data.length
  le' : m ≤ data'.length
  take : data.take m = data'.take m

namespace Agree

variable {m : Nat} {data data' : Bytes} (ha : Agree m data data')

include ha

theorem slice {lo hi : Nat} (h : hi ≤ m) : Bytes.slice data lo hi = Bytes.slice data' lo hi := by
  have key : ∀ b : Bytes, Bytes.slice b lo hi = ((b.take m).take hi).drop lo := by
    intro b
    rw [List.take_take, Nat.min_eq_left h, List.drop_take, Bytes.slice]
  rw [key, key, ha.take]

theorem natAt {p w : Nat} (h : p + w ≤ m) : natAt data p w = natAt data' p w := by
  unfold Ospfd.natAt
  rw [ha.slice h]

theorem addressAt {p : Nat} (h : p + 4 ≤ m) : addressAt data p = addressAt data' p := by
  unfold Ospfd.addressAt
  rw [ha.slice h]

theorem tosMetricsAt : ∀ {n pos : Nat}, pos + 4 * n ≤ m →
    tosMetricsAt data n pos = tosMetricsAt data' n pos
  | 0, _, _ => rfl
  | n + 1, pos, h => by
    unfold Ospfd.tosMetricsAt
    rw [ha.natAt (by omega), ha.natAt (by omega), tosMetricsAt (by omega)]

theorem numTosAt {pos : Nat} (h : pos + 12 ≤ m) : numTosAt data pos = numTosAt data' pos :=
  ha.natAt (by omega)

theorem linkAt {pos : Nat} (h : pos + 12 ≤ m) (htos : pos + (12 + 4 * Ospfd.numTosAt data pos) ≤ m) :
    linkAt data pos = linkAt data' pos := by
  unfold Ospfd.linkAt
  rw [← ha.numTosAt h, ha.addressAt (by omega), ha.addressAt (by omega), ha.natAt (by omega),
    ha.natAt (by omega), ha.tosMetricsAt (by omega)]

theorem linksFit : ∀ {n pos : Nat}, LinksFit data m n pos ↔ LinksFit data' m n pos
  | 0, _ => Iff.rfl
  | n + 1, pos => by
    unfold LinksFit
    apply and_congr_right
    intro h
    rw [ha.numTosAt h, linksFit]

theorem linksAt : ∀ {n pos : Nat}, LinksFit data m n pos → linksAt data n pos = linksAt data' n pos
  | 0, _, _ => rfl
  | n + 1, pos, h => by
    unfold Ospfd.linksAt
    rw [ha.linkAt h.1 h.2.1, ← ha.numTosAt h.1, linksAt h.2.2]

theorem addressesAt : ∀ {n pos : Nat}, pos + 4 * n ≤ m → addressesAt data n pos = addressesAt data' n pos
  | 0, _, _ => rfl
  | n + 1, pos, h => by
    unfold Ospfd.addressesAt
    rw [ha.addressAt (by omega), addressesAt (by omega)]

theorem bodyFits {lsType pos : Nat} (h : BodyFits lsType data pos m) : BodyFits lsType data' pos m := by
  refine ⟨h.fixed, fun hr => ?_⟩
  have h4 := h.fixed
  subst hr
  rw [fixedLen_router] at h4
  rw [← ha.natAt (by omega), ← ha.linksFit]
  exact h.links rfl

theorem bodyAt {lsType pos len : Nat} (hm : pos + len = m) (h : BodyFits lsType data pos m) :
    bodyAt lsType data pos len = bodyAt lsType data' pos len := by
  have hfixed := h.fixed
  unfold Ospfd.bodyAt
  by_cases hr : lsType = lsaTypeRouter
  · subst hr
    rw [fixedLen_router] at hfixed
    rw [if_pos rfl, if_pos rfl, ← ha.natAt (p := pos + 2) (by omega), ha.natAt (p := pos) (by omega),
      ha.linksAt (h.links rfl)]
  rw [if_neg hr, if_neg hr]
  by_cases hn : lsType = lsaTypeNetwork
  · subst hn
    rw [fixedLen_network] at hfixed
    rw [if_pos rfl, if_pos rfl, ha.addressAt hfixed, ha.addressesAt (by omega)]
  rw [if_neg hn, if_neg hn]
  by_cases hs : lsType = lsaTypeSummary ∨ lsType = lsaTypeAsbrSummary
  · rw [fixedLen_summary hs] at hfixed
    rw [if_pos hs, if_pos hs, ha.addressAt (by omega), ha.natAt (by omega)]
  rw [if_neg hs, if_neg hs]
  by_cases he : lsType = lsaTypeExternal
  · subst he
    rw [fixedLen_external] at hfixed
    rw [if_pos rfl, if_pos rfl, ha.addressAt (p := pos) (by omega), ha.natAt (p := pos + 4) (by omega),
      ha.addressAt (p := pos + 8) (by omega), ha.natAt (p := pos + 12) (by omega)]
  · rw [if_neg he, if_neg he, ha.slice (by omega)]

end Agree

/-! ## LSAs -/

/-- The header at `pos`. -/
def headerAt (data : Bytes) (pos : Nat) : LsaHeader where
  lsAge := natAt data pos 2
  options := natAt data (pos + 2) 1
  lsType := natAt data (pos + 3) 1
  linkStateId := addressAt data (pos + 4)
  advertisingRouter := addressAt data (pos + 8)
  lsSequenceNumber := natAt data (pos + 12) 4
  lsChecksum := natAt data (pos + 16) 2
  length := natAt data (pos + 18) 2

theorem headerAt_of_le {data : Bytes} {pos : Nat} (h : pos + 20 ≤ data.length) :
    LsaHeader.deserialize (data.drop pos) = .ok (headerAt data pos) := by
  have hlen : LsaHeader.size ≤ (data.drop pos).length := by
    rw [List.length_drop, LsaHeader.size]
    omega
  unfold LsaHeader.deserialize
  rw [if_neg (Nat.not_lt.2 hlen), unpackFrom_of_le (by rw [Nat.zero_add]; exact hlen)]
  simp only [LsaHeader.format, Struct.unpackAll, Struct.unpack1, Struct.Code.size, List.drop_drop,
    natAt_eq, addressAt_eq, Nat.add_assoc, Nat.reduceAdd, Nat.add_zero]
  rfl

/-- The length field of the LSA at `pos`. -/
def lengthAt (data : Bytes) (pos : Nat) : Nat := natAt data (pos + 18) 2

/-- The type field of the LSA at `pos`. -/
def typeAt (data : Bytes) (pos : Nat) : Nat := natAt data (pos + 3) 1

/-- Decoding an LSA that its length leaves within the buffer. -/
theorem Lsa.deserialize_of_le {data : Bytes} {pos : Nat} (hmin : 20 ≤ lengthAt data pos)
    (hmax : pos + lengthAt data pos ≤ data.length) :
    deserialize data pos = (deserializeBody (typeAt data pos) data (pos + LsaHeader.size)
      (lengthAt data pos - LsaHeader.size)).map fun body =>
        ({ header := headerAt data pos, body }, lengthAt data pos) := by
  have hroom : lengthAt data pos ≤ data.length - pos := by omega
  exact deserialize_eq (headerAt_of_le (by omega)) hmin hroom

theorem Lsa.deserialize_of_short {data : Bytes} {pos : Nat} (hdr : pos + 20 ≤ data.length)
    (h : lengthAt data pos < 20) : (deserialize data pos).toOption = none := by
  unfold deserialize
  rw [headerAt_of_le hdr]
  show Except.toOption (if lengthAt data pos < LsaHeader.size then _ else _) = none
  rw [if_pos (show lengthAt data pos < LsaHeader.size from h)]
  rfl

/-- What a decoded LSA was read from. -/
theorem Lsa.of_deserialize {data : Bytes} {pos n : Nat} {lsa : Lsa}
    (h : deserialize data pos = .ok (lsa, n)) :
    lengthAt data pos = n ∧ 20 ≤ n ∧ pos + n ≤ data.length ∧ lsa.header = headerAt data pos ∧
      deserializeBody (typeAt data pos) data (pos + 20) (n - 20) = .ok lsa.body := by
  by_cases hdr : pos + 20 ≤ data.length
  · by_cases hmin : 20 ≤ lengthAt data pos
    · by_cases hmax : pos + lengthAt data pos ≤ data.length
      · rw [deserialize_of_le hmin hmax] at h
        cases hbody : deserializeBody (typeAt data pos) data (pos + LsaHeader.size)
            (lengthAt data pos - LsaHeader.size) with
        | error e =>
          rw [hbody] at h
          cases h
        | ok body =>
          rw [hbody] at h
          cases h
          exact ⟨rfl, hmin, hmax, rfl, hbody⟩
      · unfold deserialize at h
        rw [headerAt_of_le hdr] at h
        have hroom : lengthAt data pos > data.length - pos := by omega
        simp only [if_neg (show ¬(headerAt data pos).length < LsaHeader.size from Nat.not_lt.2 hmin),
          if_pos (show (headerAt data pos).length > data.length - pos from hroom)] at h
        cases h
    · have hnone := deserialize_of_short hdr (Nat.not_le.1 hmin)
      rw [h] at hnone
      cases hnone
  · unfold deserialize LsaHeader.deserialize at h
    rw [if_pos (show (data.drop pos).length < LsaHeader.size by rw [List.length_drop, LsaHeader.size]; omega)] at h
    cases h

theorem Agree.headerAt {m : Nat} {data data' : Bytes} (ha : Agree m data data') {pos : Nat}
    (h : pos + 20 ≤ m) : headerAt data pos = headerAt data' pos := by
  unfold Ospfd.headerAt
  rw [ha.natAt (p := pos) (by omega), ha.natAt (p := pos + 2) (by omega),
    ha.natAt (p := pos + 3) (by omega), ha.addressAt (p := pos + 4) (by omega),
    ha.addressAt (p := pos + 8) (by omega), ha.natAt (p := pos + 12) (by omega),
    ha.natAt (p := pos + 16) (by omega), ha.natAt (p := pos + 18) (by omega)]

theorem natAt_lt (data : Bytes) (pos w : Nat) : natAt data pos w < 256 ^ w := by
  refine lt_of_lt_of_le (Bytes.toNat_lt _) (Nat.pow_le_pow_right (by omega) ?_)
  simp only [Bytes.slice, List.length_take]
  omega

/-- Links fit where there is room for as many TOS metrics as a link can say it has. -/
theorem linksFit_of_room {data : Bytes} {stop : Nat} : ∀ {n pos : Nat}, pos + 1032 * n ≤ stop →
    LinksFit data stop n pos
  | 0, _, _ => trivial
  | n + 1, pos, h => by
    have htos : numTosAt data pos < 256 := natAt_lt data (pos + 9) 1
    exact ⟨by omega, by omega, linksFit_of_room (by omega)⟩

theorem bodyFits_of_room {lsType : Nat} {data : Bytes} {pos stop : Nat}
    (h : pos + 16 + 1032 * 65536 ≤ stop) : BodyFits lsType data pos stop := by
  have hlinks : natAt data (pos + 2) 2 < 65536 := natAt_lt data (pos + 2) 2
  have hfixed := fixedLen_le lsType
  exact ⟨by omega, fun _ => linksFit_of_room (by omega)⟩

/-- What the decoder makes of the LSA at `pos` does not depend on the bytes behind it: every
buffer with the same bytes up to its end gives the same LSA, or fails as well. -/
def DecodesLocally (data : Bytes) (pos : Nat) : Prop :=
  ∀ data', pos + 20 ≤ data'.length → lengthAt data' pos = lengthAt data pos →
    pos + lengthAt data pos ≤ data'.length →
    data'.take (pos + lengthAt data pos) = data.take (pos + lengthAt data pos) →
    (Lsa.deserialize data' pos).toOption = (Lsa.deserialize data pos).toOption

/-- An LSA whose body fits its length is decoded alike from all buffers that agree on it. -/
theorem deserialize_congr {data data' : Bytes} {pos : Nat} (hmin : 20 ≤ lengthAt data pos)
    (ha : Agree (pos + lengthAt data pos) data data')
    (hfits : lengthAt data pos = 20 ∨
      BodyFits (typeAt data pos) data (pos + 20) (pos + lengthAt data pos)) :
    Lsa.deserialize data' pos = Lsa.deserialize data pos := by
  have hlength : lengthAt data' pos = lengthAt data pos := (ha.natAt (by omega)).symm
  have htype : typeAt data' pos = typeAt data pos := (ha.natAt (by omega)).symm
  have hheader : headerAt data' pos = headerAt data pos := (ha.headerAt (by omega)).symm
  have hbody : Lsa.deserializeBody (typeAt data pos) data' (pos + 20) (lengthAt data pos - 20) =
      Lsa.deserializeBody (typeAt data pos) data (pos + 20) (lengthAt data pos - 20) := by
    by_cases hzero : lengthAt data pos - 20 = 0
    · unfold Lsa.deserializeBody
      rw [if_pos hzero, if_pos hzero]
    · have hfit := hfits.resolve_left (by omega)
      have hstop : pos + 20 + (lengthAt data pos - 20) = pos + lengthAt data pos := by omega
      have hle := ha.le
      have hle' := ha.le'
      rw [deserializeBody_of_fits hzero (by omega) (hfit.mono hle),
        deserializeBody_of_fits hzero (by omega) ((ha.bodyFits hfit).mono hle'), ha.bodyAt hstop hfit]
  rw [Lsa.deserialize_of_le hmin ha.le, Lsa.deserialize_of_le (by omega) (by rw [hlength]; exact ha.le'),
    hlength, htype, hheader]
  show Except.map _ (Lsa.deserializeBody (typeAt data pos) data' (pos + 20) (lengthAt data pos - 20)) = _
  rw [hbody]
  rfl

/-- An LSA whose body does not fit its length is decoded from no buffer that ends with it. -/
theorem deserialize_of_not_fits {data : Bytes} {pos : Nat} (hmin : 20 < lengthAt data pos)
    (hend : data.length = pos + lengthAt data pos)
    (hfits : ¬BodyFits (typeAt data pos) data (pos + 20) (pos + lengthAt data pos)) :
    (Lsa.deserialize data pos).toOption = none := by
  rw [Lsa.deserialize_of_le (by omega) (by omega)]
  cases hbody : Lsa.deserializeBody (typeAt data pos) data (pos + LsaHeader.size)
      (lengthAt data pos - LsaHeader.size) with
  | error e => rfl
  | ok body =>
    unfold LsaHeader.size at hbody
    have hfit := fits_of_deserializeBody (by omega) (by omega) hbody
    rw [hend] at hfit
    exact absurd hfit hfits

/-- Any LSA is decoded where enough bytes follow it. -/
theorem deserialize_of_room {data : Bytes} {pos : Nat} (hmin : 20 < lengthAt data pos)
    (hmax : pos + lengthAt data pos ≤ data.length) (hroom : pos + 36 + 1032 * 65536 ≤ data.length) :
    (Lsa.deserialize data pos).toOption ≠ none := by
  have hsize : LsaHeader.size = 20 := rfl
  rw [Lsa.deserialize_of_le (by omega) hmax, deserializeBody_of_fits (by omega) (by omega)
    (bodyFits_of_room (by omega))]
  exact Option.some_ne_none _

/-- **An LSA is decoded from its own bytes alone just where it has no body or its body fits
its length.** -/
theorem decodesLocally_iff (data : Bytes) (pos : Nat) (hheader : pos + 20 ≤ data.length)
    (hlength : pos + lengthAt data pos ≤ data.length) :
    DecodesLocally data pos ↔ lengthAt data pos ≤ 20 ∨
      BodyFits (typeAt data pos) data (pos + 20) (pos + lengthAt data pos) := by
  constructor
  · intro hlocal
    by_contra hnot
    obtain ⟨hlong, hfits⟩ := not_or.1 hnot
    -- two buffers that agree on the LSA: one ends with it, zeros follow it in the other
    have hagree : ∀ tail, Agree (pos + lengthAt data pos) data
        (data.take (pos + lengthAt data pos) ++ tail) := by
      intro tail
      have htake : (data.take (pos + lengthAt data pos)).length = pos + lengthAt data pos :=
        List.length_take_of_le hlength
      exact
        { le := hlength
          le' := by
            rw [List.length_append, htake]
            omega
          take := by rw [List.take_left' htake] }
    have hsame : ∀ tail, (Lsa.deserialize (data.take (pos + lengthAt data pos) ++ tail) pos).toOption =
        (Lsa.deserialize data pos).toOption := by
      intro tail
      have ha := hagree tail
      have hle' := ha.le'
      exact hlocal _ (by omega) (ha.natAt (by omega)).symm hle' ha.take.symm
    have hlen : ∀ tail, lengthAt (data.take (pos + lengthAt data pos) ++ tail) pos = lengthAt data pos :=
      fun tail => ((hagree tail).natAt (by omega)).symm
    have htype : ∀ tail, typeAt (data.take (pos + lengthAt data pos) ++ tail) pos = typeAt data pos :=
      fun tail => ((hagree tail).natAt (by omega)).symm
    have hshort : (Lsa.deserialize (data.take (pos + lengthAt data pos) ++ []) pos).toOption = none := by
      apply deserialize_of_not_fits
      · rw [hlen]
        omega
      · rw [hlen, List.append_nil, List.length_take_of_le hlength]
      · intro hfit
        rw [hlen, htype] at hfit
        have hback : Agree (pos + lengthAt data pos) (data.take (pos + lengthAt data pos) ++ []) data :=
          ⟨(hagree []).le', (hagree []).le, (hagree []).take.symm⟩
        exact hfits (hback.bodyFits hfit)
    have hroom : (data.take (pos + lengthAt data pos) ++
        List.replicate (36 + 1032 * 65536) 0).length = pos + lengthAt data pos + (36 + 1032 * 65536) := by
      rw [List.length_append, List.length_take_of_le hlength, List.length_replicate]
    refine deserialize_of_room ?_ ?_ ?_ (((hsame (List.replicate (36 + 1032 * 65536) 0)).trans
      (hsame []).symm).trans hshort)
    · rw [hlen]
      omega
    · rw [hlen, hroom]
      omega
    · rw [hroom]
      omega
  · intro hfits data' hheader' hsame hlength' htake
    by_cases hmin : lengthAt data pos < 20
    · rw [Lsa.deserialize_of_short hheader hmin, Lsa.deserialize_of_short hheader' (by omega)]
    · have ha : Agree (pos + lengthAt data pos) data data' := ⟨hlength, hlength', htake.symm⟩
      rw [deserialize_congr (Nat.not_lt.1 hmin) ha]
      exact hfits.imp_left fun hle => by omega

/-- A Router-LSA of 24 bytes that says it has one link, and the 12 bytes behind it. -/
def spillingLsa : Bytes :=
  [0, 1, 2, 1, 1, 1, 1, 1, 1, 1, 1, 1, 128, 0, 0, 1, 0, 0, 0, 24, 0, 0, 0, 1] ++
    [10, 0, 0, 0, 255, 0, 0, 0, 3, 0, 0, 10]

theorem decodesLocally_iff_spilling : DecodesLocally spillingLsa 0 ↔ lengthAt spillingLsa 0 ≤ 20 ∨
    BodyFits (typeAt spillingLsa 0) spillingLsa (0 + 20) (0 + lengthAt spillingLsa 0) :=
  decodesLocally_iff spillingLsa 0 (by decide) (by decide)

/-- The link is taken from the bytes behind the LSA, and missed where they are missing. -/
theorem not_decodesLocally : ¬∀ data pos, pos + 20 ≤ data.length → pos + lengthAt data pos ≤ data.length →
    DecodesLocally data pos := by
  intro h
  have hsame := h spillingLsa 0 (by decide) (by decide) (spillingLsa.take 24) (by decide) (by decide)
    (by decide) (by decide)
  exact absurd hsame (by decide)

end Ospfd
