import Ospfd.Spf.External

/-!
# Masks and destinations

A mask becomes a prefix length by counting its ones.

* `Contiguous` — the masks of prefixes.
* `IPv4Network.Describes` — a destination has the addresses that agree under a mask.
* `ipv4Network_describes_iff` — a counted prefix describes its mask exactly when it is contiguous.
* `Honours` — the routes of an LSA are to the addresses it describes.
* `routes_honour_iff` — **exactly for contiguous masks**, and for the LSAs passed over anyway.
-/

namespace Ospfd

/-! ## Bits of addresses -/

theorem IPv4Address.ext_bits {a b : IPv4Address} (h : ∀ i < 32, a.val.testBit i = b.val.testBit i) : a = b := by
  refine Fin.ext (Nat.eq_of_testBit_eq fun i => ?_)
  rcases Nat.lt_or_ge i 32 with hi | hi
  · exact h i hi
  · have hpow : (2 : Nat) ^ 32 ≤ 2 ^ i := Nat.pow_le_pow_right (by decide) hi
    rw [Nat.testBit_lt_two_pow (lt_of_lt_of_le a.isLt hpow), Nat.testBit_lt_two_pow (lt_of_lt_of_le b.isLt hpow)]

theorem IPv4Address.ext_bits_iff {a b : IPv4Address} :
    a = b ↔ ∀ i < 32, a.val.testBit i = b.val.testBit i :=
  ⟨fun h _ _ => by rw [h], IPv4Address.ext_bits⟩

theorem IPv4Address.testBit_and (a b : IPv4Address) (i : Nat) :
    (a &&& b).val.testBit i = (a.val.testBit i && b.val.testBit i) := by
  have hval : (a &&& b).val = (a.val &&& b.val) % 4294967296 := rfl
  rw [hval, Nat.mod_eq_of_lt (lt_of_le_of_lt Nat.and_le_left a.isLt), Nat.testBit_and]

/-- The address with one bit turned. -/
def flipBit (a : IPv4Address) (p : Nat) : IPv4Address := Fin.ofNat 4294967296 (a.val ^^^ 2 ^ p)

theorem testBit_flipBit (a : IPv4Address) {p : Nat} (hp : p < 32) (i : Nat) :
    (flipBit a p).val.testBit i = (a.val.testBit i ^^ decide (p = i)) := by
  have hlt : a.val ^^^ 2 ^ p < 4294967296 := Nat.xor_lt_two_pow (n := 32) a.isLt (Nat.pow_lt_pow_right (by decide) hp)
  have hval : (flipBit a p).val = (a.val ^^^ 2 ^ p) % 4294967296 := rfl
  rw [hval, Nat.mod_eq_of_lt hlt, Nat.testBit_xor, Nat.testBit_two_pow]

theorem testBit_flipBit_eq_iff (a : IPv4Address) {p : Nat} (hp : p < 32) (i : Nat) :
    (flipBit a p).val.testBit i = a.val.testBit i ↔ i ≠ p := by
  rw [testBit_flipBit a hp]
  by_cases h : p = i
  · rw [decide_eq_true h]
    simp [h]
  · rw [decide_eq_false h]
    simp [Ne.symm h]

/-- Clearing the host bits keeps those of the prefix. -/
theorem testBit_clearHost (a : IPv4Address) (n i : Nat) :
    (clearHost a n).val.testBit i = (decide (32 - n ≤ i) && a.val.testBit i) := by
  have hle : a.val / 2 ^ (32 - n) * 2 ^ (32 - n) ≤ a.val := Nat.div_mul_le_self ..
  have hval : (clearHost a n).val = a.val / 2 ^ (32 - n) * 2 ^ (32 - n) % 4294967296 := rfl
  rw [hval, Nat.mod_eq_of_lt (lt_of_le_of_lt hle a.isLt), ← Nat.shiftLeft_eq, ← Nat.shiftRight_eq_div_pow,
    Nat.testBit_shiftLeft]
  by_cases h : 32 - n ≤ i
  · rw [Nat.testBit_shiftRight, Nat.add_sub_cancel' h]
  · rw [decide_eq_false h, Bool.false_and, Bool.false_and]

/-! ## Masks of prefixes -/

/-- `prefix_len_to_mask`. -/
def prefixLenToMask (prefixLen : Nat) : IPv4Address :=
  if prefixLen = 0 then 0 else Fin.ofNat 4294967296 ((4294967295 <<< (32 - prefixLen)) &&& 4294967295)

/-- A mask of ones, and of zeros behind them. -/
def Contiguous (mask : IPv4Address) : Prop := ∃ prefixLen ≤ 32, mask = prefixLenToMask prefixLen

theorem testBit_prefixLenToMask {n i : Nat} (hi : i < 32) :
    (prefixLenToMask n).val.testBit i = decide (32 - n ≤ i) := by
  rw [prefixLenToMask]
  split
  · subst n
    rw [Fin.val_zero, Nat.zero_testBit]
    exact (decide_eq_false (by omega)).symm
  · have hlt : (4294967295 <<< (32 - n)) &&& 4294967295 < 4294967296 :=
      lt_of_le_of_lt Nat.and_le_right (by decide)
    have hval : (Fin.ofNat 4294967296 ((4294967295 <<< (32 - n)) &&& 4294967295)).val =
        ((4294967295 <<< (32 - n)) &&& 4294967295) % 4294967296 := rfl
    have hones : ∀ j, Nat.testBit 4294967295 j = decide (j < 32) := Nat.testBit_two_pow_sub_one 32
    rw [hval, Nat.mod_eq_of_lt hlt, Nat.testBit_and, Nat.testBit_shiftLeft, hones, hones, decide_eq_true hi,
      Bool.and_true, decide_eq_true (show i - (32 - n) < 32 by omega), Bool.and_true]

/-- A mask has no more than its 32 ones. -/
theorem maskToPrefixLen_le (mask : IPv4Address) : maskToPrefixLen mask ≤ 32 :=
  (List.length_filter_le ..).trans_eq List.length_range

theorem length_filter_le_range (k n : Nat) :
    ((List.range n).filter fun i => decide (k ≤ i)).length = n - k := by
  induction n with
  | zero => simp
  | succ n ih =>
    rw [List.range_succ, List.filter_append, List.length_append, ih]
    by_cases h : k ≤ n
    · have hlast : [n].filter (fun i => decide (k ≤ i)) = [n] := by simp [h]
      rw [hlast, List.length_singleton]
      omega
    · have hlast : [n].filter (fun i => decide (k ≤ i)) = [] := by simp [h]
      rw [hlast, List.length_nil]
      omega

/-- Counting the ones gives the length of a prefix back. -/
theorem maskToPrefixLen_prefixLenToMask {n : Nat} (hn : n ≤ 32) : maskToPrefixLen (prefixLenToMask n) = n := by
  have hbits : ((List.range 32).filter fun i => (prefixLenToMask n).val.testBit i) =
      (List.range 32).filter fun i => decide (32 - n ≤ i) :=
    List.filter_congr fun i hi => testBit_prefixLenToMask (List.mem_range.1 hi)
  rw [maskToPrefixLen, hbits, length_filter_le_range]
  omega

/-- A mask is contiguous exactly when its ones are those of its counted prefix. -/
theorem contiguous_iff {mask : IPv4Address} :
    Contiguous mask ↔ ∀ i < 32, mask.val.testBit i = decide (32 - maskToPrefixLen mask ≤ i) := by
  constructor
  · rintro ⟨n, hn, rfl⟩ i hi
    rw [maskToPrefixLen_prefixLenToMask hn]
    exact testBit_prefixLenToMask hi
  · intro h
    refine ⟨maskToPrefixLen mask, maskToPrefixLen_le mask, IPv4Address.ext_bits fun i hi => ?_⟩
    rw [h i hi, testBit_prefixLenToMask hi]

/-! ## Destinations -/

/-- The network has exactly the addresses that agree with one under a mask. -/
def IPv4Network.Describes (network : IPv4Network) (addr mask : IPv4Address) : Prop :=
  ∀ a, network.contains a = true ↔ a &&& mask = addr &&& mask

theorem contains_ipv4Network_iff {addr a : IPv4Address} {n : Nat} :
    (ipv4Network addr n).contains a = true ↔
      ∀ i < 32, 32 - n ≤ i → a.val.testBit i = addr.val.testBit i := by
  rw [IPv4Network.contains, decide_eq_true_iff, ipv4Network, IPv4Address.ext_bits_iff]
  refine forall₂_congr fun i _ => ?_
  rw [testBit_clearHost, testBit_clearHost]
  by_cases h : 32 - n ≤ i <;> simp [h]

theorem and_mask_eq_iff {a addr mask : IPv4Address} :
    a &&& mask = addr &&& mask ↔
      ∀ i < 32, mask.val.testBit i = true → a.val.testBit i = addr.val.testBit i := by
  rw [IPv4Address.ext_bits_iff]
  refine forall₂_congr fun i _ => ?_
  rw [IPv4Address.testBit_and, IPv4Address.testBit_and]
  cases mask.val.testBit i <;> simp

/-- A counted prefix describes its mask exactly when the mask is contiguous: otherwise some bit is
in the one and not in the other, and turning it leads out of one of the two. -/
theorem ipv4Network_describes_iff (addr mask : IPv4Address) :
    (ipv4Network addr (maskToPrefixLen mask)).Describes addr mask ↔ Contiguous mask := by
  rw [contiguous_iff]
  constructor
  · intro h p hp
    have hflip : (∀ i < 32, 32 - maskToPrefixLen mask ≤ i → i ≠ p) ↔
        ∀ i < 32, mask.val.testBit i = true → i ≠ p := by
      have hturned := h (flipBit addr p)
      rw [contains_ipv4Network_iff, and_mask_eq_iff] at hturned
      simpa only [testBit_flipBit_eq_iff addr hp] using hturned
    rw [Bool.eq_iff_iff, decide_eq_true_iff]
    constructor
    · intro hmask
      by_contra hlt
      exact hflip.1 (fun i _ hi heq => hlt (heq ▸ hi)) p hp hmask rfl
    · intro hle
      by_contra hmask
      exact hflip.2 (fun i _ hi heq => hmask (heq ▸ hi)) p hp hle rfl
  · intro h a
    rw [contains_ipv4Network_iff, and_mask_eq_iff]
    refine forall₂_congr fun i hi => ?_
    rw [h i hi, decide_eq_true_iff]

theorem IPv4Network.describes_and (network : IPv4Network) (addr mask : IPv4Address) :
    network.Describes (addr &&& mask) mask ↔ network.Describes addr mask := by
  have hidem : addr &&& mask &&& mask = addr &&& mask := by
    refine IPv4Address.ext_bits fun i _ => ?_
    rw [IPv4Address.testBit_and, IPv4Address.testBit_and, Bool.and_assoc, Bool.and_self]
  rw [IPv4Network.Describes, hidem]
  exact Iff.rfl

/-! ## Routes -/

/-- The routes computed from an address and a mask are to the addresses that these describe, and
there is none for a mask that is not contiguous. -/
def Honours (routes : List OspfRoute) (addr mask : IPv4Address) : Prop :=
  (∀ route ∈ routes, route.destination.Describes addr mask) ∧ (¬Contiguous mask → routes = [])

/-- One route to a counted prefix honours its mask exactly when the mask is contiguous. -/
theorem honours_singleton_iff {route : OspfRoute} {addr mask : IPv4Address}
    (h : route.destination.Describes addr mask ↔ Contiguous mask) :
    Honours [route] addr mask ↔ Contiguous mask := by
  constructor
  · intro hhonours
    exact h.1 (hhonours.1 route (List.mem_singleton_self route))
  · intro hmask
    refine ⟨fun r hr => ?_, absurd hmask⟩
    rw [List.mem_singleton.1 hr]
    exact h.2 hmask

theorem honours_toList_iff {route : Option OspfRoute} {addr mask : IPv4Address} {Skipped : Prop}
    (hnone : route = none ↔ Skipped)
    (hsome : ∀ r ∈ route, r.destination.Describes addr mask ↔ Contiguous mask) :
    Honours route.toList addr mask ↔ Contiguous mask ∨ Skipped := by
  rw [← hnone]
  cases route with
  | none => exact iff_of_true ⟨fun _ hr => absurd hr List.not_mem_nil, fun _ => rfl⟩ (.inr rfl)
  | some r =>
    rw [Option.toList_some, honours_singleton_iff (hsome r rfl)]
    simp

/-- A Summary-LSA that no route is computed from, whatever its mask: it has expired, has no
summary or one at LSInfinity, is of a router outside the tree or of this one, or its destination is
one of the area. -/
def SummarySkipped (s : Instance) (tree : Dict IPv4Address SpfVertex) (intraDests : List IPv4Network)
    (lsa : Lsa) (body : SummaryLsa) : Prop :=
  maxAge ≤ lsa.currentAge s.now ∨ lsInfinity ≤ body.metric ∨ tree.get? lsa.header.advertisingRouter = none ∨
    lsa.header.advertisingRouter = s.lsdb.routerId ∨
    ipv4Network lsa.header.linkStateId (maskToPrefixLen body.networkMask) ∈ intraDests

/-- An AS-external-LSA that no route is computed from, whatever its mask: it has expired, or its
router cannot be reached. -/
def ExternalSkipped (s : Instance) (trees : SpfTrees) (asbrCosts : Dict IPv4Address Int) (lsa : Lsa) : Prop :=
  maxAge ≤ lsa.currentAge s.now ∨ Unreachable trees asbrCosts lsa.header.advertisingRouter

variable {s : Instance} {tree : Dict IPv4Address SpfVertex} {areaId : IPv4Address}
  {intraDests : List IPv4Network} {trees : SpfTrees} {asbrCosts : Dict IPv4Address Int}
  {routes : List OspfRoute} {r : LsaRef}

theorem summaryRoute_eq_none_iff {body : SummaryLsa} (hbody : (s.heap.obj r).body = some (.summary body)) :
    summaryRoute s tree areaId intraDests r = none ↔
      SummarySkipped s tree intraDests (s.heap.obj r) body := by
  unfold summaryRoute summaryOf SummarySkipped
  rw [hbody, expired]
  by_cases hage : maxAge ≤ (s.heap.obj r).currentAge s.now
  · simp [hage]
  by_cases hmetric : lsInfinity ≤ body.metric
  · simp [hage, hmetric]
  cases htree : tree.get? (s.heap.obj r).header.advertisingRouter with
  | none => simp [hage, hmetric]
  | some abr =>
    by_cases hown : (s.heap.obj r).header.advertisingRouter = s.lsdb.routerId <;> simp [hage, hmetric, hown]

theorem destination_summaryRoute {body : SummaryLsa} (hbody : (s.heap.obj r).body = some (.summary body))
    {route : OspfRoute} (h : route ∈ summaryRoute s tree areaId intraDests r) :
    route.destination = ipv4Network (s.heap.obj r).header.linkStateId (maskToPrefixLen body.networkMask) := by
  rw [Option.mem_def, summaryRoute] at h
  cases hsummary : summaryOf s tree r with
  | none => rw [hsummary] at h; cases h
  | some found =>
    obtain ⟨found, abr⟩ := found
    have hfound : found = body := by
      unfold summaryOf at hsummary
      rw [hbody] at hsummary
      dsimp only at hsummary
      split at hsummary
      · cases hsummary
      · split at hsummary
        · cases hsummary
        · obtain ⟨_, -, hpair⟩ := Option.map_eq_some_iff.1 hsummary
          exact (congrArg Prod.fst hpair).symm
    subst hfound
    rw [hsummary] at h
    dsimp only at h
    split at h
    · cases h
    · split at h
      · cases h
      · cases h
        rfl

theorem externalRoute_eq_none_iff {body : ExternalLsa} (hbody : (s.heap.obj r).body = some (.external body)) :
    externalRoute s trees asbrCosts routes r = none ↔ ExternalSkipped s trees asbrCosts (s.heap.obj r) := by
  unfold externalRoute ExternalSkipped
  dsimp only
  rw [hbody, expired, ← asbrPath_eq_none_iff]
  by_cases hage : maxAge ≤ (s.heap.obj r).currentAge s.now <;> simp [hage]

theorem destination_externalRoute {body : ExternalLsa} (hbody : (s.heap.obj r).body = some (.external body))
    {route : OspfRoute} (h : route ∈ externalRoute s trees asbrCosts routes r) :
    route.destination = ipv4Network (s.heap.obj r).header.linkStateId (maskToPrefixLen body.networkMask) := by
  rw [Option.mem_def, externalRoute, hbody] at h
  split at h
  · cases h
  · obtain ⟨path, -, rfl⟩ := Option.map_eq_some_iff.1 h
    rw [externalRouteVia]
    split <;> rfl

/-- A stub link of a Router-LSA: the mask is its link data. -/
theorem stubRoute_honours_iff (vertex : SpfVertex) (link : RouterLsaLink) :
    Honours [stubRoute areaId vertex link] link.linkId link.linkData ↔ Contiguous link.linkData :=
  honours_singleton_iff (ipv4Network_describes_iff link.linkId link.linkData)

/-- A Network-LSA. -/
theorem transitRoute_honours_iff (vertex : SpfVertex) (lsa : Lsa) (body : NetworkLsa) :
    Honours [transitRoute areaId vertex lsa body] vertex.vertexId body.networkMask ↔ Contiguous body.networkMask := by
  apply honours_singleton_iff
  rw [← IPv4Network.describes_and]
  exact ipv4Network_describes_iff (vertex.vertexId &&& body.networkMask) body.networkMask

/-- A Summary-LSA. -/
theorem summaryRoute_honours_iff {body : SummaryLsa} (hbody : (s.heap.obj r).body = some (.summary body)) :
    Honours (summaryRoute s tree areaId intraDests r).toList (s.heap.obj r).header.linkStateId body.networkMask ↔
      Contiguous body.networkMask ∨ SummarySkipped s tree intraDests (s.heap.obj r) body := by
  apply honours_toList_iff (summaryRoute_eq_none_iff hbody)
  intro route hroute
  rw [destination_summaryRoute hbody hroute]
  exact ipv4Network_describes_iff ..

/-- An AS-external-LSA. -/
theorem externalRoute_honours_iff {body : ExternalLsa} (hbody : (s.heap.obj r).body = some (.external body)) :
    Honours (externalRoute s trees asbrCosts routes r).toList (s.heap.obj r).header.linkStateId body.networkMask ↔
      Contiguous body.networkMask ∨ ExternalSkipped s trees asbrCosts (s.heap.obj r) := by
  apply honours_toList_iff (externalRoute_eq_none_iff hbody)
  intro route hroute
  rw [destination_externalRoute hbody hroute]
  exact ipv4Network_describes_iff ..

/-- **Routes honour the masks of the LSAs** exactly when these are contiguous, and where an LSA is
passed over whatever its mask. -/
theorem routes_honour_iff (s : Instance) (tree : Dict IPv4Address SpfVertex) (trees : SpfTrees)
    (asbrCosts : Dict IPv4Address Int) (areaId : IPv4Address) (intraDests : List IPv4Network)
    (routes : List OspfRoute) :
    (∀ (vertex : SpfVertex) (link : RouterLsaLink),
      Honours [stubRoute areaId vertex link] link.linkId link.linkData ↔ Contiguous link.linkData) ∧
    (∀ (vertex : SpfVertex) (lsa : Lsa) (body : NetworkLsa),
      Honours [transitRoute areaId vertex lsa body] vertex.vertexId body.networkMask ↔
        Contiguous body.networkMask) ∧
    (∀ (r : LsaRef) (body : SummaryLsa), (s.heap.obj r).body = some (.summary body) →
      (Honours (summaryRoute s tree areaId intraDests r).toList (s.heap.obj r).header.linkStateId body.networkMask ↔
        Contiguous body.networkMask ∨ SummarySkipped s tree intraDests (s.heap.obj r) body)) ∧
    ∀ (r : LsaRef) (body : ExternalLsa), (s.heap.obj r).body = some (.external body) →
      (Honours (externalRoute s trees asbrCosts routes r).toList (s.heap.obj r).header.linkStateId body.networkMask ↔
        Contiguous body.networkMask ∨ ExternalSkipped s trees asbrCosts (s.heap.obj r)) :=
  ⟨stubRoute_honours_iff, transitRoute_honours_iff, fun _ _ => summaryRoute_honours_iff,
    fun _ _ => externalRoute_honours_iff⟩

/-- A stub link to 10.0.0.0 under the mask 255.0.255.0. -/
def strayLink : RouterLsaLink :=
  { linkId := 167772160, linkData := 4278255360, type := linkTypeStub, numTos := 0, metric := 1 }

/-- The route of the stray link is to 10.0.0.0/16, which has 10.0.9.1: under the mask that is another
network. -/
theorem strayLink_misread :
    (stubRoute zeroAddr { vertexId := 1, vertexType := .router, lsa := 0 } strayLink).destination.contains 167774465 =
        true ∧
      167774465 &&& strayLink.linkData ≠ strayLink.linkId &&& strayLink.linkData ∧
      ¬Honours [stubRoute zeroAddr { vertexId := 1, vertexType := .router, lsa := 0 } strayLink] strayLink.linkId
        strayLink.linkData := by
  have hcontains : (stubRoute zeroAddr { vertexId := 1, vertexType := .router, lsa := 0 }
      strayLink).destination.contains 167774465 = true := by decide
  have hother : (167774465 : IPv4Address) &&& strayLink.linkData ≠ strayLink.linkId &&& strayLink.linkData := by
    decide
  exact ⟨hcontains, hother, fun h => hother ((h.1 _ (List.mem_singleton_self _) _).1 hcontains)⟩

end Ospfd
