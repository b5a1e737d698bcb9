import Ospfd.Sr.Origination

/-!
# What a router advertises about its segments

* `advertise` — a range and prefixes with their SIDs, one LSA after the other.
* `Filled` — what is in the area then; `Filled.originate` — **what one more LSA changes**.
* `advertise_filled` — **what is in the area after all of them**.
* `prefixLabels_iff` — **when each prefix has its label**.
-/

namespace Ospfd

/-! ## Advertising -/

/-- A prefix with the index of its SID, and how long after the LSA before it it is originated. -/
structure PrefixAdvert where
  wait : Time := 0
  network : IPv4Network
  sidIndex : Nat

/-- A prefix is advertised, whether its LSA is installed or not. -/
def advertisePrefix (areaId : IPv4Address) (s : Instance) (x : PrefixAdvert) : Instance :=
  (originatePrefixSidLsa areaId x.network x.sidIndex { s with now := s.now + x.wait }).2

/-- A range and prefixes are advertised. -/
def advertise (srgb : SidLabelRange) (areaId : IPv4Address) (xs : List PrefixAdvert) (s : Instance) :
    Instance :=
  xs.foldl (advertisePrefix areaId) (originateRiLsa srgb areaId s).2

/-- What can be advertised: a range that fits, and different networks with indices in it. -/
structure Advertisable (srgb : SidLabelRange) (xs : List PrefixAdvert) : Prop where
  fits : srgb.Fits
  networks : (xs.map PrefixAdvert.network).Nodup
  valid : ∀ x ∈ xs, x.network.Valid
  index : ∀ x ∈ xs, x.sidIndex < srgb.size

/-- The opaque LSAs of a router. -/
def LsaKey.IsOpaqueOf (routerId : IPv4Address) (key : LsaKey) : Prop :=
  key.lsType = lsaTypeOpaqueArea ∧ key.advertisingRouter = routerId

/-- Nothing is advertised yet, in a database that some run has led to. -/
structure Instance.Unadvertised (s : Instance) (areaId : IPv4Address) : Prop where
  store : StoreRun s.lsdb s.heap
  none : ∀ key r, (s.lsdb.area areaId).get? key = some r → ¬key.IsOpaqueOf s.routerId

/-! ## Several originations -/

/-- What is in an area after originations, given by their keys and bodies. -/
structure Filled (areaId : IPv4Address) (items : List (LsaKey × Bytes)) (s t : Instance) : Prop where
  routerId : t.routerId = s.routerId
  store : StoreRun t.lsdb t.heap
  /-- No LSA is lost. -/
  kept : ∀ key ∈ (s.lsdb.area areaId).keys, key ∈ (t.lsdb.area areaId).keys
  /-- Each opaque LSA of this router is one of those. -/
  ours : ∀ key r, (t.lsdb.area areaId).get? key = some r → key.IsOpaqueOf s.routerId →
    ∃ body, (key, body) ∈ items ∧ (t.heap.obj r).body = some (.raw body)
  /-- With keys of their own and room for them, all are there. -/
  all : (items.map Prod.fst).Nodup →
    (s.lsdb.area areaId).size + items.length ≤ maxLsdbSizePerArea →
      (t.lsdb.area areaId).size = (s.lsdb.area areaId).size + items.length ∧
        ∀ item ∈ items, item.1 ∈ (t.lsdb.area areaId).keys

namespace Filled

variable {areaId : IPv4Address} {items : List (LsaKey × Bytes)} {s t u : Instance}

theorem nil (h : s.Unadvertised areaId) : Filled areaId [] s s where
  routerId := rfl
  store := h.store
  kept := fun _ hkey => hkey
  ours := fun key r hr hown => absurd hown (h.none key r hr)
  all := fun _ _ => ⟨rfl, fun _ hitem => absurd hitem List.not_mem_nil⟩

/-- **What one more LSA changes.** -/
theorem originate (h : Filled areaId items s t) {key : LsaKey} {body : Bytes}
    (hown : key.IsOpaqueOf s.routerId) (ho : Originates areaId key body t u) :
    Filled areaId (items ++ [(key, body)]) s u where
  routerId := ho.routerId.trans h.routerId
  store := ho.store h.store
  kept := by
    intro k hk
    have hk := h.kept k hk
    rcases ho.area with ⟨harea, -⟩ | ⟨r, harea, -⟩
    · rwa [harea]
    · rw [harea, Dict.mem_keys_iff, Dict.get?_set]
      split
      · rfl
      · exact Dict.mem_keys_iff.1 hk
  ours := by
    have hold : ∀ k r, (t.lsdb.area areaId).get? k = some r → k.IsOpaqueOf s.routerId →
        ∃ body', (k, body') ∈ items ++ [(key, body)] ∧ (u.heap.obj r).body = some (.raw body') := by
      intro k r hr hk
      obtain ⟨body', hmem, hbody⟩ := h.ours k r hr hk
      have hlt := (h.store.shelved.area areaId k r hr).1
      exact ⟨body', List.mem_append_left _ hmem, ((ho.heap.same r hlt).body).trans hbody⟩
    intro k r hr hk
    rcases ho.area with ⟨harea, -⟩ | ⟨r', harea, hbody⟩
    · rw [harea] at hr
      exact hold k r hr hk
    · rw [harea] at hr
      rcases Dict.get?_of_set hr with ⟨rfl, rfl⟩ | hr
      · exact ⟨body, List.mem_append_right _ List.mem_cons_self, hbody⟩
      · exact hold k r hr hk
  all := by
    intro hnodup hroom
    rw [List.map_append, List.nodup_append'] at hnodup
    obtain ⟨hnodup, -, hdisjoint⟩ := hnodup
    rw [List.length_append, List.length_singleton] at hroom ⊢
    obtain ⟨hsize, hall⟩ := h.all hnodup (by omega)
    have hnew : (t.lsdb.area areaId).get? key = none := by
      cases hget : (t.lsdb.area areaId).get? key with
      | none => rfl
      | some r =>
        obtain ⟨body', hmem, -⟩ := h.ours key r hget hown
        exact absurd (List.mem_cons_self ..) (hdisjoint (List.mem_map.2 ⟨_, hmem, rfl⟩))
    rcases ho.area with ⟨-, hfull⟩ | ⟨r, harea, -⟩
    · have := hfull hnew
      omega
    · refine ⟨?_, fun item hitem => ?_⟩
      · rw [harea, Dict.size_set, Dict.contains, hnew, hsize]
        rfl
      · rw [harea, Dict.mem_keys_iff, Dict.get?_set]
        split
        · rfl
        · rename_i hne
          rcases List.mem_append.1 hitem with hold | hlast
          · exact Dict.mem_keys_iff.1 (hall item hold)
          · rw [List.mem_singleton.1 hlast] at hne
            exact absurd rfl hne

end Filled

/-! ## The LSAs of a range and of prefixes -/

/-- The key of the LSA of a range. -/
def rangeKey (routerId : IPv4Address) : LsaKey := opaqueKey routerId opaqueTypeRi 0

/-- The key of the LSA of a prefix. -/
def prefixKey (routerId : IPv4Address) (network : IPv4Network) : LsaKey :=
  opaqueKey routerId opaqueTypeExtendedPrefix (prefixOpaqueId network)

/-- The key and the body of the LSA of a prefix. -/
def PrefixAdvert.item (routerId : IPv4Address) (x : PrefixAdvert) : LsaKey × Bytes :=
  (prefixKey routerId x.network, prefixSidBytes x.network x.sidIndex)

/-- The keys and the bodies of what is advertised. -/
def advertItems (routerId : IPv4Address) (srgb : SidLabelRange) (xs : List PrefixAdvert) :
    List (LsaKey × Bytes) :=
  (rangeKey routerId, RouterInfoLsa.rangeBytes srgb) :: xs.map (PrefixAdvert.item routerId)

section Advertise

variable {srgb : SidLabelRange} {areaId : IPv4Address} {s t : Instance} {x : PrefixAdvert}

theorem prefixKey_inj {routerId : IPv4Address} {network network' : IPv4Network} :
    prefixKey routerId network = prefixKey routerId network' ↔
      prefixOpaqueId network = prefixOpaqueId network' := by
  have hmod : ∀ n : IPv4Network, prefixOpaqueId n % 16777216 = prefixOpaqueId n := fun n => Nat.mod_mod ..
  rw [prefixKey, prefixKey, opaqueKey, opaqueKey, LsaKey.mk.injEq, makeOpaqueLsaId_inj, hmod, hmod]
  simp

theorem rangeKey_ne_prefixKey (routerId : IPv4Address) (network : IPv4Network) :
    rangeKey routerId ≠ prefixKey routerId network := by
  intro h
  have htype := congrArg (fun key : LsaKey => opaqueTypeFromLsaId key.linkStateId) h
  simp only [rangeKey, prefixKey, opaqueKey] at htype
  rw [opaqueTypeFromLsaId_makeOpaqueLsaId (by decide), opaqueTypeFromLsaId_makeOpaqueLsaId (by decide)]
    at htype
  exact absurd htype (by decide)

theorem originateRiLsa_originates (hfits : srgb.Fits) (areaId : IPv4Address) (s : Instance) :
    Originates areaId (rangeKey s.routerId) (RouterInfoLsa.rangeBytes srgb) s
      (originateRiLsa srgb areaId s).2 := by
  have hser := RouterInfoLsa.serialize_ofRange hfits
  rw [RouterInfoLsa.ofRange] at hser
  rw [originateRiLsa, hser]
  exact originateOpaque_originates areaId opaqueTypeRi 0 (by simp) s

theorem advertisePrefix_originates (hnet : x.network.Valid) (hsid : x.sidIndex < 4294967296)
    (areaId : IPv4Address) (s : Instance) :
    Originates areaId (x.item s.routerId).1 (x.item s.routerId).2 s (advertisePrefix areaId s x) := by
  have hlen : (prefixSidBytes x.network x.sidIndex).length < 60000 := by simp
  have ho := originateOpaque_originates areaId opaqueTypeExtendedPrefix (prefixOpaqueId x.network) hlen
    { s with now := s.now + x.wait }
  rw [advertisePrefix, originatePrefixSidLsa, prefixSidBody_eq hnet hsid]
  exact ⟨ho.heap, ho.routerId, ho.store, ho.area⟩

/-- Prefixes are advertised one after the other. -/
theorem Filled.prefixes {items : List (LsaKey × Bytes)} {xs : List PrefixAdvert}
    (hvalid : ∀ x ∈ xs, x.network.Valid) (hsid : ∀ x ∈ xs, x.sidIndex < 4294967296)
    (h : Filled areaId items s t) :
    Filled areaId (items ++ xs.map (PrefixAdvert.item s.routerId)) s
      (xs.foldl (advertisePrefix areaId) t) := by
  induction xs generalizing items t with
  | nil =>
    rw [List.map_nil, List.append_nil]
    exact h
  | cons x xs ih =>
    have ho := advertisePrefix_originates (hvalid x List.mem_cons_self) (hsid x List.mem_cons_self) areaId t
    rw [h.routerId] at ho
    have hstep := h.originate ⟨rfl, rfl⟩ ho
    have hrest := ih (fun y hy => hvalid y (List.mem_cons_of_mem _ hy))
      (fun y hy => hsid y (List.mem_cons_of_mem _ hy)) hstep
    rw [List.append_assoc] at hrest
    exact hrest

/-- **What is in the area after all of them.** -/
theorem advertise_filled {xs : List PrefixAdvert} (hx : Advertisable srgb xs) (hs : s.Unadvertised areaId) :
    Filled areaId (advertItems s.routerId srgb xs) s (advertise srgb areaId xs s) := by
  have hrange := (Filled.nil hs).originate ⟨rfl, rfl⟩ (originateRiLsa_originates hx.fits areaId s)
  refine hrange.prefixes hx.valid fun x hmem => ?_
  have hindex := hx.index x hmem
  have hsize := hx.fits.size
  omega

end Advertise

/-! ## When all of them are there -/

/-- Each LSA is in the area, with its body. -/
def Stored (areaId routerId : IPv4Address) (items : List (LsaKey × Bytes)) (t : Instance) : Prop :=
  ∀ item ∈ items, ∃ lsa ∈ SrDatabase.advertised t.lsdb t.heap areaId routerId,
    lsa.key = item.1 ∧ lsa.body = some (.raw item.2)

section Advertised

variable {lsdb : LinkStateDatabase} {heap : LsaHeap} {areaId routerId : IPv4Address} {lsa lsa' : Lsa}

theorem LinkStateDatabase.Shelved.mem_advertised (h : lsdb.Shelved heap) :
    lsa ∈ SrDatabase.advertised lsdb heap areaId routerId ↔
      ∃ r, (lsdb.area areaId).get? lsa.key = some r ∧ heap.obj r = lsa ∧ lsa.key.IsOpaqueOf routerId := by
  rw [SrDatabase.mem_advertised]
  constructor
  · rintro ⟨k, r, hr, rfl, hown⟩
    obtain ⟨-, hkey, -⟩ := h.area areaId k r hr
    exact ⟨r, by rw [hkey]; exact hr, rfl, hown⟩
  · rintro ⟨r, hr, rfl, hown⟩
    exact ⟨_, r, hr, rfl, hown⟩

/-- One LSA for each key. -/
theorem LinkStateDatabase.Shelved.advertised_inj (h : lsdb.Shelved heap)
    (hl : lsa ∈ SrDatabase.advertised lsdb heap areaId routerId)
    (hl' : lsa' ∈ SrDatabase.advertised lsdb heap areaId routerId) (hkey : lsa.key = lsa'.key) :
    lsa = lsa' := by
  obtain ⟨r, hr, hobj, -⟩ := h.mem_advertised.1 hl
  obtain ⟨r', hr', hobj', -⟩ := h.mem_advertised.1 hl'
  rw [hkey, hr'] at hr
  rw [← hobj, ← hobj', Option.some.inj hr]

end Advertised

namespace Filled

variable {areaId : IPv4Address} {items : List (LsaKey × Bytes)} {s t : Instance}

/-- Each LSA of this router is one of those. -/
theorem of_advertised (h : Filled areaId items s t) {lsa : Lsa}
    (hl : lsa ∈ SrDatabase.advertised t.lsdb t.heap areaId s.routerId) :
    ∃ item ∈ items, lsa.key = item.1 ∧ lsa.body = some (.raw item.2) := by
  obtain ⟨r, hr, rfl, hown⟩ := h.store.shelved.mem_advertised.1 hl
  obtain ⟨body, hmem, hbody⟩ := h.ours _ r hr hown
  exact ⟨_, hmem, rfl, hbody⟩

/-- With the keys there, the bodies are. -/
theorem stored_of_keys (h : Filled areaId items s t) (hkeys : (items.map Prod.fst).Nodup)
    (hown : ∀ item ∈ items, item.1.IsOpaqueOf s.routerId)
    (hall : ∀ item ∈ items, item.1 ∈ (t.lsdb.area areaId).keys) : Stored areaId s.routerId items t := by
  intro item hitem
  obtain ⟨r, hr⟩ := Option.isSome_iff_exists.1 (Dict.mem_keys_iff.1 (hall item hitem))
  obtain ⟨-, hkey, -⟩ := h.store.shelved.area areaId _ r hr
  obtain ⟨body, hmem, hbody⟩ := h.ours _ r hr (hown item hitem)
  have hsame : item.2 = body := congrArg Prod.snd (List.inj_on_of_nodup_map hkeys hitem hmem rfl)
  refine ⟨t.heap.obj r, h.store.shelved.mem_advertised.2 ⟨r, ?_, rfl, ?_⟩, hkey, by rw [hsame]; exact hbody⟩
  · rw [hkey]
    exact hr
  · rw [hkey]
    exact hown _ hitem

/-- **All of them are there** just when each has a key of its own and there is room for them. -/
theorem stored_iff (h : Filled areaId items s t) (hs : s.Unadvertised areaId) (hitems : items.Nodup)
    (hown : ∀ item ∈ items, item.1.IsOpaqueOf s.routerId) :
    Stored areaId s.routerId items t ↔ (items.map Prod.fst).Nodup ∧
      (s.lsdb.area areaId).size + items.length ≤ maxLsdbSizePerArea := by
  constructor
  · intro hst
    have hkeys : (items.map Prod.fst).Nodup := by
      refine List.Nodup.map_on (fun item hitem item' hitem' heq => ?_) hitems
      obtain ⟨lsa, hl, hkey, hbody⟩ := hst item hitem
      obtain ⟨lsa', hl', hkey', hbody'⟩ := hst item' hitem'
      obtain rfl := h.store.shelved.advertised_inj hl hl' (by rw [hkey, hkey', heq])
      rw [hbody, Option.some.injEq, LsaBody.raw.injEq] at hbody'
      exact Prod.ext heq hbody'
    -- the keys from before are others
    have hdisjoint : ((s.lsdb.area areaId).keys ++ items.map Prod.fst).Nodup := by
      refine List.nodup_append'.2 ⟨(s.lsdb.area areaId).nodup, hkeys, fun key hold hnew => ?_⟩
      obtain ⟨item, hitem, rfl⟩ := List.mem_map.1 hnew
      obtain ⟨r, hr⟩ := Option.isSome_iff_exists.1 (Dict.mem_keys_iff.1 hold)
      exact hs.none _ r hr (hown item hitem)
    have hsub : (s.lsdb.area areaId).keys ++ items.map Prod.fst ⊆ (t.lsdb.area areaId).keys := by
      refine List.append_subset.2 ⟨h.kept, fun key hnew => ?_⟩
      obtain ⟨item, hitem, rfl⟩ := List.mem_map.1 hnew
      obtain ⟨lsa, hl, hkey, -⟩ := hst item hitem
      obtain ⟨r, hr, -⟩ := h.store.shelved.mem_advertised.1 hl
      rw [← hkey, Dict.mem_keys_iff, hr]
      rfl
    have hlen := (hdisjoint.subperm hsub).length_le
    have hbound := h.store.bounded.area areaId
    simp only [List.length_append, Dict.keys, List.length_map] at hlen
    exact ⟨hkeys, hlen.trans hbound⟩
  · rintro ⟨hkeys, hroom⟩
    exact h.stored_of_keys hkeys hown (h.all hkeys hroom).2

end Filled

/-! ## Labels -/

open NodeSrInfo

/-- Each prefix has the label of its index, in the SR database that is rebuilt. -/
def PrefixLabels (srgb : SidLabelRange) (areaId routerId : IPv4Address) (xs : List PrefixAdvert)
    (t : Instance) : Prop :=
  ∀ (db : SrDatabase), ∀ x ∈ xs,
    (db.rebuild t.lsdb t.heap areaId).getPrefixLabel routerId x.network = some (srgb.start + x.sidIndex)

section Contents

variable {routerId : IPv4Address} {srgb : SidLabelRange} {x : PrefixAdvert} {lsa : Lsa}

theorem opaqueType_of_key {opaqueType opaqueId : Nat} (htype : opaqueType < 256)
    (hkey : lsa.key = opaqueKey routerId opaqueType opaqueId) :
    opaqueTypeFromLsaId lsa.header.linkStateId = opaqueType := by
  have hid := congrArg LsaKey.linkStateId hkey
  change lsa.header.linkStateId = makeOpaqueLsaId opaqueType opaqueId at hid
  rw [hid, opaqueTypeFromLsaId_makeOpaqueLsaId htype]

theorem rawData_of_body {body : Bytes} (h : lsa.body = some (.raw body)) : lsa.rawData = body := by
  rw [Lsa.rawData, h]

/-- The LSA of a range has the range, and no SID. -/
theorem contents_of_range (hfits : srgb.Fits) (hkey : lsa.key = rangeKey routerId)
    (hbody : lsa.body = some (.raw (RouterInfoLsa.rangeBytes srgb))) :
    srgbOf lsa = some srgb ∧ sidsOf lsa = [] := by
  have htype := opaqueType_of_key (by decide) hkey
  constructor
  · rw [srgbOf, if_pos htype, rawData_of_body hbody, RouterInfoLsa.srgb_deserialize hfits]
  · rw [sidsOf, if_neg (by rw [htype]; decide)]

/-- The LSA of a prefix has its SID, and no range. -/
theorem contents_of_network (hnet : x.network.Valid) (hsid : x.sidIndex < 4294967296)
    (hkey : lsa.key = (x.item routerId).1) (hbody : lsa.body = some (.raw (x.item routerId).2)) :
    srgbOf lsa = none ∧ sidsOf lsa = [(x.network, indexSid x.sidIndex)] := by
  have htype := opaqueType_of_key (by decide) hkey
  constructor
  · rw [srgbOf, if_neg (by rw [htype]; decide)]
  · rw [sidsOf, if_pos htype, rawData_of_body hbody, PrefixAdvert.item,
      prefixSids_prefixSidBytes hnet hsid]

theorem labelForPrefixSid_indexSid (node : NodeSrInfo) (sidIndex : Nat) :
    node.labelForPrefixSid (indexSid sidIndex) =
      node.srgb.bind fun srgb =>
        if srgb.contains sidIndex then some (srgb.labelForIndex sidIndex) else none := by
  have hflags : ¬prefixSidFlagNP &&& prefixSidFlagV ≠ 0 := by decide
  rw [labelForPrefixSid, indexSid, if_neg hflags]
  cases node.srgb with
  | none => rfl
  | some srgb => rfl

end Contents

section Labels

variable {srgb : SidLabelRange} {xs : List PrefixAdvert} {areaId : IPv4Address} {s t : Instance}

namespace Advertisable

variable (hx : Advertisable srgb xs)

include hx

theorem sid {x : PrefixAdvert} (hmem : x ∈ xs) : x.sidIndex < 4294967296 := by
  have hindex := hx.index x hmem
  have hsize := hx.fits.size
  omega

theorem eq_of_network {x y : PrefixAdvert} (hxm : x ∈ xs) (hym : y ∈ xs) (h : x.network = y.network) :
    x = y := List.inj_on_of_nodup_map hx.networks hxm hym h

/-- The bodies of two prefixes differ. -/
theorem nodup_items (routerId : IPv4Address) : (advertItems routerId srgb xs).Nodup := by
  refine List.nodup_cons.2 ⟨fun hmem => ?_, ?_⟩
  · obtain ⟨x, -, heq⟩ := List.mem_map.1 hmem
    exact rangeKey_ne_prefixKey routerId x.network (congrArg Prod.fst heq).symm
  · refine List.Nodup.map_on (fun x hxm y hym heq => ?_) (List.Nodup.of_map _ hx.networks)
    have hbytes : prefixSidBytes x.network x.sidIndex = prefixSidBytes y.network y.sidIndex :=
      congrArg Prod.snd heq
    have hsids := prefixSids_prefixSidBytes (hx.valid x hxm) (hx.sid hxm)
    rw [hbytes, prefixSids_prefixSidBytes (hx.valid y hym) (hx.sid hym), List.cons.injEq,
      Prod.mk.injEq] at hsids
    exact hx.eq_of_network hxm hym hsids.1.1.symm

end Advertisable

/-- The keys of what is advertised are different just when the low bits of the addresses are. -/
theorem nodup_keys_iff (routerId : IPv4Address) :
    ((advertItems routerId srgb xs).map Prod.fst).Nodup ↔
      (xs.map fun x => prefixOpaqueId x.network).Nodup := by
  have hkeys : (advertItems routerId srgb xs).map Prod.fst =
      rangeKey routerId :: xs.map fun x => prefixKey routerId x.network := by
    rw [advertItems, List.map_cons, List.map_map]
    rfl
  have hnot : rangeKey routerId ∉ xs.map fun x => prefixKey routerId x.network := by
    intro hmem
    obtain ⟨x, -, heq⟩ := List.mem_map.1 hmem
    exact rangeKey_ne_prefixKey routerId x.network heq.symm
  rw [hkeys, List.nodup_cons, and_iff_right hnot, List.Nodup, List.Nodup, List.pairwise_map,
    List.pairwise_map]
  simp only [ne_eq, prefixKey_inj]

theorem isOpaqueOf_items (routerId : IPv4Address) :
    ∀ item ∈ advertItems routerId srgb xs, item.1.IsOpaqueOf routerId := by
  intro item hitem
  rcases List.mem_cons.1 hitem with rfl | hmem
  · exact ⟨rfl, rfl⟩
  · obtain ⟨x, -, rfl⟩ := List.mem_map.1 hmem
    exact ⟨rfl, rfl⟩

namespace Filled

variable (hx : Advertisable srgb xs) (h : Filled areaId (advertItems s.routerId srgb xs) s t)

include hx h

/-- What is in an LSA of this router. -/
theorem lsa_cases {lsa : Lsa} (hl : lsa ∈ SrDatabase.advertised t.lsdb t.heap areaId s.routerId) :
    (lsa.key = rangeKey s.routerId ∧ lsa.body = some (.raw (RouterInfoLsa.rangeBytes srgb)) ∧
      srgbOf lsa = some srgb ∧ sidsOf lsa = []) ∨
    ∃ x ∈ xs, lsa.key = (x.item s.routerId).1 ∧ lsa.body = some (.raw (x.item s.routerId).2) ∧
      srgbOf lsa = none ∧ sidsOf lsa = [(x.network, indexSid x.sidIndex)] := by
  obtain ⟨item, hitem, hkey, hbody⟩ := h.of_advertised hl
  rcases List.mem_cons.1 hitem with rfl | hmem
  · exact Or.inl ⟨hkey, hbody, contents_of_range hx.fits hkey hbody⟩
  · obtain ⟨x, hxm, rfl⟩ := List.mem_map.1 hmem
    exact Or.inr ⟨x, hxm, hkey, hbody, contents_of_network (hx.valid x hxm) (hx.sid hxm) hkey hbody⟩

/-- The range of the node is the one that is advertised, if its LSA is there. -/
theorem srgb_eq_some_iff {r : SidLabelRange} :
    ((SrDatabase.advertised t.lsdb t.heap areaId s.routerId).foldl NodeSrInfo.readLsa
      { routerId := s.routerId }).srgb = some r ↔
      r = srgb ∧ ∃ lsa ∈ SrDatabase.advertised t.lsdb t.heap areaId s.routerId,
        lsa.key = rangeKey s.routerId ∧ lsa.body = some (.raw (RouterInfoLsa.rangeBytes srgb)) := by
  rw [srgb_foldl, Option.or_none]
  constructor
  · intro hsome
    obtain ⟨lsa, hl, hsrgb⟩ := List.exists_of_findSome?_eq_some hsome
    rw [List.mem_reverse] at hl
    rcases h.lsa_cases hx hl with ⟨hkey, hbody, hr, -⟩ | ⟨x, -, -, -, hr, -⟩
    · rw [hr, Option.some.injEq] at hsrgb
      exact ⟨hsrgb.symm, lsa, hl, hkey, hbody⟩
    · rw [hr] at hsrgb
      cases hsrgb
  · rintro ⟨rfl, lsa, hl, hkey, hbody⟩
    cases hfind : (SrDatabase.advertised t.lsdb t.heap areaId s.routerId).reverse.findSome? srgbOf with
    | none =>
      have hnone := List.findSome?_eq_none_iff.1 hfind lsa (List.mem_reverse.2 hl)
      rw [(contents_of_range hx.fits hkey hbody).1] at hnone
      cases hnone
    | some r' =>
      obtain ⟨lsa', hl', hsrgb⟩ := List.exists_of_findSome?_eq_some hfind
      rcases h.lsa_cases hx (List.mem_reverse.1 hl') with ⟨-, -, hr, -⟩ | ⟨x, -, -, -, hr, -⟩
      · rw [← hsrgb, hr]
      · rw [hr] at hsrgb
        cases hsrgb

/-- The SIDs of the node are those of the prefixes whose LSAs are there. -/
theorem mem_sids_iff {p : IPv4Network × PrefixSid} :
    p ∈ (SrDatabase.advertised t.lsdb t.heap areaId s.routerId).flatMap sidsOf ↔
      ∃ x ∈ xs, p = (x.network, indexSid x.sidIndex) ∧
        ∃ lsa ∈ SrDatabase.advertised t.lsdb t.heap areaId s.routerId,
          lsa.key = (x.item s.routerId).1 ∧ lsa.body = some (.raw (x.item s.routerId).2) := by
  rw [List.mem_flatMap]
  constructor
  · rintro ⟨lsa, hl, hp⟩
    rcases h.lsa_cases hx hl with ⟨-, -, -, hsids⟩ | ⟨x, hxm, hkey, hbody, -, hsids⟩
    · rw [hsids] at hp
      cases hp
    · rw [hsids, List.mem_singleton] at hp
      exact ⟨x, hxm, hp, lsa, hl, hkey, hbody⟩
  · rintro ⟨x, hxm, rfl, lsa, hl, hkey, hbody⟩
    refine ⟨lsa, hl, ?_⟩
    rw [(contents_of_network (hx.valid x hxm) (hx.sid hxm) hkey hbody).2]
    exact List.mem_cons_self

/-- **The labels are there when the LSAs are.** -/
theorem labels_of_stored (hst : Stored areaId s.routerId (advertItems s.routerId srgb xs) t) :
    PrefixLabels srgb areaId s.routerId xs t := by
  intro db x hxm
  have hitem := hst (x.item s.routerId) (List.mem_cons_of_mem _ (List.mem_map.2 ⟨x, hxm, rfl⟩))
  have hmem := (h.mem_sids_iff hx).2 ⟨x, hxm, rfl, hitem⟩
  have hsrgb := (h.srgb_eq_some_iff hx).2 ⟨rfl, hst _ List.mem_cons_self⟩
  rw [SrDatabase.getPrefixLabel_rebuild]
  cases hfind : ((SrDatabase.advertised t.lsdb t.heap areaId s.routerId).flatMap sidsOf).find? fun p =>
      p.1 = x.network with
  | none => exact absurd (decide_eq_true rfl) (List.find?_eq_none.1 hfind _ hmem)
  | some p =>
    have hnetwork : p.1 = x.network := by simpa using List.find?_some hfind
    obtain ⟨y, hym, rfl, -⟩ := (h.mem_sids_iff hx).1 (List.mem_of_find?_eq_some hfind)
    obtain rfl := hx.eq_of_network hym hxm hnetwork
    have hcontains : srgb.contains y.sidIndex = true := decide_eq_true (hx.index y hym)
    rw [Option.bind_some, labelForPrefixSid_indexSid, hsrgb, Option.bind_some, if_pos hcontains]
    rfl

/-- **The LSAs are there when the labels are.** -/
theorem stored_of_labels (hne : xs ≠ []) (hlabels : PrefixLabels srgb areaId s.routerId xs t) :
    Stored areaId s.routerId (advertItems s.routerId srgb xs) t := by
  have hlabel : ∀ x ∈ xs, ∃ p, p ∈ (SrDatabase.advertised t.lsdb t.heap areaId s.routerId).flatMap sidsOf ∧
      p.1 = x.network ∧ ((SrDatabase.advertised t.lsdb t.heap areaId s.routerId).foldl NodeSrInfo.readLsa
        { routerId := s.routerId }).labelForPrefixSid p.2 = some (srgb.start + x.sidIndex) := by
    intro x hxm
    have hget := hlabels {} x hxm
    rw [SrDatabase.getPrefixLabel_rebuild, Option.bind_eq_some_iff] at hget
    obtain ⟨p, hfind, hp⟩ := hget
    exact ⟨p, List.mem_of_find?_eq_some hfind, by simpa using List.find?_some hfind, hp⟩
  intro item hitem
  rcases List.mem_cons.1 hitem with rfl | hmem
  · obtain ⟨x, hxm⟩ := List.exists_mem_of_ne_nil xs hne
    obtain ⟨p, hp, -, hlab⟩ := hlabel x hxm
    obtain ⟨y, -, rfl, -⟩ := (h.mem_sids_iff hx).1 hp
    rw [labelForPrefixSid_indexSid, Option.bind_eq_some_iff] at hlab
    obtain ⟨r, hr, -⟩ := hlab
    exact ((h.srgb_eq_some_iff hx).1 hr).2
  · obtain ⟨x, hxm, rfl⟩ := List.mem_map.1 hmem
    obtain ⟨p, hp, hnetwork, -⟩ := hlabel x hxm
    obtain ⟨y, hym, rfl, hlsa⟩ := (h.mem_sids_iff hx).1 hp
    obtain rfl := hx.eq_of_network hym hxm hnetwork
    exact hlsa

end Filled

/-- **When each prefix has its label**: nothing was to be advertised, or the low 24 bits of the addresses
differ and the area has room for all the LSAs. -/
theorem prefixLabels_iff (hx : Advertisable srgb xs) (hs : s.Unadvertised areaId) :
    PrefixLabels srgb areaId s.routerId xs (advertise srgb areaId xs s) ↔
      xs = [] ∨ ((xs.map fun x => prefixOpaqueId x.network).Nodup ∧
        (s.lsdb.area areaId).size + (xs.length + 1) ≤ maxLsdbSizePerArea) := by
  have hfilled := advertise_filled hx hs
  have hstored := hfilled.stored_iff hs (hx.nodup_items s.routerId) (isOpaqueOf_items s.routerId)
  rw [nodup_keys_iff, advertItems, List.length_cons, List.length_map, ← advertItems] at hstored
  rw [← hstored]
  constructor
  · intro hlabels
    by_cases hne : xs = []
    · exact Or.inl hne
    · exact Or.inr (hfilled.stored_of_labels hx hne hlabels)
  · rintro (rfl | hst)
    · exact fun db x hxm => absurd hxm List.not_mem_nil
    · exact hfilled.labels_of_stored hx hst

end Labels

/-- Labels 16000 to 23999. -/
def defaultSrgb : SidLabelRange := { start := 16000, size := 8000 }

/-- 10.0.0.1/32 and 10.0.0.2/32. -/
def loopbacks : List PrefixAdvert :=
  [{ network := ⟨167772161, 32⟩, sidIndex := 1 }, { network := ⟨167772162, 32⟩, sidIndex := 2 }]

/-- 10.0.0.0/8 and 10.0.0.0/16. -/
def nested : List PrefixAdvert :=
  [{ network := ⟨167772160, 8⟩, sidIndex := 1 }, { network := ⟨167772160, 16⟩, sidIndex := 2 }]

theorem advertisable_loopbacks : Advertisable defaultSrgb loopbacks where
  fits := ⟨by decide, by decide⟩
  networks := by decide
  valid := List.forall_mem_cons.2 ⟨⟨by decide, by decide⟩, List.forall_mem_singleton.2 ⟨by decide, by decide⟩⟩
  index := by decide

theorem advertisable_nested : Advertisable defaultSrgb nested where
  fits := ⟨by decide, by decide⟩
  networks := by decide
  valid := List.forall_mem_cons.2 ⟨⟨by decide, by decide⟩, List.forall_mem_singleton.2 ⟨by decide, by decide⟩⟩
  index := by decide

theorem unadvertised_linkRouter : (linkRouter .none).Unadvertised backboneArea where
  store := .init fun _ => rfl
  none := fun _ _ hr => by cases hr

/-- Two loopbacks have their labels. -/
theorem prefixLabels_loopbacks :
    PrefixLabels defaultSrgb backboneArea 1 loopbacks
      (advertise defaultSrgb backboneArea loopbacks (linkRouter .none)) :=
  (prefixLabels_iff advertisable_loopbacks unadvertised_linkRouter).2 (Or.inr ⟨by decide, by decide⟩)

/-- Two prefixes with the same address share an opaque ID: the second LSA is refused. -/
theorem not_prefixLabels : ¬∀ (srgb : SidLabelRange) (areaId : IPv4Address) (xs : List PrefixAdvert)
    (s : Instance), Advertisable srgb xs → s.Unadvertised areaId →
      PrefixLabels srgb areaId s.routerId xs (advertise srgb areaId xs s) := by
  intro h
  have hlabels := h defaultSrgb backboneArea nested (linkRouter .none) advertisable_nested
    unadvertised_linkRouter {} { network := ⟨167772160, 16⟩, sidIndex := 2 } (by simp [nested])
  have hnone : (({} : SrDatabase).rebuild
      (advertise defaultSrgb backboneArea nested (linkRouter .none)).lsdb
      (advertise defaultSrgb backboneArea nested (linkRouter .none)).heap backboneArea).getPrefixLabel 1
        ⟨167772160, 16⟩ = none := by decide +kernel
  exact absurd (hnone.symm.trans hlabels) (by simp)

end Ospfd
