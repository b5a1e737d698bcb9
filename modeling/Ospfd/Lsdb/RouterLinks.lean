import Ospfd.Lsdb.Packable
import Ospfd.Packet.Codecs

/-!
# What a Router-LSA carries

* `Lsa.Survives` — an LSA that is serialized, and decoded with its body.
* `linkCount`, `AdvertisesCost` — how many links an interface has in the Router-LSA, and whether
  one of them has its cost.
* `routerLsa_survives_iff` — **a Router-LSA survives** exactly when the costs in it and its length
  fit their fields.
-/

namespace Ospfd

variable {s : Instance} {i : IntfId} {areaId : IPv4Address}

/-! ## LSAs that survive the wire -/

/-- An LSA that is serialized without an exception, and decoded with the body it has. -/
def Lsa.Survives (lsa : Lsa) (now : Time) : Prop :=
  ∃ b lsa', (lsa.serialize now).1 = .ok b ∧ Lsa.deserialize b 0 = .ok (lsa', b.length) ∧ lsa'.body = lsa.body

theorem Lsa.WellFormed.survives {lsa : Lsa} (h : lsa.WellFormed) (now : Time) : lsa.Survives now := by
  obtain ⟨b, hser, -, hde⟩ := Lsa.deserialize_serialize h now
  have hread := hde [] []
  rw [List.nil_append, List.append_nil, List.length_nil] at hread
  exact ⟨b, lsa.filled b, by rw [hser], hread, rfl⟩

/-- The body of an LSA that survives can be serialized, and its length fits the header. -/
theorem Lsa.Survives.bodyBytes {lsa : Lsa} {now : Time} (h : lsa.Survives now) :
    ∃ b, lsa.bodyBytes = .ok b ∧ LsaHeader.size + b.length < 65536 := by
  obtain ⟨b, lsa', hser, -, -⟩ := h
  obtain ⟨body, hbody, hlen⟩ := (Lsa.packable_of_serialize hser).body
  refine ⟨body, ?_, hlen⟩
  rw [Lsa.bodyBytes, ← (Lsa.serialize_sameInstance lsa now).body]
  exact hbody

/-! ## Links -/

/-- Whether the links of an interface in use have its cost: not those of a virtual link, nor those
of a point-to-multipoint interface without a full adjacency. -/
def Instance.LinksHaveCost (s : Instance) (i : IntfId) : Prop :=
  match (s.intf i).intfType with
  | .p2p | .broadcast | .nbma => True
  | .p2mp => s.fullNeighbors i ≠ []
  | .virtual => False

/-- Whether the cost of an interface is in the Router-LSA. -/
def Instance.AdvertisesCost (s : Instance) (i : IntfId) : Prop :=
  (s.intf i).state ≠ .down ∧ (s.intf i).state ≠ .loopback ∧ s.LinksHaveCost i

/-- How many links an interface has. -/
def Instance.linkCount (s : Instance) (i : IntfId) : Nat :=
  match (s.intf i).state with
  | .loopback => 1
  | .down => 0
  | _ =>
      match (s.intf i).intfType with
      | .p2p | .p2mp => (s.fullNeighbors i).length + 1
      | .broadcast | .nbma => 1
      | .virtual => 0

/-- A link without TOS metrics, of a type that fits its byte. -/
structure RouterLsaLink.Plain (link : RouterLsaLink) : Prop where
  type : link.type < 256
  numTos : link.numTos = 0
  tosMetrics : link.tosMetrics = []

theorem stubLink_plain (linkId linkData : IPv4Address) (metric : Int) : (stubLink linkId linkData metric).Plain :=
  ⟨show linkTypeStub < 256 by decide, rfl, rfl⟩

/-- The links of an interface are those of its type while it is in use. -/
theorem linksOf_of_up (hdown : (s.intf i).state ≠ .down) (hloop : (s.intf i).state ≠ .loopback) :
    linksOf s i = match (s.intf i).intfType with
      | .p2p => p2pLinks s i ++
          [stubLink (networkAddress (s.intf i).ipAddr (s.intf i).ipMask) (s.intf i).ipMask (s.intf i).cost]
      | .broadcast | .nbma => [multiAccessLink s i]
      | .p2mp => stubLink (s.intf i).ipAddr hostMask 0 :: p2pLinks s i
      | .virtual => [] := by
  unfold linksOf
  dsimp only
  split
  · contradiction
  · contradiction
  · rfl

/-- A link of an interface is plain, and has its cost or none. -/
structure CostLink (s : Instance) (i : IntfId) (link : RouterLsaLink) : Prop where
  plain : link.Plain
  metric : link = stubLink (s.intf i).ipAddr hostMask 0 ∨ s.AdvertisesCost i ∧ link.metric = (s.intf i).cost

theorem p2pLinks_plain {link : RouterLsaLink} (h : link ∈ p2pLinks s i) :
    link.Plain ∧ link.metric = (s.intf i).cost ∧ s.fullNeighbors i ≠ [] := by
  obtain ⟨n, hn, rfl⟩ := List.mem_map.1 h
  exact ⟨⟨show linkTypeP2P < 256 by decide, rfl, rfl⟩, rfl, List.ne_nil_of_mem hn⟩

theorem multiAccessLink_plain (s : Instance) (i : IntfId) :
    (multiAccessLink s i).Plain ∧ (multiAccessLink s i).metric = (s.intf i).cost := by
  unfold multiAccessLink
  dsimp only
  split
  · exact ⟨⟨show linkTypeTransit < 256 by decide, rfl, rfl⟩, rfl⟩
  · exact ⟨stubLink_plain _ _ _, rfl⟩

/-- **Each link of an interface** has its cost, or is that of its address alone. -/
theorem costLink_of_mem {link : RouterLsaLink} (h : link ∈ linksOf s i) : CostLink s i link := by
  have hhost : CostLink s i (stubLink (s.intf i).ipAddr hostMask 0) := ⟨stubLink_plain _ _ _, .inl rfl⟩
  by_cases hdown : (s.intf i).state = .down
  · rw [linksOf, hdown] at h
    cases h
  · by_cases hloop : (s.intf i).state = .loopback
    · rw [linksOf, hloop] at h
      rw [List.mem_singleton.1 h]
      exact hhost
    · rw [linksOf_of_up hdown hloop] at h
      have hcost : ∀ {link : RouterLsaLink}, link.Plain → link.metric = (s.intf i).cost →
          s.LinksHaveCost i → CostLink s i link :=
        fun hplain hmetric hhave => ⟨hplain, .inr ⟨⟨hdown, hloop, hhave⟩, hmetric⟩⟩
      unfold Instance.LinksHaveCost at hcost
      cases htype : (s.intf i).intfType with
      | p2p =>
        simp only [htype, List.mem_append, List.mem_singleton] at h
        rcases h with h | rfl
        · exact hcost (p2pLinks_plain h).1 (p2pLinks_plain h).2.1 (by rw [htype]; trivial)
        · exact hcost (stubLink_plain _ _ _) rfl (by rw [htype]; trivial)
      | p2mp =>
        simp only [htype, List.mem_cons] at h
        rcases h with rfl | h
        · exact hhost
        · exact hcost (p2pLinks_plain h).1 (p2pLinks_plain h).2.1 (by rw [htype]; exact (p2pLinks_plain h).2.2)
      | virtual =>
        simp only [htype] at h
        cases h
      | _ =>
        simp only [htype, List.mem_singleton] at h
        obtain ⟨hplain, hmetric⟩ := multiAccessLink_plain s i
        rw [h]
        exact hcost hplain hmetric (by rw [htype]; trivial)

/-- An interface that advertises its cost has a link with it. -/
theorem exists_costLink (h : s.AdvertisesCost i) : ∃ link ∈ linksOf s i, link.metric = (s.intf i).cost := by
  obtain ⟨hdown, hloop, h⟩ := h
  rw [linksOf_of_up hdown hloop]
  unfold Instance.LinksHaveCost at h
  cases htype : (s.intf i).intfType with
  | p2p => exact ⟨_, List.mem_append_right _ (List.mem_singleton_self _), rfl⟩
  | p2mp =>
    rw [htype] at h
    obtain ⟨n, hn⟩ := List.exists_mem_of_ne_nil _ h
    exact ⟨_, List.mem_cons_of_mem _ (List.mem_map_of_mem hn), rfl⟩
  | virtual =>
    rw [htype] at h
    exact h.elim
  | _ => exact ⟨_, List.mem_singleton_self _, (multiAccessLink_plain s i).2⟩

theorem length_linksOf (s : Instance) (i : IntfId) : (linksOf s i).length = s.linkCount i := by
  unfold Instance.linkCount
  split
  · rename_i hloop
    rw [linksOf, hloop]
    rfl
  · rename_i hdown
    rw [linksOf, hdown]
    rfl
  · rename_i hloop hdown
    rw [linksOf_of_up hdown hloop]
    cases (s.intf i).intfType with
    | p2p => simp only [p2pLinks, List.length_append, List.length_map, List.length_singleton]
    | p2mp => simp only [p2pLinks, List.length_cons, List.length_map]
    | _ => rfl

/-! ## Bodies -/

theorem mem_links {link : RouterLsaLink} :
    link ∈ (routerLsaBody s areaId).links ↔ ∃ i ∈ s.interfacesForArea areaId, link ∈ linksOf s i := by
  simp only [routerLsaBody, List.mem_flatten, List.mem_map, exists_exists_and_eq_and]

theorem length_links (s : Instance) (areaId : IPv4Address) :
    (routerLsaBody s areaId).links.length = ((s.interfacesForArea areaId).map s.linkCount).sum := by
  simp only [routerLsaBody, List.length_flatten, List.map_map]
  congr 1
  exact List.map_congr_left fun i _ => length_linksOf s i

theorem plain_links {link : RouterLsaLink} (h : link ∈ (routerLsaBody s areaId).links) : link.Plain := by
  obtain ⟨i, -, hlink⟩ := mem_links.1 h
  exact (costLink_of_mem hlink).plain

/-- A plain link is in range with a metric that fits its field. -/
theorem RouterLsaLink.Plain.wireRange {link : RouterLsaLink} (h : link.Plain) (hlo : 0 ≤ link.metric)
    (hhi : link.metric < 65536) : link.WireRange where
  type := h.type
  numTos := by rw [h.numTos, h.tosMetrics]; rfl
  numTos_lt := by rw [h.numTos]; decide
  metric := ⟨hlo, hhi⟩
  tosMetrics := by rw [h.tosMetrics]; nofun

/-- A plain link that is written is in range. -/
theorem RouterLsaLink.Plain.of_serialize {link : RouterLsaLink} (h : link.Plain) {b : Bytes}
    (hser : link.serialize = .ok b) : link.WireRange ∧ b.length = 12 := by
  obtain ⟨data, hdata, hser⟩ := bind_eq_ok hser
  obtain ⟨tos, htos, hser⟩ := bind_eq_ok hser
  rw [h.tosMetrics] at htos
  cases htos
  cases hser
  have hfilled : List.Forall₂ Struct.Filled format [.bytes (packed link.linkId), .bytes (packed link.linkData),
      .nat link.type, .nat link.numTos, unsignedField link.metric] := by
    simp only [format, List.forall₂_cons]
    refine ⟨filled_packed _, filled_packed _, ?_, ?_, ?_, .nil⟩ <;> rintro n bs ⟨⟩
  have hfits := fits_of_pack hdata hfilled
  simp only [format, List.forall₂_cons] at hfits
  obtain ⟨-, -, -, -, hmetric, -⟩ := hfits
  obtain ⟨hlo, hhi⟩ := (fits_unsignedField (c := .H) (fun _ => Iff.rfl) (fun _ => id) link.metric).1 hmetric
  refine ⟨h.wireRange hlo hhi, ?_⟩
  rw [List.append_nil]
  exact length_of_pack hdata hfilled

/-- A body that is written has links in range, of twelve bytes each. -/
theorem routerLsaBody_serialize {b : Bytes} (hser : (routerLsaBody s areaId).serialize = .ok b) :
    (∀ link ∈ (routerLsaBody s areaId).links, link.WireRange) ∧
      b.length = 4 + 12 * (routerLsaBody s areaId).links.length := by
  obtain ⟨data, hdata, hser⟩ := bind_eq_ok hser
  obtain ⟨links, hlinks, hser⟩ := bind_eq_ok hser
  cases hser
  have hfilled : List.Forall₂ Struct.Filled RouterLsa.format [.nat (routerLsaBody s areaId).flags, .nat 0,
      .nat (routerLsaBody s areaId).numLinks] := by
    simp only [RouterLsa.format, List.forall₂_cons]
    refine ⟨?_, ?_, ?_, .nil⟩ <;> rintro n bs ⟨⟩
  refine ⟨fun link hlink => ?_, ?_⟩
  · obtain ⟨b', hb'⟩ := serialize_of_serializeAll hlinks link hlink
    exact ((plain_links hlink).of_serialize hb').1
  · have hsize := length_of_serializeAll (fun link hlink b' hb' => ((plain_links hlink).of_serialize hb').2) hlinks
    rw [List.length_append, length_of_pack hdata hfilled, hsize]
    rfl

theorem routerLsaBody_flags (s : Instance) (areaId : IPv4Address) : (routerLsaBody s areaId).flags < 256 := by
  unfold routerLsaBody
  dsimp only
  split <;> split <;> decide

/-! ## LSAs -/

/-- The LSA `originate_router_lsa` builds, with some sequence number. -/
def routerLsaOf (s : Instance) (areaId : IPv4Address) (seqNum : Nat) : Lsa where
  header := originatedHeader s lsaTypeRouter s.routerId seqNum
  body := some (.router (routerLsaBody s areaId))

theorem routerLsa_wellFormed {seqNum : Nat} (hseq : seqNum < 4294967296)
    (hlinks : ∀ link ∈ (routerLsaBody s areaId).links, link.WireRange)
    (hlen : 24 + 12 * (routerLsaBody s areaId).links.length < 65536) : (routerLsaOf s areaId seqNum).WellFormed where
  header := ⟨Nat.zero_lt_succ _, show optE < 256 by decide, show lsaTypeRouter < 256 by decide, hseq,
    Nat.zero_lt_succ _, Nat.zero_lt_succ _⟩
  lsAge := Nat.zero_le _
  installTime := rfl
  installedAge := rfl
  body := ⟨_, rfl, rfl, routerLsaBody_flags s areaId, rfl, by
    change (routerLsaBody s areaId).links.length < 65536
    omega, hlinks⟩
  length := by
    intro b hb
    rw [LsaHeader.size, (routerLsaBody_serialize hb).2]
    omega

/-- `originate_router_lsa` builds that LSA, if it builds one. -/
theorem originateRouterLsa_builds (s : Instance) (areaId : IPv4Address) :
    originateRouterLsa areaId s = (.ok none, s) ∨ ∃ seqNum < 4294967296, originateRouterLsa areaId s =
      originateWith areaId lsaTypeRouter s.routerId (routerLsaOf s areaId seqNum).body seqNum s := by
  rw [originateRouterLsa, Eff.get_bind_apply, originate, Eff.get_bind_apply]
  dsimp only
  split
  · exact .inl rfl
  · rcases hchosen : chooseSeqNum s areaId ⟨lsaTypeRouter, s.routerId, s.routerId⟩ with _ | n
    · exact .inl rfl
    · refine .inr ⟨n, ?_, rfl⟩
      unfold chooseSeqNum nextSeqNum at hchosen
      split at hchosen
      · split at hchosen
        · split at hchosen
          · cases hchosen
          · rename_i hmax
            rw [maxSeqNum] at hmax
            cases hchosen
            omega
        · cases hchosen
          decide
      · cases hchosen
        decide

/-- **A Router-LSA survives** exactly when the costs in it and its length fit their fields. -/
theorem routerLsa_survives_iff {seqNum : Nat} (hseq : seqNum < 4294967296) (now : Time) :
    (routerLsaOf s areaId seqNum).Survives now ↔
      (∀ i ∈ s.interfacesForArea areaId, s.AdvertisesCost i → 0 ≤ (s.intf i).cost ∧ (s.intf i).cost < 65536) ∧
        24 + 12 * ((s.interfacesForArea areaId).map s.linkCount).sum < 65536 := by
  rw [← length_links]
  constructor
  · intro h
    obtain ⟨b, hbody, hlen⟩ := h.bodyBytes
    obtain ⟨hlinks, hsize⟩ := routerLsaBody_serialize hbody
    refine ⟨fun i hi hadv => ?_, ?_⟩
    · obtain ⟨link, hlink, hmetric⟩ := exists_costLink hadv
      rw [← hmetric]
      exact (hlinks link (mem_links.2 ⟨i, hi, hlink⟩)).metric
    · rw [LsaHeader.size, hsize] at hlen
      omega
  · rintro ⟨hcost, hlen⟩
    refine (routerLsa_wellFormed hseq (fun link hlink => ?_) hlen).survives now
    obtain ⟨i, hi, hmem⟩ := mem_links.1 hlink
    obtain ⟨hplain, rfl | ⟨hadv, hmetric⟩⟩ := costLink_of_mem hmem
    · exact hplain.wireRange le_rfl (show (0 : Int) < 65536 by decide)
    · obtain ⟨hlo, hhi⟩ := hcost i hi hadv
      exact hplain.wireRange (by rw [hmetric]; exact hlo) (by rw [hmetric]; exact hhi)

end Ospfd
