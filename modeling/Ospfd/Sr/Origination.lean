import Ospfd.Lsdb.Bounds
import Ospfd.Sr.Database

/-!
# Origination of SR LSAs

* `originateOpaque` — an opaque LSA is installed and flooded.
* `originateRiLsa`, `originatePrefixSidLsa` — the SRGB and the Prefix-SIDs of this router.
* `prefixSids_prefixSidBytes` — **the Prefix-SID that is advertised is parsed**.
* `originateOpaque_originates` — **what an origination does to the area**.
-/

namespace Ospfd

/-! ## The LSAs -/

/-- An opaque LSA of this router. -/
def opaqueLsa (s : Instance) (opaqueType opaqueId : Nat) (body : Bytes) : Lsa where
  header :=
    { lsAge := 0, options := 0, lsType := lsaTypeOpaqueArea
      linkStateId := makeOpaqueLsaId opaqueType opaqueId, advertisingRouter := s.routerId
      lsSequenceNumber := initialSeqNum, lsChecksum := 0, length := 0 }
  body := some (.raw body)

/-- The end of both originations: the LSA is flooded if it is installed. -/
def originateOpaque (areaId : IPv4Address) (opaqueType opaqueId : Nat) (body : Bytes) :
    Py (Option LsaRef) := do
  let s ← Eff.get
  let r ← newLsa (opaqueLsa s opaqueType opaqueId body)
  let _ ← serializeLsa r
  let installed ← installLsa areaId r
  if installed then
    floodLsa r areaId none
    pure (some r)
  else pure none

/-- `originate_ri_lsa` -/
def originateRiLsa (srgb : SidLabelRange) (areaId : IPv4Address) : Py (Option LsaRef) := do
  let ri : RouterInfoLsa :=
    { srCapabilities := some { flags := 0, ranges := [srgb] }, srAlgorithms := [srAlgSpf], srgb := some srgb }
  let body ← Eff.lift ri.serialize
  originateOpaque areaId opaqueTypeRi 0 body

/-- The body of an Extended Prefix LSA with a Prefix-SID; the flags are those of the SID, too. -/
def prefixSidBody (network : IPv4Network) (sidIndex : Nat) : Except PyError Bytes := do
  let flags := prefixSidFlagNP
  let prefixHdr ← bytesOf [1, network.prefixLen, 0, flags]
  let psid : PrefixSid := { flags, algorithm := srAlgSpf, sid := sidIndex }
  let stlv ← encodeTlv srStlvPrefixSid (← psid.serialize)
  encodeTlv epTlvExtendedPrefix (prefixHdr ++ packed network.address ++ stlv)

/-- The low 24 bits of a network address. -/
def prefixOpaqueId (network : IPv4Network) : Nat := network.address.val % 16777216

/-- `originate_prefix_sid_lsa` -/
def originatePrefixSidLsa (areaId : IPv4Address) (network : IPv4Network) (sidIndex : Nat) :
    Py (Option LsaRef) := do
  let body ← Eff.lift (prefixSidBody network sidIndex)
  originateOpaque areaId opaqueTypeExtendedPrefix (prefixOpaqueId network) body

/-! ## The body of a Prefix-SID -/

/-- A network: no host bits are set. -/
structure IPv4Network.Valid (network : IPv4Network) : Prop where
  prefixLen : network.prefixLen ≤ 32
  address : ipv4Network network.address network.prefixLen = network

/-- The SID of an index. -/
def indexSid (sidIndex : Nat) : PrefixSid :=
  { flags := prefixSidFlagNP, algorithm := srAlgSpf, sid := sidIndex }

def prefixSidValue (network : IPv4Network) (sidIndex : Nat) : Bytes :=
  [1, network.prefixLen, 0, prefixSidFlagNP].map UInt8.ofNat ++ packed network.address ++
    tlvBytes srStlvPrefixSid (indexSid sidIndex).indexBytes

def prefixSidBytes (network : IPv4Network) (sidIndex : Nat) : Bytes :=
  tlvBytes epTlvExtendedPrefix (prefixSidValue network sidIndex)

section Body

variable {network : IPv4Network} {sidIndex : Nat}

theorem fits_indexSid (h : sidIndex < 4294967296) : (indexSid sidIndex).FitsIndex where
  isValue := by
    have hflags : prefixSidFlagNP &&& prefixSidFlagV = 0 := by decide
    simp [PrefixSid.isValue, indexSid, hflags]
  flags := show prefixSidFlagNP < 256 by decide
  algorithm := show srAlgSpf < 256 by decide
  sid := h

@[simp] theorem length_prefixSidValue : (prefixSidValue network sidIndex).length = 20 := by
  simp [prefixSidValue, tlvHdrLen, pad4]

@[simp] theorem length_prefixSidBytes : (prefixSidBytes network sidIndex).length = 24 := by
  simp [prefixSidBytes, tlvHdrLen, pad4]

theorem prefixSidBody_eq (hnet : network.Valid) (hsid : sidIndex < 4294967296) :
    prefixSidBody network sidIndex = .ok (prefixSidBytes network sidIndex) := by
  have hhdr : bytesOf [1, network.prefixLen, 0, prefixSidFlagNP] =
      .ok ([1, network.prefixLen, 0, prefixSidFlagNP].map UInt8.ofNat) := by
    refine if_pos ?_
    have hlen : network.prefixLen < 256 := by have := hnet.prefixLen; omega
    simp [hlen, prefixSidFlagNP]
  have hstlv : encodeTlv srStlvPrefixSid (indexSid sidIndex).indexBytes =
      .ok (tlvBytes srStlvPrefixSid (indexSid sidIndex).indexBytes) := encodeTlv_eq (by decide) (by simp)
  have hvalue : encodeTlv epTlvExtendedPrefix (prefixSidValue network sidIndex) =
      .ok (prefixSidBytes network sidIndex) := encodeTlv_eq (by decide) (by simp)
  have hser := PrefixSid.serialize_index (fits_indexSid hsid)
  rw [indexSid] at hser hstlv
  simp only [prefixSidBody, hhdr, hser, hstlv, bind, Except.bind]
  exact hvalue

/-- **The Prefix-SID that is advertised is parsed.** -/
theorem prefixSids_prefixSidBytes (hnet : network.Valid) (hsid : sidIndex < 4294967296) :
    prefixSids (ExtendedPrefixLsa.deserialize (prefixSidBytes network sidIndex)).prefixes =
      [(network, indexSid sidIndex)] := by
  have hlen : network.prefixLen < 256 := by
    have := hnet.prefixLen
    omega
  obtain ⟨entry, hdec, hprefixLen, haddress, hprefixSid⟩ : ∃ entry,
      ExtendedPrefixEntry.deserialize (prefixSidValue network sidIndex) = .ok entry ∧
        entry.prefixLen = network.prefixLen ∧ entry.address = network.address ∧
          entry.prefixSid = some (indexSid sidIndex) := by
    have hprefixLen : byteAt (prefixSidValue network sidIndex) 1 = network.prefixLen := by
      simp [byteAt, prefixSidValue, Nat.mod_eq_of_lt hlen]
    have haddress : Bytes.slice (prefixSidValue network sidIndex) 4 8 = packed network.address :=
      Bytes.slice_append_append ([1, network.prefixLen, 0, prefixSidFlagNP].map UInt8.ofNat)
        (packed network.address) _
    have hstlvs : (prefixSidValue network sidIndex).drop 8 =
        tlvBytes srStlvPrefixSid (indexSid sidIndex).indexBytes :=
      List.drop_left' (by simp)
    have hread : ∀ entry : ExtendedPrefixEntry,
        entry.readStlv (srStlvPrefixSid, (indexSid sidIndex).indexBytes) =
          { entry with prefixSid := some (indexSid sidIndex) } := by
      intro entry
      rw [ExtendedPrefixEntry.readStlv, if_pos rfl]
      simp only [PrefixSid.deserialize_indexBytes (fits_indexSid hsid)]
    rw [ExtendedPrefixEntry.deserialize, if_neg (by simp), hstlvs, parseTlvs_single (by decide) (by simp)]
    refine ⟨_, rfl, ?_⟩
    rw [List.foldl_cons, List.foldl_nil, hread, haddress, addressField_packed]
    exact ⟨hprefixLen, rfl, rfl⟩
  rw [ExtendedPrefixLsa.deserialize, prefixSidBytes, parseTlvs_single (by decide) (by simp)]
  simp only [List.filterMap_cons, List.filterMap_nil, if_true, hdec, Except.toOption]
  rw [prefixSids, hprefixSid]
  simp only [hprefixLen, haddress, if_neg (Nat.not_lt.2 hnet.prefixLen), hnet.address, prefixSids]

end Body

/-! ## What an origination does -/

/-- The key of an opaque LSA of a router. -/
def opaqueKey (routerId : IPv4Address) (opaqueType opaqueId : Nat) : LsaKey :=
  ⟨lsaTypeOpaqueArea, makeOpaqueLsaId opaqueType opaqueId, routerId⟩

/-- The area has a new LSA with a body under a key, or is as it was since it is full. -/
structure Originates (areaId : IPv4Address) (key : LsaKey) (body : Bytes) (s t : Instance) : Prop where
  heap : s.heap.Grows t.heap
  routerId : t.routerId = s.routerId
  store : StoreRun s.lsdb s.heap → StoreRun t.lsdb t.heap
  area : (t.lsdb.area areaId = s.lsdb.area areaId ∧
      ((s.lsdb.area areaId).get? key = none → maxLsdbSizePerArea ≤ (s.lsdb.area areaId).size)) ∨
    ∃ r, t.lsdb.area areaId = (s.lsdb.area areaId).set key r ∧ (t.heap.obj r).body = some (.raw body)

/-- **What an origination does to the area.** -/
theorem originateOpaque_originates (areaId : IPv4Address) (opaqueType opaqueId : Nat) {body : Bytes}
    (hlen : body.length < 60000) (s : Instance) :
    Originates areaId (opaqueKey s.routerId opaqueType opaqueId) body s
      (originateOpaque areaId opaqueType opaqueId body s).2 := by
  have hw : (opaqueLsa s opaqueType opaqueId body).header.WireRange := by
    constructor <;> simp [opaqueLsa, lsaTypeOpaqueArea, initialSeqNum]
  obtain ⟨hdr, c, hhdr, -, -, -, hser⟩ := Lsa.serialize_eq s.now hw rfl
    (show LsaHeader.size + body.length < 65536 by rw [LsaHeader.size]; omega)
  generalize hlsa : opaqueLsa s opaqueType opaqueId body = lsa at hser hhdr
  have hsame := Lsa.serialize_sameInstance lsa s.now
  have hself := s.obj_drafted_self lsa
  have hkey : ((s.drafted lsa).heap.obj s.heap.next).key = opaqueKey s.routerId opaqueType opaqueId := by
    rw [hself, hsame.key, ← hlsa]
    rfl
  have hbody : ((s.drafted lsa).heap.obj s.heap.next).body = some (.raw body) := by
    rw [hself, hsame.body, ← hlsa]
    rfl
  have hdrafted := (drafted_moves s lsa).grows
  have hlt : s.heap.next < (s.drafted lsa).heap.next := Nat.lt_succ_self _
  have hw : asWide ((s.drafted lsa).heap.obj s.heap.next).key.lsType = false := by
    rw [hkey]
    rfl
  have hrun : (lsa.serialize s.now).1.isOk = true := by rw [hser]; rfl
  rw [originateOpaque, Eff.get_bind_apply, hlsa, draft_install_eq, ← hself]
  rcases hres : (lsa.serialize s.now).1 with e | b
  · rw [hres] at hrun
    cases hrun
  · dsimp only
    by_cases hdec : (s.lsdb.decision (s.drafted lsa).heap s.now areaId
        ((s.drafted lsa).heap.obj s.heap.next)).1 = true
    · rw [if_pos hdec]
      generalize ht : (s.drafted lsa).installed areaId s.heap.next = t
      have hinst : (s.lsdb.install (s.drafted lsa).heap s.now areaId s.heap.next).1.1 = true := by
        rw [LinkStateDatabase.install_answer]
        exact hdec
      have hgrows : (s.drafted lsa).heap.Grows t.heap := by
        rw [← ht]
        exact LinkStateDatabase.grows_install ..
      have harea : t.lsdb.area areaId = (s.lsdb.area areaId).set (opaqueKey s.routerId opaqueType opaqueId)
          s.heap.next := by
        rw [← ht, Instance.installed, LinkStateDatabase.area_install, if_pos ⟨hinst, hw, rfl⟩, hkey]
        rfl
      -- flooding leaves the database alone
      have hstore := floodLsa_sameStore s.heap.next areaId none t
      have hflood := (floodLsa_within s.heap.next areaId none t).grows
      have hfinal : Originates areaId (opaqueKey s.routerId opaqueType opaqueId) body s
          (floodLsa s.heap.next areaId none t).2 :=
        { heap := (hdrafted.trans hgrows).trans hflood
          routerId := by
            rw [hstore.routerId, ← ht]
            rfl
          store := by
            intro hs
            have hinstalled := (hs.grow hdrafted).install s.now areaId hlt
            rw [hstore.lsdb]
            subst ht
            exact hinstalled.grow hflood
          area := by
            refine Or.inr ⟨s.heap.next, by rw [hstore.lsdb, harea], ?_⟩
            rw [((hgrows.trans hflood).same _ hlt).body, hbody] }
      refine Eff.bind_final (P := Originates areaId _ body s) hfinal fun _ _ => hfinal
    · rw [if_neg hdec]
      refine ⟨hdrafted, rfl, fun hs => hs.grow hdrafted, Or.inl ⟨rfl, fun hnone => ?_⟩⟩
      by_contra hroom
      refine hdec ((LinkStateDatabase.decision_of_none ?_).2 ?_)
      · rw [hkey, LinkStateDatabase.lookup]
        exact hnone
      · rw [hkey, LinkStateDatabase.partitionFor]
        exact Nat.not_le.1 hroom

end Ospfd
