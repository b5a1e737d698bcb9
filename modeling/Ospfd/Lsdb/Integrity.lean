import Ospfd.Lsdb.Carried
import Ospfd.Packet.Reencoding
import Ospfd.Protocol.Lifecycle

/-!
# Checksums of received LSAs

An update is processed LSA by LSA, and then its keys are struck from the lists of the
sender.  The Fletcher checksum of an LSA is over its bytes in the update.

* `receptions`, `strikes` — the two loops, with the state each LSA finds.
* `untouched_iff` — when an LSA leaves the database and the lists alone.
* `checksumGuarded_iff` — **when the LSAs that fail their checksum have no effect**.
-/

namespace Ospfd

/-! ## The loops -/

/-- The bytes of the LSAs of an update, the first at `pos`. -/
def rawLsas (data : Bytes) : Nat → List Lsa → List Bytes
  | _, [] => []
  | pos, lsa :: lsas =>
      Bytes.slice data pos (pos + lsa.header.length) :: rawLsas data (pos + lsa.header.length) lsas

/-- An LSA that is processed: its bytes, its object and the state it finds. -/
structure Reception where
  raw : Bytes
  ref : LsaRef
  before : Instance

/-- The loop of `receive_lsu`; an exception ends it. -/
def receptions (n : NbrRef) (areaId : IPv4Address) : List (Bytes × LsaRef) → Instance → List Reception
  | [], _ => []
  | (raw, r) :: rest, s =>
      ⟨raw, r, s⟩ :: match processReceivedLsa r n areaId s with
        | (.ok _, t) => receptions n areaId rest t
        | (.error _, _) => []

/-- A key that is struck: the bytes of its LSA, and the neighbor as it is before. -/
structure Strike where
  raw : Bytes
  key : LsaKey
  before : OspfNeighbor

/-- The loop of `process_ls_update`. -/
def strikes : List (Bytes × LsaKey) → OspfNeighbor → List Strike
  | [], _ => []
  | (raw, key) :: rest, x => ⟨raw, key, x⟩ :: strikes rest (x.strike key)

/-- The receptions of an update. -/
def lsuReceptions (s : Instance) (n : NbrRef) (data : Bytes) (lsu : LsuPacket) : List Reception :=
  match newLsas lsu.lsas s with
  | (.ok rs, t) => receptions n (s.intf n.intf).areaId ((rawLsas data 4 lsu.lsas).zip rs) t
  | (.error _, _) => []

/-- The strikes of an update, unless an exception ended its receptions. -/
def lsuStrikes (s : Instance) (n : NbrRef) (data : Bytes) (lsu : LsuPacket) : List Strike :=
  match newLsas lsu.lsas s with
  | (.ok rs, t) =>
      match Eff.forEach rs (fun r => processReceivedLsa r n (s.intf n.intf).areaId) t with
      | (.ok _, u) => strikes ((rawLsas data 4 lsu.lsas).zip (lsu.lsas.map Lsa.key)) (u.nbr n)
      | (.error _, _) => []
  | (.error _, _) => []

theorem length_rawLsas (data : Bytes) : ∀ (lsas : List Lsa) (pos : Nat),
    (rawLsas data pos lsas).length = lsas.length
  | [], _ => rfl
  | lsa :: lsas, pos => by
    rw [rawLsas, List.length_cons, length_rawLsas data lsas, List.length_cons]

/-- The receptions are what the loop does: it ends as the last of them. -/
theorem final_receptions (n : NbrRef) (areaId : IPv4Address) : ∀ (todo : List (Bytes × LsaRef)) (s : Instance),
    (Eff.forEach (todo.map Prod.snd) (fun r => processReceivedLsa r n areaId) s).2 =
      match (receptions n areaId todo s).getLast? with
      | some x => (processReceivedLsa x.ref n areaId x.before).2
      | none => s
  | [], _ => rfl
  | (raw, r) :: todo, s => by
    rw [List.map_cons, Eff.forEach_cons, Eff.bind_apply, receptions]
    rcases hr : processReceivedLsa r n areaId s with ⟨e | u, t⟩
    · simp [hr]
    · dsimp only
      rw [final_receptions n areaId todo t]
      rcases hrest : receptions n areaId todo t with _ | ⟨x, xs⟩
      · simp [hr]
      · simp [List.getLast?_cons]

/-- So are the strikes. -/
theorem final_strikes : ∀ (todo : List (Bytes × LsaKey)) (x : OspfNeighbor),
    (todo.map Prod.snd).foldl OspfNeighbor.strike x =
      match (strikes todo x).getLast? with
      | some y => y.before.strike y.key
      | none => x
  | [], _ => rfl
  | (raw, key) :: todo, x => by
    rw [List.map_cons, List.foldl_cons, strikes, final_strikes todo]
    rcases hrest : strikes todo (x.strike key) with _ | ⟨y, ys⟩
    · simp
    · simp [List.getLast?_cons]

/-! ## LSAs without an effect -/

/-- The lists of a neighbor. -/
structure SameLists (x y : OspfNeighbor) : Prop where
  dbSummaryList : y.dbSummaryList = x.dbSummaryList
  lsRequestList : y.lsRequestList = x.lsRequestList
  lsRetransmissionList : y.lsRetransmissionList = x.lsRetransmissionList

theorem SameLists.of_eq {x y : OspfNeighbor} (h : y = x) : SameLists x y := by
  rw [h]
  exact ⟨rfl, rfl, rfl⟩

/-- An LSA had no effect: the database and the lists of all neighbors are as they were,
and its own object was neither installed nor, for flooding, serialized with a new
checksum. -/
structure Untouched (s t : Instance) (r : LsaRef) : Prop where
  lsdb : t.lsdb = s.lsdb
  lists : ∀ m, SameLists (s.nbr m) (t.nbr m)
  object : t.heap.obj r = s.heap.obj r

/-- An LSA that is not installed, and acknowledges nothing. -/
def Harmless (s : Instance) (n : NbrRef) (areaId : IPv4Address) (r : LsaRef) : Prop :=
  verdict s areaId (s.heap.obj r) ≠ .installed ∧
    (verdict s areaId (s.heap.obj r) = .same →
      (s.nbr n).lsRetransmissionList.get? (s.heap.obj r).key = none)

instance (s : Instance) (n : NbrRef) (areaId : IPv4Address) (r : LsaRef) :
    Decidable (Harmless s n areaId r) := inferInstanceAs (Decidable (_ ∧ _))

namespace Untouched

variable {s t u : Instance} {r : LsaRef}

theorem refl (s : Instance) (r : LsaRef) : Untouched s s r := ⟨rfl, fun _ => .of_eq rfl, rfl⟩

theorem trans (h : Untouched s t r) (h' : Untouched t u r) : Untouched s u r where
  lsdb := h'.lsdb.trans h.lsdb
  lists := fun m =>
    ⟨(h'.lists m).1.trans (h.lists m).1, (h'.lists m).2.trans (h.lists m).2,
      (h'.lists m).3.trans (h.lists m).3⟩
  object := h'.object.trans h.object

instance (r : LsaRef) : Std.Refl (Untouched · · r) := ⟨fun s => refl s r⟩

instance (r : LsaRef) : IsTrans Instance (Untouched · · r) := ⟨fun _ _ _ => trans⟩

end Untouched

section One

variable {s : Instance} {n : NbrRef} {areaId : IPv4Address} {r : LsaRef}

/-- Sending the stored instance back touches no other LSA. -/
theorem sendLsUpdate_untouched {e : LsaRef} (he : e ≠ r) : Untouched s (sendLsUpdate n [e] s).2 r := by
  have hmoves : Moves (fun l => l = .quiet ∨ l = .write e) s (sendLsUpdate n [e] s).2 :=
    sendLsUpdate_within (Or.inl rfl) n (fun k hk => Or.inr (by rw [List.mem_singleton.1 hk])) s
  refine Lts.Moves.relates (R := fun s t => Untouched s t r) ?_ hmoves
  rintro l u v (rfl | rfl) hm
  · exact ⟨hm.lsdb, fun m => .of_eq (by rw [hm.nbr]), by rw [hm.heap]⟩
  · obtain rfl : v = _ := hm
    exact ⟨rfl, fun m => .of_eq rfl, LsaHeap.obj_set_of_ne _ (Ne.symm he) _⟩

/-- The stored instance acknowledges its key. -/
theorem receivedSame_untouched_iff : Untouched s (receivedSame r n s).2 r ↔
    (s.nbr n).lsRetransmissionList.get? (s.heap.obj r).key = none := by
  let x := (s.nbr n).acked (s.heap.obj r).key
  -- queueing an acknowledgment changes neither the database nor a list
  obtain ⟨t, ht, hnbr, hlsdb, hheap⟩ : ∃ t, (receivedSame r n s).2 = t ∧ t.nbr = (s.setNbr n x).nbr ∧
      t.lsdb = s.lsdb ∧ t.heap = s.heap := by
    refine ⟨_, rfl, ?_⟩
    rw [receivedSame, Eff.get_bind_apply, modifyNbr_bind_apply]
    by_cases hmulti : (s.intf n.intf).intfType.isMultiAccess = true
    · rw [Eff.when_pos hmulti]
      exact ⟨rfl, rfl, rfl⟩
    · rw [Eff.when_neg hmulti]
      exact ⟨rfl, rfl, rfl⟩
  rw [ht]
  constructor
  · intro h
    have hlist := (h.lists n).lsRetransmissionList
    rw [hnbr, Instance.nbr_setNbr_self] at hlist
    exact Dict.pop_eq_self_iff.1 hlist
  · intro h
    refine ⟨hlsdb, fun m => ?_, by rw [hheap]⟩
    rw [hnbr, Instance.nbr_setNbr]
    split
    · rename_i hm
      subst hm
      exact ⟨rfl, rfl, Dict.pop_eq_self_iff.2 h⟩
    · exact .of_eq rfl

/-- **When an LSA has no effect.** -/
theorem untouched_iff (hr : r < s.heap.next) (hfresh : (s.heap.obj r).installTime = none) :
    Untouched s (processReceivedLsa r n areaId s).2 r ↔ Harmless s n areaId r := by
  rw [Harmless]
  rcases hv : verdict s areaId (s.heap.obj r) with _ | _ | _ | _ | e
  case installed =>
    refine ⟨fun h => ?_, fun h => absurd rfl h.1⟩
    have hmark := installTime_of_installed (n := n) hr hv
    rw [h.object, hfresh] at hmark
    cases hmark
  all_goals rw [processReceivedLsa_eq, hv]
  case unknown => exact ⟨fun _ => ⟨nofun, nofun⟩, fun _ => .refl s r⟩
  case refused => exact ⟨fun _ => ⟨nofun, nofun⟩, fun _ => .refl s r⟩
  case same =>
    refine receivedSame_untouched_iff.trans ⟨fun h => ⟨nofun, fun _ => h⟩, fun h => h.2 rfl⟩
  case older => exact ⟨fun _ => ⟨nofun, nofun⟩, fun _ => sendLsUpdate_untouched (ne_of_older hv)⟩

end One

/-! ## Updates -/

/-- The LSAs of an update that fail their checksum have no effect: none is installed or
flooded, and neither the database nor a list changes on their account. -/
structure ChecksumGuarded (s : Instance) (n : NbrRef) (data : Bytes) (lsu : LsuPacket) : Prop where
  receptions : ∀ x ∈ lsuReceptions s n data lsu, verifyFletcherChecksum x.raw = false →
    Untouched x.before (processReceivedLsa x.ref n (s.intf n.intf).areaId x.before).2 x.ref
  strikes : ∀ x ∈ lsuStrikes s n data lsu, verifyFletcherChecksum x.raw = false →
    SameLists x.before (x.before.strike x.key)

/-- The objects of an update are numbered in their order. -/
theorem newLsas_refs : ∀ (lsas : List Lsa) (s : Instance),
    (newLsas lsas s).1 = .ok (List.range' s.heap.next lsas.length)
  | [], _ => rfl
  | lsa :: lsas, s => by
    have ih := newLsas_refs lsas { s with heap := (s.heap.alloc lsa).2 }
    change ((newLsas lsas >>= fun rs => pure (s.heap.next :: rs))
      { s with heap := (s.heap.alloc lsa).2 }).1 = _
    rw [Eff.bind_apply]
    rcases hr : newLsas lsas { s with heap := (s.heap.alloc lsa).2 } with ⟨e | rs, t⟩
    · rw [hr] at ih
      cases ih
    · rw [hr] at ih
      cases ih
      rfl

/-- An object that waits to be processed: allocated, and not installed. -/
def Waiting (s : Instance) (r : LsaRef) : Prop := r < s.heap.next ∧ (s.heap.obj r).installTime = none

theorem Kept.waiting {r : LsaRef} {s t : Instance} (h : Kept r s t) (hw : Waiting s r) : Waiting t r :=
  ⟨(h hw.1).1, (h hw.1).2.trans hw.2⟩

/-- Every LSA is as it was decoded when its turn comes. -/
theorem waiting_of_mem (n : NbrRef) (areaId : IPv4Address) : ∀ (todo : List (Bytes × LsaRef)) (s : Instance),
    (todo.map Prod.snd).Nodup → (∀ p ∈ todo, Waiting s p.2) →
    ∀ x ∈ receptions n areaId todo s, Waiting x.before x.ref
  | [], _, _, _, x, hx => by cases hx
  | (raw, r) :: todo, s, hnodup, hwait, x, hx => by
    rw [receptions] at hx
    rcases List.mem_cons.1 hx with rfl | hx
    · exact hwait _ (List.mem_cons_self ..)
    · rcases hr : processReceivedLsa r n areaId s with ⟨e | u, t⟩
      · rw [hr] at hx
        cases hx
      · rw [hr] at hx
        rw [List.map_cons, List.nodup_cons] at hnodup
        refine waiting_of_mem n areaId todo t hnodup.2 (fun p hp => ?_) x hx
        have hne : r ≠ p.2 := fun heq => hnodup.1 (List.mem_map.2 ⟨p, hp, heq.symm⟩)
        have hkept := processReceivedLsa_kept hne n areaId s
        rw [hr] at hkept
        exact hkept.waiting (hwait p (List.mem_cons_of_mem _ hp))

theorem waiting_of_mem_lsuReceptions {s : Instance} {n : NbrRef} {data : Bytes} {lsu : LsuPacket}
    (h : LsuPacket.deserialize data = .ok lsu) {x : Reception} (hx : x ∈ lsuReceptions s n data lsu) :
    Waiting x.before x.ref := by
  obtain ⟨rs, heap, hrun, -, hobjs, hrs, -⟩ := newLsas_returns lsu.lsas s
  have hrefs := newLsas_refs lsu.lsas s
  rw [hrun] at hrefs
  have hlen : rs.length = lsu.lsas.length := by rw [← hobjs, List.length_map]
  rw [lsuReceptions, hrun] at hx
  refine waiting_of_mem _ _ _ _ ?_ (fun p hp => ?_) x hx
  · rw [List.map_snd_zip (by rw [length_rawLsas, hlen])]
    rw [Except.ok.inj hrefs]
    exact List.nodup_range'
  · have hmem := (List.of_mem_zip hp).2
    refine ⟨(hrs _ hmem).2, ?_⟩
    refine (LsuPacket.fresh_of_deserialize h _ ?_).installTime
    rw [← hobjs]
    exact List.mem_map_of_mem hmem

theorem sameLists_strike_iff {x : OspfNeighbor} {key : LsaKey} : SameLists x (x.strike key) ↔
    x.lsRequestList.get? key = none ∧ x.lsRetransmissionList.get? key = none :=
  ⟨fun h => ⟨Dict.pop_eq_self_iff.1 h.lsRequestList, Dict.pop_eq_self_iff.1 h.lsRetransmissionList⟩,
    fun h => ⟨rfl, Dict.pop_eq_self_iff.2 h.1, Dict.pop_eq_self_iff.2 h.2⟩⟩

/-- **When the LSAs that fail their checksum have no effect**: nothing looks at the
checksum, so each of them has to be unknown, refused, or not newer than the stored
instance, and its key must not be on a list of the sender. -/
theorem checksumGuarded_iff (s : Instance) (n : NbrRef) (data : Bytes) (lsu : LsuPacket)
    (h : LsuPacket.deserialize data = .ok lsu) : ChecksumGuarded s n data lsu ↔
      (∀ x ∈ lsuReceptions s n data lsu, verifyFletcherChecksum x.raw = false →
        Harmless x.before n (s.intf n.intf).areaId x.ref) ∧
      ∀ x ∈ lsuStrikes s n data lsu, verifyFletcherChecksum x.raw = false →
        x.before.lsRequestList.get? x.key = none ∧ x.before.lsRetransmissionList.get? x.key = none := by
  constructor
  · intro hguard
    refine ⟨fun x hx hbad => ?_, fun x hx hbad => sameLists_strike_iff.1 (hguard.strikes x hx hbad)⟩
    obtain ⟨hlt, hfresh⟩ := waiting_of_mem_lsuReceptions h hx
    exact (untouched_iff hlt hfresh).1 (hguard.receptions x hx hbad)
  · rintro ⟨hharmless, hstrikes⟩
    refine ⟨fun x hx hbad => ?_, fun x hx hbad => sameLists_strike_iff.2 (hstrikes x hx hbad)⟩
    obtain ⟨hlt, hfresh⟩ := waiting_of_mem_lsuReceptions h hx
    exact (untouched_iff hlt hfresh).2 (hharmless x hx hbad)

/-! ### Two damaged updates -/

/-- An update with one Summary-LSA, of which a byte was changed on the way. -/
def damagedUpdate (pos : Nat) (byte : UInt8) : Bytes := [0, 0, 0, 1] ++ summaryLsa.set pos byte

/-- The update, as it is decoded. -/
def damagedLsu (pos : Nat) (byte : UInt8) : LsuPacket :=
  ((LsuPacket.deserialize (damagedUpdate pos byte)).toOption).getD {}

/-- Damage to the type makes the LSA unknown. -/
theorem checksumGuarded_damagedType : ChecksumGuarded peerExchange ⟨0, 2⟩ (damagedUpdate 3 6) (damagedLsu 3 6) := by
  refine (checksumGuarded_iff peerExchange ⟨0, 2⟩ (damagedUpdate 3 6) (damagedLsu 3 6) (by decide +kernel)).2
    ⟨?_, ?_⟩
  · decide +kernel
  · decide +kernel

/-- Damage to the metric is not noticed: the LSA is installed with the wrong metric. -/
theorem not_checksumGuarded : ¬∀ s : Instance, Reachable (fun _ _ => True) s →
    ∀ n : NbrRef, n.routerId ∈ (s.intf n.intf).neighbors → ∀ data lsu,
      LsuPacket.deserialize data = .ok lsu → ChecksumGuarded s n data lsu := by
  intro hall
  have hguard := hall peerExchange reachable_peerExchange ⟨0, 2⟩ (by decide +kernel) (damagedUpdate 27 11)
    (damagedLsu 27 11) (by decide +kernel)
  have hdecoded : LsuPacket.deserialize (damagedUpdate 27 11) = .ok (damagedLsu 27 11) := by decide +kernel
  obtain ⟨x, hx, hbad, hnot⟩ : ∃ x ∈ lsuReceptions peerExchange ⟨0, 2⟩ (damagedUpdate 27 11) (damagedLsu 27 11),
      verifyFletcherChecksum x.raw = false ∧
        ¬Harmless x.before ⟨0, 2⟩ (peerExchange.intf 0).areaId x.ref := by decide +kernel
  obtain ⟨hlt, hfresh⟩ := waiting_of_mem_lsuReceptions hdecoded hx
  exact hnot ((untouched_iff hlt hfresh).1 (hguard.receptions x hx hbad))

end Ospfd
