import Ospfd.Lsdb.Carried
import Ospfd.Packet.Reencoding

/-!
# What is stored can be packed

An LSA is stored after it was decoded, or after it was serialized once.  So its header is
in wire range, and can be described to a neighbor.

* `Lsa.Packable` — header and body can be serialized.
* `packable_of_deserialize`, `packable_of_serialize` — where stored LSAs come from.
* `Instance.Describable` — all stored LSAs are packable; `exec_describable` — **every event
  keeps this**.
-/

namespace Ospfd

/-- An LSA whose header and body can be serialized. -/
structure Lsa.Packable (lsa : Lsa) : Prop where
  header : lsa.header.WireRange
  body : ∃ b, lsa.bodyBytes = .ok b ∧ LsaHeader.size + b.length < 65536

namespace Lsa

theorem Packable.markInstalled {lsa : Lsa} (h : lsa.Packable) (now : Time) :
    (lsa.markInstalled now).Packable := ⟨h.header, h.body⟩

/-- Serialized once, it can be serialized again. -/
theorem Packable.serialize {lsa : Lsa} (h : lsa.Packable) (now : Time) :
    (lsa.serialize now).2.Packable := by
  obtain ⟨body, hbody, hlen⟩ := h.body
  obtain ⟨hdr, c, hhdr, hc, -, -, heq⟩ := serialize_eq now h.header hbody hlen
  have hage : hdr.WireRange := by
    rw [hhdr]
    exact ⟨lt_of_le_of_lt (Nat.min_le_right ..) (by decide), h.header.options, h.header.lsType,
      h.header.lsSequenceNumber, h.header.lsChecksum, h.header.length⟩
  rw [heq]
  exact ⟨hage.completed hc hlen, body, hbody, hlen⟩

/-- What was serialized can be serialized again. -/
theorem packable_of_serialize {lsa : Lsa} {now : Time} {b : Bytes} (h : (lsa.serialize now).1 = .ok b) :
    (lsa.serialize now).2.Packable := by
  rcases hbody : lsa.bodyBytes with e | body
  · rw [serialize, hbody] at h
    cases h
  · rcases hraw : ((lsa.stamped now body.length).withChecksum 0).header.serialize with e | raw
    · rw [serialize, hbody] at h
      simp only [hraw] at h
      cases h
    · -- the length of the body went into the header
      have hlen : LsaHeader.size + body.length < 65536 := (LsaHeader.wireRange_of_serialize hraw).length
      have hw := LsaHeader.wireRange_of_serialize hraw
      have hdone : ((lsa.stamped now body.length).withChecksum
          (fletcherChecksum (raw ++ body))).header.WireRange :=
        ⟨hw.lsAge, hw.options, hw.lsType, hw.lsSequenceNumber, fletcherChecksum_lt _ _, hw.length⟩
      have heq : (lsa.serialize now).2 = ((lsa.stamped now body.length).withChecksum
          (fletcherChecksum (raw ++ body))) := by
        rw [serialize, hbody]
        simp only [hraw]
        rcases (((lsa.stamped now body.length).withChecksum 0).withChecksum
          (fletcherChecksum (raw ++ body))).header.serialize with e | hdr
        · rfl
        · rfl
      rw [heq]
      exact ⟨hdone, body, hbody, hlen⟩

/-- The body of a decoded LSA is encoded in no more bytes than there were. -/
theorem encoded_of_deserialize {data : Bytes} {pos n : Nat} {lsa : Lsa}
    (h : deserialize data pos = .ok (lsa, n)) :
    ∃ b, lsa.bodyBytes = .ok b ∧ pos + (LsaHeader.size + b.length) ≤ data.length := by
  obtain ⟨-, hmin, hin, -, hbody⟩ := of_deserialize h
  unfold bodyBytes
  by_cases hzero : n - 20 = 0
  · unfold deserializeBody at hbody
    rw [if_pos hzero, Except.ok.injEq] at hbody
    rw [← hbody]
    refine ⟨[], rfl, ?_⟩
    rw [LsaHeader.size, List.length_nil]
    omega
  · have hin' : pos + 20 + (n - 20) ≤ data.length := by omega
    have hfits := fits_of_deserializeBody hzero hin' hbody
    rw [deserializeBody_of_fits hzero hin' hfits, Except.ok.injEq] at hbody
    rw [← hbody]
    obtain ⟨b, hb, hlen, -⟩ := repacks_body hin' hfits
    have hle := encodedLen_le hin' hfits
    refine ⟨b, hb, ?_⟩
    rw [hlen, LsaHeader.size]
    omega

/-- What was decoded from the body of a packet can be serialized. -/
theorem packable_of_deserialize {data : Bytes} {pos n : Nat} {lsa : Lsa}
    (hdata : OspfHeader.size + data.length < 65536) (h : deserialize data pos = .ok (lsa, n)) :
    lsa.Packable := by
  obtain ⟨b, hb, hlen⟩ := encoded_of_deserialize h
  exact ⟨(fresh_of_deserialize h).wireRange, b, hb, by omega⟩

end Lsa

/-! ## The database -/

namespace LinkStateDatabase

theorem mem_getAllHeaders_store {db : LinkStateDatabase} {a a' : IPv4Address} {k : LsaKey}
    {r r' : LsaRef} (h : r' ∈ (db.store a k r).getAllHeaders a') :
    r' = r ∨ r' ∈ db.getAllHeaders a' := by
  have hset : ∀ part : Partition, r' ∈ (part.set k r).values → r' = r ∨ r' ∈ part.values := by
    intro part hmem
    obtain ⟨k', hk'⟩ := Dict.mem_values_iff.1 hmem
    rw [Dict.get?_set] at hk'
    split at hk'
    · exact Or.inl (Option.some.inj hk').symm
    · exact Or.inr (Dict.mem_values_iff.2 ⟨k', hk'⟩)
  rw [getAllHeaders, List.mem_append] at h ⊢
  rw [store] at h
  by_cases hw : asWide k.lsType = true
  · rw [if_pos hw] at h
    rcases h with h | h
    · exact Or.inr (Or.inl h)
    · exact (hset _ h).imp id Or.inr
  · rw [if_neg hw] at h
    rcases h with h | h
    · rw [area, Dict.get?_set] at h
      split at h
      · rename_i heq
        subst heq
        exact (hset _ h).imp id Or.inl
      · exact Or.inr (Or.inl h)
    · exact Or.inr (Or.inr h)

/-- Installing adds at most the LSA that is installed. -/
theorem mem_getAllHeaders_install {db : LinkStateDatabase} {heap : LsaHeap} {now : Time}
    {a a' : IPv4Address} {r r' : LsaRef} (h : r' ∈ (db.install heap now a r).2.1.getAllHeaders a') :
    r' = r ∨ r' ∈ db.getAllHeaders a' := by
  have hsame : ∀ d : LinkStateDatabase, (if asWide (heap.obj r).key.lsType then db
      else db.ensureArea a) = d → d.getAllHeaders a' = db.getAllHeaders a' := by
    rintro d rfl
    split <;> simp [getAllHeaders]
  simp only [install] at h
  generalize hd : (if asWide (heap.obj r).key.lsType then db else db.ensureArea a) = d at h
  rw [← hsame d hd]
  by_cases hadm : (d.decision heap now a (heap.obj r)).1 = true
  · simp only [hadm, if_true] at h
    exact mem_getAllHeaders_store h
  · simp only [hadm] at h
    exact Or.inr h

/-- Removing adds nothing. -/
theorem mem_getAllHeaders_remove {db : LinkStateDatabase} {a a' : IPv4Address} {k : LsaKey}
    {r : LsaRef} (h : r ∈ (db.remove a k).getAllHeaders a') : r ∈ db.getAllHeaders a' := by
  have hpop : ∀ part : Partition, r ∈ (part.pop k).values → r ∈ part.values := fun part hmem =>
    (List.filter_sublist.map Prod.snd).subset hmem
  rw [getAllHeaders, List.mem_append] at h ⊢
  rw [remove] at h
  by_cases hw : asWide k.lsType = true
  · rw [if_pos hw] at h
    exact h.imp id (hpop _)
  · rw [if_neg hw] at h
    rcases hpart : db.areas.get? a with _ | part
    · rw [hpart] at h
      exact h
    · rw [hpart] at h
      refine h.imp (fun hmem => ?_) id
      rw [area, Dict.get?_set] at hmem
      split at hmem
      · rename_i heq
        subst heq
        rw [area, hpart]
        exact hpop part hmem
      · exact hmem

end LinkStateDatabase

/-- An LSA object that can be described. -/
def Instance.CanPack (s : Instance) (r : LsaRef) : Prop := r < s.heap.next ∧ (s.heap.obj r).Packable

/-- All stored LSAs can be described. -/
def Instance.Describable (s : Instance) : Prop :=
  ∀ areaId, ∀ r ∈ s.lsdb.getAllHeaders areaId, s.CanPack r

section Describable

variable {s t : Instance} {r : LsaRef}

theorem move_canPack {l : Label} (hm : move l s t) (h : s.CanPack r) : t.CanPack r :=
  ⟨lt_of_lt_of_le h.1 (move_grows hm).next, move_obj (fun _ h => h.serialize s.now)
    (fun _ _ _ h => h.markInstalled s.now) hm h.1 h.2⟩

theorem Moves.canPack {A : Label → Prop} (h : Moves A s t) (hr : s.CanPack r) : t.CanPack r :=
  Lts.Moves.invariant (I := fun u : Instance => u.CanPack r) (fun _ _ _ _ => move_canPack) h hr

/-- Moves that install nothing add nothing to the database. -/
theorem move_getAllHeaders {l : Label} (hl : NoInstall l) (hm : move l s t) (areaId : IPv4Address)
    (h : r ∈ t.lsdb.getAllHeaders areaId) : r ∈ s.lsdb.getAllHeaders areaId := by
  cases l with
  | install a k => exact absurd rfl (hl a k)
  | remove a k =>
    obtain rfl : t = _ := hm
    exact LinkStateDatabase.mem_getAllHeaders_remove h
  | _ => rwa [(move_framed hm).lsdb rfl] at h

/-- What could be described still can. -/
def KeepsDescribable (s t : Instance) : Prop := s.Describable → t.Describable

instance : Std.Refl KeepsDescribable := ⟨fun _ h => h⟩

instance : IsTrans Instance KeepsDescribable := ⟨fun _ _ _ h h' hs => h' (h hs)⟩

theorem describable_admits : Admits KeepsDescribable fun r s => s.CanPack r where
  move := fun hl hm h areaId r hr => move_canPack hm (h areaId r (move_getAllHeaders hl hm areaId hr))
  draft := by
    intro s lsType linkStateId body seqNum b areaId hser h
    generalize hlsa : draftOf s lsType linkStateId body seqNum = lsa at hser
    have hself := s.obj_drafted_self lsa
    have hnew : (s.drafted lsa).CanPack s.heap.next :=
      ⟨Nat.lt_succ_self _, hself ▸ Lsa.packable_of_serialize hser⟩
    have hold : ∀ r, s.CanPack r → (s.drafted lsa).CanPack r := fun r => (drafted_moves s lsa).canPack
    have hmove : Ospfd.move (.install areaId s.heap.next) (s.drafted lsa)
      ((s.drafted lsa).installed areaId s.heap.next) := rfl
    intro a r hr
    refine move_canPack hmove ?_
    rcases LinkStateDatabase.mem_getAllHeaders_install hr with rfl | hr
    · exact hnew
    · exact hold r (h a r hr)
  lasts := move_canPack
  install := by
    intro s k areaId hk h a r hr
    have hmove : Ospfd.move (.install areaId k) s (s.installed areaId k) := rfl
    refine move_canPack hmove ?_
    rcases LinkStateDatabase.mem_getAllHeaders_install hr with rfl | hr
    · exact hk
    · exact h a r hr

/-- **Every event leaves only LSAs stored that can be described.** -/
theorem exec_describable {e : Event} (hen : e.Enabled s) (h : s.Describable) :
    (exec s e).Describable := by
  refine describable_admits.exec hen (fun n src lsu hh rs u hrun r hr => ?_) h
  obtain ⟨pktType, body, hlen, hdec⟩ := decoded_of_heard hh
  obtain ⟨rs', heap, hrun', -, hobjs, hrs, -⟩ := newLsas_returns lsu.lsas s
  rw [hrun', Prod.mk.injEq, Except.ok.injEq] at hrun
  obtain ⟨rfl, rfl⟩ := hrun
  refine ⟨(hrs r hr).2, ?_⟩
  obtain ⟨pos, consumed, -, hlsa⟩ := LsuPacket.decoded_of_deserialize (decodePacket_lsu hdec)
    (heap.obj r) (hobjs ▸ List.mem_map_of_mem hr)
  exact Lsa.packable_of_deserialize hlen hlsa

end Describable
end Ospfd
