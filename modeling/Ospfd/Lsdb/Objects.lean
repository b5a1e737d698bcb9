import Ospfd.Lsdb.Reception
import Ospfd.Protocol.Moves

/-!
# What becomes of the LSA objects

* `LsaHeap.Grows` — objects are only added, and each stays the instance it is: aging,
  serialization and installation leave its key, sequence number and body alone.
* `Moves.grows` — every run of moves is like this.
* `newLsas_returns` — the objects of a received update.
-/

namespace Ospfd

/-- Objects are only added, and each stays the instance it is. -/
structure LsaHeap.Grows (h h' : LsaHeap) : Prop where
  next : h.next ≤ h'.next
  same : ∀ r, r < h.next → Lsa.SameInstance (h.obj r) (h'.obj r)

namespace LsaHeap.Grows

theorem refl (h : LsaHeap) : h.Grows h := ⟨Nat.le_refl _, fun _ _ => .rfl' _⟩

theorem trans {h h' h'' : LsaHeap} (g : h.Grows h') (g' : h'.Grows h'') : h.Grows h'' :=
  ⟨g.next.trans g'.next, fun r hr => (g.same r hr).trans (g'.same r (lt_of_lt_of_le hr g.next))⟩

theorem of_eq {h h' : LsaHeap} (he : h' = h) : h.Grows h' := he ▸ refl h

end LsaHeap.Grows

/-- The objects after `install` are the same instances. -/
theorem LinkStateDatabase.grows_install (db : LinkStateDatabase) (heap : LsaHeap) (now : Time)
    (a : IPv4Address) (r : LsaRef) : heap.Grows (db.install heap now a r).2.2 := by
  refine ⟨by simp, fun k _ => ?_⟩
  rw [obj_install]
  split
  · rename_i heq
    rw [heq.2]
    exact ⟨rfl, rfl, rfl, rfl⟩
  · exact .rfl' _

theorem move_grows {l : Label} {s t : Instance} (h : move l s t) : s.heap.Grows t.heap := by
  cases l with
  | write r =>
    obtain rfl : t = _ := h
    refine ⟨Nat.le_refl _, fun k _ => ?_⟩
    rw [LsaHeap.obj_set]
    split
    · rename_i heq
      rw [heq]
      exact Lsa.serialize_sameInstance _ _
    · exact .rfl' _
  | alloc =>
    obtain ⟨lsa, rfl⟩ := h
    refine ⟨Nat.le_succ _, fun k hk => ?_⟩
    rw [LsaHeap.alloc]
    dsimp only
    rw [Function.update_of_ne (Nat.ne_of_lt hk)]
    exact .rfl' _
  | install areaId r =>
    obtain rfl : t = _ := h
    exact s.lsdb.grows_install s.heap s.now areaId r
  | _ => exact .of_eq ((move_framed h).heap rfl)

/-- What serializing keeps of an LSA, and installing it, every move keeps of the object. -/
theorem move_obj {P : Lsa → Prop} {l : Label} {s t : Instance} {r : LsaRef}
    (hwrite : ∀ lsa, P lsa → P (lsa.serialize s.now).2)
    (hinstall : ∀ areaId, l = .install areaId r → ∀ lsa, P lsa → P (lsa.markInstalled s.now))
    (hm : move l s t) (hr : r < s.heap.next) (h : P (s.heap.obj r)) : P (t.heap.obj r) := by
  cases l with
  | write k =>
    obtain rfl : t = _ := hm
    dsimp only
    rw [LsaHeap.obj_set]
    split
    · rename_i heq
      rw [← heq]
      exact hwrite _ h
    · exact h
  | alloc =>
    obtain ⟨lsa, rfl⟩ := hm
    dsimp only [LsaHeap.alloc]
    rwa [Function.update_of_ne (Nat.ne_of_lt hr)]
  | install areaId k =>
    obtain rfl : t = _ := hm
    dsimp only
    rw [LinkStateDatabase.obj_install]
    split
    · rename_i heq
      obtain ⟨-, rfl⟩ := heq
      exact hinstall areaId rfl _ h
    · exact h
  | _ => rwa [(move_framed hm).heap rfl]

theorem Moves.grows {A : Label → Prop} {s t : Instance} (h : Moves A s t) : s.heap.Grows t.heap :=
  Lts.Moves.invariant (I := fun t => s.heap.Grows t.heap) (fun _ _ _ _ hm hg => hg.trans (move_grows hm))
    h (.refl _)

/-- The objects of a received update are new, and nothing else changes. -/
theorem newLsas_returns : ∀ (lsas : List Lsa) (s : Instance), ∃ rs heap,
    newLsas lsas s = (.ok rs, { s with heap }) ∧ s.heap.Grows heap ∧ rs.map heap.obj = lsas ∧
      (∀ r ∈ rs, s.heap.next ≤ r ∧ r < heap.next) ∧
        ∀ r, r < s.heap.next → heap.obj r = s.heap.obj r
  | [], s => ⟨[], s.heap, rfl, .refl _, rfl, by simp, fun _ _ => rfl⟩
  | lsa :: lsas, s => by
    obtain ⟨rs, heap, hrun, hg, hobjs, hrs, hold⟩ :=
      newLsas_returns lsas { s with heap := (s.heap.alloc lsa).2 }
    have hlt : s.heap.next < (s.heap.alloc lsa).2.next := Nat.lt_succ_self _
    have hnew : heap.obj s.heap.next = lsa := by
      rw [hold _ hlt]
      exact Function.update_self ..
    have hkept : ∀ r, r < s.heap.next → (s.heap.alloc lsa).2.obj r = s.heap.obj r :=
      fun r hr => Function.update_of_ne (Nat.ne_of_lt hr) ..
    refine ⟨s.heap.next :: rs, heap, ?_, ?_, by rw [List.map_cons, hnew, hobjs], ?_, fun r hr => ?_⟩
    · change (newLsas lsas >>= fun rs => pure (s.heap.next :: rs)) _ = _
      rw [Eff.bind_apply_ok hrun]
      rfl
    · refine LsaHeap.Grows.trans ⟨Nat.le_succ _, fun r hr => ?_⟩ hg
      rw [hkept r hr]
      exact .rfl' _
    · intro r hr
      rcases List.mem_cons.1 hr with rfl | hr
      · exact ⟨Nat.le_refl _, lt_of_lt_of_le hlt hg.next⟩
      · exact ⟨Nat.le_trans (Nat.le_succ _) (hrs r hr).1, (hrs r hr).2⟩
    · rw [hold r (Nat.lt_succ_of_lt hr), hkept r hr]

end Ospfd
