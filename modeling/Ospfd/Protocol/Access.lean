import Ospfd.Lsdb.Integrity
import Ospfd.Protocol.Sending

/-!
# Updates from neighbors below Exchange

A neighbor below Exchange has not described its database, and nothing asked it for an
LSA.

* `Unaffected` — an update changed nothing, and none of its LSAs was installed.
* `Notice`, `ignores` — what becomes of each LSA, as the code decides it.
* `unaffected_iff` — **when an update from a neighbor below Exchange changes nothing**.
* `Tracked` — runs that remember in which state the sender of each received LSA was.
-/

namespace Ospfd

/-! ## Updates without an effect -/

/-- An update changed nothing: the database, the lists of all neighbors, the queued
acknowledgments, the pending SPF run and the packets sent are the same.  The objects of
its LSAs are there, and were not installed. -/
structure Unaffected (s t : Instance) (received : List LsaRef) : Prop where
  lsdb : t.lsdb = s.lsdb
  lists : ∀ m, SameLists (s.nbr m) (t.nbr m)
  delayedAcks : ∀ i, (t.intf i).delayedAcks = (s.intf i).delayedAcks
  spfTimer : t.spfTimer = s.spfTimer
  sent : t.sent = s.sent
  waiting : ∀ r ∈ received, Waiting t r

/-- The objects of the LSAs of an update that is received now. -/
def received (s : Instance) (lsu : LsuPacket) : List LsaRef :=
  List.range' s.heap.next lsu.lsas.length

/-- What becomes of a received LSA when its sender is below Exchange. -/
inductive Notice where
  /-- Nothing happens, and the next LSA finds this state. -/
  | passed (t : Instance)
  /-- An exception ends the update before anything happened. -/
  | ended
  /-- It is installed, acknowledged, or answered with the stored instance. -/
  | acted

/-- The notice that is taken of an LSA. -/
def notice (n : NbrRef) (areaId : IPv4Address) (r : LsaRef) (s : Instance) : Notice :=
  match verdict s areaId (s.heap.obj r) with
  | .unknown => .passed s
  | .refused => .passed s
  | .installed => .acted
  | .same => if (s.intf n.intf).intfType.isMultiAccess then .acted else .passed s
  | .older e =>
      match serializeLsu [e] s with
      | (.error _, _) => .ended
      | (.ok body, t) =>
          if ¬(s.intf n.intf).socket then .passed t
          else if OspfHeader.size + body.length < 65536 then .acted
          else .ended

/-- Whether none of the LSAs is acted on. -/
def ignores (n : NbrRef) (areaId : IPv4Address) : List LsaRef → Instance → Bool
  | [], _ => true
  | r :: rs, s =>
      match notice n areaId r s with
      | .passed t => ignores n areaId rs t
      | .ended => true
      | .acted => false

/-- Whether an update is ignored: its LSAs become objects, and none is acted on. -/
def ignoresUpdate (s : Instance) (n : NbrRef) (lsu : LsuPacket) : Bool :=
  ignores n (s.intf n.intf).areaId (received s lsu) (newLsas lsu.lsas s).2

/-! ## States that differ in LSA objects only -/

/-- At most headers were written, and objects added. -/
structure Still (s t : Instance) : Prop where
  nbr : t.nbr = s.nbr
  intf : t.intf = s.intf
  lsdb : t.lsdb = s.lsdb
  spfTimer : t.spfTimer = s.spfTimer
  sent : t.sent = s.sent
  kept : ∀ r, Kept r s t

namespace Still

variable {s t u : Instance}

theorem refl (s : Instance) : Still s s := ⟨rfl, rfl, rfl, rfl, rfl, fun r => refl_of (Kept r) s⟩

theorem trans (h : Still s t) (h' : Still t u) : Still s u :=
  ⟨h'.nbr.trans h.nbr, h'.intf.trans h.intf, h'.lsdb.trans h.lsdb, h'.spfTimer.trans h.spfTimer,
    h'.sent.trans h.sent, fun r => trans_of (Kept r) (h.kept r) (h'.kept r)⟩

instance : Std.Refl Still := ⟨refl⟩

instance : IsTrans Instance Still := ⟨fun _ _ _ => trans⟩

theorem unaffected (h : Still s t) {rs : List LsaRef} (hrs : ∀ r ∈ rs, Waiting t r) :
    Unaffected s t rs :=
  ⟨h.lsdb, fun m => .of_eq (by rw [h.nbr]), fun i => by rw [h.intf], h.spfTimer, h.sent, hrs⟩

end Still

theorem serializeLsa_still (r : LsaRef) : Eff.Within Still (serializeLsa r) := by
  have hwrite : ∀ s k, Kept k s (serializeLsa r s).2 := fun s k =>
    move_kept (l := .write r) (fun _ => nofun) rfl
  exact fun s => ⟨rfl, rfl, rfl, rfl, rfl, hwrite s⟩

theorem serializeLsu_still (r : LsaRef) : Eff.Within Still (serializeLsu [r]) :=
  Eff.Within.bind (Eff.Within.lift _) fun _ => Eff.Within.bind
    (Eff.Within.bind (serializeLsa_still r) fun _ =>
      Eff.Within.bind (Eff.Within.pure _) fun _ => Eff.Within.pure _) fun _ => Eff.Within.pure _

/-! ## What does not go away -/

/-- Packets stay sent and acknowledgments queued, and what is installed stays marked. -/
structure Onward (s t : Instance) : Prop where
  sent : s.sent.length ≤ t.sent.length
  delayedAcks : ∀ i, (s.intf i).delayedAcks.length ≤ (t.intf i).delayedAcks.length
  next : s.heap.next ≤ t.heap.next
  marks : ∀ r, r < s.heap.next → (s.heap.obj r).installTime ≠ none → (t.heap.obj r).installTime ≠ none

namespace Onward

variable {s t u : Instance}

theorem refl (s : Instance) : Onward s s :=
  ⟨Nat.le_refl _, fun _ => Nat.le_refl _, Nat.le_refl _, fun _ _ h => h⟩

theorem trans (h : Onward s t) (h' : Onward t u) : Onward s u :=
  ⟨h.sent.trans h'.sent, fun i => (h.delayedAcks i).trans (h'.delayedAcks i), h.next.trans h'.next,
    fun r hr hm => h'.marks r (lt_of_lt_of_le hr h.next) (h.marks r hr hm)⟩

instance : Std.Refl Onward := ⟨refl⟩

instance : IsTrans Instance Onward := ⟨fun _ _ _ => trans⟩

end Onward

theorem Sends.length_le {A : Sent → Prop} {s t : Instance} (h : Sends A s t) :
    s.sent.length ≤ t.sent.length := by
  obtain ⟨new, hnew, -⟩ := h
  rw [hnew, List.length_append]
  exact Nat.le_add_right ..

/-- No move takes a mark away. -/
theorem move_marks {l : Label} {s t : Instance} (hm : move l s t) (r : LsaRef)
    (hr : r < s.heap.next) (h : (s.heap.obj r).installTime ≠ none) :
    (t.heap.obj r).installTime ≠ none := by
  by_cases hl : ∃ areaId, l = .install areaId r
  · obtain ⟨areaId, rfl⟩ := hl
    obtain rfl : t = _ := hm
    dsimp only
    rw [LinkStateDatabase.obj_install]
    split
    · exact nofun
    · exact h
  · rwa [(move_kept (fun areaId ha => hl ⟨areaId, ha⟩) hm hr).2]

/-- Only the moves of an interface itself touch anything but its role and neighbors. -/
theorem move_intf {α : Type} {f : OspfInterface → α}
    (hf : ∀ x dr bdr state neighbors, f { x with dr, bdr, state, neighbors } = f x)
    {l : Label} (hl : ∀ i, l ≠ .intf i) {s t : Instance} (hm : move l s t) (i : IntfId) :
    f (t.intf i) = f (s.intf i) := by
  cases l with
  | intf j => exact absurd rfl (hl j)
  | elect j =>
    by_cases hi : i = j
    · obtain ⟨dr, bdr, state, hti⟩ := hm.intf
      rw [hi, hti]
      exact hf (s.intf j) dr bdr state _
    · rw [hm.other i hi]
  | clear j =>
    obtain ⟨-, rfl⟩ := hm
    rw [Instance.intf_setIntf]
    split
    · rename_i hi
      rw [hi]
      exact hf (s.intf j) zeroAddr zeroAddr _ []
    · rfl
  | create n src =>
    obtain ⟨-, rfl⟩ := hm
    rw [Instance.intf_setIntf]
    split
    · rename_i hi
      rw [hi]
      exact hf (s.intf n.intf) _ _ _ _
    · rfl
  | nbr n m =>
    obtain ⟨x, -, rfl⟩ := nbr_of_move hm
    rfl
  | _ => rw [((move_framed hm).tables rfl).2]

theorem Spreads.ne_intf {l : Label} (h : Spreads l) (i : IntfId) : l ≠ .intf i := by
  rintro rfl
  cases h with
  | flood h => cases h

/-- Origination and flooding leave sockets and queued acknowledgments alone. -/
theorem intf_of_spreads {α β : Type} {f : OspfInterface → β}
    (hf : ∀ x dr bdr state neighbors, f { x with dr, bdr, state, neighbors } = f x) {m : Py α}
    (hm : Eff.Within (Moves Spreads) m) (s : Instance) (i : IntfId) :
    f ((m s).2.intf i) = f (s.intf i) :=
  Lts.Moves.invariant (I := fun t => f (t.intf i) = f (s.intf i))
    (fun _ _ _ hl hv hu => (move_intf hf hl.ne_intf hv i).trans hu) (hm s) rfl

/-- Origination and flooding go onward. -/
theorem onward_of_spreads {α : Type} {m : Py α} (hm : Eff.Within (Moves Spreads) m)
    (hs : Eff.Within Adds m) : Eff.Within Onward m := by
  intro s
  refine ⟨(hs s).length_le, fun i => ?_, (hm s).grows.next, fun r hr hmark => ?_⟩
  · rw [intf_of_spreads (f := OspfInterface.delayedAcks) (fun _ _ _ _ _ => rfl) hm s i]
  · exact (Lts.Moves.invariant (I := fun t => r < t.heap.next ∧ (t.heap.obj r).installTime ≠ none)
      (fun l u v _ hv hu => ⟨lt_of_lt_of_le hu.1 (move_grows hv).next, move_marks hv r hu.1 hu.2⟩)
      (hm s) ⟨hr, hmark⟩).2

theorem queueDelayedAck_onward (i : IntfId) (r : LsaRef) : Eff.Within Onward (queueDelayedAck i r) := by
  intro s
  refine ⟨Nat.le_refl _, fun j => ?_, Nat.le_refl _, fun _ _ h => h⟩
  change _ ≤ ((s.setIntf i _).intf j).delayedAcks.length
  rw [Instance.intf_setIntf]
  split
  · rename_i hj
    rw [hj, List.length_append]
    exact Nat.le_add_right ..
  · exact Nat.le_refl _

theorem modifyNbr_onward (n : NbrRef) (f : OspfNeighbor → OspfNeighbor) :
    Eff.Within Onward (modifyNbr n f) :=
  fun _ => ⟨Nat.le_refl _, fun _ => Nat.le_refl _, Nat.le_refl _, fun _ _ h => h⟩

theorem sendLsUpdate_onward (n : NbrRef) (rs : List LsaRef) : Eff.Within Onward (sendLsUpdate n rs) :=
  onward_of_spreads (sendLsUpdate_within (.flood .quiet) n fun r _ => .flood (.write r))
    (sendLsUpdate_adds n rs)

theorem afterInstall_onward (r : LsaRef) (n : NbrRef) (areaId : IPv4Address) :
    Eff.Within Onward (afterInstall r n areaId) := by
  have hspread : ∀ {α : Type} {m : Py α}, Eff.Within (Moves Spreads) m → Eff.Within Adds m →
      Eff.Within Onward m := onward_of_spreads
  refine Eff.Within.read fun s => ?_
  dsimp only
  refine Eff.Within.ite (Eff.Within.ite ?_ ?_) (Eff.Within.bind ?_ fun _ => ?_)
  · exact hspread (removeLsa_within (.remove _ _)) (modify_sends fun _ => rfl)
  · refine hspread (Eff.Within.bind (refreshLsa_within areaId r) fun _ => Eff.Within.pure ()) ?_
    exact Eff.Within.bind (refreshLsa_adds areaId r) fun _ => Eff.Within.pure ()
  · refine Eff.Within.read fun t => Eff.Within.ite (hspread ?_ ?_) (queueDelayedAck_onward n.intf r)
    · exact Quiet.within (.flood .quiet)
        (Eff.Within.bind (serializeLsack_within _) fun _ => sendPacket_within _ _ _ _)
    · refine Eff.Within.bind (Eff.Within.read fun u => Eff.Within.lift _) fun _ => ?_
      exact sendPacket_adds _ _ _ _
  · exact hspread (Quiet.within (.flood .quiet) scheduleSpf_within) scheduleSpf_sends

/-- **The reception of an LSA goes onward.** -/
theorem processReceivedLsa_onward (r : LsaRef) (n : NbrRef) (areaId : IPv4Address) :
    Eff.Within Onward (processReceivedLsa r n areaId) := by
  intro s
  rw [processReceivedLsa_eq]
  rcases verdict s areaId (s.heap.obj r) with _ | _ | _ | _ | e
  · exact .refl s
  · exact .refl s
  · have hinst : Onward s (s.installed areaId r) :=
      onward_of_spreads (installLsa_within (.install areaId r)) (fun _ => .of_eq rfl) s
    refine hinst.trans (Eff.Within.bind ?_ (fun _ => afterInstall_onward r n areaId) _)
    exact onward_of_spreads (flood_within_spreads r areaId _) (floodLsa_adds r areaId _)
  · have hsame : Eff.Within Onward (receivedSame r n) := Eff.Within.read fun t =>
      Eff.Within.bind (modifyNbr_onward n _) fun _ => Eff.Within.when fun _ => queueDelayedAck_onward n.intf r
    exact hsame s
  · exact sendLsUpdate_onward n [e] s

theorem processLsUpdate_onward (n : NbrRef) (keys : List LsaKey) :
    Eff.Within Onward (processLsUpdate n keys) := by
  have hadds : Eff.Within Adds (processLsUpdate n keys) :=
    Eff.Within.bind (modifyNbr_sends n _) fun _ => Eff.Within.read fun _ =>
      Eff.Within.when fun _ => nbrEvent_adds n .loadingDone
  intro s
  have hsent := hadds s
  obtain ⟨t, ht, hq⟩ := processLsUpdate_returns n keys s
  rw [ht] at hsent ⊢
  refine ⟨hsent.length_le, fun i => ?_, ?_, fun r _ hm => ?_⟩
  · rw [hq.intf]
    exact Nat.le_refl _
  · rw [hq.heap]
    exact Nat.le_refl _
  · rwa [hq.heap]

/-! ## One LSA -/

/-- Something was sent or queued for acknowledgment, or one of the LSAs was installed. -/
def Disturbed (s t : Instance) (rs : List LsaRef) : Prop :=
  s.sent.length < t.sent.length ∨ (∃ i, (s.intf i).delayedAcks.length < (t.intf i).delayedAcks.length) ∨
    ∃ r ∈ rs, r < t.heap.next ∧ (t.heap.obj r).installTime ≠ none

namespace Disturbed

variable {s t u : Instance} {rs : List LsaRef}

/-- What happened does not go away. -/
theorem onward (h : Disturbed s t rs) (ho : Onward t u) : Disturbed s u rs := by
  rcases h with h | ⟨i, h⟩ | ⟨r, hr, hlt, h⟩
  · exact Or.inl (lt_of_lt_of_le h ho.sent)
  · exact Or.inr (Or.inl ⟨i, lt_of_lt_of_le h (ho.delayedAcks i)⟩)
  · exact Or.inr (Or.inr ⟨r, hr, lt_of_lt_of_le hlt ho.next, ho.marks r hlt h⟩)

theorem of_still (hs : Still s t) (h : Disturbed t u rs) : Disturbed s u rs := by
  rwa [Disturbed, hs.sent, hs.intf] at h

theorem subset {rs' : List LsaRef} (hsub : rs ⊆ rs') (h : Disturbed s t rs) : Disturbed s t rs' :=
  h.imp_right (Or.imp_right fun ⟨r, hr, hm⟩ => ⟨r, hsub hr, hm⟩)

theorem not_unaffected (h : Disturbed s t rs) : ¬Unaffected s t rs := by
  intro hu
  rcases h with h | ⟨i, h⟩ | ⟨r, hr, -, h⟩
  · rw [hu.sent] at h
    exact Nat.lt_irrefl _ h
  · rw [hu.delayedAcks] at h
    exact Nat.lt_irrefl _ h
  · exact h (hu.waiting r hr).2

end Disturbed

section Notice

variable {n : NbrRef} {areaId : IPv4Address} {r : LsaRef} {s : Instance}

theorem acked_eq_self {x : OspfNeighbor} (h : x.lsRetransmissionList.entries = []) (key : LsaKey) :
    x.acked key = x := by
  have hnone : x.lsRetransmissionList.get? key = none := by
    rw [Dict.get?, h]
    rfl
  rw [OspfNeighbor.acked, Dict.pop_eq_self_iff.2 hnone]

/-- On a network without a designated router, an instance that is there already is
passed over by a neighbor with nothing to acknowledge. -/
theorem receivedSame_passed (h : (s.nbr n).lsRetransmissionList.entries = [])
    (hmulti : (s.intf n.intf).intfType.isMultiAccess = false) : receivedSame r n s = (.ok (), s) := by
  rw [receivedSame, Eff.get_bind_apply, modifyNbr_bind_apply, acked_eq_self h, Instance.setNbr_eq_self,
    Eff.when_neg (by rw [hmulti]; exact Bool.false_ne_true)]
  rfl

theorem receivedSame_acted (hmulti : (s.intf n.intf).intfType.isMultiAccess = true) :
    Disturbed s (receivedSame r n s).2 [r] := by
  rw [receivedSame, Eff.get_bind_apply, modifyNbr_bind_apply, Eff.when_pos hmulti]
  refine Or.inr (Or.inl ⟨n.intf, ?_⟩)
  change _ < ((Instance.setIntf _ n.intf _).intf n.intf).delayedAcks.length
  rw [Instance.intf_setIntf_self, List.length_append]
  exact Nat.lt_succ_self _

/-- **What becomes of one LSA**, by the notice that is taken of it. -/
theorem processReceivedLsa_notice (hr : r < s.heap.next)
    (hlist : (s.nbr n).lsRetransmissionList.entries = []) :
    match notice n areaId r s with
    | .passed t => processReceivedLsa r n areaId s = (.ok (), t) ∧ Still s t
    | .ended => ∃ e t, processReceivedLsa r n areaId s = (.error e, t) ∧ Still s t
    | .acted => Disturbed s (processReceivedLsa r n areaId s).2 [r] := by
  rw [notice]
  rcases hv : verdict s areaId (s.heap.obj r) with _ | _ | _ | _ | e
  case installed =>
    refine Or.inr (Or.inr ⟨r, List.mem_singleton_self r, ?_, ?_⟩)
    · exact lt_of_lt_of_le hr (processReceivedLsa_onward r n areaId s).next
    · rw [installTime_of_installed hr hv]
      exact nofun
  all_goals
    have hrun := processReceivedLsa_eq r n areaId s
    rw [hv] at hrun
    dsimp only at hrun ⊢
  case unknown => exact ⟨hrun, .refl s⟩
  case refused => exact ⟨hrun, .refl s⟩
  case same =>
    by_cases hmulti : (s.intf n.intf).intfType.isMultiAccess = true
    · rw [if_pos hmulti, hrun]
      exact receivedSame_acted hmulti
    · rw [if_neg hmulti, hrun]
      exact ⟨receivedSame_passed hlist (by simpa using hmulti), .refl s⟩
  case older =>
    have hstill := serializeLsu_still e s
    have hsend : sendLsUpdate n [e] s = (serializeLsu [e] >>= fun body =>
        sendPacket n.intf packetTypeLsu body (s.nbr n).ipAddr) s := by
      rw [sendLsUpdate, Eff.get_bind_apply, Eff.when_pos (List.cons_ne_nil _ _)]
    rw [hrun, hsend]
    rcases hbody : serializeLsu [e] s with ⟨err | body, t⟩
    · rw [hbody] at hstill
      exact ⟨err, t, Eff.bind_apply_error hbody, hstill⟩
    · rw [hbody] at hstill
      rw [Eff.bind_apply_ok hbody]
      dsimp only
      rw [← hstill.intf]
      by_cases hsock : (t.intf n.intf).socket = true
      · rw [if_neg (not_not.2 hsock)]
        by_cases hfit : OspfHeader.size + body.length < 65536
        · rw [if_pos hfit]
          obtain ⟨data, cryptSeq, hsent⟩ := sendPacket_returns n.intf (s.nbr n).ipAddr
            (by decide : packetTypeLsu < 256) hfit t
          rw [hsent, if_pos hsock]
          refine Or.inl ?_
          change _ < (t.sent ++ [_]).length
          rw [List.length_append, hstill.sent]
          exact Nat.lt_succ_self _
        · rw [if_neg hfit]
          refine ⟨.structError, t, ?_, hstill⟩
          rw [sendPacket, Eff.get_bind_apply, Eff.when_pos hsock, Eff.lift_bind_apply,
            transmitted_error _ _ _ _ _ _ _ _ hfit]
      · rw [if_pos hsock]
        refine ⟨?_, hstill⟩
        rw [sendPacket, Eff.get_bind_apply, Eff.when_neg hsock]
        rfl

end Notice

/-! ## Updates -/

section Loop

variable {n : NbrRef} {areaId : IPv4Address}

/-- LSAs that are ignored leave everything as it is. -/
theorem still_of_ignores : ∀ (rs : List LsaRef) (s : Instance),
    (s.nbr n).lsRetransmissionList.entries = [] → (∀ r ∈ rs, r < s.heap.next) →
    ignores n areaId rs s = true →
    Still s (Eff.forEach rs (fun r => processReceivedLsa r n areaId) s).2
  | [], s, _, _, _ => .refl s
  | r :: rs, s, hlist, hrs, h => by
    have hone := @processReceivedLsa_notice n areaId r s (hrs r (List.mem_cons_self ..)) hlist
    rw [ignores] at h
    rw [Eff.forEach_cons]
    rcases hnote : notice n areaId r s with t | _ | _
    · rw [hnote] at h hone
      obtain ⟨hrun, hstill⟩ := hone
      rw [Eff.bind_apply_ok hrun]
      refine hstill.trans (still_of_ignores rs t (by rw [hstill.nbr]; exact hlist) (fun k hk => ?_) h)
      exact (hstill.kept k (hrs k (List.mem_cons_of_mem _ hk))).1
    · rw [hnote] at hone
      obtain ⟨e, t, hrun, hstill⟩ := hone
      rw [Eff.bind_apply_error hrun]
      exact hstill
    · rw [hnote] at h
      cases h

/-- LSAs that are not ignored leave a trace. -/
theorem disturbed_of_not_ignores : ∀ (rs : List LsaRef) (s : Instance),
    (s.nbr n).lsRetransmissionList.entries = [] → (∀ r ∈ rs, r < s.heap.next) →
    ignores n areaId rs s = false →
    Disturbed s (Eff.forEach rs (fun r => processReceivedLsa r n areaId) s).2 rs
  | [], s, _, _, h => by cases h
  | r :: rs, s, hlist, hrs, h => by
    have hone := @processReceivedLsa_notice n areaId r s (hrs r (List.mem_cons_self ..)) hlist
    have hrest : Eff.Within Onward (Eff.forEach rs fun r => processReceivedLsa r n areaId) :=
      Eff.Within.forEach fun k _ => processReceivedLsa_onward k n areaId
    rw [ignores] at h
    rw [Eff.forEach_cons]
    rcases hnote : notice n areaId r s with t | _ | _
    · rw [hnote] at h hone
      obtain ⟨hrun, hstill⟩ := hone
      rw [Eff.bind_apply_ok hrun]
      have hlater := disturbed_of_not_ignores rs t (by rw [hstill.nbr]; exact hlist)
        (fun k hk => (hstill.kept k (hrs k (List.mem_cons_of_mem _ hk))).1) h
      exact (hlater.of_still hstill).subset (List.subset_cons_self r rs)
    · rw [hnote] at h
      cases h
    · rw [hnote] at hone
      have hnow : Disturbed s (processReceivedLsa r n areaId s).2 (r :: rs) :=
        hone.subset (List.cons_subset_cons r (List.nil_subset rs))
      exact Eff.bind_final (P := fun t => Disturbed s t (r :: rs)) hnow fun _ _ => hnow.onward (hrest _)

end Loop

/-- Without anything to strike, and not in Loading, the keys of an update change nothing. -/
theorem processLsUpdate_of_empty {n : NbrRef} {s : Instance} (keys : List LsaKey)
    (hreq : (s.nbr n).lsRequestList.entries = []) (hrxmt : (s.nbr n).lsRetransmissionList.entries = [])
    (hst : (s.nbr n).state < .exchange) : processLsUpdate n keys s = (.ok (), s) := by
  have hpop : ∀ {ν : Type} {d : Dict LsaKey ν}, d.entries = [] → keys.foldl Dict.pop d = d := by
    intro ν d hd
    induction keys with
    | nil => rfl
    | cons key keys ih =>
      have hnone : d.get? key = none := by
        rw [Dict.get?, hd]
        rfl
      rw [List.foldl_cons, Dict.pop_eq_self_iff.2 hnone, ih]
  have hstrike : keys.foldl OspfNeighbor.strike (s.nbr n) = s.nbr n := by
    rw [OspfNeighbor.foldl_strike, hpop hreq, hpop hrxmt]
  rw [processLsUpdate, modifyNbr_bind_apply, hstrike, Instance.setNbr_eq_self, Eff.get_bind_apply]
  refine congrFun (Eff.when_neg ?_ _) s
  rintro ⟨hload, -⟩
  rw [hload] at hst
  exact absurd hst (by decide)

/-- Below Exchange nothing is requested, and nothing waits for an acknowledgment. -/
theorem OspfNeighbor.Lifecycle.lists_of_lt {x : OspfNeighbor} (h : x.Lifecycle)
    (hst : x.state < .exchange) :
    x.lsRequestList.entries = [] ∧ x.lsRetransmissionList.entries = [] := by
  by_cases hex : x.state = .exStart
  · obtain ⟨-, hreq, hrxmt, -⟩ := h.exStart hex
    exact ⟨hreq, hrxmt⟩
  · have hlow : x.state < .exStart := by
      revert hst hex
      cases x.state <;> decide
    obtain ⟨-, hreq, hrxmt, -⟩ := h.below hlow
    exact ⟨hreq, hrxmt⟩

/-- The objects of an update, and that nothing else changed. -/
theorem newLsas_received (lsu : LsuPacket) (s : Instance) : ∃ u,
    newLsas lsu.lsas s = (.ok (received s lsu), u) ∧ Still s u ∧
      ∀ r ∈ received s lsu, r < u.heap.next ∧ u.heap.obj r ∈ lsu.lsas := by
  obtain ⟨rs, heap, hrun, hgrows, hobjs, hrs, hold⟩ := newLsas_returns lsu.lsas s
  have hrefs : rs = received s lsu := by
    have hrange := newLsas_refs lsu.lsas s
    rw [hrun] at hrange
    exact Except.ok.inj hrange
  subst hrefs
  refine ⟨_, hrun, ⟨rfl, rfl, rfl, rfl, rfl, fun r hr => ⟨lt_of_lt_of_le hr hgrows.next, ?_⟩⟩, ?_⟩
  · dsimp only
    rw [hold r hr]
  · intro r hr
    refine ⟨(hrs r hr).2, ?_⟩
    rw [← hobjs]
    exact List.mem_map_of_mem hr

/-- **When an update from a neighbor below Exchange changes nothing**: none of its LSAs
may be installed, acknowledged or answered, for the neighbor itself is not looked at. -/
theorem unaffected_iff {s : Instance} (h : Reachable (fun _ _ => True) s) {e : Event} {n : NbrRef}
    {src : IPv4Address} {lsu : LsuPacket} (hh : heard s e = some (n, src, .lsu lsu))
    (hn : n.routerId ∈ (s.intf n.intf).neighbors) (hst : (s.nbr n).state < .exchange) :
    Unaffected s (exec s e) (received s lsu) ↔ ignoresUpdate s n lsu = true := by
  obtain ⟨hreq, hrxmt⟩ := (sound_of_reachable h n).toLifecycle.lists_of_lt hst
  obtain ⟨u, hrun, hu, hrs⟩ := newLsas_received lsu s
  have hwait : ∀ r ∈ received s lsu, Waiting u r := fun r hr =>
    ⟨(hrs r hr).1, (fresh_of_heard hh _ (hrs r hr).2).installTime⟩
  have hexec : exec s e = ((Eff.forEach (received s lsu)
      (fun r => processReceivedLsa r n (s.intf n.intf).areaId) >>=
        fun _ => processLsUpdate n (lsu.lsas.map Lsa.key)) u).2 := by
    rw [exec_heard hh, processPacket, forNeighbor, Eff.get_bind_apply, Eff.when_pos hn, receiveLsu,
      Eff.get_bind_apply, Eff.bind_apply_ok hrun]
  have hurxmt : (u.nbr n).lsRetransmissionList.entries = [] := by rwa [hu.nbr]
  rw [ignoresUpdate, hrun, hexec]
  constructor
  · intro hun
    by_contra hno
    have hloop := disturbed_of_not_ignores _ u hurxmt (fun r hr => (hrs r hr).1) (by simpa using hno)
    have hall := Eff.bind_final (P := fun t => Disturbed u t (received s lsu))
      (f := fun _ => processLsUpdate n (lsu.lsas.map Lsa.key)) hloop
      fun _ _ => hloop.onward (processLsUpdate_onward n _ _)
    exact (hall.of_still hu).not_unaffected hun
  · intro hig
    have hloop := still_of_ignores _ u hurxmt (fun r hr => (hrs r hr).1) hig
    -- the neighbor is as it was, with nothing to strike
    have hnbr := congrFun (hu.trans hloop).nbr n
    have hall := Eff.bind_final (P := Still u) (f := fun _ => processLsUpdate n (lsu.lsas.map Lsa.key))
      hloop fun _ _ => by
        rwa [processLsUpdate_of_empty _ (by rwa [hnbr]) (by rwa [hnbr]) (by rwa [hnbr])]
    exact (hu.trans hall).unaffected fun r hr => (hall.kept r).waiting (hwait r hr)

/-! ## Runs -/

/-- In which state the sender of each received LSA was, after an event. -/
def recordSenders (s : Instance) (e : Event) (senders : LsaRef → Option NbrState) :
    LsaRef → Option NbrState :=
  match heard s e with
  | some (n, _, .lsu lsu) =>
      if n.routerId ∈ (s.intf n.intf).neighbors then fun r =>
        if r ∈ received s lsu then some (s.nbr n).state else senders r
      else senders
  | _ => senders

/-- A sender is recorded once, when the update arrives. -/
theorem of_recordSenders {s : Instance} {e : Event} {senders : LsaRef → Option NbrState} {r : LsaRef}
    {st : NbrState} (h : recordSenders s e senders r = some st) : senders r = some st ∨
      ∃ n src lsu, heard s e = some (n, src, .lsu lsu) ∧ n.routerId ∈ (s.intf n.intf).neighbors ∧
        r ∈ received s lsu ∧ (s.nbr n).state = st := by
  rw [recordSenders] at h
  rcases hh : heard s e with _ | ⟨n, src, packet⟩
  · rw [hh] at h
    exact Or.inl h
  · rw [hh] at h
    cases packet with
    | lsu lsu =>
      dsimp only at h
      by_cases hn : n.routerId ∈ (s.intf n.intf).neighbors
      · rw [if_pos hn] at h
        by_cases hmem : r ∈ received s lsu
        · rw [if_pos hmem] at h
          exact Or.inr ⟨n, src, lsu, rfl, hn, hmem, Option.some.inj h⟩
        · rw [if_neg hmem] at h
          exact Or.inl h
      · rw [if_neg hn] at h
        exact Or.inl h
    | _ => exact Or.inl h

/-- The states of a running daemon, with the state in which the sender of each received
LSA was when it arrived. -/
inductive Tracked (ok : Instance → Event → Prop) : Instance → (LsaRef → Option NbrState) → Prop where
  | init {s : Instance} (h : s.Initial) : Tracked ok s fun _ => none
  | step {s : Instance} {senders : LsaRef → Option NbrState} {e : Event} (h : Tracked ok s senders)
      (hen : e.Enabled s) (hok : ok s e) : Tracked ok (exec s e) (recordSenders s e senders)

theorem Tracked.reachable {ok : Instance → Event → Prop} {s : Instance}
    {senders : LsaRef → Option NbrState} (h : Tracked ok s senders) : Reachable (fun _ _ => True) s := by
  induction h with
  | init h => exact .init h
  | step _ hen _ ih => exact .step ih hen trivial

/-- An event that brings no update from a neighbor below Exchange, or one that is ignored. -/
def IgnoresLow (s : Instance) (e : Event) : Prop :=
  ∀ n src lsu, heard s e = some (n, src, .lsu lsu) → n.routerId ∈ (s.intf n.intf).neighbors →
    (s.nbr n).state < .exchange → ignoresUpdate s n lsu = true

/-- **While updates from below Exchange are ignored, only neighbors that reached Exchange
get an LSA installed.** -/
theorem Tracked.waiting {s : Instance} {senders : LsaRef → Option NbrState}
    (h : Tracked IgnoresLow s senders) {r : LsaRef} {st : NbrState} (hr : senders r = some st)
    (hst : st < .exchange) : Waiting s r := by
  induction h with
  | init h => cases hr
  | @step s senders e hrun hen hok ih =>
    rcases of_recordSenders hr with ho | ⟨n, src, lsu, hh, hn, hmem, rfl⟩
    · exact (exec_kept hen).waiting (ih ho)
    · have hun := (unaffected_iff hrun.reachable hh hn hst).2 (hok n src lsu hh hn hst)
      exact hun.waiting r hmem

/-- **The access rule for updates**: one from a neighbor below Exchange changes nothing
exactly when it is ignored, and in a run in which these are ignored, no LSA of such a
neighbor is ever installed. -/
theorem updates_guarded (s : Instance) :
    (Reachable (fun _ _ => True) s → ∀ e n src lsu, heard s e = some (n, src, .lsu lsu) →
      n.routerId ∈ (s.intf n.intf).neighbors → (s.nbr n).state < .exchange →
      (Unaffected s (exec s e) (received s lsu) ↔ ignoresUpdate s n lsu = true)) ∧
    ∀ senders, Tracked IgnoresLow s senders → ∀ r st, senders r = some st → st < .exchange →
      Waiting s r :=
  ⟨fun h _ _ _ _ hh hn hst => unaffected_iff h hh hn hst,
    fun _ h _ _ hr hst => h.waiting hr hst⟩

/-! ### Updates after a single Hello -/

/-- The sender of the update an event brings, its LSAs, and whether it is ignored. -/
def updateNotice (s : Instance) (e : Event) : Option (NbrRef × List LsaRef × Bool) :=
  match heard s e with
  | some (n, _, .lsu lsu) => some (n, received s lsu, ignoresUpdate s n lsu)
  | _ => none

theorem heard_of_updateNotice {s : Instance} {e : Event} {n : NbrRef} {rs : List LsaRef} {b : Bool}
    (h : updateNotice s e = some (n, rs, b)) : ∃ src lsu, heard s e = some (n, src, .lsu lsu) ∧
      received s lsu = rs ∧ ignoresUpdate s n lsu = b := by
  rw [updateNotice] at h
  rcases hh : heard s e with _ | ⟨m, src, packet⟩
  · rw [hh] at h
    cases h
  · rw [hh] at h
    cases packet with
    | lsu lsu =>
      obtain ⟨rfl, hrest⟩ := Prod.mk.inj (Option.some.inj h)
      exact ⟨src, lsu, rfl, Prod.mk.inj hrest⟩
    | _ => cases h

theorem ignoresLow_of_updateNotice {s : Instance} {e : Event}
    (h : ∀ p ∈ updateNotice s e, p.2.2 = true) : IgnoresLow s e := by
  intro n src lsu hh _ _
  refine h (n, received s lsu, ignoresUpdate s n lsu) ?_
  rw [updateNotice, hh]
  rfl

/-- A Hello that does not list this router. -/
def peerHello : Event :=
  .receive 0 (peerPacket packetTypeHello (HelloPacket.serialize
    { networkMask := 4294967292, helloInterval := 10, options := optE, priority := 1,
      deadInterval := 40, designatedRouter := zeroAddr, backupDesignatedRouter := zeroAddr,
      neighbors := [] })) 167772162

/-- The link comes up, and the neighbor is in Init. -/
def peerInit : Instance := exec (exec (linkRouter .none) (.intfEvent 0 .ifUp)) peerHello

/-- An update with one Summary-LSA, under another type. -/
def peerUpdate (lsType : UInt8) : Event :=
  .receive 0 (peerPacket packetTypeLsu (.ok ([0, 0, 0, 1] ++ summaryLsa.set 3 lsType))) 167772162

theorem reachable_peerInit : Reachable (fun _ _ => True) peerInit :=
  .step (.step (.init (initial_linkRouter .none)) trivial trivial) trivial trivial

/-- A Hello is enough to have a new LSA installed. -/
theorem not_updates_guarded : ¬∀ s, Reachable (fun _ _ => True) s → ∀ e n src lsu,
    heard s e = some (n, src, .lsu lsu) → n.routerId ∈ (s.intf n.intf).neighbors →
    (s.nbr n).state < .exchange → Unaffected s (exec s e) (received s lsu) := by
  intro hall
  have hnotice : updateNotice peerInit (peerUpdate 3) = some (⟨0, 2⟩, [0], false) := by decide +kernel
  obtain ⟨src, lsu, hh, -, hig⟩ := heard_of_updateNotice hnotice
  have hn : (⟨0, 2⟩ : NbrRef).routerId ∈ (peerInit.intf (⟨0, 2⟩ : NbrRef).intf).neighbors := by
    decide +kernel
  have hst : (peerInit.nbr ⟨0, 2⟩).state < .exchange := by decide +kernel
  have hun := hall peerInit reachable_peerInit (peerUpdate 3) ⟨0, 2⟩ src lsu hh hn hst
  rw [(unaffected_iff reachable_peerInit hh hn hst).1 hun] at hig
  cases hig

/-- An update with an LSA of an unknown type is ignored. -/
theorem updates_guarded_unknownType : ∃ lsu senders,
    Unaffected peerInit (exec peerInit (peerUpdate 6)) (received peerInit lsu) ∧
      received peerInit lsu = [0] ∧ senders 0 = some .init ∧
      Tracked IgnoresLow (exec peerInit (peerUpdate 6)) senders ∧
      Waiting (exec peerInit (peerUpdate 6)) 0 := by
  have hnotice : updateNotice peerInit (peerUpdate 6) = some (⟨0, 2⟩, [0], true) := by decide +kernel
  obtain ⟨src, lsu, hh, hrs, hig⟩ := heard_of_updateNotice hnotice
  have hn : (⟨0, 2⟩ : NbrRef).routerId ∈ (peerInit.intf (⟨0, 2⟩ : NbrRef).intf).neighbors := by
    decide +kernel
  have hst : (peerInit.nbr ⟨0, 2⟩).state = .init := by decide +kernel
  have hlow : (peerInit.nbr ⟨0, 2⟩).state < .exchange := by
    rw [hst]
    decide
  have hstart : Tracked IgnoresLow peerInit _ :=
    .step (.step (.init (initial_linkRouter .none)) trivial
      (ignoresLow_of_updateNotice (by decide +kernel))) trivial
        (ignoresLow_of_updateNotice (by decide +kernel))
  have hrun := hstart.step (e := peerUpdate 6) trivial (ignoresLow_of_updateNotice (by
    rw [hnotice]
    rintro p ⟨⟩
    rfl))
  have hsender : ∀ senders, recordSenders peerInit (peerUpdate 6) senders 0 = some .init := by
    intro senders
    rw [recordSenders, hh]
    dsimp only
    rw [if_pos hn, hrs, if_pos (List.mem_singleton_self 0), hst]
  have hguard := (updates_guarded peerInit).1 reachable_peerInit (peerUpdate 6) ⟨0, 2⟩ src lsu hh hn hlow
  exact ⟨lsu, _, hguard.2 hig, hrs, hsender _, hrun,
    (updates_guarded _).2 _ hrun 0 .init (hsender _) (by decide)⟩

end Ospfd
