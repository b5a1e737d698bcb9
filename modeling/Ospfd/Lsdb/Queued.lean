import Ospfd.Lsdb.Acknowledgment
import Ospfd.Protocol.Waiting

/-!
# What waits to be sent

* `Filed rs` — tables of neighbors do not grow beyond the limit, at most `rs` are queued for
  acknowledgment, and no setting of an interface changes.
* `exec_filed` — what an event queues; it queues only what can be packed.
* `Wired` — what is stored and what is queued can be packed, and tables keep to the limit.
* `wired_of_ran` — **every daemon that starts empty is wired**.
* `settings_of_ran` — **interfaces keep their settings in every run**.
-/

namespace Ospfd

variable {s t u : Instance} {rs : List LsaRef}

/-! ## Tables and queues -/

/-- No table grows beyond the limit, nothing but some LSAs is queued, and settings are kept. -/
structure Filed (rs : List LsaRef) (s t : Instance) : Prop where
  table : ∀ i, (t.intf i).neighbors.length ≤ max (s.intf i).neighbors.length maxNeighbors
  acks : ∀ i, ∀ r ∈ (t.intf i).delayedAcks, r ∈ (s.intf i).delayedAcks ∨ r ∈ rs
  settings : ∀ i, (t.intf i).asCreated = (s.intf i).asCreated

namespace Filed

theorem of_intf (h : t.intf = s.intf) : Filed rs s t :=
  ⟨fun i => by rw [h]; exact le_max_left .., fun i r hr => .inl (by rwa [h] at hr), fun i => by rw [h]⟩

theorem refl (s : Instance) : Filed rs s s := of_intf rfl

theorem trans (h : Filed rs s t) (h' : Filed rs t u) : Filed rs s u := by
  refine ⟨fun i => (h'.table i).trans (max_le (h.table i) (le_max_right ..)), fun i r hr => ?_, fun i =>
    (h'.settings i).trans (h.settings i)⟩
  rcases h'.acks i r hr with hr | hr
  · exact h.acks i r hr
  · exact .inr hr

instance : Std.Refl (Filed rs) := ⟨refl⟩

instance : IsTrans Instance (Filed rs) := ⟨fun _ _ _ => trans⟩

theorem of_quiet (h : Quiet s t) : Filed rs s t := of_intf h.intf

theorem of_setIntf (s : Instance) {i : IntfId} {x : OspfInterface}
    (htable : x.neighbors.length ≤ max (s.intf i).neighbors.length maxNeighbors)
    (hacks : ∀ r ∈ x.delayedAcks, r ∈ (s.intf i).delayedAcks ∨ r ∈ rs)
    (hset : x.asCreated = (s.intf i).asCreated) : Filed rs s (s.setIntf i x) := by
  constructor <;> intro j
  · rw [Instance.intf_setIntf]
    split
    · rename_i hj
      rwa [hj]
    · exact le_max_left ..
  · intro r hr
    rw [Instance.intf_setIntf] at hr
    split at hr
    · rename_i hj
      rw [hj]
      exact hacks r hr
    · exact .inl hr
  · rw [Instance.intf_setIntf]
    split
    · rename_i hj
      rwa [hj]
    · rfl

theorem modifyNbr (n : NbrRef) (f : OspfNeighbor → OspfNeighbor) : Eff.Within (Filed rs) (modifyNbr n f) :=
  fun _ => of_intf rfl

theorem modifyIntf (i : IntfId) {f : OspfInterface → OspfInterface} (htable : ∀ x, (f x).neighbors = x.neighbors)
    (hacks : ∀ x, (f x).delayedAcks = x.delayedAcks) (hset : ∀ x, (f x).asCreated = x.asCreated) :
    Eff.Within (Filed rs) (modifyIntf i f) :=
  fun s => of_setIntf s (by rw [htable]; exact le_max_left ..) (fun r hr => .inl (by rwa [hacks] at hr)) (hset _)

end Filed

/-- The moves that create no neighbor, and are not an interface's own. -/
def Label.Files (l : Label) : Prop := (∀ i, l ≠ .intf i) ∧ ∀ n src, l ≠ .create n src

theorem move_filed {l : Label} (hl : l.Files) (hm : move l s t) : Filed rs s t := by
  refine ⟨fun i => le_trans ?_ (le_max_left ..), fun i r hr => ?_, fun i => ?_⟩
  · cases l with
    | intf j => exact absurd rfl (hl.1 j)
    | create n src => exact absurd rfl (hl.2 n src)
    | elect j =>
      by_cases hi : i = j
      · obtain ⟨dr, bdr, state, hx⟩ := hm.intf
        rw [hi, hx]
      · rw [hm.other i hi]
    | clear j =>
      obtain ⟨-, rfl⟩ := hm
      rw [Instance.intf_setIntf]
      split
      · exact Nat.zero_le _
      · exact le_rfl
    | nbr n mv =>
      obtain ⟨x, -, rfl⟩ := nbr_of_move hm
      exact le_rfl
    | _ => rw [((move_framed hm).tables rfl).2]
  · have hacks := move_intf (f := OspfInterface.delayedAcks) (fun _ _ _ _ _ => rfl) hl.1 hm i
    rw [hacks] at hr
    exact .inl hr
  · exact move_intf (f := OspfInterface.asCreated) (fun _ _ _ _ _ => rfl) hl.1 hm i

theorem filed_of_moves {A : Label → Prop} (hA : ∀ l, A l → l.Files) (h : Moves A s t) : Filed rs s t :=
  Lts.Moves.invariant (I := fun t => Filed rs s t) (fun _ _ _ hl hm hu => hu.trans (move_filed (hA _ hl) hm)) h
    (.refl s)

theorem Spreads.files {l : Label} (h : Spreads l) : l.Files :=
  ⟨h.ne_intf, by rintro n src rfl; cases h with | flood h => cases h⟩

theorem filed_of_spreads {α : Type} {m : Py α} (h : Eff.Within (Moves Spreads) m) : Eff.Within (Filed rs) m :=
  fun s => filed_of_moves (fun _ => Spreads.files) (h s)

theorem EventMoves.files {n : NbrRef} {mv : NbrMove} {l : Label} (h : EventMoves n mv l) : l.Files := by
  rcases h with rfl | rfl | rfl <;> exact ⟨nofun, nofun⟩

/-! ## The state machines -/

theorem nbrEvent_reset_filed (n : NbrRef) {evt : NbrEvent} (h : evt.isReset = true) :
    Eff.Within (Filed rs) (nbrEvent n evt) :=
  fun s => filed_of_moves (fun _ => EventMoves.files) (nbrEvent_reset n h s)

theorem intfAction_filed (i : IntfId) (action : IntfAction) : Eff.Within (Filed rs) (action.run nbrEvent i) := by
  have helect : Eff.Within (Filed rs) (runDrElection nbrEvent i) := fun s =>
    filed_of_moves (A := Elects i) (fun l hl => by rcases hl with rfl | rfl <;> exact ⟨nofun, nofun⟩)
      (runDrElection_within (.inr rfl) 99 s)
  have hset : ∀ state, Eff.Within (Filed rs) (modifyIntf i fun x => { x with state }) :=
    fun _ => Filed.modifyIntf i (fun _ => rfl) (fun _ => rfl) fun _ => rfl
  have hstart : Eff.Within (Filed rs) (startHello i) :=
    Eff.Within.bind (Filed.modifyIntf i (fun _ => rfl) (fun _ => rfl) fun _ => rfl) fun _ =>
      (sendHello_within i).mono fun _ _ => .of_quiet
  cases action with
  | ifUp =>
    refine Eff.Within.read fun s => ?_
    dsimp only
    refine Eff.Within.ite (hset _) (Eff.Within.ite (Eff.Within.ite ?_ ?_) ?_)
    · exact Eff.Within.bind (hset _) fun _ => Eff.Within.bind hstart fun _ => helect
    · refine Eff.Within.bind (hset _) fun _ => Eff.Within.bind hstart fun _ => ?_
      exact fun t => Filed.of_setIntf t (le_max_left ..) (fun _ => .inl) rfl
    · exact Eff.Within.bind (hset _) fun _ => hstart
  | waitTimer => exact helect
  | backupSeen => exact Eff.Within.bind (Filed.modifyIntf i (fun _ => rfl) (fun _ => rfl) fun _ => rfl) fun _ => helect
  | nbrChange => exact helect
  | loopInd => exact Filed.modifyIntf i (fun _ => rfl) (fun _ => rfl) fun _ => rfl
  | unloopInd => exact hset _
  | ifDown =>
    refine Eff.Within.bind (Filed.modifyIntf i (fun _ => rfl) (fun _ => rfl) fun _ => rfl) fun _ => Eff.Within.read fun s => ?_
    refine Eff.Within.bind (Eff.Within.forEach fun n _ => nbrEvent_reset_filed n rfl) fun _ => ?_
    exact fun t => Filed.of_setIntf t (Nat.zero_le _) (fun _ => .inl) rfl

theorem intfEvent_filed (i : IntfId) (evt : IntfEvent) : Eff.Within (Filed rs) (intfEvent i evt) := by
  refine Eff.Within.read fun s => Eff.Within.bind ?_ fun _ => Eff.Within.read fun t =>
    Eff.Within.when fun _ => (intfStateChanged_within i).mono fun _ _ => .of_quiet
  rw [handleIntf]
  rcases intfFsm (s.intf i).state evt with _ | action
  · exact Eff.Within.pure ()
  · exact intfAction_filed i action

/-- A Hello of a neighbor that is there. -/
theorem helloFrom_filed {n : NbrRef} (hello : HelloPacket) (src : IPv4Address)
    (hn : n.routerId ∈ (s.intf n.intf).neighbors) : Filed rs s (helloFrom n hello src s).2 := by
  have hevent : ∀ {mv : NbrMove} {evt : NbrEvent}, Eff.Within (Moves (EventMoves n mv)) (nbrEvent n evt) →
      Eff.Within (Filed rs) (nbrEvent n evt) := fun h u => filed_of_moves (fun _ => EventMoves.files) (h u)
  have htwo : Eff.Within (Filed rs) (helloTwoWay n hello) := Eff.Within.read fun _ => Eff.Within.ite
    (Eff.Within.when fun _ => hevent (nbrEvent_twoWayReceived n)) (Eff.Within.when fun _ => hevent (nbrEvent_oneWay n))
  let t : Instance := s.setNbr n ((s.nbr n).told hello src)
  have hrecv : Filed rs s (nbrEvent n .helloReceived t).2 := by
    refine (Filed.of_intf rfl : Filed rs s t).trans (filed_of_moves (fun l hl => ?_) (nbrEvent_helloReceived (s := t) hn))
    exact hl.elim EventMoves.files EventMoves.files
  rw [helloFrom, Eff.get_bind_apply, modifyNbr_bind_apply]
  refine Eff.bind_final hrecv fun _ _ => hrecv.trans ?_
  refine Eff.Within.bind htwo (fun _ => ?_) _
  refine Eff.Within.read fun u => Eff.Within.bind (Eff.Within.when fun _ => intfEvent_filed n.intf _) fun _ => ?_
  exact Eff.Within.read fun v => Eff.Within.when fun _ => intfEvent_filed n.intf _

/-- A new neighbor is within the limit. -/
theorem addNbr_filed {i : IntfId} (src routerId : IPv4Address) (hroom : (s.intf i).neighbors.length < maxNeighbors) :
    Filed rs s (s.addNbr i src routerId) := by
  refine Filed.trans (.of_intf rfl : Filed rs s (s.setNbr ⟨i, routerId⟩ { routerId, ipAddr := src })) ?_
  refine Filed.of_setIntf _ (le_trans ?_ (le_max_right ..)) (fun _ => .inl) rfl
  rw [List.length_append]
  exact hroom

/-- **A Hello** queues nothing, and makes a table no larger than the limit. -/
theorem processHello_filed (n : NbrRef) (hello : HelloPacket) (src : IPv4Address) (s : Instance) :
    Filed rs s (processHello n.intf hello src n.routerId s).2 := by
  by_cases htaken : helloAccepted s n.intf hello = true ∧
      (n.routerId ∈ (s.intf n.intf).neighbors ∨ (s.intf n.intf).neighbors.length < maxNeighbors)
  · by_cases hmem : n.routerId ∈ (s.intf n.intf).neighbors
    · rw [processHello_known htaken.1 hmem]
      exact helloFrom_filed hello src hmem
    · have hroom := htaken.2.resolve_left hmem
      have hself : (s.addNbr n.intf src n.routerId).intf n.intf =
          { s.intf n.intf with neighbors := (s.intf n.intf).neighbors ++ [n.routerId] } := intf_addNbr
      have hadded : n.routerId ∈ ((s.addNbr n.intf src n.routerId).intf n.intf).neighbors := by
        rw [hself]
        exact List.mem_append_right _ (List.mem_singleton_self _)
      rw [processHello_new htaken.1 hmem hroom]
      exact (addNbr_filed src n.routerId hroom).trans (helloFrom_filed hello src hadded)
  · rw [processHello_refused htaken]
    exact .refl s

/-! ## Received LSAs -/

theorem queueDelayedAck_filed {i : IntfId} {r : LsaRef} (hr : r ∈ rs) : Eff.Within (Filed rs) (queueDelayedAck i r) := by
  refine fun s => Filed.of_setIntf s (le_max_left ..) (fun q hq => ?_) rfl
  rcases List.mem_append.1 hq with hq | hq
  · exact .inl hq
  · rw [List.mem_singleton.1 hq]
    exact .inr hr

theorem afterInstall_filed {r : LsaRef} (hr : r ∈ rs) (n : NbrRef) (areaId : IPv4Address) :
    Eff.Within (Filed rs) (afterInstall r n areaId) := by
  have hquiet : ∀ {α : Type} {m : Py α}, Eff.Within Quiet m → Eff.Within (Filed rs) m :=
    fun h => h.mono fun _ _ => .of_quiet
  refine Eff.Within.read fun s => ?_
  dsimp only
  refine Eff.Within.ite (Eff.Within.ite ?_ ?_) (Eff.Within.bind ?_ fun _ => hquiet scheduleSpf_within)
  · exact filed_of_spreads (removeLsa_within (.remove _ _))
  · exact filed_of_spreads (Eff.Within.bind (refreshLsa_within areaId r) fun _ => Eff.Within.pure ())
  · refine Eff.Within.read fun t => Eff.Within.ite (hquiet ?_) (queueDelayedAck_filed hr)
    exact Eff.Within.bind (serializeLsack_within _) fun _ => sendPacket_within _ _ _ _

/-- **A received LSA** is all that is queued. -/
theorem processReceivedLsa_filed {r : LsaRef} (hr : r ∈ rs) (n : NbrRef) (areaId : IPv4Address) :
    Eff.Within (Filed rs) (processReceivedLsa r n areaId) := by
  intro s
  rw [processReceivedLsa_eq]
  rcases verdict s areaId (s.heap.obj r) with _ | _ | _ | _ | e
  · exact .refl s
  · exact .refl s
  · have hinst : Filed rs s (s.installed areaId r) := filed_of_spreads (installLsa_within (.install areaId r)) s
    refine hinst.trans (Eff.Within.bind ?_ (fun _ => afterInstall_filed hr n areaId) _)
    exact filed_of_spreads (flood_within_spreads r areaId _)
  · have hsame : Eff.Within (Filed rs) (receivedSame r n) := Eff.Within.read fun t =>
      Eff.Within.bind (Filed.modifyNbr n _) fun _ => Eff.Within.when fun _ => queueDelayedAck_filed hr
    exact hsame s
  · exact filed_of_spreads (sendLsUpdate_within (.flood .quiet) n fun q _ => .flood (.write q)) s

/-- **An update**: at most its LSAs are queued, and those can be packed if they could when they arrived. -/
theorem receiveLsu_filed (n : NbrRef) {lsu : LsuPacket} (hpack : ∀ lsa ∈ lsu.lsas, lsa.Packable) (s : Instance) :
    ∃ rs, Filed rs s (receiveLsu n lsu s).2 ∧ ∀ r ∈ rs, (receiveLsu n lsu s).2.CanPack r := by
  obtain ⟨rs, heap, hrun, -, hobjs, hrs, -⟩ := newLsas_returns lsu.lsas s
  let u : Instance := { s with heap }
  let keys := lsu.lsas.map Lsa.key
  have hkeys : Eff.Within (Filed rs) (processLsUpdate n keys) := by
    intro t
    obtain ⟨v, hv, hq⟩ := processLsUpdate_returns n keys t
    rw [hv]
    exact .of_intf hq.intf
  have hloop : Eff.Within (Filed rs) (Eff.forEach rs fun r => processReceivedLsa r n (s.intf n.intf).areaId) :=
    Eff.Within.forEach fun r hr => processReceivedLsa_filed hr n _
  have hmoves : Moves (Updates n keys) u
      (((Eff.forEach rs fun r => processReceivedLsa r n (s.intf n.intf).areaId) >>= fun _ => processLsUpdate n keys) u).2 := by
    have hlsas : ∀ r ∈ rs, r < u.heap.next ∧ (u.heap.obj r).key ∈ keys := fun r hr =>
      ⟨(hrs r hr).2, List.mem_map.2 ⟨_, hobjs ▸ List.mem_map_of_mem hr, rfl⟩⟩
    have hrec := (processReceivedLsas_moves n (s.intf n.intf).areaId keys rs u hlsas).mono fun _ => Updates.receive
    exact Eff.bind_final hrec fun _ _ => hrec.trans (processLsUpdate_within n keys _)
  refine ⟨rs, ?_, fun r hr => ?_⟩
  · rw [receiveLsu, Eff.get_bind_apply, Eff.bind_apply_ok hrun]
    exact (Filed.of_intf rfl : Filed rs s u).trans (Eff.Within.bind hloop (fun _ => hkeys) u)
  · rw [receiveLsu, Eff.get_bind_apply, Eff.bind_apply_ok hrun]
    refine hmoves.canPack ⟨(hrs r hr).2, hpack _ ?_⟩
    exact hobjs ▸ List.mem_map_of_mem hr

/-! ## Events -/

/-- **Only an update queues acknowledgments.** -/
theorem exec_unqueued {e : Event} (hen : e.Enabled s) (hlsu : ∀ n src lsu, heard s e ≠ some (n, src, .lsu lsu)) :
    Filed [] s (exec s e) := by
  have hquiet : ∀ {α : Type} {m : Py α}, Eff.Within Quiet m → Filed [] s (m s).2 := fun h => .of_quiet (h s)
  rcases hh : heard s e with _ | ⟨n, src, packet⟩
  · cases e with
    | receive i data src =>
      rw [exec_receive, hh]
      exact .refl s
    | inactivity n => exact Eff.Within.bind (Filed.modifyNbr n _) (fun _ => nbrEvent_reset_filed n rfl) s
    | rxmt n =>
      refine filed_of_moves (fun l hl => ?_) (rxmtTimeout_within n s)
      rcases hl with rfl | rfl <;> exact ⟨nofun, nofun⟩
    | ddRxmt n => exact hquiet (Eff.Within.read fun _ => Eff.Within.when fun _ => retransmitLastDd_within n)
    | helloTimer i => exact hquiet (sendHello_within i)
    | waitTimer i =>
      refine Eff.Within.bind (R := Filed _) (fun t => ?_) (fun _ => intfEvent_filed i .waitTimer) s
      exact Filed.of_setIntf t (le_max_left ..) (fun _ => .inl) rfl
    | ackTimer i =>
      refine Eff.Within.read (R := Filed _) (fun t => Eff.Within.when fun _ => Eff.Within.bind ?_ fun _ => ?_) s
      · exact fun u => Filed.of_setIntf u (le_max_left ..) nofun rfl
      · exact (Eff.Within.bind (serializeLsack_within _) fun _ => sendPacket_within _ _ _ _).mono fun _ _ => .of_quiet
    | intfEvent i evt => exact intfEvent_filed i evt s
    | killNbr n => exact nbrEvent_reset_filed n rfl s
    | llDown n => exact nbrEvent_reset_filed n rfl s
    | startNbr n => exact filed_of_moves (fun _ => EventMoves.files) (nbrEvent_start hen)
    | routerLsa areaId => exact filed_of_spreads (routerLsaTimer_within areaId) s
    | networkLsa i => exact filed_of_spreads (networkLsaTimer_within i) s
    | spf => exact .of_intf rfl
    | aging => exact filed_of_spreads checkAges_within s
    | originate areaId lsType linkStateId body =>
      exact filed_of_spreads (Eff.Within.bind (originate_within _ _ _ _ _) fun _ => Eff.Within.pure ()) s
    | tick d => exact .of_intf rfl
  · cases packet with
    | hello hello =>
      rw [exec_heard hh]
      exact processHello_filed n hello src s
    | dd dd =>
      refine filed_of_moves (fun l hl => ?_) (exec_dd hh)
      cases hl with
      | exchange h => cases h <;> exact ⟨nofun, nofun⟩
      | _ => exact ⟨nofun, nofun⟩
    | lsr lsr =>
      refine filed_of_moves (fun l hl => ?_) (exec_lsr hh)
      cases hl <;> exact ⟨nofun, nofun⟩
    | lsu lsu => exact absurd hh (hlsu n src lsu)
    | lsack ack =>
      rw [exec_heard hh]
      exact Eff.Within.read (R := Filed _) (fun t => Eff.Within.when fun _ => Filed.modifyNbr n _) s

/-- **Events queue at most LSAs that can be packed.** -/
theorem exec_filed {e : Event} (hen : e.Enabled s) : ∃ rs, Filed rs s (exec s e) ∧ ∀ r ∈ rs, (exec s e).CanPack r := by
  by_cases hlsu : ∃ n src lsu, heard s e = some (n, src, .lsu lsu)
  · obtain ⟨n, src, lsu, hh⟩ := hlsu
    have hpack : ∀ lsa ∈ lsu.lsas, lsa.Packable := by
      intro lsa hlsa
      obtain ⟨pktType, body, hlen, hdec⟩ := decoded_of_heard hh
      obtain ⟨pos, consumed, -, hd⟩ := LsuPacket.decoded_of_deserialize (decodePacket_lsu hdec) lsa hlsa
      exact Lsa.packable_of_deserialize hlen hd
    rw [exec_heard hh, processPacket, forNeighbor, Eff.get_bind_apply]
    by_cases hn : n.routerId ∈ (s.intf n.intf).neighbors
    · rw [Eff.when_pos hn]
      exact receiveLsu_filed n hpack s
    · rw [Eff.when_neg hn]
      exact ⟨[], .refl s, by simp⟩
  · exact ⟨[], exec_unqueued hen fun n src lsu hh => hlsu ⟨n, src, lsu, hh⟩, by simp⟩

/-! ## Runs -/

/-- What is stored and what is queued can be packed, and no table is larger than the limit. -/
structure Instance.Wired (s : Instance) : Prop where
  stored : s.Describable
  queued : ∀ i, ∀ r ∈ (s.intf i).delayedAcks, s.CanPack r
  table : ∀ i, (s.intf i).neighbors.length ≤ maxNeighbors

/-- **Every event keeps a daemon wired.** -/
theorem exec_wired {e : Event} (hen : e.Enabled s) (h : s.Wired) : (exec s e).Wired := by
  obtain ⟨rs, hfiled, hpack⟩ := exec_filed hen
  refine ⟨exec_describable hen h.stored, fun i r hr => ?_, fun i => ?_⟩
  · rcases hfiled.acks i r hr with hr | hr
    · exact (exec_moves hen).canPack (h.queued i r hr)
    · exact hpack r hr
  · exact (hfiled.table i).trans (max_le (h.table i) le_rfl)

/-- A daemon that starts with nothing stored and nothing queued. -/
def Instance.Fresh (s : Instance) : Prop := s.Empty ∧ ∀ i, (s.intf i).delayedAcks = []

/-- The states of a daemon after its start. -/
inductive Ran (Start : Instance → Prop) : Instance → Prop where
  | start {s : Instance} (h : Start s) : Ran Start s
  | step {s : Instance} {e : Event} (h : Ran Start s) (hen : e.Enabled s) : Ran Start (exec s e)

/-- **Every daemon that starts empty is wired.** -/
theorem wired_of_ran (h : Ran Instance.Fresh s) : s.Wired := by
  induction h with
  | start h =>
    refine ⟨fun areaId r hr => ?_, fun i r hr => ?_, fun i => ?_⟩
    · rw [h.1.2 areaId] at hr
      cases hr
    · rw [h.2 i] at hr
      cases hr
    · rw [h.1.1.neighbors i]
      exact Nat.zero_le _
  | step _ hen ih => exact exec_wired hen ih

/-- **Interfaces keep their settings in every run**, and areas their interfaces. -/
theorem settings_of_ran {Start : Instance → Prop} (h : Ran Start s) :
    ∃ s₀, Start s₀ ∧ (∀ i, (s.intf i).asCreated = (s₀.intf i).asCreated) ∧ s.areas = s₀.areas := by
  induction h with
  | @start s h => exact ⟨s, h, fun _ => rfl, rfl⟩
  | @step s e _ hen ih =>
    obtain ⟨s₀, hs₀, hset, hareas⟩ := ih
    obtain ⟨rs, hfiled, -⟩ := exec_filed hen
    have hsame : (exec s e).areas = s.areas := Lts.Moves.invariant (I := fun t => t.areas = s.areas)
      (fun _ _ _ _ hm hu => (move_framed hm).areas.trans hu) (exec_moves hen) rfl
    exact ⟨s₀, hs₀, fun i => (hfiled.settings i).trans (hset i), hsame.trans hareas⟩

end Ospfd
