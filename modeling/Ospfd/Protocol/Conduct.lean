import Ospfd.Protocol.Events

/-!
# Whatever the daemon does

The procedures send packets, change neighbors, and work on the LSA objects.  A relation
between states that holds of each of these steps holds of every procedure.

* `OspfNeighbor.summarized` — the LSAs a neighbor is to be told of, or was told of last.
* `Conducts T D R` — a relation that holds of packets of the types `T` but Hellos, of a negotiation
  with a neighbor of `D`, and of what sends nothing and adds nothing to a summary.
* `Conducts.nbrEvent`, `Conducts.intfEvent` — the state machines.
* `Conducts.processHello`, `Conducts.processDd` — Hellos and descriptions.
* `Conducts.floodLsa`, `Conducts.processReceivedLsa`, `Conducts.checkAges`, … — what changes
  the database, for a relation that allows it.
* `Maintains.of_postpones` — what is scheduled stays scheduled.
-/

namespace Ospfd

/-- The LSAs a neighbor is to be told of, or was told of last. -/
def OspfNeighbor.summarized (x : OspfNeighbor) : List LsaRef :=
  x.dbSummaryList ++ (x.lastSentDd.map SentDD.lsaHeaders).getD []

/-- A neighbor in Exchange, with a summary of its area. -/
def negotiated (s : Instance) (n : NbrRef) : OspfNeighbor :=
  { s.nbr n with state := .exchange, dbSummaryList := s.lsdb.getAllHeaders (s.intf n.intf).areaId }

/-- What is scheduled stays scheduled. -/
structure Postpones (s t : Instance) : Prop where
  spf : ∀ time, s.spfTimer = some time → t.spfTimer = some time
  routerLsa : ∀ areaId time, s.routerLsaPending.get? areaId = some time →
    t.routerLsaPending.get? areaId = some time
  networkLsa : ∀ i time, s.networkLsaPending.get? i = some time →
    t.networkLsaPending.get? i = some time

namespace Postpones

variable {s t u : Instance}

theorem refl (s : Instance) : Postpones s s := ⟨fun _ => id, fun _ _ => id, fun _ _ => id⟩

theorem trans (h : Postpones s t) (h' : Postpones t u) : Postpones s u :=
  ⟨fun time ht => h'.spf time (h.spf time ht), fun a time ht => h'.routerLsa a time (h.routerLsa a time ht),
    fun i time ht => h'.networkLsa i time (h.networkLsa i time ht)⟩

theorem of_eq (hspf : t.spfTimer = s.spfTimer) (hrouter : t.routerLsaPending = s.routerLsaPending)
    (hnetwork : t.networkLsaPending = s.networkLsaPending) : Postpones s t :=
  ⟨fun _ h => hspf.trans h, fun _ _ h => by rwa [hrouter], fun _ _ h => by rwa [hnetwork]⟩

instance : Std.Refl Postpones := ⟨refl⟩

instance : IsTrans Instance Postpones := ⟨fun _ _ _ => trans⟩

end Postpones

/-- An interface as it was created, with its settings and nothing else. -/
def OspfInterface.asCreated (x : OspfInterface) : OspfInterface :=
  { x with state := .down, dr := zeroAddr, bdr := zeroAddr, neighbors := [], helloTimer := false,
           waitTimer := none, ackTimer := false, delayedAcks := [] }

/-- What is read from the settings is the same where the settings are. -/
theorem OspfInterface.setting_eq {α : Type} {x y : OspfInterface} (h : y.asCreated = x.asCreated)
    (f : OspfInterface → α) (hf : ∀ x, f x.asCreated = f x := by exact fun _ => rfl) : f y = f x := by
  rw [← hf y, h, hf x]

/-- The router keeps its ID, interfaces keep their settings, and the history grows. -/
structure Remains (s t : Instance) : Prop where
  routerId : t.routerId = s.routerId
  settings : ∀ i, (t.intf i).asCreated = (s.intf i).asCreated
  trace : s.trace <+: t.trace

namespace Remains

variable {s t u : Instance}

theorem of_eq (hid : t.routerId = s.routerId) (hintf : t.intf = s.intf) (htrace : t.trace = s.trace) :
    Remains s t :=
  ⟨hid, fun i => by rw [hintf], [], by rw [htrace, List.append_nil]⟩

theorem refl (s : Instance) : Remains s s := of_eq rfl rfl rfl

theorem trans (h : Remains s t) (h' : Remains t u) : Remains s u :=
  ⟨h'.routerId.trans h.routerId, fun i => (h'.settings i).trans (h.settings i), h.trace.trans h'.trace⟩

instance : Std.Refl Remains := ⟨refl⟩

instance : IsTrans Instance Remains := ⟨fun _ _ _ => trans⟩

theorem setIntf (s : Instance) {i : IntfId} {x : OspfInterface} (h : x.asCreated = (s.intf i).asCreated) :
    Remains s (s.setIntf i x) := by
  refine ⟨rfl, fun j => ?_, List.prefix_rfl⟩
  rw [Instance.intf_setIntf]
  split
  · rename_i hj
    rw [hj, h]
  · rfl

end Remains

/-- Nothing is sent, and no summary grows; the objects stay the instances they are, what is
scheduled stays scheduled, and the router remains what it is. -/
structure Unsaid (s t : Instance) : Prop where
  sent : t.sent = s.sent
  heap : s.heap.Grows t.heap
  summarized : ∀ n, (t.nbr n).summarized ⊆ (s.nbr n).summarized
  postpones : Postpones s t
  remains : Remains s t

theorem Unsaid.of_eq {s t : Instance} (hsent : t.sent = s.sent) (hheap : t.heap = s.heap)
    (hnbr : t.nbr = s.nbr) (hp : Postpones s t) (hr : Remains s t := by exact .of_eq rfl rfl rfl) : Unsaid s t :=
  ⟨hsent, .of_eq hheap, fun n => by rw [hnbr]; exact List.Subset.refl _, hp, hr⟩

theorem Unsaid.setNbr (s : Instance) {n : NbrRef} {x : OspfNeighbor}
    (h : x.summarized ⊆ (s.nbr n).summarized) : Unsaid s (s.setNbr n x) := by
  refine ⟨rfl, .refl _, fun m => ?_, .of_eq rfl rfl rfl, .of_eq rfl rfl rfl⟩
  rw [Instance.nbr_setNbr]
  split
  · rename_i hm
    rw [hm]
    exact h
  · exact List.Subset.refl _

theorem Unsaid.traced (s : Instance) (n : NbrRef) (evt : NbrEvent) : Unsaid s (s.traced n evt) :=
  .of_eq rfl rfl rfl (.of_eq rfl rfl rfl) ⟨rfl, fun _ => rfl, List.prefix_append ..⟩

/-- A move that sends nothing and changes no neighbor. -/
theorem Unsaid.of_move {l : Label} {s t : Instance} (hm : move l s t) (hsent : t.sent = s.sent)
    (hnbr : t.nbr = s.nbr) (hp : Postpones s t) (hr : Remains s t) : Unsaid s t :=
  ⟨hsent, move_grows hm, fun n => by rw [hnbr]; exact List.Subset.refl _, hp, hr⟩

/-- A Hello that is sent. -/
theorem sendHello_of_sends {R : Instance → Instance → Prop} [Std.Refl R] [IsTrans Instance R]
    (hsend : ∀ i body dest, Eff.Within R (sendPacket i packetTypeHello body dest)) (i : IntfId) :
    Eff.Within R (sendHello i) := by
  refine Eff.Within.read fun s => Eff.Within.when fun _ => ?_
  have hsend' : ∀ dest, Eff.Within R (do
      let body ← Eff.lift (helloOf s i).serialize
      sendPacket i packetTypeHello body dest) := fun dest =>
    Eff.Within.bind (Eff.Within.lift _) fun body => hsend i body dest
  split
  · exact hsend' _
  · exact hsend' _
  · exact hsend' _
  · exact Eff.Within.forEach fun n _ => hsend' _
  · exact Eff.Within.forEach fun n _ => hsend' _

/-- A relation that holds of packets of the types `T` but Hellos, of a negotiation with a neighbor
of `D`, and of what sends nothing and leaves the database alone. -/
structure Conducts (T : Nat → Prop) (D : NbrRef → Prop) (R : Instance → Instance → Prop) : Prop where
  keeps : ∀ {s t : Instance}, Unsaid s t → t.lsdb = s.lsdb → R s t
  sends : ∀ {pktType : Nat} (i : IntfId) (body : Bytes) (dest : IPv4Address), T pktType →
    pktType ≠ packetTypeHello → pktType ≠ packetTypeDd → Eff.Within R (sendPacket i pktType body dest)
  starts : ∀ (n : NbrRef) (flags : Nat), Eff.Within R (sendDd n flags [])
  batch : ∀ (n : NbrRef) (flags : Nat), Eff.Within R (sendDdBatch n flags)
  repeats : ∀ n : NbrRef, Eff.Within R (retransmitLastDd n)
  negotiates : ∀ {s : Instance} {n : NbrRef}, D n → R s (s.setNbr n (negotiated s n))

/-- The database may change as well. -/
structure Maintains (T : Nat → Prop) (D : NbrRef → Prop) (R : Instance → Instance → Prop) : Prop
    extends Conducts T D R where
  files : ∀ {s t : Instance}, Unsaid s t → R s t

namespace Conducts

section Single

variable {T : Nat → Prop} {D : NbrRef → Prop} {R : Instance → Instance → Prop}

theorem modify (h : Conducts T D R) {f : Instance → Instance} (hf : ∀ s, Unsaid s (f s))
    (hlsdb : ∀ s, (f s).lsdb = s.lsdb) : Eff.Within R (Eff.modify f : Py Unit) :=
  Eff.Within.modify fun s => h.keeps (hf s) (hlsdb s)

theorem modifyNbr (h : Conducts T D R) (n : NbrRef) {f : OspfNeighbor → OspfNeighbor}
    (hf : ∀ x, (f x).summarized ⊆ x.summarized) : Eff.Within R (modifyNbr n f) :=
  h.modify (fun s => .setNbr s (hf _)) fun _ => rfl

theorem modifyIntf (h : Conducts T D R) (i : IntfId) {f : OspfInterface → OspfInterface}
    (hf : ∀ x, (f x).asCreated = x.asCreated) : Eff.Within R (modifyIntf i f) :=
  h.modify (fun s => .of_eq rfl rfl rfl (.of_eq rfl rfl rfl) (.setIntf s (hf _))) fun _ => rfl

/-- An origination that is pending is not scheduled anew. -/
theorem scheduleRouterLsa (h : Conducts T D R) (areaId : IPv4Address) :
    Eff.Within R (scheduleRouterLsa areaId) := by
  refine h.modify (fun s => ?_) fun s => by split <;> rfl
  split
  · exact .of_eq rfl rfl rfl (.refl s)
  · rename_i hnone
    exact .of_eq rfl rfl rfl ⟨fun _ => id, fun a time => Dict.get?_set_of_none (by simpa [Dict.contains] using hnone),
      fun _ _ => id⟩

theorem scheduleNetworkLsa (h : Conducts T D R) (i : IntfId) : Eff.Within R (scheduleNetworkLsa i) := by
  refine h.modify (fun s => ?_) fun s => by split <;> rfl
  split
  · exact .of_eq rfl rfl rfl (.refl s)
  · rename_i hnone
    exact .of_eq rfl rfl rfl ⟨fun _ => id, fun _ _ => id, fun j time =>
      Dict.get?_set_of_none (by simpa [Dict.contains] using hnone)⟩

theorem scheduleSpf (h : Conducts T D R) : Eff.Within R scheduleSpf := by
  refine h.modify (fun s => ?_) fun s => by split <;> rfl
  split
  · exact .of_eq rfl rfl rfl (.refl s)
  · rename_i hnone
    exact .of_eq rfl rfl rfl ⟨fun _ ht => absurd (hnone.symm.trans ht) nofun, fun _ _ => id, fun _ _ => id⟩

theorem startDdExchange [IsTrans Instance R] (h : Conducts T D R) (n : NbrRef) : Eff.Within R (startDdExchange n) := by
  refine Eff.Within.bind (h.modify (fun s => ?_) fun _ => rfl) fun _ => ?_
  · refine ⟨rfl, .refl _, (Unsaid.setNbr s (n := n) ?_).summarized, .of_eq rfl rfl rfl, .of_eq rfl rfl rfl⟩
    exact List.subset_append_right (s.nbr n).dbSummaryList _
  · exact Eff.Within.bind (h.starts n _) fun _ => h.modifyNbr n fun _ => List.Subset.refl _

theorem seqNumMismatch [IsTrans Instance R] (h : Conducts T D R) (n : NbrRef) : Eff.Within R (seqNumMismatch n) :=
  Eff.Within.bind (h.modifyNbr n fun _ => List.subset_append_right _ _) fun _ => h.startDdExchange n

theorem serializeLsa (h : Conducts T D R) (r : LsaRef) : Eff.Within R (serializeLsa r) :=
  fun s => h.keeps (Unsaid.of_move (s := s) (l := .write r) rfl rfl rfl (.of_eq rfl rfl rfl) (.of_eq rfl rfl rfl)) rfl

theorem serializeLsack [Std.Refl R] (rs : List LsaRef) : Eff.Within R (serializeLsack rs) :=
  Eff.Within.read fun _ => Eff.Within.lift _

theorem processLsAck (h : Conducts T D R) (n : NbrRef) (headers : List LsaHeader) :
    Eff.Within R (processLsAck n headers) := by
  refine h.modifyNbr n fun x => ?_
  induction headers.map LsaHeader.key generalizing x with
  | nil => exact List.Subset.refl _
  | cons key keys ih => exact ih _

end Single

variable {T : Nat → Prop} {D : NbrRef → Prop} {R : Instance → Instance → Prop} [Std.Refl R]
  [IsTrans Instance R]

/-! ## The state machines -/

theorem runDrElection (h : Conducts T D R) {event : NbrRef → NbrEvent → Py Unit}
    (hevent : ∀ n, Eff.Within R (event n .adjOk)) (i : IntfId) : Eff.Within R (runDrElection event i) := by
  refine Eff.Within.read fun s => Eff.Within.bind (h.modifyIntf i fun _ => rfl) fun _ => ?_
  refine Eff.Within.when fun _ => Eff.Within.forEach fun n _ => ?_
  exact Eff.Within.read fun t => Eff.Within.when fun _ => hevent n

section Machines

variable (h : Conducts T D R) (hT : ∀ pktType, pktType < packetTypeLsu → T pktType)

include h hT

theorem sendLsRequest (n : NbrRef) : Eff.Within R (sendLsRequest n) := by
  refine Eff.Within.read fun s => Eff.Within.when fun _ => Eff.Within.bind (Eff.Within.lift _) fun body => ?_
  refine Eff.Within.bind (h.sends n.intf body _ (hT _ (by decide)) (by decide) (by decide)) fun _ => ?_
  exact h.modifyNbr n fun _ => List.Subset.refl _

theorem nbrAction (n : NbrRef) (action : NbrAction) (hD : action = .negotiationDone → D n) :
    Eff.Within R (action.run n) := by
  have henter : Eff.Within R (do
      Ospfd.modifyNbr n fun x => { x with state := .exStart }
      Ospfd.startDdExchange n) :=
    Eff.Within.bind (h.modifyNbr n fun _ => List.Subset.refl _) fun _ => h.startDdExchange n
  have hstate : ∀ state, Eff.Within R (Ospfd.modifyNbr n fun x => { x with state }) := fun _ =>
    h.modifyNbr n fun _ => List.Subset.refl _
  cases action with
  | helloReceivedDown => exact h.modify (fun s => .setNbr s (List.Subset.refl _)) fun _ => rfl
  | helloReceivedAny => exact h.modify (fun s => .setNbr s (List.Subset.refl _)) fun _ => rfl
  | start => exact h.modify (fun s => .setNbr s (List.Subset.refl _)) fun _ => rfl
  | twoWayReceived => exact Eff.Within.read fun s => Eff.Within.ite henter (hstate _)
  | adjOk2Way => exact Eff.Within.read fun s => Eff.Within.when fun _ => henter
  | adjOkAdjformed =>
    exact Eff.Within.read fun s => Eff.Within.when fun _ => h.modifyNbr n fun _ => List.subset_append_right _ _
  | negotiationDone => exact Eff.Within.modify fun s => h.negotiates (hD rfl)
  | exchangeDone =>
    refine Eff.Within.read fun s => Eff.Within.ite ?_ (h.modifyNbr n fun _ => List.Subset.refl _)
    exact Eff.Within.bind (hstate _) fun _ => h.sendLsRequest hT n
  | loadingDone => exact hstate _
  | seqNumMismatch => exact h.seqNumMismatch n
  | badLsReq => exact h.seqNumMismatch n
  | oneWay => exact h.modifyNbr n fun _ => List.subset_append_right _ _

section Dispatch

variable {event : NbrRef → NbrEvent → Py Unit}
  (hevent : ∀ n evt, evt ≠ .negotiationDone → Eff.Within R (event n evt))

include hevent

omit hT in
theorem intfAction (i : IntfId) (action : IntfAction) (hhello : action = .ifUp → Eff.Within R (sendHello i)) :
    Eff.Within R (action.run event i) := by
  have helect := h.runDrElection (fun n => hevent n .adjOk nofun) i
  cases action with
  | ifUp =>
    have hstart : Eff.Within R (startHello i) :=
      Eff.Within.bind (h.modifyIntf i fun _ => rfl) fun _ => hhello rfl
    refine Eff.Within.read fun s => ?_
    dsimp only
    refine Eff.Within.ite (h.modifyIntf i fun _ => rfl) (Eff.Within.ite (Eff.Within.ite ?_ ?_) ?_)
    · exact Eff.Within.bind (h.modifyIntf i fun _ => rfl) fun _ => Eff.Within.bind hstart fun _ => helect
    · exact Eff.Within.bind (h.modifyIntf i fun _ => rfl) fun _ => Eff.Within.bind hstart fun _ =>
        h.modify (fun t => .of_eq rfl rfl rfl (.of_eq rfl rfl rfl) (.setIntf t rfl)) fun _ => rfl
    · exact Eff.Within.bind (h.modifyIntf i fun _ => rfl) fun _ => hstart
  | waitTimer => exact helect
  | backupSeen => exact Eff.Within.bind (h.modifyIntf i fun _ => rfl) fun _ => helect
  | nbrChange => exact helect
  | loopInd => exact h.modifyIntf i fun _ => rfl
  | unloopInd => exact h.modifyIntf i fun _ => rfl
  | ifDown =>
    refine Eff.Within.bind (h.modifyIntf i fun _ => rfl) fun _ => Eff.Within.read fun s => ?_
    exact Eff.Within.bind (Eff.Within.forEach fun n _ => hevent n .killNbr nofun) fun _ => h.modifyIntf i fun _ => rfl

omit hT in
theorem dispatchIntf (i : IntfId) (evt : IntfEvent) (hhello : evt = .ifUp → Eff.Within R (sendHello i)) :
    Eff.Within R (dispatchIntf event i evt) := by
  refine Eff.Within.read fun s => Eff.Within.bind ?_ fun _ => Eff.Within.read fun t => ?_
  · rw [handleIntf]
    split
    · rename_i action haction
      refine h.intfAction hevent i action fun heq => hhello ?_
      rw [heq] at haction
      cases hst : (s.intf i).state <;> cases evt <;> rw [hst] at haction <;> first | rfl | cases haction
    · exact Eff.Within.pure ()
  · refine Eff.Within.when fun _ => Eff.Within.read fun u => ?_
    exact Eff.Within.bind (h.scheduleRouterLsa _) fun _ => Eff.Within.when fun _ => h.scheduleNetworkLsa i

omit hT in
theorem neighborStateChanged (n : NbrRef) (old : NbrState) :
    Eff.Within R (neighborStateChanged event n old) := by
  refine Eff.Within.read fun s =>
    Eff.Within.bind (Eff.Within.when fun _ => h.dispatchIntf hevent n.intf .nbrChange nofun) fun _ => ?_
  exact Eff.Within.read fun t => Eff.Within.bind (h.scheduleRouterLsa _) fun _ =>
    Eff.Within.when fun _ => h.scheduleNetworkLsa _

theorem handleNbr (n : NbrRef) (old : NbrState) (evt : NbrEvent) (hD : evt = .negotiationDone → D n) :
    Eff.Within R (handleNbr event n old evt) := by
  rw [Ospfd.handleNbr]
  split
  · rename_i action haction
    refine h.nbrAction hT n action fun heq => hD ?_
    rw [heq] at haction
    cases old <;> cases evt <;> first | rfl | cases haction
  · refine Eff.Within.when fun _ => Eff.Within.read fun t => ?_
    exact Eff.Within.bind (h.modifyNbr n fun _ => List.subset_append_right _ _) fun _ =>
      Eff.Within.when fun _ => h.neighborStateChanged hevent n _

/-- An event, from the moment it is recorded. -/
theorem dispatchNbr_traced (s : Instance) (n : NbrRef) (evt : NbrEvent) (hD : evt = .negotiationDone → D n) :
    R (s.traced n evt) (Ospfd.dispatchNbr event n evt s).2 :=
  Eff.Within.bind (R := R) (h.handleNbr hT hevent n (s.nbr n).state evt hD)
    (fun _ => Eff.Within.read fun _ => Eff.Within.when fun _ => h.neighborStateChanged hevent n _) (s.traced n evt)

theorem dispatchNbr (n : NbrRef) (evt : NbrEvent) (hD : evt = .negotiationDone → D n) :
    Eff.Within R (dispatchNbr event n evt) :=
  fun s => trans_of R (h.keeps (.traced s n evt) rfl) (h.dispatchNbr_traced hT hevent s n evt hD)

end Dispatch

theorem nbrEventDepth (depth : Nat) : ∀ n evt, (evt = .negotiationDone → D n) →
    Eff.Within R (nbrEventDepth depth n evt) := by
  induction depth with
  | zero => exact fun _ _ _ => Eff.Within.throw _
  | succ depth ih =>
    exact h.dispatchNbr hT fun n evt hne => ih n evt fun heq => absurd heq hne

/-- **An event of a neighbor.** -/
theorem nbrEvent (n : NbrRef) (evt : NbrEvent) (hD : evt = .negotiationDone → D n) :
    Eff.Within R (nbrEvent n evt) :=
  h.nbrEventDepth hT recursionLimit n evt hD

/-- An event of a neighbor, from the moment it is recorded. -/
theorem nbrEvent_traced (s : Instance) (n : NbrRef) (evt : NbrEvent) (hD : evt = .negotiationDone → D n) :
    R (s.traced n evt) (Ospfd.nbrEvent n evt s).2 :=
  h.dispatchNbr_traced hT (fun n evt hne => h.nbrEventDepth hT 99 n evt fun heq => absurd heq hne) s n evt hD

/-- **An event of an interface**; one that comes up sends a Hello. -/
theorem intfEvent (i : IntfId) (evt : IntfEvent) (hhello : evt = .ifUp → Eff.Within R (sendHello i)) :
    Eff.Within R (intfEvent i evt) :=
  h.dispatchIntf (fun n evt hne => h.nbrEvent hT n evt fun heq => absurd heq hne) i evt hhello

/-! ## Hellos and descriptions -/

/-- A Hello, from the moment its reception is recorded. -/
theorem helloFrom_traced (s : Instance) (n : NbrRef) (hello : HelloPacket) (src : IPv4Address) :
    R ((s.setNbr n ((s.nbr n).told hello src)).traced n .helloReceived) (Ospfd.helloFrom n hello src s).2 := by
  have htwo : Eff.Within R (helloTwoWay n hello) := Eff.Within.read fun _ => Eff.Within.ite
    (Eff.Within.when fun _ => h.nbrEvent hT n .twoWayReceived (by rintro ⟨⟩))
    (Eff.Within.when fun _ => h.nbrEvent hT n .oneWay (by rintro ⟨⟩))
  have hreceived := h.nbrEvent_traced hT (s.setNbr n ((s.nbr n).told hello src)) n .helloReceived (by rintro ⟨⟩)
  rw [Ospfd.helloFrom, Eff.get_bind_apply, modifyNbr_bind_apply]
  refine Eff.bind_final hreceived fun _ _ => trans_of R hreceived (Eff.Within.bind htwo (fun _ => ?_) _)
  refine Eff.Within.read fun t =>
    Eff.Within.bind (Eff.Within.when fun _ => h.intfEvent hT n.intf .backupSeen (by rintro ⟨⟩)) fun _ => ?_
  exact Eff.Within.read fun u => Eff.Within.when fun _ => h.intfEvent hT n.intf .nbrChange (by rintro ⟨⟩)

theorem helloFrom (n : NbrRef) (hello : HelloPacket) (src : IPv4Address) :
    Eff.Within R (helloFrom n hello src) := by
  intro s
  have htold : Unsaid s (s.setNbr n ((s.nbr n).told hello src)) := .setNbr s (List.Subset.refl _)
  exact trans_of R (h.keeps htold rfl) (trans_of R (h.keeps (.traced _ n _) rfl) (h.helloFrom_traced hT s n hello src))

theorem processHello (i : IntfId) (hello : HelloPacket) (src routerId : IPv4Address) :
    Eff.Within R (processHello i hello src routerId) := by
  refine Eff.Within.read fun s => Eff.Within.when fun _ => Eff.Within.bind ?_ fun _ =>
    Eff.Within.when fun _ => h.helloFrom hT _ hello src
  refine Eff.Within.read fun t => Eff.Within.ite (Eff.Within.pure _) (Eff.Within.ite (Eff.Within.pure _) ?_)
  refine Eff.Within.bind (h.modify (fun u => ?_) fun _ => rfl) fun _ => Eff.Within.pure _
  have hnew := Unsaid.setNbr u (n := ⟨i, routerId⟩) (x := { routerId, ipAddr := src }) (List.nil_subset _)
  exact ⟨rfl, .refl _, hnew.summarized, .of_eq rfl rfl rfl, hnew.remains.trans (.setIntf _ rfl)⟩

/-- A description; master and slave may be settled in Init and ExStart only. -/
theorem processDd (n : NbrRef) (dd : DDPacket) {s : Instance}
    (hD : (s.nbr n).state = .init ∨ (s.nbr n).state = .exStart → D n) : R s (processDd n dd s).2 := by
  have hevent : ∀ evt, evt ≠ .negotiationDone → Eff.Within R (Ospfd.nbrEvent n evt) := fun evt hne =>
    h.nbrEvent hT n evt fun heq => absurd heq hne
  have hset : ∀ {f : OspfNeighbor → OspfNeighbor}, (∀ x, (f x).summarized = x.summarized) →
      Eff.Within R (Ospfd.modifyNbr n f) := fun hf => h.modifyNbr n fun x => by
    rw [hf]
    exact List.Subset.refl _
  have hheaders : Eff.Within R (processDdHeaders n dd) := Eff.Within.forEach fun _ _ =>
    Eff.Within.read fun _ => Eff.Within.when fun _ => hset fun _ => rfl
  have hstart : D n → Eff.Within R (processDdExstart n dd) := by
    intro hn
    have hdone : Eff.Within R (Ospfd.nbrEvent n .negotiationDone) := h.nbrEvent hT n _ fun _ => hn
    refine Eff.Within.read fun s => Eff.Within.ite (Eff.Within.when fun _ => ?_) (Eff.Within.when fun _ => ?_)
    · exact Eff.Within.bind (hset fun _ => rfl) fun _ => Eff.Within.bind hdone fun _ => h.batch n _
    · exact Eff.Within.bind (hset fun _ => rfl) fun _ => Eff.Within.bind hdone fun _ =>
        Eff.Within.bind hheaders fun _ => Eff.Within.bind (hset fun _ => rfl) fun _ =>
          Eff.Within.bind (hset fun _ => rfl) fun _ => h.batch n _
  have hmaster : Eff.Within R (masterExchange n dd) :=
    Eff.Within.bind hheaders fun _ => Eff.Within.bind (hset fun _ => rfl) fun _ => Eff.Within.read fun _ =>
      Eff.Within.bind (Eff.Within.ite (hevent .exchangeDone (by rintro ⟨⟩)) (h.batch n _)) fun _ => hset fun _ => rfl
  have hslave : Eff.Within R (slaveExchange n dd) :=
    Eff.Within.bind (hset fun _ => rfl) fun _ => Eff.Within.bind hheaders fun _ =>
      Eff.Within.bind (h.batch n _) fun _ => Eff.Within.read fun _ =>
        Eff.Within.bind (Eff.Within.when fun _ => hevent .exchangeDone (by rintro ⟨⟩)) fun _ => hset fun _ => rfl
  have hrepeat : ∀ t : Instance, Eff.Within R (Eff.when (¬(t.nbr n).isMaster) (retransmitLastDd n)) :=
    fun _ => Eff.Within.when fun _ => h.repeats n
  have hloaded : Eff.Within R (processDdLoaded n dd) := Eff.Within.read fun t =>
    Eff.Within.ite (hrepeat t) (hevent .seqNumMismatch (by rintro ⟨⟩))
  rw [Ospfd.processDd, Eff.get_bind_apply]
  cases hst : (s.nbr n).state with
  | down => exact refl_of R s
  | attempt => exact refl_of R s
  | twoWay => exact refl_of R s
  | init =>
    refine Eff.Within.bind (R := R) (hevent .twoWayReceived (by rintro ⟨⟩)) (fun _ => Eff.Within.read fun _ => ?_) s
    exact Eff.Within.when fun _ => hstart (hD (Or.inl hst))
  | exStart => exact hstart (hD (Or.inr hst)) s
  | exchange =>
    exact Eff.Within.read (R := R) (fun t => Eff.Within.ite (hrepeat t)
      (Eff.Within.ite (hevent .seqNumMismatch (by rintro ⟨⟩)) (Eff.Within.ite hmaster hslave))) s
  | loading => exact hloaded s
  | full => exact hloaded s

end Machines

/-! ## Serializing and sending LSAs -/

theorem serializeLsas (h : Conducts T D R) : ∀ rs : List LsaRef, Eff.Within R (serializeLsas rs)
  | [] => Eff.Within.pure _
  | r :: rs => Eff.Within.bind (h.serializeLsa r) fun _ =>
      Eff.Within.bind (h.serializeLsas rs) fun _ => Eff.Within.pure _

theorem serializeLsu (h : Conducts T D R) (rs : List LsaRef) : Eff.Within R (serializeLsu rs) :=
  Eff.Within.bind (Eff.Within.lift _) fun _ =>
    Eff.Within.bind (h.serializeLsas rs) fun _ => Eff.Within.pure _

section Updates

variable (h : Conducts T D R) (hT : ∀ pktType, pktType < packetTypeLsu → T pktType)

include h hT

/-- On the way to a retransmission list no update is sent. -/
theorem addRetransmission (r : LsaRef) (n : NbrRef) : Eff.Within R (addRetransmission r n) := by
  refine Eff.Within.read fun s => Eff.Within.ite (Eff.Within.pure false) (Eff.Within.ite ?_ ?_)
  · exact Eff.Within.bind (h.nbrEvent hT n .killNbr nofun) fun _ => Eff.Within.pure true
  · exact Eff.Within.bind (h.modifyNbr n fun _ => List.Subset.refl _) fun _ => Eff.Within.pure false

theorem processLsUpdate (n : NbrRef) (keys : List LsaKey) : Eff.Within R (processLsUpdate n keys) := by
  refine Eff.Within.bind (h.modifyNbr n fun x => ?_) fun _ => Eff.Within.read fun s =>
    Eff.Within.when fun _ => h.nbrEvent hT n .loadingDone nofun
  induction keys generalizing x with
  | nil => exact List.Subset.refl _
  | cons key keys ih => exact ih _

end Updates

section Flood

variable (h : Conducts T D R) (hT : ∀ pktType, pktType ≤ packetTypeLsu → T pktType)

include h hT

theorem sendLsu (rs : List LsaRef) (i : IntfId) (dest : Instance → IPv4Address) : Eff.Within R (do
    let body ← Ospfd.serializeLsu rs
    let s ← Eff.get
    sendPacket i packetTypeLsu body (dest s)) :=
  Eff.Within.bind (h.serializeLsu rs) fun body => Eff.Within.read fun s =>
    h.sends i body (dest s) (hT _ le_rfl) (by decide) (by decide)

theorem sendLsUpdate (n : NbrRef) (rs : List LsaRef) : Eff.Within R (sendLsUpdate n rs) :=
  Eff.Within.read fun s => Eff.Within.when fun _ => h.sendLsu hT rs n.intf fun _ => (s.nbr n).ipAddr

theorem floodMulticast (r : LsaRef) (i : IntfId) (dest : IPv4Address) :
    Eff.Within R (floodMulticast r i dest) :=
  h.sendLsu hT [r] i fun _ => dest

theorem floodUnicast (r : LsaRef) (i : IntfId) (ns : List NbrRef) :
    Eff.Within R (floodUnicast r i ns) :=
  Eff.Within.forEach fun n _ => h.sendLsu hT [r] i fun s => (s.nbr n).ipAddr

theorem floodToInterface (r : LsaRef) (i : IntfId) : Eff.Within R (floodToInterface r i) := by
  have hadd := h.addRetransmission (fun _ ht => hT _ (Nat.le_of_lt ht)) r
  refine Eff.Within.read fun s => Eff.Within.when fun _ => ?_
  refine Eff.Within.bind (Eff.Within.forUntil fun n _ => hadd n) fun killed => ?_
  exact Eff.Within.when fun _ => Eff.Within.read fun t =>
    Eff.Within.ite (h.floodMulticast hT r i _) (h.floodUnicast hT r i _)

/-- **Flooding.** -/
theorem floodLsa (r : LsaRef) (areaId : IPv4Address) (recvIntf : Option IntfId) :
    Eff.Within R (floodLsa r areaId recvIntf) := by
  refine Eff.Within.read fun s => Eff.Within.forEach fun i _ => Eff.Within.ite ?_ ?_
  · exact Eff.Within.read fun t => Eff.Within.when fun _ => h.floodMulticast hT _ _ _
  · exact h.floodToInterface hT r i

/-- **A request.** -/
theorem processLsRequest (n : NbrRef) (lsr : LsrPacket) : Eff.Within R (processLsRequest n lsr) := by
  refine Eff.Within.read fun s => Eff.Within.when fun _ => ?_
  split
  · exact h.nbrEvent (fun _ ht => hT _ (Nat.le_of_lt ht)) n .badLsReq nofun
  · exact h.sendLsUpdate hT n _

end Flood
end Conducts

/-! ## What changes the database -/

/-- The scheduled work of an event is due, and no longer pending. -/
def Event.fired (s : Instance) : Event → Instance
  | .routerLsa areaId => { s with routerLsaPending := s.routerLsaPending.pop areaId }
  | .networkLsa i => { s with networkLsaPending := s.networkLsaPending.pop i }
  | .spf => { s with spfTimer := none, lastSpfTime := s.now }
  | _ => s

namespace Maintains

section Single

variable {T : Nat → Prop} {D : NbrRef → Prop} {R : Instance → Instance → Prop}

theorem installLsa (h : Maintains T D R) (areaId : IPv4Address) (r : LsaRef) :
    Eff.Within R (installLsa areaId r) :=
  fun s => h.files (Unsaid.of_move (s := s) (l := .install areaId r) rfl rfl rfl (.of_eq rfl rfl rfl) (.of_eq rfl rfl rfl))

theorem removeLsa (h : Maintains T D R) (areaId : IPv4Address) (key : LsaKey) :
    Eff.Within R (removeLsa areaId key) :=
  fun s => h.files (Unsaid.of_move (s := s) (l := .remove areaId key) rfl rfl rfl (.of_eq rfl rfl rfl) (.of_eq rfl rfl rfl))

theorem newLsa (h : Maintains T D R) (lsa : Lsa) : Eff.Within R (newLsa lsa) :=
  fun s => h.files (Unsaid.of_move (s := s) (l := .alloc) ⟨lsa, rfl⟩ rfl rfl (.of_eq rfl rfl rfl) (.of_eq rfl rfl rfl))

end Single

variable {T : Nat → Prop} {D : NbrRef → Prop} {R : Instance → Instance → Prop} [Std.Refl R]
  [IsTrans Instance R] (h : Maintains T D R)

include h

section Spread

variable (hT : ∀ pktType, pktType ≤ packetTypeLsu → T pktType)

include hT

theorem originate (areaId : IPv4Address) (lsType : Nat) (linkStateId : IPv4Address)
    (body : Option LsaBody) (seqNum : Option Nat) :
    Eff.Within R (originate areaId lsType linkStateId body seqNum) := by
  refine Eff.Within.read fun s => Eff.Within.ite (Eff.Within.pure none) ?_
  split
  · exact Eff.Within.pure none
  · refine Eff.Within.read fun t => Eff.Within.bind (h.newLsa _) fun r => ?_
    refine Eff.Within.bind (h.serializeLsa r) fun _ => Eff.Within.bind (h.installLsa areaId r) fun ok => ?_
    refine Eff.Within.bind (Eff.Within.when fun _ => ?_) fun _ => Eff.Within.pure _
    refine Eff.Within.bind (h.modify (fun _ => .of_eq rfl rfl rfl (.of_eq rfl rfl rfl)) fun _ => rfl) fun _ => ?_
    exact h.floodLsa hT r areaId none

theorem refreshLsa (areaId : IPv4Address) (r : LsaRef) : Eff.Within R (refreshLsa areaId r) := by
  refine Eff.Within.read fun s => ?_
  dsimp only
  split
  · exact Eff.Within.pure none
  · refine Eff.Within.ite (Eff.Within.pure none) ?_
    split
    · exact Eff.Within.pure none
    · exact h.originate hT _ _ _ _ _

theorem flushMaxageLsa (r : LsaRef) (areaId : IPv4Address) :
    Eff.Within R (flushMaxageLsa r areaId) := by
  refine Eff.Within.bind (h.floodLsa hT r areaId none) fun _ => Eff.Within.read fun s => ?_
  split
  · exact h.removeLsa _ _
  · exact Eff.Within.bind (Eff.Within.lift _) fun _ => Eff.Within.when fun _ => h.removeLsa _ _

/-- **Aging.** -/
theorem checkAges : Eff.Within R checkAges := by
  have hrefresh : ∀ areaId r, Eff.Within R (do
      let _ ← Ospfd.refreshLsa areaId r
      pure ()) := fun areaId r =>
    Eff.Within.bind (h.refreshLsa hT areaId r) fun _ => Eff.Within.pure ()
  refine Eff.Within.read fun s => Eff.Within.forEach fun areaId _ => Eff.Within.read fun t => ?_
  refine Eff.Within.bind (Eff.Within.forEach fun r _ => ?_) fun _ => Eff.Within.read fun u =>
    Eff.Within.forEach fun r _ => ?_
  · exact Eff.Within.read fun u => Eff.Within.ite (hrefresh areaId r) (h.flushMaxageLsa hT r areaId)
  · exact Eff.Within.read fun u => Eff.Within.when fun _ => hrefresh areaId r

end Spread

/-! ### Receptions and events -/

section All

variable (hT : ∀ pktType, T pktType)

include hT

theorem afterInstall (r : LsaRef) (n : NbrRef) (areaId : IPv4Address) :
    Eff.Within R (afterInstall r n areaId) := by
  have hack : Eff.Within R (acknowledge r n) := by
    refine Eff.Within.read fun s => Eff.Within.ite ?_ (h.modifyIntf _ fun _ => rfl)
    exact Eff.Within.bind (Conducts.serializeLsack [r]) fun body =>
      h.sends n.intf body _ (hT _) (by decide) (by decide)
  refine Eff.Within.read fun s => Eff.Within.ite (Eff.Within.ite (h.removeLsa _ _) ?_) ?_
  · exact Eff.Within.bind (h.refreshLsa (fun t _ => hT t) areaId r) fun _ => Eff.Within.pure ()
  · exact Eff.Within.bind hack fun _ => h.scheduleSpf

/-- **One received LSA.** -/
theorem processReceivedLsa (r : LsaRef) (n : NbrRef) (areaId : IPv4Address) :
    Eff.Within R (processReceivedLsa r n areaId) := by
  have hnewer : Eff.Within R (receivedNewer r n areaId) := by
    refine Eff.Within.bind (h.installLsa areaId r) fun ok => Eff.Within.when fun _ => ?_
    exact Eff.Within.bind (h.floodLsa (fun t _ => hT t) r areaId _) fun _ => h.afterInstall hT r n areaId
  have hsame : Eff.Within R (receivedSame r n) := Eff.Within.read fun s =>
    Eff.Within.bind (h.modifyNbr n fun _ => List.Subset.refl _) fun _ =>
      Eff.Within.when fun _ => h.modifyIntf _ fun _ => rfl
  refine Eff.Within.read fun s => Eff.Within.when fun _ => ?_
  split
  · exact hnewer
  · exact Eff.Within.ite hnewer (Eff.Within.ite hsame (h.sendLsUpdate (fun t _ => hT t) n _))

/-- **An update.** -/
theorem receiveLsu (n : NbrRef) (lsu : LsuPacket) : Eff.Within R (receiveLsu n lsu) := by
  have hnew : ∀ lsas : List Lsa, Eff.Within R (newLsas lsas) := by
    intro lsas
    induction lsas with
    | nil => exact Eff.Within.pure _
    | cons lsa lsas ih =>
      exact Eff.Within.bind (h.newLsa lsa) fun _ => Eff.Within.bind ih fun _ => Eff.Within.pure _
  refine Eff.Within.read fun s => Eff.Within.bind (hnew lsu.lsas) fun rs => ?_
  refine Eff.Within.bind (Eff.Within.forEach fun r _ => h.processReceivedLsa hT r n _) fun _ => ?_
  exact h.processLsUpdate (fun t _ => hT t) n _

/-! ## Events -/

/-- **Every event**, if it holds of the scheduled work that is due and of a Hello that is sent, and a
description that may settle master and slave comes from a neighbor of `D`. -/
theorem exec {s : Instance} {e : Event} (hfired : R s (e.fired s))
    (hhello : ∀ i, e = .helloTimer i ∨ e = .intfEvent i .ifUp → Eff.Within R (sendHello i))
    (hD : ∀ n src dd, heard s e = some (n, src, .dd dd) → n.routerId ∈ (s.intf n.intf).neighbors →
      (s.nbr n).state = .init ∨ (s.nbr n).state = .exStart → D n) : R s (exec s e) := by
  have hother : ∀ pktType, pktType < packetTypeLsu → T pktType := fun t _ => hT t
  have hupdate : ∀ pktType, pktType ≤ packetTypeLsu → T pktType := fun t _ => hT t
  rcases hh : heard s e with _ | ⟨n, src, packet⟩
  · cases e with
    | receive i data src =>
      rw [exec_receive, hh]
      exact refl_of R s
    | inactivity n =>
      refine Eff.Within.bind (R := R) (h.modifyNbr n fun x => ?_) (fun _ => ?_) s
      · exact List.Subset.refl _
      · exact h.nbrEvent hother n .inactivityTimer nofun
    | rxmt n =>
      exact Eff.Within.read (R := R) (fun _ => Eff.Within.when fun _ => h.sendLsRequest hother n) s
    | ddRxmt n => exact Eff.Within.read (R := R) (fun _ => Eff.Within.when fun _ => h.repeats n) s
    | helloTimer i => exact hhello i (.inl rfl) s
    | waitTimer i =>
      refine Eff.Within.bind (R := R) (h.modifyIntf i fun _ => ?_) (fun _ => h.intfEvent hother i .waitTimer nofun) s
      rfl
    | ackTimer i =>
      refine Eff.Within.read (R := R) (fun t => Eff.Within.when fun _ => ?_) s
      refine Eff.Within.bind (h.modifyIntf i fun _ => rfl) fun _ => Eff.Within.bind (Conducts.serializeLsack _) fun body => ?_
      exact h.sends i body _ (hT _) (by decide) (by decide)
    | intfEvent i evt =>
      refine h.intfEvent hother i evt (fun heq => hhello i (.inr ?_)) s
      rw [heq]
    | killNbr n => exact h.nbrEvent hother n .killNbr nofun s
    | llDown n => exact h.nbrEvent hother n .llDown nofun s
    | startNbr n => exact h.nbrEvent hother n .start nofun s
    | routerLsa areaId =>
      rw [exec_routerLsa]
      exact trans_of R hfired (Eff.Within.read (R := R) (fun _ => h.originate hupdate _ _ _ _ _) _)
    | networkLsa i =>
      rw [exec_networkLsa]
      refine trans_of R hfired (Eff.Within.read (R := R) (fun _ => ?_) _)
      exact Eff.Within.ite (Eff.Within.pure none) (h.originate hupdate _ _ _ _ _)
    | spf => exact hfired
    | aging => exact h.checkAges hupdate s
    | originate areaId lsType linkStateId body =>
      exact Eff.Within.bind (R := R) (h.originate hupdate areaId lsType linkStateId (some body) none)
        (fun _ => Eff.Within.pure ()) s
    | tick d => exact h.keeps (.of_eq rfl rfl rfl (.of_eq rfl rfl rfl) (.of_eq rfl rfl rfl)) rfl
  · have hlisted : ∀ {m : Py Unit}, (n.routerId ∈ (s.intf n.intf).neighbors → R s (m s).2) →
        R s (forNeighbor n m s).2 := by
      intro m hm
      rw [forNeighbor, Eff.get_bind_apply]
      by_cases hn : n.routerId ∈ (s.intf n.intf).neighbors
      · rw [Eff.when_pos hn]
        exact hm hn
      · rw [Eff.when_neg hn]
        exact refl_of R s
    rw [exec_heard hh]
    cases packet with
    | hello hello => exact h.processHello hother n.intf hello src n.routerId s
    | dd dd => exact hlisted fun hn => h.processDd hother n dd (hD n src dd hh hn)
    | lsr lsr => exact hlisted fun _ => h.processLsRequest hupdate n lsr s
    | lsu lsu => exact hlisted fun _ => h.receiveLsu hT n lsu s
    | lsack ack => exact hlisted fun _ => h.processLsAck n ack.lsaHeaders s

end All
end Maintains

theorem sendPacket_postpones (i : IntfId) (pktType : Nat) (body : Bytes) (dest : IPv4Address) :
    Eff.Within Postpones (sendPacket i pktType body dest) :=
  Eff.Within.read fun _ => Eff.Within.when fun _ => Eff.Within.bind (Eff.Within.lift _) fun _ =>
    Eff.Within.modify fun _ => .of_eq rfl rfl rfl

theorem sendHello_postpones (i : IntfId) : Eff.Within Postpones (sendHello i) :=
  sendHello_of_sends (fun i body dest => sendPacket_postpones i _ body dest) i

/-- **What is scheduled stays scheduled**, and with it whatever follows from this. -/
theorem Maintains.of_postpones {R : Instance → Instance → Prop} [IsTrans Instance R] [Std.Refl R]
    (hR : ∀ s t, Postpones s t → R s t) : Maintains (fun _ => True) (fun _ => True) R := by
  have hmodify : ∀ {f : Instance → Instance}, (∀ s, Postpones s (f s)) →
      Eff.Within R (Eff.modify f : Py Unit) := fun hf => Eff.Within.modify fun s => hR _ _ (hf s)
  have hnbr : ∀ n f, Eff.Within R (modifyNbr n f) := fun n f => hmodify fun _ => .of_eq rfl rfl rfl
  have hsend : ∀ i pktType body dest, Eff.Within R (sendPacket i pktType body dest) := fun i pktType body dest =>
    (sendPacket_postpones i pktType body dest).mono hR
  have hdd : ∀ n flags lsaHeaders, Eff.Within R (sendDd n flags lsaHeaders) := fun n _ _ =>
    Eff.Within.read fun _ => Eff.Within.bind (Eff.Within.lift _) fun _ =>
      Eff.Within.bind (hsend _ _ _ _) fun _ => hnbr n _
  refine { keeps := fun h _ => hR _ _ h.postpones, sends := fun i body dest _ _ _ => hsend i _ body dest,
           starts := fun n flags => hdd n flags [], batch := fun n flags => ?_, repeats := fun n => ?_,
           negotiates := fun _ => hR _ _ (.of_eq rfl rfl rfl), files := fun h => hR _ _ h.postpones }
  · exact Eff.Within.read fun _ => Eff.Within.bind (hnbr n _) fun _ => hdd n _ _
  · refine Eff.Within.read fun s => ?_
    split
    · exact Eff.Within.pure ()
    · exact Eff.Within.bind (Eff.Within.lift _) fun _ => hsend _ _ _ _

end Ospfd
