import Ospfd.Protocol.Conduct

/-!
# What is sent

* `Sends A s t` — between two states packets of a kind were sent, and no others.
* `nbrEvent_sends`, `intfEvent_sends` — **the state machines send no updates**: Hellos,
  descriptions and requests only.
* `floodLsa_sends`, `refreshLsa_sends` — flooding and origination send no acknowledgments.
-/

namespace Ospfd

/-! ## Packets of a kind -/

/-- Between two states the packets that were sent are of a kind. -/
def Sends (A : Sent → Prop) (s t : Instance) : Prop :=
  ∃ new, t.sent = s.sent ++ new ∧ ∀ p ∈ new, A p

namespace Sends

variable {A B : Sent → Prop} {s t u : Instance}

theorem of_eq (h : t.sent = s.sent) : Sends A s t := ⟨[], by rw [h, List.append_nil], by simp⟩

theorem refl (s : Instance) : Sends A s s := of_eq rfl

theorem trans (h : Sends A s t) (h' : Sends A t u) : Sends A s u := by
  obtain ⟨new, hnew, hA⟩ := h
  obtain ⟨new', hnew', hA'⟩ := h'
  refine ⟨new ++ new', by rw [hnew', hnew, List.append_assoc], fun p hp => ?_⟩
  rcases List.mem_append.1 hp with hp | hp
  · exact hA p hp
  · exact hA' p hp

instance : Std.Refl (Sends A) := ⟨refl⟩

instance : IsTrans Instance (Sends A) := ⟨fun _ _ _ => trans⟩

theorem mono (hAB : ∀ p, A p → B p) (h : Sends A s t) : Sends B s t :=
  h.imp fun _ hnew => ⟨hnew.1, fun p hp => hAB p (hnew.2 p hp)⟩

/-- What was sent stays sent. -/
theorem subset (h : Sends A s t) {p : Sent} (hp : p ∈ s.sent) : p ∈ t.sent := by
  obtain ⟨new, hnew, -⟩ := h
  rw [hnew]
  exact List.mem_append_left _ hp

end Sends

section Primitives

variable {A : Sent → Prop}

theorem modify_sends {f : Instance → Instance} (h : ∀ s, (f s).sent = s.sent) :
    Eff.Within (Sends A) (Eff.modify f : Py Unit) := Eff.Within.modify fun s => .of_eq (h s)

theorem modifyNbr_sends (n : NbrRef) (f : OspfNeighbor → OspfNeighbor) :
    Eff.Within (Sends A) (modifyNbr n f) := modify_sends fun _ => rfl

theorem modifyIntf_sends (i : IntfId) (f : OspfInterface → OspfInterface) :
    Eff.Within (Sends A) (modifyIntf i f) := modify_sends fun _ => rfl

/-- One packet, or none. -/
theorem sendPacket_sends {i : IntfId} {pktType : Nat} {body : Bytes} {dest : IPv4Address}
    (hA : ∀ data, A ⟨i, dest, pktType, body, data⟩) :
    Eff.Within (Sends A) (sendPacket i pktType body dest) := by
  refine Eff.Within.read fun s => Eff.Within.when fun _ => ?_
  refine Eff.Within.bind (Eff.Within.lift _) fun data => Eff.Within.modify fun s => ?_
  exact ⟨[⟨i, dest, pktType, body, data⟩], rfl, by simpa using hA data⟩

/-- What is done with a result is done when there is one. -/
theorem lift_sends {α β : Type} {out : Except PyError α} {f : α → Py β}
    (hf : ∀ a, out = .ok a → Eff.Within (Sends A) (f a)) : Eff.Within (Sends A) (Eff.lift out >>= f) := by
  intro s
  rw [Eff.lift_bind_apply]
  rcases out with e | a
  · exact .refl s
  · exact hf a rfl s

end Primitives

/-! ## The state machines -/

/-- What sends descriptions and requests only. -/
theorem Sends.conducts {A : Sent → Prop} (hA : ∀ p, p.pktType ≠ packetTypeHello → p.pktType < packetTypeLsu → A p) :
    Conducts (fun t => t < packetTypeLsu) (fun _ => True) (Sends A) := by
  have hdesc : ∀ i dest body data, A ⟨i, dest, packetTypeDd, body, data⟩ := fun _ _ _ _ =>
    hA _ (by decide : packetTypeDd ≠ packetTypeHello) (by decide : packetTypeDd < packetTypeLsu)
  have hdd : ∀ n flags lsaHeaders, Eff.Within (Sends A) (sendDd n flags lsaHeaders) := fun n _ _ =>
    Eff.Within.read fun s => Eff.Within.bind (Eff.Within.lift _) fun body =>
      Eff.Within.bind (sendPacket_sends fun _ => hdesc _ _ _ _) fun _ => modifyNbr_sends n _
  constructor
  · exact fun h _ => .of_eq h.sent
  · exact fun i body dest ht hne _ => sendPacket_sends fun _ => hA _ hne ht
  · exact fun n flags => hdd n flags []
  · exact fun n flags => Eff.Within.read fun _ => Eff.Within.bind (modifyNbr_sends n _) fun _ => hdd n _ _
  · intro n
    refine Eff.Within.read fun s => ?_
    split
    · exact Eff.Within.pure ()
    · exact Eff.Within.bind (Eff.Within.lift _) fun body => sendPacket_sends fun _ => hdesc _ _ _ _
  · exact fun _ => .of_eq rfl

section Machines

variable {A : Sent → Prop} (hA : ∀ p, p.pktType < packetTypeLsu → A p)

include hA

theorem sendHello_sends (i : IntfId) : Eff.Within (Sends A) (sendHello i) :=
  sendHello_of_sends (fun _ _ _ => sendPacket_sends fun _ => hA _ (by decide : packetTypeHello < packetTypeLsu)) i

theorem retransmitLastDd_sends (n : NbrRef) : Eff.Within (Sends A) (retransmitLastDd n) :=
  (Sends.conducts fun p _ => hA p).repeats n

theorem sendLsRequest_sends (n : NbrRef) : Eff.Within (Sends A) (sendLsRequest n) :=
  (Sends.conducts fun p _ => hA p).sendLsRequest (fun _ => id) n

/-- **An event of a neighbor sends no update and no acknowledgment.** -/
theorem nbrEvent_sends (n : NbrRef) (evt : NbrEvent) : Eff.Within (Sends A) (nbrEvent n evt) :=
  (Sends.conducts fun p _ => hA p).nbrEvent (fun _ => id) n evt fun _ => trivial

/-- **Nor does an event of an interface.** -/
theorem intfEvent_sends (i : IntfId) (evt : IntfEvent) : Eff.Within (Sends A) (intfEvent i evt) :=
  (Sends.conducts fun p _ => hA p).intfEvent (fun _ => id) i evt fun _ => sendHello_sends hA i

theorem processHello_sends (i : IntfId) (hello : HelloPacket) (src routerId : IPv4Address) :
    Eff.Within (Sends A) (processHello i hello src routerId) :=
  (Sends.conducts fun p _ => hA p).processHello (fun _ => id) i hello src routerId

theorem processDd_sends (n : NbrRef) (dd : DDPacket) : Eff.Within (Sends A) (processDd n dd) :=
  fun _ => (Sends.conducts fun p _ => hA p).processDd (fun _ => id) n dd fun _ => trivial

/-- On the way to a retransmission list no update is sent. -/
theorem addRetransmission_sends (r : LsaRef) (n : NbrRef) :
    Eff.Within (Sends A) (addRetransmission r n) :=
  (Sends.conducts fun p _ => hA p).addRetransmission (fun _ => id) r n

end Machines

/-! ## Updates -/

section Updates

variable {A : Sent → Prop}

theorem serializeLsa_sends (r : LsaRef) : Eff.Within (Sends A) (serializeLsa r) :=
  Eff.Within.read fun _ => Eff.Within.bind (modify_sends fun _ => rfl) fun _ => Eff.Within.lift _

theorem serializeLsas_sends : ∀ rs : List LsaRef, Eff.Within (Sends A) (serializeLsas rs)
  | [] => Eff.Within.pure _
  | r :: rs => Eff.Within.bind (serializeLsa_sends r) fun _ =>
      Eff.Within.bind (serializeLsas_sends rs) fun _ => Eff.Within.pure _

theorem serializeLsu_sends (rs : List LsaRef) : Eff.Within (Sends A) (serializeLsu rs) :=
  Eff.Within.bind (Eff.Within.lift _) fun _ =>
    Eff.Within.bind (serializeLsas_sends rs) fun _ => Eff.Within.pure _

theorem serializeLsack_sends (rs : List LsaRef) : Eff.Within (Sends A) (serializeLsack rs) :=
  Eff.Within.read fun _ => Eff.Within.lift _

theorem scheduleSpf_sends : Eff.Within (Sends A) scheduleSpf := by
  refine modify_sends fun s => ?_
  split <;> rfl

section Flood

variable (hA : ∀ p, p.pktType ≤ packetTypeLsu → A p)

include hA

/-- What sends no acknowledgment. -/
theorem Sends.maintains : Maintains (fun t => t ≤ packetTypeLsu) (fun _ => True) (Sends A) :=
  { Sends.conducts fun p _ hp => hA p (Nat.le_of_lt hp) with
    sends := fun _ _ _ ht _ _ => sendPacket_sends fun _ => hA _ ht
    files := fun h => .of_eq h.sent }

/-- **Flooding sends no acknowledgment.** -/
theorem floodLsa_sends (r : LsaRef) (areaId : IPv4Address) (recvIntf : Option IntfId) :
    Eff.Within (Sends A) (floodLsa r areaId recvIntf) :=
  (Sends.maintains hA).floodLsa (fun _ => id) r areaId recvIntf

theorem refreshLsa_sends (areaId : IPv4Address) (r : LsaRef) :
    Eff.Within (Sends A) (refreshLsa areaId r) :=
  (Sends.maintains hA).refreshLsa (fun _ => id) areaId r

end Flood

/-- What sends no Hello. -/
theorem Sends.unhailing : Maintains (fun _ => True) (fun _ => True) (Sends fun p => p.pktType ≠ packetTypeHello) :=
  { Sends.conducts fun _ hne _ => hne with
    sends := fun _ _ _ _ hne _ => sendPacket_sends fun _ => hne
    files := fun h => .of_eq h.sent }

/-- What was sent stays sent, whatever else is sent. -/
abbrev Adds : Instance → Instance → Prop := Sends fun _ => True

theorem Adds.maintains : Maintains (fun _ => True) (fun _ => True) Adds :=
  { Sends.maintains (A := fun _ => True) fun _ _ => trivial with
    sends := fun _ _ _ _ _ _ => sendPacket_sends fun _ => trivial }

theorem sendPacket_adds (i : IntfId) (pktType : Nat) (body : Bytes) (dest : IPv4Address) :
    Eff.Within Adds (sendPacket i pktType body dest) := sendPacket_sends fun _ => trivial

theorem nbrEvent_adds (n : NbrRef) (evt : NbrEvent) : Eff.Within Adds (nbrEvent n evt) :=
  nbrEvent_sends (fun _ _ => trivial) n evt

theorem sendLsUpdate_adds (n : NbrRef) (rs : List LsaRef) : Eff.Within Adds (sendLsUpdate n rs) :=
  Adds.maintains.sendLsUpdate (fun _ _ => trivial) n rs

theorem floodLsa_adds (r : LsaRef) (areaId : IPv4Address) (recvIntf : Option IntfId) :
    Eff.Within Adds (floodLsa r areaId recvIntf) := floodLsa_sends (fun _ _ => trivial) r areaId recvIntf

theorem refreshLsa_adds (areaId : IPv4Address) (r : LsaRef) : Eff.Within Adds (refreshLsa areaId r) :=
  refreshLsa_sends (fun _ _ => trivial) areaId r

end Updates

end Ospfd
