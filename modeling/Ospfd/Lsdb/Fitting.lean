import Ospfd.Lsdb.Queued
import Ospfd.Lsdb.Silence
import Ospfd.Packet.Codecs

/-!
# Whether what is sent fits

The code that builds packets with an unbounded number of neighbors, headers, items or LSAs, and
the lengths of the bodies it hands to `send_packet`.

* `SendCall` — that code; `SendCall.built` — the body it builds, and what the body carries.
* `run_sends` — what is sent of its kind is what it builds.
* `SendCall.Fits` — the body fits the length field, and the MTU when it carries more than one of
  them; requests and queued acknowledgments are answered in whole.
* `SendCall.Roomy` — how much may wait to be sent.
* `SendCall.fits_iff` — **what is sent fits** exactly when so much waits.
-/

namespace Ospfd

variable {s t : Instance} {n : NbrRef} {i : IntfId}

/-! ## Lengths -/

theorem HelloPacket.length_of_serialize {hello : HelloPacket} {b : Bytes} (h : hello.serialize = .ok b) :
    b.length = 20 + 4 * hello.neighbors.length := by
  obtain ⟨data, hdata, h⟩ := bind_eq_ok h
  cases h
  have hlen : data.length = 20 := length_of_pack hdata hello.filled_values
  rw [List.length_append, hlen, length_addresses]

theorem DDPacket.length_of_serialize {dd : DDPacket} {b : Bytes} (h : dd.serialize = .ok b) :
    b.length = 8 + 20 * dd.lsaHeaders.length := by
  obtain ⟨b', hb', hlen, -⟩ := deserialize_serialize (wireRange_of_serialize h)
  rw [h, Except.ok.injEq] at hb'
  rw [hb']
  exact hlen

theorem LsrPacket.length_of_serialize {lsr : LsrPacket} {b : Bytes} (h : lsr.serialize = .ok b) :
    b.length = 12 * lsr.items.length := by
  refine length_of_serializeAll (fun item _ b' hb' => ?_) h
  refine length_of_pack hb' ?_
  exact .cons nofun (.cons (filled_packed _) (.cons (filled_packed _) .nil))

/-! ## The code that sends -/

/-- The Hello, DD, LS Request, LS Update reply and delayed acknowledgment code: `_send_hello`, the
first description, `_send_dd_master`, `_send_dd_slave`, `_retransmit_last_dd`, `_send_ls_request`,
`process_ls_request` and `_flush_delayed_acks`. -/
inductive SendCall where
  | hello (i : IntfId)
  | ddFirst (n : NbrRef)
  | ddMaster (n : NbrRef)
  | ddSlave (n : NbrRef)
  | ddAgain (n : NbrRef)
  | lsRequest (n : NbrRef)
  | lsReply (n : NbrRef) (lsr : LsrPacket)
  | acks (i : IntfId)

/-- The next batch of the summary list, as it would be sent now. -/
def batchOf (s : Instance) (n : NbrRef) (flags : Nat) : SentDD :=
  ddOf s n (if (s.nbr n).dbSummaryList.drop (maxDdHeaders s n) = [] then flags else ddFlagM ||| flags)
    ((s.nbr n).dbSummaryList.take (maxDdHeaders s n))

namespace SendCall

/-- The interface it sends on. -/
def intf : SendCall → IntfId
  | .hello i | .acks i => i
  | .ddFirst n | .ddMaster n | .ddSlave n | .ddAgain n | .lsRequest n | .lsReply n _ => n.intf

def pktType : SendCall → Nat
  | .hello _ => packetTypeHello
  | .ddFirst _ | .ddMaster _ | .ddSlave _ | .ddAgain _ => packetTypeDd
  | .lsRequest _ => packetTypeLsr
  | .lsReply _ _ => packetTypeLsu
  | .acks _ => packetTypeLsack

def run : SendCall → Py Unit
  | .hello i => sendHello i
  | .ddFirst n => sendDd n (ddFlagI ||| ddFlagM ||| ddFlagMS) []
  | .ddMaster n => sendDdMaster n
  | .ddSlave n => sendDdSlave n
  | .ddAgain n => retransmitLastDd n
  | .lsRequest n => sendLsRequest n
  | .lsReply n lsr => processLsRequest n lsr
  | .acks i => flushDelayedAcks i

/-- How many LSAs, headers or request items the packet carries, and its body or the exception that
building it raises; `none` where no packet is built.  A Hello carries none of them. -/
def built (s : Instance) : SendCall → Option (Nat × Except PyError Bytes)
  | .hello i => if (s.intf i).passive then none else some (0, (helloOf s i).serialize)
  | .ddFirst n => some (0, ((ddOf s n (ddFlagI ||| ddFlagM ||| ddFlagMS) []).packet s.heap).serialize)
  | .ddMaster n =>
      some ((batchOf s n ddFlagMS).lsaHeaders.length, ((batchOf s n ddFlagMS).packet s.heap).serialize)
  | .ddSlave n => some ((batchOf s n 0).lsaHeaders.length, ((batchOf s n 0).packet s.heap).serialize)
  | .ddAgain n =>
      (s.nbr n).lastSentDd.map fun dd => (dd.lsaHeaders.length, (dd.packet s.heap).serialize)
  | .lsRequest n =>
      let batch := (s.nbr n).lsRequestList.values.take 10
      if (s.nbr n).lsRequestList.entries = [] then none
      else some (batch.length, LsrPacket.serialize { items := batch.map LsrItem.ofHeader })
  | .lsReply n lsr =>
      if NbrState.exchange ≤ (s.nbr n).state then
        match requestedLsas s (s.intf n.intf).areaId lsr.items with
        | none => none
        | some lsas => if lsas = [] then none else some (lsas.length, (serializeLsu lsas s).1)
      else none
  | .acks i =>
      let acks := (s.intf i).delayedAcks
      if acks = [] then none else some (acks.length, (serializeLsack acks s).1)

/-- Whether it is to send all it has, at once. -/
def Whole : SendCall → Prop
  | .lsReply _ _ | .acks _ => True
  | _ => False

end SendCall

/-! ## What is sent -/

section Sent

variable {A : Sent → Prop}

/-- A body that fits is sent, with a socket. -/
theorem sendPacket_sent {pktType : Nat} {body : Bytes} (dest : IPv4Address) (htype : pktType < 256)
    (hfit : OspfHeader.size + body.length < 65536) (s : Instance) :
    ∃ t, sendPacket i pktType body dest s = (.ok (), t) ∧
      ((s.intf i).socket = true → ∃ data, t.sent = s.sent ++ [⟨i, dest, pktType, body, data⟩]) := by
  obtain ⟨data, cryptSeq, hsent⟩ := sendPacket_returns i dest htype hfit s
  exact ⟨_, hsent, fun hsock => ⟨data, if_pos hsock⟩⟩

theorem sendDd_hands {flags : Nat} {lsaHeaders : List LsaRef} (s : Instance)
    (hA : ∀ dest body data, ((ddOf s n flags lsaHeaders).packet s.heap).serialize = .ok body →
      A ⟨n.intf, dest, packetTypeDd, body, data⟩) : Sends A s (sendDd n flags lsaHeaders s).2 := by
  rw [sendDd, Eff.get_bind_apply]
  refine lift_sends (fun body hbody => ?_) s
  exact Eff.Within.bind (sendPacket_sends fun data => hA _ body data hbody) fun _ => modifyNbr_sends n _

theorem sendDdBatch_hands {flags : Nat} (s : Instance)
    (hA : ∀ dest body data, ((batchOf s n flags).packet s.heap).serialize = .ok body →
      A ⟨n.intf, dest, packetTypeDd, body, data⟩) : Sends A s (sendDdBatch n flags s).2 := by
  let t : Instance := s.setNbr n { s.nbr n with dbSummaryList := (s.nbr n).dbSummaryList.drop (maxDdHeaders s n) }
  have hsame : ∀ flags lsaHeaders, ddOf t n flags lsaHeaders = ddOf s n flags lsaHeaders := by
    intro flags lsaHeaders
    rw [ddOf, ddOf, Instance.nbr_setNbr_self]
    rfl
  rw [sendDdBatch, Eff.get_bind_apply, modifyNbr_bind_apply]
  refine Sends.trans (.of_eq rfl : Sends A s t) (sendDd_hands t fun dest body data hbody => hA dest body data ?_)
  rw [hsame] at hbody
  exact hbody

/-- **What is sent of its kind is what it builds.** -/
theorem SendCall.run_sends (op : SendCall) (s : Instance) :
    Sends (fun p => p.pktType = op.pktType → ∃ count, op.built s = some (count, .ok p.body)) s (op.run s).2 := by
  cases op with
  | hello i =>
    simp only [run, built, sendHello, Eff.get_bind_apply]
    by_cases hpassive : (s.intf i).passive = true
    · rw [Eff.when_neg (by simpa using hpassive)]
      exact .refl s
    · rw [Eff.when_pos hpassive, if_neg hpassive]
      have hone : ∀ dest, Eff.Within (Sends fun p => p.pktType = packetTypeHello →
          ∃ count, some (0, (helloOf s i).serialize) = some (count, .ok p.body)) (do
            let body ← Eff.lift (helloOf s i).serialize
            sendPacket i packetTypeHello body dest) := fun dest =>
        lift_sends fun body hbody => sendPacket_sends fun _ _ => ⟨0, by rw [hbody]⟩
      cases (s.intf i).intfType with
      | broadcast => exact hone _ s
      | p2p => exact hone _ s
      | p2mp => exact hone _ s
      | nbma => exact Eff.Within.forEach (fun n _ => hone _) s
      | virtual => exact Eff.Within.forEach (fun n _ => hone _) s
  | ddFirst n => exact sendDd_hands s fun dest body data hbody _ => ⟨0, by rw [built, hbody]⟩
  | ddMaster n => exact sendDdBatch_hands s fun dest body data hbody _ => ⟨_, by rw [built, hbody]⟩
  | ddSlave n => exact sendDdBatch_hands s fun dest body data hbody _ => ⟨_, by rw [built, hbody]⟩
  | ddAgain n =>
    simp only [run, built, retransmitLastDd, Eff.get_bind_apply]
    rcases (s.nbr n).lastSentDd with _ | dd
    · exact .refl s
    · refine lift_sends (fun body hbody => ?_) s
      exact sendPacket_sends fun _ _ => ⟨_, by rw [Option.map_some, hbody]⟩
  | lsRequest n =>
    simp only [run, built, sendLsRequest, Eff.get_bind_apply]
    by_cases hempty : (s.nbr n).lsRequestList.entries = []
    · rw [Eff.when_neg (not_not_intro hempty)]
      exact .refl s
    · rw [Eff.when_pos hempty, if_neg hempty]
      refine lift_sends (fun body hbody => ?_) s
      refine Eff.Within.bind (sendPacket_sends fun _ _ => ⟨_, by rw [hbody]⟩) fun _ => modifyNbr_sends n _
  | lsReply n lsr =>
    simp only [run, built, processLsRequest, Eff.get_bind_apply]
    by_cases hst : NbrState.exchange ≤ (s.nbr n).state
    · rw [Eff.when_pos hst, if_pos hst]
      rcases requestedLsas s (s.intf n.intf).areaId lsr.items with _ | lsas
      · refine nbrEvent_sends (fun p hp htype => ?_) n .badLsReq s
        exact absurd htype (Nat.ne_of_lt hp)
      · dsimp only
        by_cases hempty : lsas = []
        · rw [sendLsUpdate, Eff.get_bind_apply, Eff.when_neg (not_not_intro hempty)]
          exact .refl s
        · rw [sendLsUpdate, Eff.get_bind_apply, Eff.when_pos hempty, if_neg hempty]
          refine Eff.bind_final (serializeLsu_sends lsas s) fun body hbody => ?_
          refine (serializeLsu_sends lsas s).trans (sendPacket_sends (fun _ _ => ⟨lsas.length, ?_⟩) _)
          rw [hbody]
    · rw [Eff.when_neg hst]
      exact .refl s
  | acks i =>
    simp only [run, built, flushDelayedAcks, Eff.get_bind_apply]
    by_cases hempty : (s.intf i).delayedAcks = []
    · rw [Eff.when_neg (not_not_intro hempty)]
      exact .refl s
    · rw [Eff.when_pos hempty, if_neg hempty, modifyIntf_bind_apply]
      refine lift_sends (fun body hbody => ?_) _
      exact sendPacket_sends fun _ _ => ⟨_, by rw [← hbody]; rfl⟩

end Sent

/-! ## What fits -/

def ipHeaderSize : Nat := 20

/-- The length of an LSA as it is written. -/
def Instance.lsaSize (s : Instance) (r : LsaRef) : Nat :=
  match (s.heap.obj r).bodyBytes with
  | .ok b => LsaHeader.size + b.length
  | .error _ => 0

namespace SendCall

/-- In which states of a run the code is called: Hellos also while the interface comes up, when its
state and timers are already set but not its table.  Descriptions and requests are sent in the
midst of events, and no state is excluded for them. -/
def Called (s : Instance) : SendCall → Prop
  | .hello i => ∃ s₀, Ran Instance.Fresh s₀ ∧ (s.intf i).neighbors = (s₀.intf i).neighbors
  | .lsReply _ _ | .acks _ => Ran Instance.Fresh s
  | _ => True

/-- What is built fits, and what is to be sent in whole is sent. -/
structure Fits (op : SendCall) (s : Instance) : Prop where
  /-- Every body that is handed to `send_packet`. -/
  size : ∀ count body, op.built s = some (count, .ok body) →
    OspfHeader.size + body.length < 65536 ∧
      (1 < count → ipHeaderSize + OspfHeader.size + body.length ≤ (s.intf op.intf).mtu)
  /-- No exception, and with a socket one packet with all there is. -/
  whole : op.Whole → ∀ count out, op.built s = some (count, out) → ∃ body t,
    out = .ok body ∧ op.run s = (.ok (), t) ∧ ((s.intf op.intf).socket = true →
      ∃ dest data, t.sent = s.sent ++ [⟨op.intf, dest, op.pktType, body, data⟩])

/-- How much may wait: less than a full batch of headers, as many queued headers as fit an IP
packet, and a request for no more than an update, and an IP packet, holds. -/
def Roomy (s : Instance) : SendCall → Prop
  | .hello _ | .ddFirst _ | .lsRequest _ => True
  | .ddMaster n => ((batchOf s n ddFlagMS).packet s.heap).WireRange →
      (s.nbr n).dbSummaryList.length < maxDdHeaders s n
  | .ddSlave n => ((batchOf s n 0).packet s.heap).WireRange →
      (s.nbr n).dbSummaryList.length < maxDdHeaders s n
  | .ddAgain n => ∀ dd, (s.nbr n).lastSentDd = some dd → (dd.packet s.heap).WireRange →
      32 + 20 * dd.lsaHeaders.length < 65536 ∧
        (1 < dd.lsaHeaders.length → 52 + 20 * dd.lsaHeaders.length ≤ (s.intf n.intf).mtu)
  | .lsReply n lsr => .exchange ≤ (s.nbr n).state →
      ∀ lsas, requestedLsas s (s.intf n.intf).areaId lsr.items = some lsas →
        28 + (lsas.map s.lsaSize).sum < 65536 ∧
          (1 < lsas.length → 48 + (lsas.map s.lsaSize).sum ≤ (s.intf n.intf).mtu)
  | .acks i => 1 < (s.intf i).delayedAcks.length → 44 + 20 * (s.intf i).delayedAcks.length ≤ (s.intf i).mtu

end SendCall

/-! ### Descriptions -/

theorem SentDD.length_of_serialize {dd : SentDD} {heap : LsaHeap} {b : Bytes}
    (h : (dd.packet heap).serialize = .ok b) : b.length = 8 + 20 * dd.lsaHeaders.length := by
  rw [DDPacket.length_of_serialize h, packet, List.length_map]

/-- A batch fits the MTU exactly when it is not full: the formula leaves no room for the IP header. -/
theorem batch_fits_iff {flags : Nat} (hmtu : 576 ≤ (s.intf n.intf).mtu) :
    (1 < (batchOf s n flags).lsaHeaders.length →
      52 + 20 * (batchOf s n flags).lsaHeaders.length ≤ (s.intf n.intf).mtu) ↔
      (s.nbr n).dbSummaryList.length < maxDdHeaders s n := by
  have hlen : (batchOf s n flags).lsaHeaders.length =
      min (maxDdHeaders s n) (s.nbr n).dbSummaryList.length := List.length_take
  rw [hlen, maxDdHeaders]
  omega

/-- No batch is longer than the length field allows. -/
theorem batch_lt (s : Instance) (n : NbrRef) (flags : Nat) (hmtu : 576 ≤ (s.intf n.intf).mtu) :
    32 + 20 * (batchOf s n flags).lsaHeaders.length < 65536 := by
  have hlen : (batchOf s n flags).lsaHeaders.length =
      min (maxDdHeaders s n) (s.nbr n).dbSummaryList.length := List.length_take
  have hlt := (s.intf n.intf).mtu_lt
  rw [hlen, maxDdHeaders]
  omega

/-! ### Updates -/

theorem lsaSize_of_body {r : LsaRef} {body : Bytes} (h : (s.heap.obj r).bodyBytes = .ok body) :
    s.lsaSize r = LsaHeader.size + body.length := by
  rw [Instance.lsaSize, h]

/-- Writing one LSA changes the size of none. -/
theorem lsaSize_written (s : Instance) (r r' : LsaRef) : (s.written r).lsaSize r' = s.lsaSize r' := by
  have hbody : ((s.written r).heap.obj r').bodyBytes = (s.heap.obj r').bodyBytes := by
    rw [Instance.written, LsaHeap.obj_set]
    split
    · rename_i heq
      rcases Lsa.serialize_written (s.heap.obj r) s.now with h | ⟨n, c, h⟩
      · rw [h, heq]
      · rw [h, heq]
        rfl
    · rfl
  rw [Instance.lsaSize, Instance.lsaSize, hbody]

theorem canPack_written {r r' : LsaRef} (h : s.CanPack r') : (s.written r).CanPack r' := by
  refine ⟨h.1, ?_⟩
  rw [Instance.written, LsaHeap.obj_set]
  split
  · rename_i heq
    rw [← heq]
    exact h.2.serialize s.now
  · exact h.2

theorem serializeLsa_returns {r : LsaRef} (h : s.CanPack r) :
    ∃ b, serializeLsa r s = (.ok b, s.written r) ∧ b.length = s.lsaSize r := by
  obtain ⟨body, hbody, hlen⟩ := h.2.body
  obtain ⟨hdr, c, -, -, -, -, heq⟩ := Lsa.serialize_eq s.now h.2.header hbody hlen
  have hone : serializeLsa r s = (((s.heap.obj r).serialize s.now).1, s.written r) := rfl
  refine ⟨_, by rw [hone, heq], ?_⟩
  rw [List.length_append, LsaHeader.length_bytes, lsaSize_of_body hbody]

/-- LSAs that can be packed are written, one by one. -/
theorem serializeLsas_returns : ∀ {rs : List LsaRef} {s : Instance}, (∀ r ∈ rs, s.CanPack r) →
    ∃ b heap, serializeLsas rs s = (.ok b, { s with heap }) ∧ b.length = (rs.map s.lsaSize).sum
  | [], s, _ => ⟨[], s.heap, rfl, rfl⟩
  | r :: rs, s, h => by
    obtain ⟨b, hb, hlen⟩ := serializeLsa_returns (h r (List.mem_cons_self ..))
    have hrest : ∀ r' ∈ rs, (s.written r).CanPack r' := fun r' hr' => canPack_written (h r' (List.mem_cons_of_mem _ hr'))
    obtain ⟨bs, heap, hbs, hlens⟩ := serializeLsas_returns hrest
    refine ⟨b ++ bs, heap, ?_, ?_⟩
    · rw [serializeLsas, Eff.bind_apply_ok hb, Eff.bind_apply_ok hbs]
      rfl
    · have hsame : (s.written r).lsaSize = s.lsaSize := funext (lsaSize_written s r)
      rw [List.length_append, hlen, hlens, hsame, List.map_cons, List.sum_cons]

/-- The update is written when its LSAs can be counted. -/
theorem serializeLsu_returns {rs : List LsaRef} (h : ∀ r ∈ rs, s.CanPack r) (hcount : rs.length < 4294967296) :
    ∃ b heap, serializeLsu rs s = (.ok b, { s with heap }) ∧ b.length = 4 + (rs.map s.lsaSize).sum := by
  obtain ⟨bs, heap, hbs, hlens⟩ := serializeLsas_returns h
  obtain ⟨c, hc, hlen, -⟩ := Struct.pack_of_fits (.cons hcount .nil : List.Forall₂ Struct.Fits [.I] [.nat rs.length])
  have hpack : (pack [.I] [.nat rs.length] : Except PyError Bytes) = .ok c := by rw [pack, hc]
  refine ⟨c ++ bs, heap, ?_, ?_⟩
  · rw [serializeLsu, Eff.lift_bind_apply, hpack]
    dsimp only
    rw [Eff.bind_apply_ok hbs]
    rfl
  · rw [List.length_append, hlen, hlens]
    rfl

/-- Every LSA has a header. -/
theorem length_le_sizes : ∀ {rs : List LsaRef}, (∀ r ∈ rs, s.CanPack r) → rs.length ≤ (rs.map s.lsaSize).sum
  | [], _ => le_rfl
  | r :: rs, h => by
    obtain ⟨body, hbody, -⟩ := (h r (List.mem_cons_self ..)).2.body
    have hrest : rs.length ≤ (rs.map s.lsaSize).sum := length_le_sizes fun r' hr' => h r' (List.mem_cons_of_mem _ hr')
    rw [List.map_cons, List.sum_cons, List.length_cons, lsaSize_of_body hbody, LsaHeader.size]
    omega

theorem count_of_serializeLsu {rs : List LsaRef} {b : Bytes} (h : (serializeLsu rs s).1 = .ok b) :
    rs.length < 4294967296 := by
  rw [serializeLsu, Eff.lift_bind_apply] at h
  rcases hc : (pack [.I] [.nat rs.length] : Except PyError Bytes) with e | c
  · rw [hc] at h
    cases h
  · rw [pack] at hc
    split at hc
    · rename_i b' hb'
      have hfilled : Struct.Filled .I (.nat rs.length) := by rintro n bs ⟨⟩
      have hfits := Struct.fits_of_pack hb' (.cons hfilled .nil)
      rw [List.forall₂_cons] at hfits
      exact hfits.1
    · cases hc

theorem mem_getAllHeaders_of_lookup {db : LinkStateDatabase} {areaId : IPv4Address} {key : LsaKey} {r : LsaRef}
    (h : db.lookup areaId key = some r) : r ∈ db.getAllHeaders areaId := by
  rw [LinkStateDatabase.lookup] at h
  rw [LinkStateDatabase.getAllHeaders, List.mem_append]
  split at h
  · exact .inr (Dict.mem_values_iff.2 ⟨key, h⟩)
  · exact .inl (Dict.mem_values_iff.2 ⟨key, h⟩)

/-- What is requested is stored. -/
theorem stored_of_requestedLsas {areaId : IPv4Address} : ∀ {items : List LsrItem} {lsas : List LsaRef},
    requestedLsas s areaId items = some lsas → ∀ r ∈ lsas, r ∈ s.lsdb.getAllHeaders areaId
  | [], _, h, r, hr => by
    cases h
    cases hr
  | item :: items, lsas, h, r, hr => by
    rw [requestedLsas] at h
    split at h
    · cases h
    · rename_i r' hlook
      obtain ⟨rest, hrest, rfl⟩ := Option.map_eq_some_iff.1 h
      rcases List.mem_cons.1 hr with rfl | hr
      · exact mem_getAllHeaders_of_lookup hlook
      · exact stored_of_requestedLsas hrest r hr

/-! ### Acknowledgments -/

/-- Queued headers are written in whole. -/
theorem serializeLsack_all {rs : List LsaRef} (h : ∀ r ∈ rs, s.CanPack r) :
    ∃ b, serializeLsack rs s = (.ok b, s) ∧ b.length = 20 * rs.length := by
  have hheaders : ∀ hdr ∈ rs.map fun r => (s.heap.obj r).header, hdr.WireRange := by
    intro hdr hhdr
    obtain ⟨r, hr, rfl⟩ := List.mem_map.1 hhdr
    exact (h r hr).2.header
  obtain ⟨b, hb, hlen, -⟩ := readHeaders_serializeAll hheaders
  rw [List.length_map] at hlen
  refine ⟨b, ?_, hlen⟩
  rw [serializeLsack, Eff.get_bind_apply]
  exact congrArg (·, s) hb

/-! ## Exactly when it fits -/

namespace SendCall

variable {op : SendCall}

/-- Where nothing need be sent in whole, the bodies decide. -/
theorem fits_of_size (hwhole : ¬op.Whole) (hsize : ∀ count body, op.built s = some (count, .ok body) →
    OspfHeader.size + body.length < 65536 ∧
      (1 < count → ipHeaderSize + OspfHeader.size + body.length ≤ (s.intf op.intf).mtu)) : op.Fits s :=
  ⟨hsize, fun h => absurd h hwhole⟩

/-- The Hello of an interface has a table within the limit. -/
theorem hello_fits (h : (s.intf i).neighbors.length ≤ maxNeighbors) : (SendCall.hello i).Fits s := by
  refine fits_of_size id fun count body hbuilt => ?_
  rw [built] at hbuilt
  split at hbuilt
  · cases hbuilt
  · rw [Option.some.injEq, Prod.mk.injEq] at hbuilt
    obtain ⟨rfl, hbody⟩ := hbuilt
    have hneighbors : (helloOf s i).neighbors.length ≤ (s.intf i).neighbors.length := by
      refine (le_of_eq (List.length_map _)).trans ((List.length_filter_le _ _).trans ?_)
      exact le_of_eq (List.length_map _)
    have hlen := HelloPacket.length_of_serialize hbody
    rw [maxNeighbors] at h
    rw [OspfHeader.size]
    exact ⟨by omega, fun hone => absurd hone (by decide)⟩

theorem ddFirst_fits (s : Instance) (n : NbrRef) : (SendCall.ddFirst n).Fits s := by
  refine fits_of_size id fun count body hbuilt => ?_
  rw [built, Option.some.injEq, Prod.mk.injEq] at hbuilt
  obtain ⟨rfl, hbody⟩ := hbuilt
  rw [SentDD.length_of_serialize hbody]
  exact ⟨(by decide : OspfHeader.size + (8 + 20 * 0) < 65536), fun hone => absurd hone (by decide)⟩

theorem lsRequest_fits (hmtu : 576 ≤ (s.intf n.intf).mtu) : (SendCall.lsRequest n).Fits s := by
  refine fits_of_size id fun count body hbuilt => ?_
  simp only [built] at hbuilt
  split at hbuilt
  · cases hbuilt
  · rw [Option.some.injEq, Prod.mk.injEq] at hbuilt
    obtain ⟨-, hbody⟩ := hbuilt
    have hlen := LsrPacket.length_of_serialize hbody
    rw [List.length_map, List.length_take] at hlen
    have hten : body.length ≤ 120 := by omega
    rw [OspfHeader.size, ipHeaderSize]
    exact ⟨by omega, fun _ => le_trans (by omega) hmtu⟩

/-- A description fits exactly when its headers do. -/
theorem dd_fits_iff {dd : SentDD} (hwhole : ¬op.Whole)
    (hbuilt : op.built s = some (dd.lsaHeaders.length, (dd.packet s.heap).serialize)) :
    op.Fits s ↔ ((dd.packet s.heap).WireRange → 32 + 20 * dd.lsaHeaders.length < 65536 ∧
      (1 < dd.lsaHeaders.length → 52 + 20 * dd.lsaHeaders.length ≤ (s.intf op.intf).mtu)) := by
  constructor
  · intro h hw
    obtain ⟨body, hbody, hlen, -⟩ := DDPacket.deserialize_serialize hw
    have hsize := h.size _ body (by rw [hbuilt, hbody])
    rw [SentDD.length_of_serialize hbody, OspfHeader.size, ipHeaderSize] at hsize
    refine ⟨by omega, fun hone => ?_⟩
    have := hsize.2 hone
    omega
  · intro h
    refine fits_of_size hwhole fun count body hb => ?_
    rw [hbuilt, Option.some.injEq, Prod.mk.injEq] at hb
    obtain ⟨rfl, hbody⟩ := hb
    have hsize := h (DDPacket.wireRange_of_serialize hbody)
    rw [SentDD.length_of_serialize hbody, OspfHeader.size, ipHeaderSize]
    refine ⟨by omega, fun hone => ?_⟩
    have := hsize.2 hone
    omega

/-- A batch fits exactly when it is not full. -/
theorem batch_iff {flags : Nat} (hwhole : ¬op.Whole) (hintf : op.intf = n.intf)
    (hbuilt : op.built s = some ((batchOf s n flags).lsaHeaders.length,
      ((batchOf s n flags).packet s.heap).serialize)) (hmtu : 576 ≤ (s.intf n.intf).mtu) :
    op.Fits s ↔ (((batchOf s n flags).packet s.heap).WireRange →
      (s.nbr n).dbSummaryList.length < maxDdHeaders s n) := by
  rw [dd_fits_iff hwhole hbuilt, hintf, batch_fits_iff hmtu, and_iff_right (batch_lt s n flags hmtu)]

theorem ddAgain_fits_iff : (SendCall.ddAgain n).Fits s ↔ (SendCall.ddAgain n).Roomy s := by
  rw [Roomy]
  rcases hlast : (s.nbr n).lastSentDd with _ | dd
  · refine iff_of_true (fits_of_size id fun count body hbuilt => ?_) nofun
    rw [built, hlast] at hbuilt
    cases hbuilt
  · have hbuilt : (SendCall.ddAgain n).built s = some (dd.lsaHeaders.length, (dd.packet s.heap).serialize) := by
      rw [built, hlast]
      rfl
    rw [dd_fits_iff id hbuilt]
    exact ⟨fun h _ heq => Option.some.inj heq ▸ h, fun h => h dd rfl⟩

/-- What is sent in whole fits exactly when its body does. -/
theorem whole_fits_iff {count length : Nat} {out : Except PyError Bytes}
    (hbuilt : op.built s = some (count, out)) (hout : ∃ body, out = .ok body ∧ body.length = length)
    (hrun : ∀ body, out = .ok body → OspfHeader.size + body.length < 65536 → ∃ t, op.run s = (.ok (), t) ∧
      ((s.intf op.intf).socket = true →
        ∃ dest data, t.sent = s.sent ++ [⟨op.intf, dest, op.pktType, body, data⟩])) :
    op.Fits s ↔ OspfHeader.size + length < 65536 ∧
      (1 < count → ipHeaderSize + OspfHeader.size + length ≤ (s.intf op.intf).mtu) := by
  obtain ⟨body, rfl, rfl⟩ := hout
  constructor
  · exact fun h => h.size count body hbuilt
  · intro h
    refine ⟨fun count' body' hb => ?_, fun _ count' out' hb => ?_⟩
    · rw [hbuilt, Option.some.injEq, Prod.mk.injEq, Except.ok.injEq] at hb
      obtain ⟨rfl, rfl⟩ := hb
      exact h
    · rw [hbuilt, Option.some.injEq, Prod.mk.injEq] at hb
      obtain ⟨rfl, rfl⟩ := hb
      obtain ⟨t, hrun, hsent⟩ := hrun body rfl h.1
      exact ⟨body, t, rfl, hrun, hsent⟩

theorem lsReply_fits_iff {lsr : LsrPacket} (h : s.Describable) :
    (SendCall.lsReply n lsr).Fits s ↔ (SendCall.lsReply n lsr).Roomy s := by
  have hnone : (SendCall.lsReply n lsr).built s = none → (SendCall.lsReply n lsr).Fits s := by
    intro hb
    constructor
    · intro count body hbuilt
      rw [hb] at hbuilt
      cases hbuilt
    · intro _ count out hbuilt
      rw [hb] at hbuilt
      cases hbuilt
  rw [Roomy]
  by_cases hst : .exchange ≤ (s.nbr n).state
  · rw [forall_prop_of_true hst]
    rcases hreq : requestedLsas s (s.intf n.intf).areaId lsr.items with _ | lsas
    · exact iff_of_true (hnone (by rw [built, if_pos hst, hreq])) nofun
    · by_cases hempty : lsas = []
      · refine iff_of_true (hnone (by rw [built, if_pos hst, hreq]; exact if_pos hempty)) fun lsas' heq => ?_
        obtain rfl : lsas = lsas' := Option.some.inj heq
        rw [hempty]
        exact ⟨(by decide : 28 + 0 < 65536), nofun⟩
      · have hpack : ∀ r ∈ lsas, s.CanPack r := fun r hr => h _ r (stored_of_requestedLsas hreq r hr)
        have hbuilt : (SendCall.lsReply n lsr).built s = some (lsas.length, (serializeLsu lsas s).1) := by
          rw [built, if_pos hst, hreq]
          exact if_neg hempty
        have hroomy : (∀ lsas', some lsas = some lsas' → 28 + (lsas'.map s.lsaSize).sum < 65536 ∧
            (1 < lsas'.length → 48 + (lsas'.map s.lsaSize).sum ≤ (s.intf n.intf).mtu)) ↔
            OspfHeader.size + (4 + (lsas.map s.lsaSize).sum) < 65536 ∧ (1 < lsas.length →
              ipHeaderSize + OspfHeader.size + (4 + (lsas.map s.lsaSize).sum) ≤ (s.intf n.intf).mtu) := by
          rw [OspfHeader.size, ipHeaderSize]
          constructor
          · intro hall
            have := hall lsas rfl
            omega
          · rintro hall lsas' ⟨⟩
            omega
        rw [hroomy]
        by_cases hcount : lsas.length < 4294967296
        · obtain ⟨body, heap, hser, hlen⟩ := serializeLsu_returns hpack hcount
          refine whole_fits_iff hbuilt ⟨body, by rw [hser], hlen⟩ fun body' hbody' hfit => ?_
          rw [hser, Except.ok.injEq] at hbody'
          subst hbody'
          obtain ⟨t, hsend, hsent⟩ := sendPacket_sent (i := n.intf) (s.nbr n).ipAddr
            (by decide : packetTypeLsu < 256) hfit { s with heap }
          refine ⟨t, ?_, fun hsock => ⟨(s.nbr n).ipAddr, hsent hsock⟩⟩
          rw [run, processLsRequest, Eff.get_bind_apply, Eff.when_pos hst, hreq]
          dsimp only
          rw [sendLsUpdate, Eff.get_bind_apply, Eff.when_pos hempty, Eff.bind_apply_ok hser]
          exact hsend
        · -- so many LSAs are neither counted nor do they fit
          refine iff_of_false (fun hfits => ?_) fun hfits => ?_
          · obtain ⟨body, t, hout, -⟩ := hfits.whole trivial _ _ hbuilt
            exact hcount (count_of_serializeLsu hout)
          · have := length_le_sizes hpack
            omega
  · refine iff_of_true (hnone ?_) fun h => absurd h hst
    rw [built, if_neg hst]

theorem acks_fits_iff (h : ∀ r ∈ (s.intf i).delayedAcks, s.CanPack r) :
    (SendCall.acks i).Fits s ↔ (SendCall.acks i).Roomy s := by
  have hmtu := (s.intf i).mtu_lt
  rw [Roomy]
  by_cases hempty : (s.intf i).delayedAcks = []
  · have hbuilt : (SendCall.acks i).built s = none := if_pos hempty
    refine iff_of_true ⟨fun count body hb => ?_, fun _ count out hb => ?_⟩ ?_
    · rw [hbuilt] at hb
      cases hb
    · rw [hbuilt] at hb
      cases hb
    · rw [hempty]
      nofun
  · have hbuilt : (SendCall.acks i).built s =
        some ((s.intf i).delayedAcks.length, (serializeLsack (s.intf i).delayedAcks s).1) := if_neg hempty
    obtain ⟨body, hser, hlen⟩ := serializeLsack_all h
    have hroomy : (1 < (s.intf i).delayedAcks.length → 44 + 20 * (s.intf i).delayedAcks.length ≤ (s.intf i).mtu) ↔
        OspfHeader.size + 20 * (s.intf i).delayedAcks.length < 65536 ∧ (1 < (s.intf i).delayedAcks.length →
          ipHeaderSize + OspfHeader.size + 20 * (s.intf i).delayedAcks.length ≤ (s.intf i).mtu) := by
      rw [OspfHeader.size, ipHeaderSize]
      omega
    rw [hroomy]
    refine whole_fits_iff hbuilt ⟨body, by rw [hser], hlen⟩ fun body' hbody' hfit => ?_
    rw [hser, Except.ok.injEq] at hbody'
    subst hbody'
    -- the queue is empty when the packet is built
    let u : Instance := s.setIntf i { s.intf i with delayedAcks := [] }
    have hser' : serializeLsack (s.intf i).delayedAcks u = (.ok body, u) := by
      have hsame : serializeLsack (s.intf i).delayedAcks u = ((serializeLsack (s.intf i).delayedAcks s).1, u) := rfl
      rw [hsame, hser]
    obtain ⟨t, hsend, hsent⟩ := sendPacket_sent (i := i)
      (if (s.intf i).intfType.isMultiAccess then floodDest (s.intf i) else allSpfRouters)
      (by decide : packetTypeLsack < 256) hfit u
    refine ⟨t, ?_, fun hsock => ⟨_, hsent ?_⟩⟩
    · rw [run, flushDelayedAcks, Eff.get_bind_apply]
      rw [Eff.when_pos hempty, modifyIntf_bind_apply, Eff.bind_apply_ok hser']
      exact hsend
    · rw [Instance.intf_setIntf_self]
      exact hsock

/-- The code fits its packets exactly when little enough waits. -/
theorem Called.fits_iff (hcalled : op.Called s) (hmtu : 576 ≤ (s.intf op.intf).mtu) : op.Fits s ↔ op.Roomy s := by
  cases op with
  | hello i =>
    obtain ⟨s₀, hran, hsame⟩ := hcalled
    refine iff_of_true (hello_fits ?_) trivial
    rw [hsame]
    exact (wired_of_ran hran).table i
  | ddFirst n => exact iff_of_true (ddFirst_fits s n) trivial
  | ddMaster n => exact batch_iff id rfl rfl hmtu
  | ddSlave n => exact batch_iff id rfl rfl hmtu
  | ddAgain n => exact ddAgain_fits_iff
  | lsRequest n => exact iff_of_true (lsRequest_fits hmtu) trivial
  | lsReply n lsr => exact lsReply_fits_iff (wired_of_ran hcalled).stored
  | acks i => exact acks_fits_iff ((wired_of_ran hcalled).queued i)

end SendCall

/-! ### A long request -/

theorem ran_peerFlooded : Ran Instance.Fresh peerFlooded := by
  have hempty : (linkRouter .none).Empty := ⟨initial_linkRouter .none, fun _ => rfl⟩
  have hstart : Ran Instance.Fresh (linkRouter .none) := .start ⟨hempty, fun _ => rfl⟩
  exact .step (.step (.step (.step (.step hstart trivial) trivial) trivial) trivial) due_peerFlooded

/-- A request that asks for the Router-LSA of this router again and again. -/
def repeated (k : Nat) : LsrPacket := { items := List.replicate k ⟨lsaTypeRouter, 1, 1⟩ }

/-- Asked for an LSA again and again, this router has that many copies of it to send. -/
theorem roomy_repeated {k : Nat} {r : LsaRef} (hst : .exchange ≤ (s.nbr n).state)
    (hlook : s.lsdb.lookup (s.intf n.intf).areaId ⟨lsaTypeRouter, 1, 1⟩ = some r) :
    (SendCall.lsReply n (repeated k)).Roomy s ↔
      28 + k * s.lsaSize r < 65536 ∧ (1 < k → 48 + k * s.lsaSize r ≤ (s.intf n.intf).mtu) := by
  have hreq : requestedLsas s (s.intf n.intf).areaId (repeated k).items = some (List.replicate k r) := by
    induction k with
    | zero => rfl
    | succ k ih =>
      have hitems : (repeated (k + 1)).items = ⟨lsaTypeRouter, 1, 1⟩ :: (repeated k).items := rfl
      rw [hitems, requestedLsas, LsrItem.key, hlook]
      dsimp only
      rw [ih]
      rfl
  have hsum : ((List.replicate k r).map s.lsaSize).sum = k * s.lsaSize r := by
    rw [List.map_replicate, List.sum_replicate_nat]
  rw [SendCall.Roomy, forall_prop_of_true hst, hreq]
  constructor
  · intro h
    have hroomy := h _ rfl
    rwa [hsum, List.length_replicate] at hroomy
  · rintro h lsas ⟨⟩
    rwa [hsum, List.length_replicate]

/-- The Router-LSA has a header and one link. -/
theorem routerLsa_peerFlooded : NbrState.exchange ≤ (peerFlooded.nbr ⟨0, 2⟩).state ∧
    peerFlooded.lsdb.lookup (peerFlooded.intf (NbrRef.mk 0 2).intf).areaId ⟨lsaTypeRouter, 1, 1⟩ = some 0 ∧
    peerFlooded.lsaSize 0 = 36 ∧ (peerFlooded.intf (NbrRef.mk 0 2).intf).mtu = 1500 := by
  refine ⟨?_, ?_, ?_, ?_⟩ <;> decide +kernel

end Ospfd
