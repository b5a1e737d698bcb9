import Ospfd.Protocol.Turns

/-!
# Two routers describe their databases to each other

Both neighbors are in ExStart and have sent their initial description.  From then on
descriptions are delivered in order, exactly once, and nothing else happens.

* `Dialogue`, `Delivers` — the two routers and the descriptions in flight; one delivery.
* `rounds` — how many descriptions the master sends.
* `Phase` — the invariant: where a dialogue is, and how many deliveries are to come.
* `Phase.next` — **every delivery brings it one further**.
* `synchronizes` — **whatever the order of deliveries, no mismatch is raised, the dialogue
  ends, and both routers request exactly what they lack**.
-/

namespace Ospfd

/-! ## Dialogues -/

/-- Two routers, and the bodies of the descriptions in flight between them, oldest first. -/
structure Dialogue where
  fst : Instance
  snd : Instance
  toFst : List Bytes
  toSnd : List Bytes

/-- A description arrives from a neighbor. -/
def receiveDd (n : NbrRef) (body : Bytes) : Py Unit :=
  decodeThen (DDPacket.deserialize body) fun dd => forNeighbor n (processDd n dd)

/-- This is what the dispatcher does with it. -/
theorem dispatchPacket_dd {i : IntfId} {header : OspfHeader} (h : header.type = packetTypeDd) (body : Bytes)
    (src : IPv4Address) : dispatchPacket i header body src = receiveDd ⟨i, header.routerId⟩ body := by
  rw [dispatchPacket, h]
  rfl

/-- The descriptions sent to a neighbor between two states. -/
def sentDds (n : NbrRef) (s t : Instance) : List Bytes :=
  descriptionsTo n (s.nbr n).ipAddr (t.sent.drop s.sent.length)

/-- One description is delivered, to either router; `n` is the neighbor object of the first
router, `m` that of the second. -/
inductive Delivers (n m : NbrRef) : Dialogue → Dialogue → Prop
  | toFst (a b : Instance) (body : Bytes) (toFst toSnd : List Bytes) :
      Delivers n m ⟨a, b, body :: toFst, toSnd⟩
        ⟨(receiveDd n body a).2, b, toFst, toSnd ++ sentDds n a (receiveDd n body a).2⟩
  | toSnd (a b : Instance) (body : Bytes) (toFst toSnd : List Bytes) :
      Delivers n m ⟨a, b, toFst, body :: toSnd⟩
        ⟨a, (receiveDd m body b).2, toFst ++ sentDds m b (receiveDd m body b).2, toSnd⟩

/-- A number of deliveries, in any order. -/
inductive Conversation (n m : NbrRef) (start : Dialogue) : Nat → Dialogue → Prop
  | none : Conversation n m start 0 start
  | next {i : Nat} {d d' : Dialogue} (h : Conversation n m start i d) (hd : Delivers n m d d') :
      Conversation n m start (i + 1) d'

/-- A router whose neighbor is in ExStart, in any run, and was sent the initial
description. -/
structure Opens (s : Instance) (n : NbrRef) (peer : IPv4Address) (body : Bytes) : Prop where
  run : ∃ stays, Stayed Instance.Empty s stays
  listed : n.routerId ∈ (s.intf n.intf).neighbors
  state : (s.nbr n).state = .exStart
  peer : (s.nbr n).routerId = peer
  mtu : 68 ≤ (s.intf n.intf).mtu
  socket : (s.intf n.intf).socket = true
  sent : ((ddOf s n (ddFlagI ||| ddFlagM ||| ddFlagMS) []).packet s.heap).serialize = .ok body

/-- Both initial descriptions are in flight. -/
def Dialogue.Opening (d : Dialogue) (n m : NbrRef) : Prop :=
  ∃ fromFst fromSnd, Opens d.fst n d.snd.routerId fromFst ∧ Opens d.snd m d.fst.routerId fromSnd ∧
    d.toFst = [fromSnd] ∧ d.toSnd = [fromFst]

/-! ## How long it takes -/

/-- What a router describes to a neighbor. -/
def summarized (s : Instance) (n : NbrRef) : List LsaRef := s.lsdb.getAllHeaders (s.intf n.intf).areaId

/-- How many descriptions a summary takes. -/
def batches (s : Instance) (n : NbrRef) : Nat :=
  ((summarized s n).length + maxDdHeaders s n - 1) / maxDdHeaders s n

/-- How many descriptions the master sends: one in any case, all of its own, and as many as
the slave needs to answer, which also sent the first. -/
def rounds (a : Instance) (n : NbrRef) (b : Instance) (m : NbrRef) : Nat :=
  max 1 (max (batches a n) (batches b m - 1))

/-- What is left of a summary after a number of descriptions. -/
def restAfter (s : Instance) (n : NbrRef) (k : Nat) : List LsaRef :=
  (summarized s n).drop (maxDdHeaders s n * k)

/-- The headers in the first descriptions. -/
def headersOf (s : Instance) (n : NbrRef) (k : Nat) : List LsaHeader :=
  ((summarized s n).take (maxDdHeaders s n * k)).map fun r => (s.heap.obj r).header

section Batches

variable {s : Instance} {n : NbrRef} {k : Nat}

theorem maxDdHeaders_pos (h : 68 ≤ (s.intf n.intf).mtu) : 0 < maxDdHeaders s n := by
  rw [maxDdHeaders]
  omega

theorem restAfter_succ : restAfter s n (k + 1) = (restAfter s n k).drop (maxDdHeaders s n) := by
  rw [restAfter, restAfter, List.drop_drop, Nat.mul_succ]

theorem headersOf_succ : headersOf s n (k + 1) =
    headersOf s n k ++ ((restAfter s n k).take (maxDdHeaders s n)).map fun r => (s.heap.obj r).header := by
  rw [headersOf, headersOf, restAfter, ← List.map_append, Nat.mul_succ, List.take_add]

theorem restAfter_zero : restAfter s n 0 = summarized s n := by
  rw [restAfter, Nat.mul_zero, List.drop_zero]

theorem headersOf_zero : headersOf s n 0 = [] := by
  rw [headersOf, Nat.mul_zero, List.take_zero, List.map_nil]

/-- Nothing is left once there were enough descriptions. -/
theorem restAfter_eq_nil_iff (h : 0 < maxDdHeaders s n) : restAfter s n k = [] ↔ batches s n ≤ k := by
  rw [restAfter, List.drop_eq_nil_iff, batches, Nat.div_le_iff_le_mul_add_pred h, Nat.mul_comm]
  omega

/-- Then all headers were described. -/
theorem headersOf_eq (h : restAfter s n k = []) :
    headersOf s n k = (summarized s n).map fun r => (s.heap.obj r).header := by
  rw [restAfter, List.drop_eq_nil_iff] at h
  rw [headersOf, List.take_of_length_le h]

end Batches

/-- The master is done with a round, and so is the slave. -/
theorem over_iff {a b : Instance} {n m : NbrRef} (ha : 0 < maxDdHeaders a n) (hb : 0 < maxDdHeaders b m)
    {k : Nat} : restAfter b m (k + 2) = [] ∧ restAfter a n (k + 1) = [] ↔ rounds a n b m ≤ k + 1 := by
  rw [restAfter_eq_nil_iff ha, restAfter_eq_nil_iff hb, rounds]
  omega

/-! ## One side -/

theorem OspfNeighbor.Stands.toAhead {x : OspfNeighbor} {isMaster : Bool} {seq : Int} {rest : List LsaRef}
    {requests : Dict LsaKey LsaHeader} (h : x.Stands isMaster seq rest requests) : x.Ahead := by
  intro last hlast
  rw [h.isMaster, h.ddSeqNumber]
  exact h.ahead last hlast

/-- What one router needs to take part: the neighbor is there, at least one header fits, and
all stored LSAs can be described. -/
structure Able (s : Instance) (n : NbrRef) : Prop where
  listed : n.routerId ∈ (s.intf n.intf).neighbors
  room : 0 < maxDdHeaders s n
  socket : (s.intf n.intf).socket = true
  describable : s.Describable

/-- Where one router is since its dialogue began: its neighbor stands so, and what it needed
of the headers it has received was requested. -/
structure Paged (s : Instance) (n : NbrRef) (isMaster : Bool) (seq : Int) (rest : List LsaRef)
    (received : List LsaHeader) (t : Instance) : Prop where
  reacts : ∃ bodies, Reacts n bodies s t
  stands : (t.nbr n).Stands isMaster seq rest
    (requestsAfter s (s.intf n.intf).areaId received Dict.empty)

section Side

variable {s t u : Instance} {n : NbrRef} {body : Bytes} {bodies : List Bytes} {dd : DDPacket}
  {isMaster isMaster' : Bool} {seq seq' : Int} {rest rest' : List LsaRef} {received : List LsaHeader}

/-- The descriptions of a reaction are those that were sent. -/
theorem Reacts.sentDds (h : Reacts n bodies s t) : Ospfd.sentDds n s t = bodies := by
  obtain ⟨new, hnew, hbodies⟩ := h.sent
  rw [Ospfd.sentDds, hnew, List.drop_left, hbodies]

/-- A description that arrives is decoded and processed. -/
theorem receiveDd_eq (hdec : DDPacket.deserialize body = .ok dd)
    (hlisted : n.routerId ∈ (s.intf n.intf).neighbors) : receiveDd n body s = processDd n dd s := by
  rw [receiveDd, decodeThen, hdec, Eff.lift_bind_apply]
  change forNeighbor n (processDd n dd) s = _
  rw [forNeighbor, Eff.get_bind_apply, Eff.when_pos hlisted]

/-- A turn takes a router further. -/
theorem Paged.turn (h : Paged s n isMaster seq rest received t)
    (hturn : Turn n bodies isMaster' seq' rest' (requestsAfter t (t.intf n.intf).areaId dd.lsaHeaders
      (requestsAfter s (s.intf n.intf).areaId received Dict.empty)) t u) :
    Paged s n isMaster' seq' rest' (received ++ dd.lsaHeaders) u := by
  obtain ⟨bodies', hreact⟩ := h.reacts
  have hs := hturn.stands
  rw [requestsAfter_congr hreact.lsdb hreact.heap, hreact.intf, ← requestsAfter_append] at hs
  exact ⟨⟨_, hreact.trans hturn.reacts⟩, hs⟩

/-- A router that can take part still can. -/
theorem Able.later (h : Able s n) (hreact : Reacts n bodies s t) : Able t n where
  listed := by
    rw [hreact.intf]
    exact h.listed
  room := by
    rw [maxDdHeaders, hreact.intf]
    exact h.room
  socket := by
    rw [hreact.intf]
    exact h.socket
  describable := fun areaId r hr =>
    canPack_of_heap hreact.heap (h.describable areaId r (by rw [← hreact.lsdb]; exact hr))

theorem Able.canPack (h : Able s n) {k : Nat} : ∀ r ∈ restAfter s n k, s.CanPack r := fun r hr =>
  h.describable _ r (List.mem_of_mem_drop hr)

/-! ### Opening -/

/-- How a router begins: the neighbor is in ExStart, nothing was received, and nothing
requested. -/
structure Begins (s : Instance) (n : NbrRef) : Prop extends Able s n where
  state : (s.nbr n).state = .exStart
  fresh : (s.nbr n).lastReceivedDd = none
  requests : (s.nbr n).lsRequestList = Dict.empty
  seq : -2147483648 ≤ (s.nbr n).ddSeqNumber ∧ (s.nbr n).ddSeqNumber < 2147483648

/-- A router that has sent its initial description begins, and the description claims the
mastership. -/
theorem Opens.begins {peer : IPv4Address} (h : Opens s n peer body) : Begins s n ∧
    ∃ dd, DDPacket.deserialize body = .ok dd ∧ dd.claimsMaster = true ∧
      dd.ddSeqNumber = (s.nbr n).ddSeqNumber := by
  obtain ⟨stays, hrun⟩ := h.run
  have hsound := sound_of_reachable (hrun.mono fun _ h => h.1).reachable n
  have hw := DDPacket.wireRange_of_serialize h.sent
  obtain ⟨b, hb, -, hde⟩ := DDPacket.deserialize_serialize hw
  obtain rfl : body = b := Except.ok.inj (h.sent.symm.trans hb)
  have hempty : (s.nbr n).lsRequestList = Dict.empty := by
    have hentries := (hsound.exStart h.state).2.1
    rcases hd : (s.nbr n).lsRequestList with ⟨entries, hnodup⟩
    rw [hd] at hentries
    subst hentries
    rfl
  refine ⟨⟨⟨h.listed, maxDdHeaders_pos h.mtu, h.socket, hrun.primed.1⟩, h.state, hsound.fresh h.state, hempty,
    hw.ddSeqNumber⟩, _, hde, ?_, rfl⟩
  simp [DDPacket.claimsMaster, DDPacket.isInit, DDPacket.isMore, DDPacket.isMaster, SentDD.packet, ddOf,
    ddFlagI, ddFlagM, ddFlagMS]

namespace Begins

/-- The claim of a neighbor with a lower ID is ignored. -/
theorem ignores (h : Begins s n) (hdec : DDPacket.deserialize body = .ok dd) (hclaim : dd.claimsMaster = true)
    (hid : ¬s.routerId < (s.nbr n).routerId) : (receiveDd n body s).2 = s := by
  rw [receiveDd_eq hdec h.listed, processDd, Eff.get_bind_apply, h.state]
  dsimp only
  rw [processDdExstart, Eff.get_bind_apply, if_pos hclaim, Eff.when_neg hid]
  rfl

/-- **The claim of a neighbor with a higher ID is accepted**, and the first batch sent. -/
theorem accepts (h : Begins s n) (hdec : DDPacket.deserialize body = .ok dd) (hclaim : dd.claimsMaster = true)
    (hid : s.routerId < (s.nbr n).routerId) (hseq : -2147483648 ≤ dd.ddSeqNumber ∧ dd.ddSeqNumber < 2147483648) :
    ∃ body', sentDds n s (receiveDd n body s).2 = [body'] ∧
      DDPacket.deserialize body' = .ok (description s n false dd.ddSeqNumber (restAfter s n 0)) ∧
      ((receiveDd n body s).2.nbr n).state = .exchange ∧
      Paged s n false dd.ddSeqNumber (restAfter s n 1) [] (receiveDd n body s).2 := by
  have hrun : receiveDd n body s = becomeSlave n dd s := by
    rw [receiveDd_eq hdec h.listed, processDd, Eff.get_bind_apply, h.state]
    dsimp only
    rw [processDdExstart, Eff.get_bind_apply, if_pos hclaim, Eff.when_pos hid]
  obtain ⟨body', hbody, hst, hturn⟩ := becomeSlave_turn h.state h.fresh h.socket h.describable hseq
  rw [hrun]
  refine ⟨body', hturn.reacts.sentDds, by rw [restAfter_zero]; exact hbody, hst, ⟨_, hturn.reacts⟩, ?_⟩
  have hs := hturn.stands
  rw [h.requests] at hs
  rw [restAfter_succ, restAfter_zero]
  exact hs

/-- **The answer of a neighbor with a lower ID begins the exchange**: its headers are
processed, and the first batch sent. -/
theorem acknowledged (h : Begins s n) (hdec : DDPacket.deserialize body = .ok dd) (hinit : dd.isInit = false)
    (hms : dd.isMaster = false) (hid : (s.nbr n).routerId < s.routerId)
    (hdd : dd.ddSeqNumber = (s.nbr n).ddSeqNumber) (hseq : dd.ddSeqNumber + 1 < 2147483648) :
    ∃ body', sentDds n s (receiveDd n body s).2 = [body'] ∧
      DDPacket.deserialize body' = .ok (description s n true (dd.ddSeqNumber + 1) (restAfter s n 0)) ∧
      ((receiveDd n body s).2.nbr n).state = .exchange ∧
      Paged s n true (dd.ddSeqNumber + 1) (restAfter s n 1) dd.lsaHeaders (receiveDd n body s).2 := by
  have hclaim : ¬dd.claimsMaster = true := by simp [DDPacket.claimsMaster, hinit]
  have hrun : receiveDd n body s = becomeMaster n dd s := by
    rw [receiveDd_eq hdec h.listed, processDd, Eff.get_bind_apply, h.state]
    dsimp only
    rw [processDdExstart, Eff.get_bind_apply, if_neg hclaim,
      Eff.when_pos ⟨by simp [hinit], by simp [hms], hid, hdd⟩]
  obtain ⟨body', hbody, hst, hturn⟩ := becomeMaster_turn h.state h.fresh hdd h.socket h.describable
    ⟨by rw [hdd]; exact h.seq.1, hseq⟩
  rw [hrun]
  refine ⟨body', hturn.reacts.sentDds, by rw [restAfter_zero]; exact hbody, hst, ⟨_, hturn.reacts⟩, ?_⟩
  have hs := hturn.stands
  rw [h.requests] at hs
  rw [restAfter_succ, restAfter_zero]
  exact hs

end Begins

/-! ### Paging -/

namespace Paged

/-- An expected description in Exchange is processed by the role. -/
theorem processes (h : Paged s n isMaster seq rest received t) (hable : Able s n)
    (hst : (t.nbr n).state = .exchange) (hdec : DDPacket.deserialize body = .ok dd) (hinit : dd.isInit = false)
    (hms : dd.isMaster = !isMaster) (hdd : dd.ddSeqNumber = if isMaster then seq else seq + 1) :
    receiveDd n body t = if isMaster then masterExchange n dd t else slaveExchange n dd t := by
  obtain ⟨bodies, hreact⟩ := h.reacts
  have hs := h.stands
  have hdup : (t.nbr n).isDuplicateDd dd = false := by
    refine hs.toAhead.not_duplicate fun hbehind => ?_
    rw [hs.isMaster, hs.ddSeqNumber] at hbehind
    have hle := hbehind.1
    cases isMaster with
    | true =>
      have hlt := hbehind.2 rfl
      rw [if_pos rfl] at hdd
      omega
    | false =>
      rw [if_neg (by decide)] at hdd
      omega
  have hexp : (t.nbr n).expectsDd dd = true := by
    rw [OspfNeighbor.expectsDd, hs.isMaster, hs.ddSeqNumber]
    cases isMaster <;> simp_all
  rw [receiveDd_eq hdec (hable.later hreact).listed, processDd, Eff.get_bind_apply, hst]
  dsimp only
  rw [processDdExchange, Eff.get_bind_apply, if_neg (by rw [hdup]; decide), if_neg (not_not.2 hexp), hs.isMaster]
  cases isMaster <;> rfl

section Steps

variable {k : Nat} (hable : Able s n) (hst : (t.nbr n).state = .exchange)
  (hdec : DDPacket.deserialize body = .ok dd) (hinit : dd.isInit = false)

include hable hst hdec hinit

/-- **The slave answers every description with its next batch.** -/
theorem answers (h : Paged s n false seq (restAfter s n k) received t) (hms : dd.isMaster = true)
    (hdd : dd.ddSeqNumber = seq + 1)
    (hseq : -2147483648 ≤ dd.ddSeqNumber ∧ dd.ddSeqNumber < 2147483648) :
    ∃ body', sentDds n t (receiveDd n body t).2 = [body'] ∧
      DDPacket.deserialize body' = .ok (description s n false dd.ddSeqNumber (restAfter s n k)) ∧
      (if dd.isMore = false ∧ restAfter s n (k + 1) = [] then
        .exchange < ((receiveDd n body t).2.nbr n).state
      else ((receiveDd n body t).2.nbr n).state = .exchange) ∧
      Paged s n false dd.ddSeqNumber (restAfter s n (k + 1)) (received ++ dd.lsaHeaders)
        (receiveDd n body t).2 := by
  obtain ⟨bodies, hreact⟩ := h.reacts
  have hmax : maxDdHeaders t n = maxDdHeaders s n := by rw [maxDdHeaders, hreact.intf]; rfl
  obtain ⟨body', hbody, hover, hturn⟩ := slaveExchange_turn hst h.stands (by omega)
    (hable.later hreact).socket (fun r hr => canPack_of_heap hreact.heap (hable.canPack r hr)) hseq
  rw [h.processes hable hst hdec hinit hms hdd, if_neg (by decide)]
  rw [description_congr hreact.intf hreact.heap] at hbody
  rw [hmax, ← restAfter_succ] at hover hturn
  exact ⟨body', hturn.reacts.sentDds, hbody, hover, h.turn hturn⟩

/-- **The master goes on while there is more on either side.** -/
theorem continues (h : Paged s n true seq (restAfter s n k) received t) (hms : dd.isMaster = false)
    (hdd : dd.ddSeqNumber = seq) (hseq : -2147483648 ≤ seq ∧ seq + 1 < 2147483648)
    (hmore : ¬(dd.isMore = false ∧ restAfter s n k = [])) :
    ∃ body', sentDds n t (receiveDd n body t).2 = [body'] ∧
      DDPacket.deserialize body' = .ok (description s n true (seq + 1) (restAfter s n k)) ∧
      ((receiveDd n body t).2.nbr n).state = .exchange ∧
      Paged s n true (seq + 1) (restAfter s n (k + 1)) (received ++ dd.lsaHeaders) (receiveDd n body t).2 := by
  obtain ⟨bodies, hreact⟩ := h.reacts
  have hmax : maxDdHeaders t n = maxDdHeaders s n := by rw [maxDdHeaders, hreact.intf]; rfl
  obtain ⟨body', hbody, hup, hturn⟩ := masterExchange_turn hst h.stands hdd
    (hable.later hreact).socket (fun r hr => canPack_of_heap hreact.heap (hable.canPack r hr)) hseq hmore
  rw [h.processes hable hst hdec hinit hms hdd, if_pos rfl]
  rw [description_congr hreact.intf hreact.heap] at hbody
  rw [hmax, ← restAfter_succ] at hturn
  exact ⟨body', hturn.reacts.sentDds, hbody, hup, h.turn hturn⟩

/-- **And is done when there is no more.** -/
theorem finishes (h : Paged s n true seq rest received t) (hms : dd.isMaster = false)
    (hdd : dd.ddSeqNumber = seq) (hmore : dd.isMore = false ∧ rest = []) :
    sentDds n t (receiveDd n body t).2 = [] ∧ .exchange < ((receiveDd n body t).2.nbr n).state ∧
      Paged s n true (seq + 1) rest (received ++ dd.lsaHeaders) (receiveDd n body t).2 := by
  obtain ⟨hup, hturn⟩ := masterExchange_done hst h.stands hdd hmore
  rw [h.processes hable hst hdec hinit hms hdd, if_pos rfl]
  exact ⟨hturn.reacts.sentDds, hup, h.turn hturn⟩

end Steps
end Paged
end Side

/-! ## Both sides -/

section Both

variable (a b : Instance) (n m : NbrRef)

/-- The description with which the master begins a round. -/
def masterDd (k : Nat) : DDPacket :=
  description a n true ((a.nbr n).ddSeqNumber + (k + 1 : Nat)) (restAfter a n k)

/-- The description of the slave before a round. -/
def slaveDd (k : Nat) : DDPacket := description b m false ((a.nbr n).ddSeqNumber + k) (restAfter b m k)

/-- The master after a number of descriptions. -/
def MasterPaged (k : Nat) (s : Instance) : Prop :=
  Paged a n true ((a.nbr n).ddSeqNumber + k) (restAfter a n k) (headersOf b m k) s

/-- The slave after its answer to a number of descriptions. -/
def SlavePaged (k : Nat) (t : Instance) : Prop :=
  Paged b m false ((a.nbr n).ddSeqNumber + k) (restAfter b m (k + 1)) (headersOf a n k) t

/-- Where a dialogue is, and how many deliveries are to come.  The first router has the
higher ID. -/
inductive Phase : Nat → Dialogue → Prop
  /-- The initial description of the master was not delivered yet. -/
  | opening {claims : List Bytes} {body : Bytes} {dd : DDPacket}
      (hclaims : ∀ claim ∈ claims, ∃ dd, DDPacket.deserialize claim = .ok dd ∧ dd.claimsMaster = true)
      (hdec : DDPacket.deserialize body = .ok dd) (hclaim : dd.claimsMaster = true)
      (hdd : dd.ddSeqNumber = (a.nbr n).ddSeqNumber) :
      Phase (claims.length + 2 * rounds a n b m + 2) ⟨a, b, claims, [body]⟩
  /-- The slave has accepted it. -/
  | accepted {claims : List Bytes} {body : Bytes} {t : Instance}
      (hclaims : ∀ claim ∈ claims, ∃ dd, DDPacket.deserialize claim = .ok dd ∧ dd.claimsMaster = true)
      (hdec : DDPacket.deserialize body = .ok (slaveDd a b n m 0)) (hst : (t.nbr m).state = .exchange)
      (hslave : SlavePaged a b n m 0 t) :
      Phase (claims.length + 2 * rounds a n b m + 1) ⟨a, t, claims ++ [body], []⟩
  /-- The master has begun a round. -/
  | begun {k : Nat} {body : Bytes} {s t : Instance} (hk : k < rounds a n b m)
      (hdec : DDPacket.deserialize body = .ok (masterDd a n k))
      (hsst : (s.nbr n).state = .exchange) (hmaster : MasterPaged a b n m (k + 1) s)
      (htst : (t.nbr m).state = .exchange) (hslave : SlavePaged a b n m k t) :
      Phase (2 * (rounds a n b m - k)) ⟨s, t, [], [body]⟩
  /-- The slave has answered it. -/
  | answered {k : Nat} {body : Bytes} {s t : Instance} (hk : k < rounds a n b m)
      (hdec : DDPacket.deserialize body = .ok (slaveDd a b n m (k + 1)))
      (hsst : (s.nbr n).state = .exchange) (hmaster : MasterPaged a b n m (k + 1) s)
      (htst : if k + 1 = rounds a n b m then .exchange < (t.nbr m).state else (t.nbr m).state = .exchange)
      (hslave : SlavePaged a b n m (k + 1) t) :
      Phase (2 * (rounds a n b m - k) - 1) ⟨s, t, [body], []⟩
  /-- Both are done. -/
  | ended {s t : Instance} (hsst : .exchange < (s.nbr n).state)
      (hmaster : Paged a n true ((a.nbr n).ddSeqNumber + (rounds a n b m + 1 : Nat))
        (restAfter a n (rounds a n b m)) (headersOf b m (rounds a n b m + 1)) s)
      (htst : .exchange < (t.nbr m).state) (hslave : SlavePaged a b n m (rounds a n b m) t) :
      Phase 0 ⟨s, t, [], []⟩

end Both

section Phases

variable {a b : Instance} {n m : NbrRef} {d d' : Dialogue} {left : Nat}

/-- Both routers begin, and the first has the higher ID; the number does not pass 2^31 - 1. -/
structure Pairing (a : Instance) (n : NbrRef) (b : Instance) (m : NbrRef) : Prop where
  fst : Begins a n
  snd : Begins b m
  fstPeer : (a.nbr n).routerId = b.routerId
  sndPeer : (b.nbr m).routerId = a.routerId
  lower : b.routerId < a.routerId
  fits : (a.nbr n).ddSeqNumber + rounds a n b m ≤ 2147483647

theorem rounds_pos (a : Instance) (n : NbrRef) (b : Instance) (m : NbrRef) : 0 < rounds a n b m := by
  rw [rounds]
  omega

theorem sentDds_self (n : NbrRef) (s : Instance) : sentDds n s s = [] := (Reacts.refl n s).sentDds

/-- A claim that is delivered to the first router. -/
theorem Pairing.ignores (hp : Pairing a n b m) {claim : Bytes}
    (hclaim : ∃ dd, DDPacket.deserialize claim = .ok dd ∧ dd.claimsMaster = true) :
    (receiveDd n claim a).2 = a := by
  obtain ⟨dd, hdec, hc⟩ := hclaim
  refine hp.fst.ignores hdec hc ?_
  rw [hp.fstPeer]
  exact not_lt_of_gt hp.lower

/-- The headers of the first descriptions, and of the next one. -/
theorem headersOf_description {s : Instance} {isMaster : Bool} {seq : Int} {k : Nat} :
    headersOf s n k ++ (description s n isMaster seq (restAfter s n k)).lsaHeaders = headersOf s n (k + 1) :=
  headersOf_succ.symm

/-- A description says whether there is more. -/
theorem isMore_eq_false_iff {s : Instance} {isMaster : Bool} {seq : Int} {k : Nat} :
    (description s n isMaster seq (restAfter s n k)).isMore = false ↔ restAfter s n (k + 1) = [] := by
  rw [isMore_description, ← restAfter_succ]
  simp

/-- **Every delivery brings a dialogue one further.** -/
theorem Phase.next (hp : Pairing a n b m) (h : Phase a b n m left d) (hd : Delivers n m d d') :
    ∃ left', left = left' + 1 ∧ Phase a b n m left' d' := by
  have hfits := hp.fits
  have hpos := rounds_pos a n b m
  have hleast := hp.fst.seq.1
  cases h with
  | @opening claims body dd hclaims hdec hclaim hdd =>
    cases hd with
    | toFst _ _ claim claims =>
      rw [hp.ignores (hclaims claim (List.mem_cons_self ..)), sentDds_self, List.append_nil]
      refine ⟨_, ?_, .opening (fun c hc => hclaims c (List.mem_cons_of_mem _ hc)) hdec hclaim hdd⟩
      rw [List.length_cons]
      omega
    | toSnd =>
      obtain ⟨body', hsent, hbody', hst, hslave⟩ := hp.snd.accepts hdec hclaim
        (by rw [hp.sndPeer]; exact hp.lower) (by rw [hdd]; exact hp.fst.seq)
      rw [hsent]
      rw [hdd] at hbody' hslave
      refine ⟨_, rfl, .accepted hclaims ?_ hst ?_⟩
      · rw [slaveDd, Nat.cast_zero, add_zero]
        exact hbody'
      · rw [SlavePaged, Nat.cast_zero, add_zero, headersOf_zero]
        exact hslave
  | @accepted claims body t hclaims hdec hst hslave =>
    cases claims with
    | cons claim claims =>
      rw [List.cons_append] at hd
      cases hd
      rw [hp.ignores (hclaims claim (List.mem_cons_self ..)), sentDds_self, List.append_nil]
      refine ⟨_, ?_, .accepted (fun c hc => hclaims c (List.mem_cons_of_mem _ hc)) hdec hst hslave⟩
      rw [List.length_cons]
      omega
    | nil =>
      rw [List.nil_append] at hd
      cases hd
      obtain ⟨body', hsent, hbody', hsst, hmaster⟩ := hp.fst.acknowledged hdec isInit_description
        isMaster_description (by rw [hp.fstPeer]; exact hp.lower) (by simp [slaveDd])
        (by rw [slaveDd, ddSeqNumber_description]; omega)
      rw [hsent]
      have hseq : (slaveDd a b n m 0).ddSeqNumber + 1 = (a.nbr n).ddSeqNumber + (0 + 1 : Nat) := by
        simp [slaveDd]
      rw [hseq] at hbody' hmaster
      refine ⟨_, ?_, .begun hpos hbody' hsst ?_ hst hslave⟩
      · rw [List.length_nil]
        omega
      · rw [MasterPaged, ← headersOf_description, headersOf_zero, List.nil_append]
        exact hmaster
  | @begun k body s t hk hdec hsst hmaster htst hslave =>
    cases hd
    have hseq : (masterDd a n k).ddSeqNumber = (a.nbr n).ddSeqNumber + (k + 1 : Nat) := rfl
    have hdone : (masterDd a n k).isMore = false ∧ restAfter b m (k + 1 + 1) = [] ↔
        rounds a n b m ≤ k + 1 := by
      rw [masterDd, isMore_eq_false_iff, and_comm, over_iff hp.fst.room hp.snd.room]
    obtain ⟨body', hsent, hbody', hover, hslave'⟩ := hslave.answers hp.snd.toAble htst hdec
      isInit_description isMaster_description (by rw [hseq]; omega) (by rw [hseq]; omega)
    rw [hsent]
    refine ⟨_, ?_, .answered hk hbody' hsst hmaster ?_ ?_⟩
    · omega
    · split at hover
      · rename_i hmore
        rw [if_pos (by have := hdone.1 hmore; omega)]
        exact hover
      · rename_i hmore
        rw [if_neg fun heq => hmore (hdone.2 heq.ge)]
        exact hover
    · rw [SlavePaged, ← headersOf_description]
      exact hslave'
  | @answered k body s t hk hdec hsst hmaster htst hslave =>
    cases hd
    have hseq : (slaveDd a b n m (k + 1)).ddSeqNumber = (a.nbr n).ddSeqNumber + (k + 1 : Nat) := rfl
    have hmore : (slaveDd a b n m (k + 1)).isMore = false ∧ restAfter a n (k + 1) = [] ↔
        rounds a n b m ≤ k + 1 := by
      rw [slaveDd, isMore_eq_false_iff, over_iff hp.fst.room hp.snd.room]
    have hnext : (a.nbr n).ddSeqNumber + (k + 1 : Nat) + 1 = (a.nbr n).ddSeqNumber + (k + 1 + 1 : Nat) := by
      omega
    by_cases hlast : k + 1 = rounds a n b m
    · obtain ⟨hsent, hup, hmaster'⟩ := hmaster.finishes hp.fst.toAble hsst hdec isInit_description
        isMaster_description hseq (hmore.2 hlast.ge)
      rw [hsent]
      rw [if_pos hlast] at htst
      rw [hnext, hlast] at hmaster'
      refine ⟨0, by omega, .ended hup ?_ htst ?_⟩
      · rw [← headersOf_description]
        exact hmaster'
      · rw [← hlast]
        exact hslave
    · obtain ⟨body', hsent, hbody', hsst', hmaster'⟩ := hmaster.continues hp.fst.toAble hsst hdec
        isInit_description isMaster_description hseq (by omega) (by rw [hmore]; omega)
      rw [hsent]
      rw [if_neg hlast] at htst
      rw [hnext] at hbody' hmaster'
      refine ⟨_, ?_, .begun (k := k + 1) (by omega) hbody' hsst' ?_ htst hslave⟩
      · omega
      · rw [MasterPaged, ← headersOf_description]
        exact hmaster'
  | ended hsst hmaster htst hslave => cases hd

/-- Up to then both routers have reacted to descriptions, and done nothing else. -/
theorem Phase.reacts (h : Phase a b n m left d) :
    (∃ bodies, Reacts n bodies a d.fst) ∧ ∃ bodies, Reacts m bodies b d.snd := by
  cases h with
  | opening => exact ⟨⟨[], .refl n a⟩, [], .refl m b⟩
  | accepted _ _ _ hslave => exact ⟨⟨[], .refl n a⟩, hslave.reacts⟩
  | begun _ _ _ hmaster _ hslave => exact ⟨hmaster.reacts, hslave.reacts⟩
  | answered _ _ _ hmaster _ hslave => exact ⟨hmaster.reacts, hslave.reacts⟩
  | ended _ hmaster _ hslave => exact ⟨hmaster.reacts, hslave.reacts⟩

/-- While deliveries are to come, one is possible. -/
theorem Phase.exists_delivers (h : Phase a b n m (left + 1) d) : ∃ d', Delivers n m d d' := by
  generalize hk : left + 1 = k at h
  cases h with
  | opening => exact ⟨_, .toSnd ..⟩
  | @accepted claims =>
    cases claims with
    | nil => exact ⟨_, .toFst ..⟩
    | cons => exact ⟨_, .toFst ..⟩
  | begun => exact ⟨_, .toSnd ..⟩
  | answered => exact ⟨_, .toFst ..⟩
  | ended => cases hk

/-- **A number of deliveries brings a dialogue that much further.** -/
theorem Phase.run {total i : Nat} (hp : Pairing a n b m) (h : Phase a b n m total d) (hrun : Conversation n m d i d') :
    ∃ left, i + left = total ∧ Phase a b n m left d' := by
  induction hrun with
  | none => exact ⟨total, Nat.zero_add _, h⟩
  | next _ hd ih =>
    obtain ⟨left, hleft, hphase⟩ := ih
    obtain ⟨left', rfl, hphase'⟩ := hphase.next hp hd
    exact ⟨left', by omega, hphase'⟩

end Phases

/-! ## The end -/

/-- What a router does not have of the summary of its peer, or only in an older instance. -/
def Lacks (s : Instance) (n : NbrRef) (t : Instance) (m : NbrRef) (key : LsaKey) : Prop :=
  ∃ r ∈ summarized t m, (t.heap.obj r).header.key = key ∧
    ∀ own, s.lsdb.lookup (s.intf n.intf).areaId key = some own →
      0 < compareLsa (t.heap.obj r).header (s.heap.obj own).header

/-- A router that is past Exchange, and requests exactly what it lacked of its peer. -/
structure Synchronized (s : Instance) (n : NbrRef) (t : Instance) (m : NbrRef) (s' : Instance) : Prop where
  state : .exchange < (s'.nbr n).state
  requests : ∀ key, (s'.nbr n).lsRequestList.contains key = true ↔ Lacks s n t m key

theorem needsLsa_iff {s : Instance} {areaId : IPv4Address} {h : LsaHeader} : needsLsa s areaId h = true ↔
    ∀ own, s.lsdb.lookup areaId h.key = some own → 0 < compareLsa h (s.heap.obj own).header := by
  rw [needsLsa]
  rcases s.lsdb.lookup areaId h.key with _ | own
  · simp
  · simp

/-- A router that has received the whole summary. -/
theorem Paged.synchronized {s t s' : Instance} {n m : NbrRef} {isMaster : Bool} {seq : Int} {rest : List LsaRef}
    (h : Paged s n isMaster seq rest ((summarized t m).map fun r => (t.heap.obj r).header) s')
    (hst : .exchange < (s'.nbr n).state) : Synchronized s n t m s' := by
  refine ⟨hst, fun key => ?_⟩
  rw [h.stands.lsRequestList, contains_requestsAfter, Lacks]
  constructor
  · rintro (⟨hdr, hmem, hkey, hneed⟩ | hempty)
    · obtain ⟨r, hr, rfl⟩ := List.mem_map.1 hmem
      rw [needsLsa_iff, hkey] at hneed
      exact ⟨r, hr, hkey, hneed⟩
    · cases hempty
  · rintro ⟨r, hr, hkey, hneed⟩
    refine Or.inl ⟨_, List.mem_map_of_mem hr, hkey, needsLsa_iff.2 ?_⟩
    rw [hkey]
    exact hneed

/-- How many descriptions the master of a dialogue sends. -/
def Dialogue.rounds (d : Dialogue) (n m : NbrRef) : Nat :=
  if d.snd.routerId < d.fst.routerId then Ospfd.rounds d.fst n d.snd m else Ospfd.rounds d.snd m d.fst n

/-- The number of the master of a dialogue: the router with the higher ID. -/
def Dialogue.number (d : Dialogue) (n m : NbrRef) : Int :=
  if d.snd.routerId < d.fst.routerId then (d.fst.nbr n).ddSeqNumber else (d.snd.nbr m).ddSeqNumber

/-- How a dialogue that began in one state ends in another. -/
structure Dialogue.Ends (d d' : Dialogue) (n m : NbrRef) : Prop where
  fst : Synchronized d.fst n d.snd m d'.fst
  snd : Synchronized d.snd m d.fst n d'.snd
  number : d'.number n m = d.number n m + (d.rounds n m + 1 : Nat)

/-- Whatever the order of deliveries, no mismatch is raised, and after a fixed number of
deliveries the dialogue ends. -/
def Dialogue.Synchronizes (d : Dialogue) (n m : NbrRef) : Prop :=
  ∀ i d', Conversation n m d i d' → NoMismatch d.fst d'.fst ∧ NoMismatch d.snd d'.snd ∧
    i ≤ 2 * d.rounds n m + 3 ∧ ((∀ d'', ¬Delivers n m d' d'') → d.Ends d' n m)

section Synchronization

variable {d d' : Dialogue} {n m : NbrRef} {i : Nat}

/-- A dialogue that opens begins on both sides. -/
theorem Dialogue.Opening.pairing (h : d.Opening n m) (hlt : d.snd.routerId < d.fst.routerId)
    (hfits : d.number n m + d.rounds n m ≤ 2147483647) : Pairing d.fst n d.snd m ∧
      Phase d.fst d.snd n m (2 * d.rounds n m + 3) d := by
  obtain ⟨fromFst, fromSnd, hfst, hsnd, htoFst, htoSnd⟩ := h
  obtain ⟨hbegins, dd, hdec, hclaim, hdd⟩ := hfst.begins
  obtain ⟨hbegins', dd', hdec', hclaim', -⟩ := hsnd.begins
  have hphase : Phase d.fst d.snd n m ([fromSnd].length + 2 * Ospfd.rounds d.fst n d.snd m + 2)
      ⟨d.fst, d.snd, [fromSnd], [fromFst]⟩ := by
    refine .opening (fun claim hmem => ?_) hdec hclaim hdd
    rw [List.mem_singleton.1 hmem]
    exact ⟨dd', hdec', hclaim'⟩
  rw [Dialogue.number, Dialogue.rounds, if_pos hlt, if_pos hlt] at hfits
  refine ⟨⟨hbegins, hbegins', hfst.peer, hsnd.peer, hlt, hfits⟩, ?_⟩
  have htotal : [fromSnd].length + 2 * Ospfd.rounds d.fst n d.snd m + 2 = 2 * d.rounds n m + 3 := by
    rw [Dialogue.rounds, if_pos hlt, List.length_singleton]
    omega
  rw [htotal, ← htoFst, ← htoSnd] at hphase
  exact hphase

/-- At the end both routers have received the whole summary of the other. -/
theorem Phase.ends (hp : Pairing d.fst n d.snd m) (h : Phase d.fst d.snd n m 0 d') : d.Ends d' n m := by
  have hpos := rounds_pos d.fst n d.snd m
  obtain ⟨k, hk⟩ : ∃ k, rounds d.fst n d.snd m = k + 1 := ⟨_, (Nat.succ_pred_eq_of_pos hpos).symm⟩
  have hover := (over_iff hp.fst.room hp.snd.room (k := k)).2 hk.le
  generalize hleft : 0 = left at h
  cases h with
  | opening => omega
  | accepted => omega
  | begun hlt => omega
  | answered hlt => omega
  | @ended s t hsst hmaster htst hslave =>
    rw [hk] at hmaster
    rw [hk, SlavePaged] at hslave
    obtain ⟨⟨_, hreact⟩, _, hreact'⟩ := And.intro hmaster.reacts hslave.reacts
    refine ⟨?_, ?_, ?_⟩
    · rw [headersOf_eq hover.1] at hmaster
      exact hmaster.synchronized hsst
    · rw [headersOf_eq hover.2] at hslave
      exact hslave.synchronized htst
    · rw [Dialogue.number, Dialogue.number, Dialogue.rounds, if_pos hp.lower, if_pos hp.lower, if_pos ?_, hk]
      · exact hmaster.stands.ddSeqNumber
      · rw [hreact.quiet.routerId, hreact'.quiet.routerId]
        exact hp.lower

/-- **The first router has the higher ID.** -/
theorem Dialogue.Opening.run (h : d.Opening n m) (hlt : d.snd.routerId < d.fst.routerId)
    (hfits : d.number n m + d.rounds n m ≤ 2147483647) (hrun : Conversation n m d i d') :
    (∃ bodies, Reacts n bodies d.fst d'.fst) ∧ (∃ bodies, Reacts m bodies d.snd d'.snd) ∧
      i ≤ 2 * d.rounds n m + 3 ∧ ((∀ d'', ¬Delivers n m d' d'') → d.Ends d' n m) := by
  obtain ⟨hp, hphase⟩ := h.pairing hlt hfits
  obtain ⟨left, hleft, hphase'⟩ := hphase.run hp hrun
  refine ⟨hphase'.reacts.1, hphase'.reacts.2, by omega, fun hstuck => ?_⟩
  cases left with
  | zero => exact hphase'.ends hp
  | succ left =>
    obtain ⟨d'', hd⟩ := hphase'.exists_delivers
    exact absurd hd (hstuck d'')

/-! ### The other way round -/

/-- The dialogue with the routers named the other way round. -/
def Dialogue.swap (d : Dialogue) : Dialogue := ⟨d.snd, d.fst, d.toSnd, d.toFst⟩

theorem Delivers.swap (h : Delivers n m d d') : Delivers m n d.swap d'.swap := by
  cases h with
  | toFst => exact .toSnd ..
  | toSnd => exact .toFst ..

theorem Conversation.swap (h : Conversation n m d i d') : Conversation m n d.swap i d'.swap := by
  induction h with
  | none => exact .none
  | next _ hd ih => exact ih.next hd.swap

theorem Dialogue.rounds_swap (hids : d.fst.routerId ≠ d.snd.routerId) : d.swap.rounds m n = d.rounds n m := by
  rw [Dialogue.rounds, Dialogue.rounds]
  change (if d.fst.routerId < d.snd.routerId then _ else _) = _
  rcases lt_or_gt_of_ne hids with hlt | hlt
  · rw [if_pos hlt, if_neg (not_lt_of_gt hlt)]
    rfl
  · rw [if_neg (not_lt_of_gt hlt), if_pos hlt]
    rfl

theorem Dialogue.number_swap (hids : d.fst.routerId ≠ d.snd.routerId) : d.swap.number m n = d.number n m := by
  rw [Dialogue.number, Dialogue.number]
  change (if d.fst.routerId < d.snd.routerId then _ else _) = _
  rcases lt_or_gt_of_ne hids with hlt | hlt
  · rw [if_pos hlt, if_neg (not_lt_of_gt hlt)]
    rfl
  · rw [if_neg (not_lt_of_gt hlt), if_pos hlt]
    rfl

theorem Dialogue.Opening.swap (h : d.Opening n m) : d.swap.Opening m n := by
  obtain ⟨fromFst, fromSnd, hfst, hsnd, htoFst, htoSnd⟩ := h
  exact ⟨fromSnd, fromFst, hsnd, hfst, htoSnd, htoFst⟩

/-- **Two routers in ExStart that have sent each other their initial description
synchronize**, whatever their databases, their MTUs and the order of deliveries, as long as
the number of the master does not pass 2^31 - 1. -/
theorem synchronizes (h : d.Opening n m) (hids : d.fst.routerId ≠ d.snd.routerId)
    (hfits : d.number n m + d.rounds n m ≤ 2147483647) : d.Synchronizes n m := by
  intro i d' hrun
  rcases lt_or_gt_of_ne hids with hlt | hlt
  · rw [← Dialogue.number_swap hids, ← Dialogue.rounds_swap hids] at hfits
    obtain ⟨⟨_, hsnd⟩, ⟨_, hfst⟩, hle, hends⟩ := h.swap.run hlt hfits hrun.swap
    have hids' : d'.fst.routerId ≠ d'.snd.routerId := by
      intro heq
      exact hids (hfst.quiet.routerId.symm.trans (heq.trans hsnd.quiet.routerId))
    rw [Dialogue.rounds_swap hids] at hle
    refine ⟨hfst.noMismatch, hsnd.noMismatch, hle, fun hstuck => ?_⟩
    have hend := hends fun d'' hd => hstuck d''.swap hd.swap
    refine ⟨hend.snd, hend.fst, ?_⟩
    rw [← Dialogue.number_swap hids, ← Dialogue.number_swap hids', ← Dialogue.rounds_swap hids]
    exact hend.number
  · obtain ⟨⟨_, hfst⟩, ⟨_, hsnd⟩, hrest⟩ := h.run hlt hfits hrun
    exact ⟨hfst.noMismatch, hsnd.noMismatch, hrest⟩

end Synchronization

/-! ### A first dialogue -/

/-- The router with the higher ID has heard of its peer. -/
def higherEnd : Instance := [.intfEvent 0 .ifUp, lowerHello].foldl exec (drawingRouter 5)

/-- A router with the ID of that peer. -/
def lowerRouter : Instance :=
  Instance.init 2 (Dict.empty.set backboneArea { areaId := backboneArea, interfaces := [0] })
    (fun _ => linkEnd .none) zeroMd5 (fun _ => 9) 0

/-- A peer with a higher ID sends a Hello. -/
def higherHello : Event :=
  .receive 0 (match HelloPacket.serialize
      { networkMask := 4294967292, helloInterval := 10, options := optE, priority := 1,
        deadInterval := 40, designatedRouter := zeroAddr, backupDesignatedRouter := zeroAddr,
        neighbors := [2] } with
    | .ok body => (transmitted zeroMd5 3 backboneArea .none [] 0 1 packetTypeHello body).toOption.getD []
    | .error _ => []) 167772162

/-- That router has heard of its peer. -/
def lowerEnd : Instance := [.intfEvent 0 .ifUp, higherHello].foldl exec lowerRouter

/-- The initial description of a router. -/
def initialDd (s : Instance) (n : NbrRef) : Bytes :=
  (((ddOf s n (ddFlagI ||| ddFlagM ||| ddFlagMS) []).packet s.heap).serialize).toOption.getD []

/-- The two routers, as their dialogue opens. -/
def firstDialogue : Dialogue :=
  ⟨higherEnd, lowerEnd, [initialDd lowerEnd ⟨0, 3⟩], [initialDd higherEnd ⟨0, 2⟩]⟩

theorem opening_firstDialogue : firstDialogue.Opening ⟨0, 2⟩ ⟨0, 3⟩ := by
  refine ⟨_, _, ?_, ?_, rfl, rfl⟩
  · exact ⟨⟨_, .step (e := lowerHello) (.step (e := .intfEvent 0 .ifUp) (.init (empty_drawingRouter 5))
      trivial) trivial⟩, by decide +kernel, by decide +kernel, by decide +kernel, by decide +kernel,
      by decide +kernel, by decide +kernel⟩
  · exact ⟨⟨_, .step (e := higherHello) (.step (e := .intfEvent 0 .ifUp)
      (.init ⟨Instance.initial_init fun _ => rfl, fun _ => rfl⟩) trivial) trivial⟩, by decide +kernel,
      by decide +kernel, by decide +kernel, by decide +kernel, by decide +kernel, by decide +kernel⟩

theorem synchronizes_firstDialogue : firstDialogue.Synchronizes ⟨0, 2⟩ ⟨0, 3⟩ :=
  synchronizes opening_firstDialogue (by decide +kernel) (by decide +kernel)

end Ospfd
