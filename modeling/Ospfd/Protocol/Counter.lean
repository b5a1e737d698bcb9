import Ospfd.Lsdb.Packable
import Ospfd.Protocol.Sequence

/-!
# The sequence number of descriptions

The number counts up without bound, and is packed as a signed 32-bit integer.

* `CounterWorks` — the description with the current number of a master is on its way, and
  master and slave accept each other's.
* `Ready`, `Primed` — the invariant: what a neighbor in Exchange was sent last.
* `counterWorks_iff` — **the counter works for as long as the number stays below 2^31**;
  `not_counterWorks` — after that nothing is sent.
-/

namespace Ospfd

/-! ## What is sent and accepted -/

/-- The last description sent to a neighbor, as it is decoded. -/
def describedTo (s : Instance) (n : NbrRef) : Option DDPacket :=
  (lastDdBytes s n).bind fun b => (DDPacket.deserialize b).toOption

/-- A description is processed in Exchange: it is no duplicate, and the one expected. -/
def OspfNeighbor.Accepts (x : OspfNeighbor) (dd : DDPacket) : Prop :=
  x.isDuplicateDd dd = false ∧ x.expectsDd dd = true

/-- A description acknowledges the number of a neighbor in ExStart. -/
def OspfNeighbor.Acknowledged (x : OspfNeighbor) (dd : DDPacket) : Prop :=
  ¬dd.isInit ∧ ¬dd.isMaster ∧ dd.ddSeqNumber = x.ddSeqNumber

/-- A slave in Exchange, in some run, with the given number. -/
def SlaveAt (t : Instance) (m : NbrRef) (seq : Int) : Prop :=
  (∃ stays, Stayed Instance.Empty t stays) ∧ (t.nbr m).state = .exchange ∧
    (t.nbr m).isMaster = false ∧ (t.nbr m).ddSeqNumber = seq

/-- The description with the current number of a master is on its way, a slave that is one
behind accepts it, and the master accepts the echo of a slave. -/
def CounterWorks (s : Instance) (n : NbrRef) : Prop :=
  ∃ dd, describedTo s n = some dd ∧ dd.ddSeqNumber = (s.nbr n).ddSeqNumber ∧
    (∀ t m seq, SlaveAt t m seq → seq + 1 = (s.nbr n).ddSeqNumber → (t.nbr m).Accepts dd) ∧
      ∀ t m, SlaveAt t m (s.nbr n).ddSeqNumber →
        ∃ echo, describedTo t m = some echo ∧ (s.nbr n).Accepts echo

/-! ## The invariant -/

/-- A description that fits the wire, and will. -/
structure SentDD.Packs (dd : SentDD) (s : Instance) : Prop where
  wireRange : (dd.packet s.heap).WireRange
  lsaHeaders : ∀ r ∈ dd.lsaHeaders, s.CanPack r

/-- What a neighbor in Exchange was sent last, and what there is left to describe to it. -/
structure Ready (s : Instance) (n : NbrRef) : Prop where
  summary : ∀ r ∈ (s.nbr n).dbSummaryList, s.CanPack r
  least : -2147483648 ≤ (s.nbr n).ddSeqNumber
  decoded : (s.nbr n).isMaster = false → (s.nbr n).ddSeqNumber < 2147483648
  sent : (s.nbr n).ddSeqNumber < 2147483648 → ∃ dd, (s.nbr n).lastSentDd = some dd ∧ dd.Packs s ∧
    dd.ddSeqNumber = (s.nbr n).ddSeqNumber ∧ (dd.packet s.heap).isInit = false ∧
      (dd.packet s.heap).isMaster = (s.nbr n).isMaster

/-- A description carries no later number than the given one, and at a master an earlier
one. -/
def DDPacket.Behind (dd : DDPacket) (isMaster : Bool) (seq : Int) : Prop :=
  dd.ddSeqNumber ≤ seq ∧ (isMaster = true → dd.ddSeqNumber < seq)

/-- The last description received is behind. -/
def OspfNeighbor.Ahead (x : OspfNeighbor) : Prop :=
  ∀ last, x.lastReceivedDd = some last → last.Behind x.isMaster x.ddSeqNumber

/-- In Exchange a neighbor is ready. -/
def Primed (s : Instance) (n : NbrRef) : Prop :=
  (s.nbr n).state = .exchange → Ready s n ∧ (s.nbr n).Ahead

section Ready

variable {n : NbrRef} {s t u : Instance} {isMaster : Bool} {seq : Int} {dd : DDPacket}

theorem canPack_of_heap (h : t.heap = s.heap) {r : LsaRef} (hr : s.CanPack r) : t.CanPack r := by
  rw [Instance.CanPack, h]
  exact hr

/-- The numbers of a description stay, and its headers can still be packed. -/
theorem SentDD.Packs.later {dd : SentDD} (h : dd.Packs s) (hpack : ∀ r, s.CanPack r → t.CanPack r) :
    dd.Packs t where
  wireRange := by
    refine ⟨h.wireRange.interfaceMtu, h.wireRange.options, h.wireRange.flags, h.wireRange.ddSeqNumber, ?_⟩
    intro hdr hmem
    obtain ⟨r, hr, rfl⟩ := List.mem_map.1 hmem
    exact (hpack r (h.lsaHeaders r hr)).2.header
  lsaHeaders := fun r hr => hpack r (h.lsaHeaders r hr)

/-- On the same terms a neighbor stays ready. -/
theorem Ready.same (h : Ready s n) (hs : (s.nbr n).SameTerms (t.nbr n))
    (hpack : ∀ r, s.CanPack r → t.CanPack r) : Ready t n where
  summary := fun r hr => hpack r (h.summary r (hs.dbSummaryList ▸ hr))
  least := by
    rw [hs.ddSeqNumber]
    exact h.least
  decoded := by
    rw [hs.ddSeqNumber, hs.isMaster]
    exact h.decoded
  sent := by
    rw [hs.ddSeqNumber, hs.lastSentDd, hs.isMaster]
    intro hseq
    obtain ⟨dd, hdd, hpacks, hrest⟩ := h.sent hseq
    exact ⟨dd, hdd, hpacks.later hpack, hrest⟩

theorem OspfNeighbor.Ahead.same {x y : OspfNeighbor} (h : x.Ahead) (hs : x.SameTerms y)
    (hlast : y.lastReceivedDd = x.lastReceivedDd) : y.Ahead := by
  intro last hl
  rw [hs.ddSeqNumber, hs.isMaster]
  exact h last (hlast ▸ hl)

/-- Where an exchange is left aside, the neighbor stays ready. -/
theorem Primed.aside (h : Primed s n) (hm : Moves (Aside n) s t) : Primed t n := by
  intro hst
  obtain ⟨-, hold, hsame, hlast⟩ := hm.lasting.1 (by rw [hst]; decide)
  obtain ⟨hready, hahead⟩ := h (hold hst)
  exact ⟨hready.same hsame fun r => hm.canPack, hahead.same hsame hlast⟩

theorem EventMoves.noInstall {m : NbrMove} {l : Label} (h : EventMoves n m l) : NoInstall l := by
  rintro a r rfl
  rcases h with h | h | h <;> cases h

/-- **Sending the next batch makes a neighbor ready.** -/
theorem Poised.ready (h : Poised n dd isMaster seq s u) (hleast : -2147483648 ≤ seq)
    (hdecoded : isMaster = false → seq < 2147483648)
    (hsummary : ∀ r ∈ (u.nbr n).dbSummaryList, s.CanPack r) :
    Ready (sendDdBatch n (if isMaster then ddFlagMS else 0) u).2 n := by
  have hpack : ∀ r ∈ (u.nbr n).dbSummaryList, u.CanPack r := fun r hr =>
    canPack_of_heap h.heap (hsummary r hr)
  generalize hflags : (if isMaster then ddFlagMS else 0) = flags
  obtain ⟨last, hq⟩ := sendDdBatch_quiet n flags u
  have hnbr := congrFun hq.nbr n
  rw [Instance.nbr_setNbr_self] at hnbr
  have hheap : (sendDdBatch n flags u).2.heap = u.heap := hq.heap
  refine ⟨?_, ?_, ?_, ?_⟩
  · rw [hnbr]
    exact fun r hr => canPack_of_heap hheap (hpack r (List.mem_of_mem_drop hr))
  · rw [hnbr]
    exact hleast.trans_eq h.ddSeqNumber.symm
  · rw [hnbr]
    exact fun hslave => h.ddSeqNumber.trans_lt (hdecoded (h.isMaster.symm.trans hslave))
  · -- a number that can be packed is sent
    have hseq' : ((sendDdBatch n flags u).2.nbr n).ddSeqNumber = seq := by
      rw [hnbr]
      exact h.ddSeqNumber
    have hmaster' : ((sendDdBatch n flags u).2.nbr n).isMaster = isMaster := by
      rw [hnbr]
      exact h.isMaster
    rw [hseq', hmaster']
    intro hlt
    rw [sendDdBatch, Eff.get_bind_apply, modifyNbr_bind_apply] at hheap ⊢
    generalize hv : u.setNbr n { u.nbr n with
      dbSummaryList := (u.nbr n).dbSummaryList.drop (maxDdHeaders u n) } = v at hheap ⊢
    generalize hall : (if (u.nbr n).dbSummaryList.drop (maxDdHeaders u n) = [] then flags
      else ddFlagM ||| flags) = all at hheap ⊢
    have hvseq : (v.nbr n).ddSeqNumber = seq := by
      rw [← hv, Instance.nbr_setNbr_self]
      exact h.ddSeqNumber
    have hvheap : v.heap = u.heap := by rw [← hv]; rfl
    have hbits : all < 256 ∧ (all &&& ddFlagI != 0) = false ∧ (all &&& ddFlagMS != 0) = isMaster := by
      rw [← hall, ← hflags]
      cases isMaster <;> split <;> decide
    have hw : ((ddOf v n all ((u.nbr n).dbSummaryList.take (maxDdHeaders u n))).packet v.heap).WireRange := by
      refine wireRange_ddOf hbits.1 (by rw [hvseq]; exact ⟨hleast, hlt⟩) fun r hr => ?_
      rw [hvheap]
      exact (hpack r (List.mem_of_mem_take hr)).2.header
    have hsize : 32 + 20 * ((u.nbr n).dbSummaryList.take (maxDdHeaders u n)).length < 65536 := by
      have hmtu := (u.intf n.intf).mtu_lt
      have hlen := List.length_take_le (maxDdHeaders u n) (u.nbr n).dbSummaryList
      rw [maxDdHeaders] at hlen ⊢
      omega
    obtain ⟨body, data, cryptSeq, -, hsend⟩ := sendDd_returns n hw hsize
    rw [hsend] at hheap ⊢
    rw [Instance.nbr_setNbr_self, hheap]
    refine ⟨_, rfl, ⟨?_, ?_⟩, hvseq, hbits.2.1, hbits.2.2⟩
    · rw [hheap, ← hvheap]
      exact hw
    · exact fun r hr => canPack_of_heap hheap (hpack r (List.mem_of_mem_take hr))

/-- After the next batch was sent a neighbor is primed, and stays so on the same terms. -/
theorem Poised.primed (h : Poised n dd isMaster seq s u) (hleast : -2147483648 ≤ seq)
    (hdecoded : isMaster = false → seq < 2147483648)
    (hsummary : ∀ r ∈ (u.nbr n).dbSummaryList, s.CanPack r) (hdd : dd.Behind isMaster seq)
    (hold : ∀ last, (s.nbr n).lastReceivedDd = some last → last.Behind isMaster seq)
    (hs : SameTerms n dd (sendDdBatch n (if isMaster then ddFlagMS else 0) u).2 t) : Primed t n := by
  have hready := h.ready hleast hdecoded hsummary
  have hdealt := h.sent (if isMaster then ddFlagMS else 0)
  obtain ⟨_, hq⟩ := sendDdBatch_quiet n (if isMaster then ddFlagMS else 0) u
  generalize (sendDdBatch n (if isMaster then ddFlagMS else 0) u).2 = v at *
  have hlast : (v.nbr n).lastReceivedDd = (u.nbr n).lastReceivedDd := by
    rw [hq.nbr, Instance.nbr_setNbr_self]
  refine fun _ => ⟨hready.same hs.nbr fun r hr => canPack_of_heap hs.heap hr, fun last hl => ?_⟩
  rw [hs.nbr.ddSeqNumber, hs.nbr.isMaster, hdealt.ddSeqNumber, hdealt.isMaster]
  rcases hs.recalls with heq | heq
  · rw [heq, hlast] at hl
    rcases h.recalls with heq' | heq'
    · exact hold last (heq' ▸ hl)
    · obtain rfl := Option.some.inj (heq'.symm.trans hl)
      exact hdd
  · obtain rfl := Option.some.inj (heq.symm.trans hl)
    exact hdd

/-! ## Every description keeps it -/

/-- What a description is processed in: stored LSAs can be described, its number was
decoded, and in ExStart no description was received yet. -/
structure Instance.Hearing (s : Instance) (n : NbrRef) (dd : DDPacket) : Prop where
  describable : s.Describable
  seq : -2147483648 ≤ dd.ddSeqNumber ∧ dd.ddSeqNumber < 2147483648
  fresh : (s.nbr n).state = .exStart → (s.nbr n).lastReceivedDd = none

namespace Primed

/-- A description in ExStart. -/
theorem negotiate (h : Primed s n) (hst : (s.nbr n).state = .exStart) (hh : s.Hearing n dd) :
    Primed (processDdExstart n dd s).2 n := by
  have hold : ∀ isMaster seq last, (s.nbr n).lastReceivedDd = some last →
      last.Behind isMaster seq := by
    intro isMaster seq last hl
    rw [hh.fresh hst] at hl
    cases hl
  rw [processDdExstart, Eff.get_bind_apply, Eff.ite_apply]
  by_cases hclaim : dd.claimsMaster = true
  · rw [if_pos hclaim]
    by_cases hid : s.routerId < (s.nbr n).routerId
    · rw [Eff.when_pos hid]
      obtain ⟨u, hu, hsum, hrun⟩ := becomeSlave_poised dd hst
      rw [hrun]
      exact hu.primed hh.seq.1 (fun _ => hh.seq.2) (hsum ▸ hh.describable _) ⟨le_refl _, by rintro ⟨⟩⟩
        (hold _ _) (.refl n dd _)
    · rw [Eff.when_neg hid]
      exact h
  · rw [if_neg hclaim]
    by_cases hack : ¬dd.isInit ∧ ¬dd.isMaster ∧ (s.nbr n).routerId < s.routerId ∧
        dd.ddSeqNumber = (s.nbr n).ddSeqNumber
    · rw [Eff.when_pos hack]
      obtain ⟨u, hu, hsum, hrun⟩ := becomeMaster_poised dd hst
      rw [hrun]
      have hleast := hh.seq.1
      have hseq := hack.2.2.2
      exact hu.primed (by omega) (by rintro ⟨⟩) (hsum ▸ hh.describable _) ⟨by omega, fun _ => by omega⟩
        (hold _ _) (.refl n dd _)
    · rw [Eff.when_neg hack]
      exact h

/-- A description in Exchange. -/
theorem exchange (h : Primed s n) (hst : (s.nbr n).state = .exchange)
    (hdecoded : dd.ddSeqNumber < 2147483648) : Primed (processDdExchange n dd s).2 n := by
  obtain ⟨hready, hahead⟩ := h hst
  have hleast := hready.least
  rw [processDdExchange, Eff.get_bind_apply]
  by_cases hdup : (s.nbr n).isDuplicateDd dd = true
  · rw [if_pos hdup]
    exact h.aside (Eff.Within.when (R := Moves (Aside n)) (fun _ => retransmitLastDd_aside n) s)
  rw [if_neg hdup]
  by_cases hexp : (s.nbr n).expectsDd dd = true
  · rw [if_neg (not_not.2 hexp)]
    rw [OspfNeighbor.expectsDd] at hexp
    cases hmaster : (s.nbr n).isMaster with
    | true =>
      rw [hmaster, if_pos rfl] at hexp
      rw [if_pos rfl]
      have hseq := (of_decide_eq_true hexp).1
      obtain ⟨u, hu, hsum, hsame⟩ := masterExchange_poised dd hst
      rw [hmaster] at hu
      rcases hsame with hsame | ⟨-, hne⟩
      · refine hu.primed (by omega) (by rintro ⟨⟩) (hsum ▸ hready.summary) ⟨by omega, fun _ => by omega⟩ ?_ hsame
        intro last hl
        have hlast := (hahead last hl).1
        exact ⟨by omega, fun _ => by omega⟩
      · exact fun he => absurd he hne
    | false =>
      rw [hmaster, if_neg (by rintro ⟨⟩)] at hexp
      rw [if_neg (by rintro ⟨⟩)]
      have hseq := (of_decide_eq_true hexp).1
      obtain ⟨u, hu, hsum, hsame⟩ := slaveExchange_poised dd hst
      rw [hmaster] at hu
      refine hu.primed (by omega) (fun _ => hdecoded) (hsum ▸ hready.summary) ⟨le_refl _, by rintro ⟨⟩⟩ ?_ hsame
      intro last hl
      have hlast := (hahead last hl).1
      exact ⟨by omega, by rintro ⟨⟩⟩
  · rw [if_pos hexp]
    exact h.aside (seqNumMismatch_aside n s)

/-- **A description.** -/
theorem next (h : Primed s n) (hs : ∀ m, (s.nbr m).Sound) (hdesc : s.Describable)
    (hseq : -2147483648 ≤ dd.ddSeqNumber ∧ dd.ddSeqNumber < 2147483648) : Primed (processDd n dd s).2 n := by
  rw [processDd, Eff.get_bind_apply]
  cases hst : (s.nbr n).state with
  | down => exact h
  | attempt => exact h
  | twoWay => exact h
  | exStart => exact h.negotiate hst ⟨hdesc, hseq, (hs n).fresh⟩
  | exchange => exact h.exchange hst hseq.2
  | init =>
    have hmoves := nbrEvent_twoWayReceived n s
    have htwo := h.aside (twoWayReceived_aside n s)
    dsimp only
    rw [Eff.bind_apply]
    rcases hr : nbrEvent n .twoWayReceived s with ⟨_ | ⟨⟩, t⟩ <;> rw [hr] at htwo hmoves
    · exact htwo
    · dsimp only
      rw [Eff.get_bind_apply]
      by_cases hex : (t.nbr n).state = .exStart
      · rw [Eff.when_pos hex]
        have hdesc' : t.Describable :=
          describable_admits.toCarries.moves (fun _ => EventMoves.noInstall) hmoves hdesc
        exact htwo.negotiate hex ⟨hdesc', hseq, (hmoves.sound hs n).fresh⟩
      · rw [Eff.when_neg hex]
        exact htwo
  | loading => exact h.aside (processDdLoaded_aside n dd s)
  | full => exact h.aside (processDdLoaded_aside n dd s)

end Primed
end Ready

/-! ## Runs -/

section Runs

variable {s t : Instance} {stays : NbrRef → Stay} {n m : NbrRef} {seq : Int} {dd : DDPacket}

/-- **In every run all stored LSAs can be described, and every neighbor is primed.** -/
theorem Stayed.primed (h : Stayed Instance.Empty s stays) : s.Describable ∧ ∀ n, Primed s n := by
  induction h with
  | @init s h =>
    refine ⟨fun areaId r hr => ?_, fun n hst => ?_⟩
    · rw [h.2] at hr
      cases hr
    · rw [h.1.nbr] at hst
      cases hst
  | @step s stays e h hen ih =>
    refine ⟨exec_describable hen ih.1, fun n => ?_⟩
    by_cases hdd : ∃ src dd, heard s e = some (n, src, .dd dd)
    · obtain ⟨src, dd, hh⟩ := hdd
      obtain ⟨pktType, body, -, hdec⟩ := decoded_of_heard hh
      have hseq := DDPacket.seq_of_deserialize (decodePacket_dd hdec)
      have hsound := sound_of_reachable (h.mono fun _ h => h.1).reachable
      rw [exec_heard hh, processPacket, forNeighbor, Eff.get_bind_apply]
      by_cases hlist : n.routerId ∈ (s.intf n.intf).neighbors
      · rw [Eff.when_pos hlist]
        exact (ih.2 n).next hsound ih.1 hseq
      · rw [Eff.when_neg hlist]
        exact ih.2 n
    · exact (ih.2 n).aside (exec_aside hen fun src dd hh => hdd ⟨src, dd, hh⟩)

/-- What is decoded has a number below 2^31. -/
theorem seq_of_describedTo (h : describedTo s n = some dd) : dd.ddSeqNumber < 2147483648 := by
  obtain ⟨b, -, hb⟩ := Option.bind_eq_some_iff.1 h
  rcases hd : DDPacket.deserialize b with e | dd'
  · rw [hd] at hb
    cases hb
  · rw [hd] at hb
    obtain rfl : dd' = dd := Option.some.inj hb
    exact (DDPacket.seq_of_deserialize hd).2

/-- What fits the wire is decoded as it was sent. -/
theorem describedTo_of_wireRange {dd : SentDD} (hlast : (s.nbr n).lastSentDd = some dd)
    (hw : (dd.packet s.heap).WireRange) : describedTo s n = some (dd.packet s.heap) := by
  obtain ⟨b, hb, -, hde⟩ := DDPacket.deserialize_serialize hw
  rw [describedTo, lastDdBytes, hlast, Option.bind_some, hb]
  change (DDPacket.deserialize b).toOption = _
  rw [hde]
  rfl

/-- The last description sent carries the current number, and the role of this router. -/
theorem Ready.described (h : Ready s n) (hlt : (s.nbr n).ddSeqNumber < 2147483648) :
    ∃ dd, describedTo s n = some dd ∧ dd.ddSeqNumber = (s.nbr n).ddSeqNumber ∧
      dd.isInit = false ∧ dd.isMaster = (s.nbr n).isMaster := by
  obtain ⟨dd, hlast, hpacks, hseq, hinit, hmaster⟩ := h.sent hlt
  exact ⟨_, describedTo_of_wireRange hlast hpacks.wireRange, hseq, hinit, hmaster⟩

/-- No description with another number is a duplicate. -/
theorem OspfNeighbor.Ahead.not_duplicate {x : OspfNeighbor} (h : x.Ahead)
    (hseq : ¬dd.Behind x.isMaster x.ddSeqNumber) : x.isDuplicateDd dd = false := by
  rw [OspfNeighbor.isDuplicateDd]
  rcases hl : x.lastReceivedDd with _ | last
  · rfl
  · have hbehind := h last hl
    refine decide_eq_false fun heq => hseq ?_
    rw [DDPacket.Behind, heq.1]
    exact hbehind

/-- What a slave sends carries its number, without I and MS. -/
theorem SlaveAt.echoes (h : SlaveAt t m seq) :
    ∃ echo, describedTo t m = some echo ∧ echo.ddSeqNumber = seq ∧ echo.isInit = false ∧
      echo.isMaster = false := by
  obtain ⟨⟨stays, hrun⟩, hst, hslave, rfl⟩ := h
  have hready := (hrun.primed.2 m hst).1
  obtain ⟨echo, hecho, hseq, hinit, hmaster⟩ := hready.described (hready.decoded hslave)
  exact ⟨echo, hecho, hseq, hinit, hmaster.trans hslave⟩

/-- A slave accepts the next number. -/
theorem SlaveAt.accepts (h : SlaveAt t m seq) (hseq : dd.ddSeqNumber = seq + 1)
    (hinit : dd.isInit = false) : (t.nbr m).Accepts dd := by
  obtain ⟨⟨stays, hrun⟩, hst, hslave, rfl⟩ := h
  refine ⟨(hrun.primed.2 m hst).2.not_duplicate fun hbehind => ?_, ?_⟩
  · have hle := hbehind.1
    omega
  · rw [OspfNeighbor.expectsDd, hslave, if_neg (by rintro ⟨⟩)]
    exact decide_eq_true ⟨hseq, by simp [hinit]⟩

/-- A master accepts the echo of its number. -/
theorem Primed.accepts (h : Primed s n) (hst : (s.nbr n).state = .exchange)
    (hmaster : (s.nbr n).isMaster = true) (hseq : dd.ddSeqNumber = (s.nbr n).ddSeqNumber)
    (hinit : dd.isInit = false) (hslave : dd.isMaster = false) : (s.nbr n).Accepts dd := by
  refine ⟨(h hst).2.not_duplicate fun hbehind => ?_, ?_⟩
  · have hlt := hbehind.2 hmaster
    omega
  · rw [OspfNeighbor.expectsDd, if_pos hmaster]
    exact decide_eq_true ⟨hseq, by simp [hinit, hslave]⟩

/-- The description that begins an exchange can be sent, whatever number is drawn. -/
theorem describedTo_startDdExchange (n : NbrRef) (s : Instance) :
    ∃ dd, describedTo (startDdExchange n s).2 n = some dd ∧ dd.claimsMaster = true ∧
      dd.ddSeqNumber = ((startDdExchange n s).2.nbr n).ddSeqNumber := by
  obtain ⟨t, ht, hq⟩ := startDdExchange_eq n s
  have hnbr : t.nbr n = (s.nbr n).started (firstDd s n).ddSeqNumber (firstDd s n) := by
    rw [hq.nbr, Instance.nbr_setNbr_self]
  have hseq := seq_firstDd s n
  have hw : ((firstDd s n).packet t.heap).WireRange :=
    ⟨(s.intf n.intf).mtu_lt, Nat.lt_of_sub_eq_succ rfl,
      (by decide : ddFlagI ||| ddFlagM ||| ddFlagMS < 256), ⟨le_trans (by decide) hseq.1, hseq.2⟩, nofun⟩
  rw [ht]
  dsimp only
  rw [hnbr]
  refine ⟨_, describedTo_of_wireRange (by rw [hnbr]; rfl) hw, ?_, rfl⟩
  simp [DDPacket.claimsMaster, DDPacket.isInit, DDPacket.isMore, DDPacket.isMaster, SentDD.packet, firstDd,
    ddFlagI, ddFlagM, ddFlagMS]

end Runs

/-- A router that draws the given word. -/
def drawingRouter (word : Fin 4294967296) : Instance :=
  Instance.init 3 (Dict.empty.set backboneArea { areaId := backboneArea, interfaces := [0] })
    (fun _ => linkEnd .none) zeroMd5 (fun _ => word) 0

theorem empty_drawingRouter (word : Fin 4294967296) : (drawingRouter word).Empty :=
  ⟨Instance.initial_init fun _ => rfl, fun _ => rfl⟩

/-- A peer with a lower ID sends a Hello. -/
def lowerHello : Event :=
  .receive 0 (peerPacket packetTypeHello (HelloPacket.serialize
    { networkMask := 4294967292, helloInterval := 10, options := optE, priority := 1,
      deadInterval := 40, designatedRouter := zeroAddr, backupDesignatedRouter := zeroAddr,
      neighbors := [3] })) 167772162

/-- It acknowledges a number. -/
def lowerAck (seq : Int) : Event :=
  .receive 0 (peerPacket packetTypeDd (DDPacket.serialize
    { interfaceMtu := 1500, options := optE, flags := ddFlagM, ddSeqNumber := seq, lsaHeaders := [] }))
    167772162

end Ospfd
