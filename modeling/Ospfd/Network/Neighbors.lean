import Ospfd.Network.Integrity
import Ospfd.Protocol.Waiting

/-!
# Who becomes a neighbor

* `OspfInterface.Reaches`, `OspfInterface.Agrees` — what two interfaces have in common if one accepts the
  packets, and the Hellos, of the other.
* `listed_of_exec`, `twoWay_of_exec` — a neighbor is new, or bidirectional at last, by what it sent.
* `Instance.Frank` — what a router says in its Hellos is what it was told in those of others.
* `neighbors_agree` — **a neighbor is a router with the same parameters**, and one that is bidirectional
  has itself heard a Hello of a router with this ID.
-/

namespace Ospfd

variable {ι : Type}

/-! ## Packets that are accepted -/

/-- The interfaces are in one area and authenticate alike, and not cryptographically. -/
structure OspfInterface.Reaches (x y : OspfInterface) : Prop where
  areaId : x.areaId = y.areaId
  authType : x.authType = y.authType
  plain : y.authType ≠ .md5
  password : y.authType = .simple → padKey 8 x.authKey = padKey 8 y.authKey

/-- The interfaces have the parameters in common that Hellos carry, too. -/
structure OspfInterface.Agrees (x y : OspfInterface) : Prop extends Reaches x y where
  helloInterval : x.helloInterval = y.helloInterval
  deadInterval : x.deadInterval = y.deadInterval
  ipMask : y.intfType = .broadcast → x.ipMask = y.ipMask

section Accepted

variable {s : Instance} {p : Sent} {md5 : Md5} {peerId src : IPv4Address} {peer : OspfInterface}
  {header : OspfHeader} {body : Bytes}

theorem AuthType.num_inj {a b : AuthType} (h : a.num = b.num) : a = b := by
  cases a <;> cases b <;> first | rfl | cases h

/-- What is verified of a packet that was cut to its length. -/
theorem auth_of_verifyAuth {authType : AuthType} {authKey : Bytes} {keyId : Nat} (hw : header.WireRange)
    (hlen : header.length = OspfHeader.size + body.length)
    (h : verifyAuth md5 (header.bytes ++ body) authType authKey keyId = true) :
    header.authType = authType.num ∧ authType ≠ .md5 ∧
      (authType = .simple → header.authData = padKey 8 authKey) := by
  refine ⟨?_, ?_, ?_⟩
  · by_contra hne
    unfold verifyAuth at h
    rw [authType_packet hw] at h
    split_ifs at h
  · rintro rfl
    rw [verifyAuth_md5_of_length md5 hw hlen] at h
    cases h
  · rintro rfl
    rw [verifyAuth_simple md5 hw] at h
    split_ifs at h
    exact beq_iff_eq.1 h

/-- The header of a packet, with the area and the authentication of its interface. -/
theorem Sent.Headed.opened (hp : p.Headed s) :
    ∃ header rest, OspfHeader.WireRange header ∧ header.length = OspfHeader.size + p.body.length ∧
      p.data = header.bytes ++ p.body ++ rest ∧ header.areaId = (s.intf p.intf).areaId ∧
      header.authType = (s.intf p.intf).authType.num ∧
      ((s.intf p.intf).authType = .simple → header.authData = padKey 8 (s.intf p.intf).authKey) := by
  obtain ⟨md5, cryptSeq, hdata⟩ := hp
  have htype := type_of_transmitted hdata
  have hlen := length_of_transmitted hdata
  rw [transmitted_eq _ _ _ _ _ _ _ htype hlen] at hdata
  refine ⟨_, _, wireRange_sentHeader _ _ _ _ _ _ htype hlen, rfl, (Except.ok.inj hdata).symm, rfl, rfl, ?_⟩
  intro hsimple
  simp only [sentHeader, hsimple]
  rfl

/-- **Who accepts a packet is reached** by the interface it was sent on. -/
theorem reaches_of_accepted (hp : p.Headed s) (h : acceptPacket md5 peerId peer p.data src = some (header, body)) :
    (s.intf p.intf).Reaches peer := by
  obtain ⟨sent, rest, hw, hlen, hdata, harea, htype, hkey⟩ := hp.opened
  have hde : OspfHeader.deserialize p.data = .ok sent := by
    rw [hdata, List.append_assoc]
    exact OspfHeader.deserialize_bytes hw _
  have htake : p.data.take sent.length = sent.bytes ++ p.body := by
    rw [hdata]
    exact take_packet hw p.body rest hlen
  rw [acceptPacket, hde] at h
  dsimp only at h
  rw [htake] at h
  split_ifs at h with _ _ _ _ _ hauth hsame
  obtain ⟨hauthType, hplain, hpassword⟩ := auth_of_verifyAuth hw hlen hauth
  have hnum : (s.intf p.intf).authType = peer.authType := AuthType.num_inj (htype.symm.trans hauthType)
  refine ⟨harea.symm.trans (not_not.1 hsame), hnum, hplain, fun hsimple => ?_⟩
  exact (hkey (hnum.trans hsimple)).symm.trans (hpassword hsimple)

end Accepted

/-! ## Who is new, and who is bidirectional at last -/

/-- The moves that neither create a neighbor nor make it bidirectional. -/
def Barred (n : NbrRef) (l : Label) : Prop := (∀ src, l ≠ .create n src) ∧ l ≠ .nbr n .decide

section Barred

variable {n m : NbrRef} {l : Label} {s t : Instance} {e : Event}

theorem IntfMoves.barred {i : IntfId} (h : IntfMoves i l) : Barred n l := by
  constructor
  · rintro src rfl
    rcases h with (h | h | ⟨k, -, h⟩) | h | h <;> cases h
  · rintro rfl
    rcases h with (h | h | ⟨k, -, h⟩) | h | h <;> cases h

theorem Spreads.barred (h : Spreads l) : Barred n l := by
  constructor
  · rintro src rfl
    cases h with
    | flood h => cases h
  · rintro rfl
    cases h with
    | flood h => cases h

theorem Receives.barred {keys : List LsaKey} (h : Receives m keys l) : Barred n l := by
  cases h with
  | spread h => exact h.barred
  | intf => exact ⟨by rintro src ⟨⟩, by rintro ⟨⟩⟩
  | acked => exact ⟨by rintro src ⟨⟩, by rintro ⟨⟩⟩

theorem Works.barred (h : Works l) : Barred n l := by
  cases h with
  | intf h => exact h.barred
  | spread h => exact h.barred
  | _ => exact ⟨by rintro src ⟨⟩, by rintro ⟨⟩⟩

theorem Answers.barred (h : Answers m l) : Barred n l := by
  cases h with
  | _ => exact ⟨by rintro src ⟨⟩, by rintro ⟨⟩⟩

theorem Updates.barred {keys : List LsaKey} (h : Updates m keys l) : Barred n l := by
  cases h with
  | receive h => exact h.barred
  | strike => exact ⟨by rintro src ⟨⟩, by rintro ⟨⟩⟩

/-- A Hello creates its sender, and no other. -/
theorem Greets.barred {src : IPv4Address} (h : Greets m src l) (hne : m ≠ n) : Barred n l := by
  cases h with
  | intf h => exact h.barred
  | create => exact ⟨by rintro src ⟨⟩; exact hne rfl, by rintro ⟨⟩⟩
  | decide => exact ⟨by rintro src ⟨⟩, by rintro ⟨⟩; exact hne rfl⟩
  | _ => exact ⟨by rintro src ⟨⟩, by rintro ⟨⟩⟩

/-- A description makes its sender bidirectional, and creates nobody. -/
theorem Negotiates.barred (h : Negotiates m l) : (∀ src, l ≠ .create n src) ∧ (m ≠ n → Barred n l) := by
  have hcreate : ∀ src, l ≠ .create n src := by
    rintro src rfl
    cases h with
    | exchange h => cases h
  refine ⟨hcreate, fun hne => ⟨hcreate, ?_⟩⟩
  rintro rfl
  cases h with
  | exchange h => cases h
  | decide => exact hne rfl

/-- **Whatever is not sent by a neighbor** neither creates it nor makes it bidirectional. -/
theorem exec_barred (hen : e.Enabled s) (hhello : ∀ src hello, heard s e ≠ some (n, src, .hello hello))
    (hdd : ∀ src dd, heard s e ≠ some (n, src, .dd dd)) : Moves (Barred n) s (exec s e) := by
  rcases hh : heard s e with _ | ⟨m, src, packet⟩
  · exact (exec_works hen hh).mono fun _ => Works.barred
  · cases packet with
    | hello hello =>
      have hne : m ≠ n := by
        rintro rfl
        exact hhello src hello hh
      exact (exec_hello hh).mono fun _ hl => hl.barred hne
    | dd dd =>
      have hne : m ≠ n := by
        rintro rfl
        exact hdd src dd hh
      exact (exec_dd hh).mono fun _ hl => hl.barred.2 hne
    | lsr lsr => exact (exec_lsr hh).mono fun _ => Answers.barred
    | lsu lsu => exact (exec_lsu hh).mono fun _ => Updates.barred
    | lsack ack => exact (exec_lsack hh).mono fun _ => Receives.barred

/-- A neighbor that is not created is on no table on which it was not. -/
theorem move_uncreated (hl : ∀ src, l ≠ .create n src) (hm : move l s t)
    (h : n.routerId ∈ (t.intf n.intf).neighbors) : n.routerId ∈ (s.intf n.intf).neighbors := by
  have hset : ∀ i (x : OspfInterface), (n.intf = i → n.routerId ∈ x.neighbors → n.routerId ∈ (s.intf i).neighbors) →
      n.routerId ∈ ((s.setIntf i x).intf n.intf).neighbors → n.routerId ∈ (s.intf n.intf).neighbors := by
    intro i x hx hmem
    rw [Instance.intf_setIntf] at hmem
    split at hmem
    · rename_i hi
      rw [hi]
      exact hx hi hmem
    · exact hmem
  cases l with
  | intf i =>
    obtain ⟨x, hx, rfl⟩ := hm
    exact hset i x (fun _ hmem => by rwa [hx.neighbors] at hmem) h
  | elect i =>
    by_cases hi : n.intf = i
    · obtain ⟨dr, bdr, state, hx⟩ := hm.intf
      rw [hi, hx] at h
      rw [hi]
      exact h
    · rwa [hm.other _ hi] at h
  | clear i =>
    obtain ⟨-, rfl⟩ := hm
    exact hset i _ (fun _ hmem => absurd hmem (List.not_mem_nil)) h
  | create m src =>
    obtain ⟨-, rfl⟩ := hm
    refine hset m.intf _ (fun hi hmem => ?_) h
    rcases List.mem_append.1 hmem with hmem | hmem
    · exact hmem
    · have hself : n = m := by
        cases n
        cases m
        exact congrArg₂ NbrRef.mk hi (List.mem_singleton.1 hmem)
      rw [hself] at hl
      exact absurd rfl (hl src)
  | nbr m mv =>
    obtain ⟨x, -, rfl⟩ := nbr_of_move hm
    exact h
  | _ => rwa [((move_framed hm).tables rfl).2] at h

theorem listed_of_moves {A : Label → Prop} (hA : ∀ l, A l → ∀ src, l ≠ .create n src) (hm : Moves A s t)
    (h : n.routerId ∈ (t.intf n.intf).neighbors) : n.routerId ∈ (s.intf n.intf).neighbors := by
  have hrun := Lts.Moves.invariant (I := fun u : Instance => n.routerId ∈ (u.intf n.intf).neighbors →
    n.routerId ∈ (s.intf n.intf).neighbors) (fun _ _ _ hl hm hu hmem => hu (move_uncreated (hA _ hl) hm hmem)) hm id
  exact hrun h

/-- Only a decision makes a neighbor bidirectional. -/
theorem OspfNeighbor.oneWay_of_move {should : Bool} {x x' : OspfNeighbor} {m : NbrMove} (hne : m ≠ .decide)
    (hm : m.Rel should x x') (h : ¬.twoWay ≤ x.state) : ¬.twoWay ≤ x'.state := by
  have hlow : ∀ st : NbrState, .twoWay ≤ st → ¬st ≤ x.state := fun st hst hle => h (Nat.le_trans hst hle)
  have hat : ∀ {st : NbrState}, .twoWay ≤ st → x.state ≠ st := fun hst heq => h (by rw [heq]; exact hst)
  cases m with
  | refresh =>
    obtain ⟨-, t, rfl⟩ := hm
    exact h
  | wake =>
    obtain ⟨-, state, t, hstate, rfl⟩ := hm
    rcases hstate with rfl | rfl
    · exact (by decide : ¬NbrState.twoWay ≤ .init)
    · exact (by decide : ¬NbrState.twoWay ≤ .attempt)
  | hello src =>
    obtain ⟨priority, dr, bdr, rfl⟩ := hm
    exact h
  | decide => exact absurd rfl hne
  | restart => exact absurd hm.1 (hlow .exStart (by decide))
  | oneWay => exact absurd hm.1 h
  | down =>
    obtain rfl : x' = _ := hm
    exact (by decide : ¬NbrState.twoWay ≤ .down)
  | negotiate => exact absurd hm.1 (hat (by decide))
  | request hdr => exact absurd hm.1 (hat (by decide))
  | describe =>
    obtain ⟨seq, summary, last, -, rfl⟩ := hm
    exact h
  | received => exact absurd hm.1 (hlow .exchange (by decide))
  | exchangeDone => exact absurd hm.1 (hat (by decide))
  | retry => exact absurd hm.1 (hat (by decide))
  | strike keys =>
    obtain rfl : x' = _ := hm
    rw [OspfNeighbor.struck, OspfNeighbor.foldl_strike]
    rw [if_neg fun hloading => hat (by decide) hloading.1]
    exact h
  | acked key =>
    obtain rfl : x' = _ := hm
    exact h
  | pend key r => exact absurd hm.1 (hlow .exchange (by decide))

theorem OspfNeighbor.oneWay_of_redecided {should : Bool} {x x' : OspfNeighbor} (hr : Redecided should x x')
    (h : ¬.twoWay ≤ x.state) : ¬.twoWay ≤ x'.state := by
  rcases hr with ⟨hst, -⟩ | ⟨hst, -⟩ | ⟨-, rfl⟩
  · exact absurd (by rw [hst]; exact Nat.le_refl 3) h
  · exact absurd (Nat.le_trans (Nat.le_succ 3) hst) h
  · exact h

theorem oneWay_of_moves {A : Label → Prop} (hA : ∀ l, A l → l ≠ .nbr n .decide) (hm : Moves A s t)
    (h : ¬.twoWay ≤ (s.nbr n).state) : ¬.twoWay ≤ (t.nbr n).state := by
  refine Lts.Moves.invariant (I := fun u : Instance => ¬.twoWay ≤ (u.nbr n).state) ?_ hm h
  intro l u v hl hm hu
  refine move_nbr (P := fun x => ¬.twoWay ≤ x.state) hm (fun _ _ => ?_) (fun m x' heq hx => ?_)
    (fun x' hx => OspfNeighbor.oneWay_of_redecided hx hu) hu
  · exact (by decide : ¬NbrState.twoWay ≤ .down)
  · exact OspfNeighbor.oneWay_of_move (fun hc => hA l hl (by rw [heq, hc])) hx hu

end Barred

section Events

variable {s : Instance} {e : Event} {n : NbrRef} {src : IPv4Address} {hello : HelloPacket}

/-- **A neighbor that is new** sent a Hello with the parameters of the interface. -/
theorem listed_of_exec (hen : e.Enabled s) (h : n.routerId ∈ ((exec s e).intf n.intf).neighbors) :
    n.routerId ∈ (s.intf n.intf).neighbors ∨
      ∃ src hello, heard s e = some (n, src, .hello hello) ∧ helloAccepted s n.intf hello = true := by
  by_cases hhello : ∃ src hello, heard s e = some (n, src, .hello hello)
  · obtain ⟨src, hello, hh⟩ := hhello
    by_cases hacc : helloAccepted s n.intf hello = true
    · exact .inr ⟨src, hello, hh, hacc⟩
    · rw [exec_heard hh, processPacket, processHello_refused fun htaken => hacc htaken.1] at h
      exact .inl h
  · by_cases hdd : ∃ src dd, heard s e = some (n, src, .dd dd)
    · obtain ⟨src, dd, hh⟩ := hdd
      exact .inl (listed_of_moves (fun l hl => hl.barred.1) (exec_dd hh) h)
    · have hmoves := exec_barred hen (fun src hello hh => hhello ⟨src, hello, hh⟩) fun src dd hh => hdd ⟨src, dd, hh⟩
      exact .inl (listed_of_moves (fun l hl => hl.1) hmoves h)

/-- Whoever does not list this router is not bidirectional. -/
theorem helloFrom_oneWay (hlisted : s.routerId ∉ hello.neighbors) :
    ¬.twoWay ≤ ((helloFrom n hello src s).2.nbr n).state := by
  have hst : ((s.setNbr n ((s.nbr n).told hello src)).nbr n).state = (s.nbr n).state := by
    rw [Instance.nbr_setNbr_self]
    rfl
  obtain ⟨t, ht, hattempt, hother⟩ := helloSeen_way n hello (s.setNbr n ((s.nbr n).told hello src))
  obtain ⟨u, hu, hway⟩ := helloRest_settles n hello src (s.nbr n).dr (s.nbr n).bdr t
  have hlow : ¬.twoWay ≤ (t.nbr n).state := by
    by_cases hs : (s.nbr n).state = .attempt
    · rw [hattempt (hst.trans hs)]
      decide
    · have hseen : Followed s hello (t.nbr n).state := hother (hst.symm ▸ hs)
      rw [Followed, if_neg hlisted] at hseen
      rw [hseen]
      decide
  rw [helloFrom_eq, Eff.bind_apply_ok ht, hu, hway.oneWay n rfl hlow]
  exact hlow

theorem processHello_oneWay (hlisted : s.routerId ∉ hello.neighbors) (h : ¬.twoWay ≤ (s.nbr n).state) :
    ¬.twoWay ≤ ((processHello n.intf hello src n.routerId s).2.nbr n).state := by
  by_cases hacc : helloAccepted s n.intf hello = true
  · rw [processHello, Eff.get_bind_apply, Eff.when_pos hacc]
    rcases findOrCreate_cases n.intf src n.routerId s with ⟨-, hfind⟩ | ⟨-, hfind | hfind⟩ <;>
      rw [Eff.bind_apply_ok hfind]
    · exact helloFrom_oneWay hlisted
    · exact h
    · exact helloFrom_oneWay (n := n) hlisted
  · rw [processHello_refused fun htaken => hacc htaken.1]
    exact h

/-- **A neighbor that is bidirectional at last** sent a Hello that lists this router, or a description. -/
theorem twoWay_of_exec (hen : e.Enabled s) (h : .twoWay ≤ ((exec s e).nbr n).state) :
    .twoWay ≤ (s.nbr n).state ∨
      (∃ src hello, heard s e = some (n, src, .hello hello) ∧ helloAccepted s n.intf hello = true ∧
        s.routerId ∈ hello.neighbors) ∨ ∃ src dd, heard s e = some (n, src, .dd dd) := by
  by_contra hno
  obtain ⟨hbefore, hno⟩ := not_or.1 hno
  obtain ⟨hhello, hdd⟩ := not_or.1 hno
  refine absurd h ?_
  by_cases hany : ∃ src hello, heard s e = some (n, src, .hello hello)
  · obtain ⟨src, hello, hh⟩ := hany
    rw [exec_heard hh]
    by_cases hacc : helloAccepted s n.intf hello = true
    · exact processHello_oneWay (fun hlisted => hhello ⟨src, hello, hh, hacc, hlisted⟩) hbefore
    · rw [processPacket, processHello_refused fun htaken => hacc htaken.1]
      exact hbefore
  · have hmoves := exec_barred hen (fun src hello hh => hany ⟨src, hello, hh⟩) fun src dd hh => hdd ⟨src, dd, hh⟩
    exact oneWay_of_moves (fun l hl => hl.2) hmoves hbefore

/-- A Hello is recorded. -/
theorem helloFrom_records (n : NbrRef) (hello : HelloPacket) (src : IPv4Address) (s : Instance) :
    (n, .helloReceived) ∈ (helloFrom n hello src s).2.trace := by
  have hsigns : Signs _ (helloFrom n hello src s).2 :=
    signs_maintains.toConducts.helloFrom_traced (fun _ _ => trivial) s n hello src
  exact hsigns.trace.subset (List.mem_append_right _ (List.mem_singleton_self _))

theorem exec_records (hh : heard s e = some (n, src, .hello hello)) (hacc : helloAccepted s n.intf hello = true)
    (h : n.routerId ∈ ((exec s e).intf n.intf).neighbors) : (n, .helloReceived) ∈ (exec s e).trace := by
  rw [exec_heard hh, processPacket] at h ⊢
  rw [processHello, Eff.get_bind_apply, Eff.when_pos hacc] at h ⊢
  rcases findOrCreate_cases n.intf src n.routerId s with ⟨-, hfind⟩ | ⟨hmem, hfind | hfind⟩ <;>
    rw [Eff.bind_apply_ok hfind] at h ⊢
  · exact helloFrom_records n hello src s
  · exact absurd h hmem
  · exact helloFrom_records n hello src _

end Events

/-! ## What a router says -/

/-- A Hello of the interface, as it is. -/
def Sent.Hails (s : Instance) (p : Sent) : Prop :=
  p.pktType = packetTypeHello → (helloOf s p.intf).serialize = .ok p.body

section Hails

variable {s t : Instance} {i : IntfId}

theorem sendHello_hails (h : helloOf t i = helloOf s i) : Sends (Sent.Hails s) t (sendHello i t).2 := by
  rw [sendHello, Eff.get_bind_apply]
  by_cases hpassive : ¬(t.intf i).passive = true
  · rw [Eff.when_pos hpassive]
    have hone : ∀ dest, Eff.Within (Sends (Sent.Hails s)) (do
        let body ← Eff.lift (helloOf t i).serialize
        sendPacket i packetTypeHello body dest) := by
      refine fun dest => lift_sends fun body hbody => sendPacket_sends fun data _ => ?_
      rw [← h]
      exact hbody
    cases (t.intf i).intfType with
    | broadcast => exact hone _ t
    | p2p => exact hone _ t
    | p2mp => exact hone _ t
    | nbma => exact Eff.Within.forEach (fun n _ => hone _) t
    | virtual => exact Eff.Within.forEach (fun n _ => hone _) t
  · rw [Eff.when_neg hpassive]
    exact .refl t

/-- The Hello does not tell the state of the interface, nor its timers. -/
theorem startHello_hails (s : Instance) (i : IntfId) (st : IntfState) :
    Sends (Sent.Hails s) s (startHello i (s.setIntf i { s.intf i with state := st })).2 := by
  rw [startHello, modifyIntf_bind_apply, Instance.intf_setIntf_self]
  refine Sends.trans (.of_eq rfl) (sendHello_hails ?_)
  simp only [helloOf, Instance.neighborsOf, Instance.intf_setIntf_self, Instance.nbr_setIntf]
  rfl

theorem unhailing_hails {α : Type} {m : Py α} (h : Eff.Within (Sends fun p => p.pktType ≠ packetTypeHello) m) :
    Eff.Within (Sends (Sent.Hails s)) m :=
  h.mono fun _ _ => Sends.mono fun _ hne htype => absurd htype hne

/-- **An interface that comes up** hails with the Hello it had before. -/
theorem ifUp_hails (s : Instance) (i : IntfId) : Sends (Sent.Hails s) s (intfEvent i .ifUp s).2 := by
  have helect : Eff.Within (Sends (Sent.Hails s)) (runDrElection nbrEvent i) := by
    refine unhailing_hails (Sends.unhailing.runDrElection (fun n => ?_) i)
    exact Sends.unhailing.nbrEvent (fun _ _ => trivial) n .adjOk fun _ => trivial
  have hup : Sends (Sent.Hails s) s (IntfAction.ifUp.run nbrEvent i s).2 := by
    rw [IntfAction.run, Eff.get_bind_apply]
    by_cases hpassive : (s.intf i).passive = true
    · rw [if_pos hpassive]
      exact .of_eq rfl
    · rw [if_neg hpassive]
      by_cases hmulti : (s.intf i).intfType.isMultiAccess = true
      · rw [if_pos hmulti]
        by_cases hpriority : (s.intf i).priority = 0
        · rw [if_pos hpriority, modifyIntf_bind_apply]
          have hstart := startHello_hails s i .drOther
          exact Eff.bind_final hstart fun _ _ => hstart.trans (helect _)
        · rw [if_neg hpriority, modifyIntf_bind_apply]
          have hstart := startHello_hails s i .waiting
          exact Eff.bind_final hstart fun _ _ => hstart.trans (.of_eq rfl)
      · rw [if_neg hmulti, modifyIntf_bind_apply]
        exact startHello_hails s i .p2p
  have hhandle : Sends (Sent.Hails s) s (handleIntf nbrEvent i (s.intf i).state .ifUp s).2 := by
    rw [handleIntf]
    cases (s.intf i).state with
    | down => exact hup
    | _ => exact .refl s
  rw [intfEvent, dispatchIntf, Eff.get_bind_apply]
  refine Eff.bind_final hhandle fun _ _ => hhandle.trans (unhailing_hails ?_ _)
  refine Eff.Within.read fun t => Eff.Within.when fun _ => Eff.Within.read fun u => ?_
  exact Eff.Within.bind (Sends.unhailing.scheduleRouterLsa _) fun _ => Eff.Within.when fun _ =>
    Sends.unhailing.scheduleNetworkLsa i

/-- **Every Hello that an event sends** is that of its interface, as it was. -/
theorem exec_hails (s : Instance) (e : Event) : Sends (Sent.Hails s) s (exec s e) := by
  by_cases hhello : ∃ i, e = .helloTimer i ∨ e = .intfEvent i .ifUp
  · obtain ⟨i, rfl | rfl⟩ := hhello
    · exact sendHello_hails rfl
    · exact ifUp_hails s i
  · have hsends : Sends (fun p => p.pktType ≠ packetTypeHello) s (exec s e) := by
      refine Sends.unhailing.exec (fun _ => trivial) ?_ (fun i h => absurd ⟨i, h⟩ hhello) fun _ _ _ _ _ _ => trivial
      cases e <;> exact .of_eq rfl
    exact hsends.mono fun p hne htype => absurd htype hne

end Hails

/-- A Hello says the parameters of its interface, and names whoever was heard there. -/
def Sent.Tells (s : Instance) (p : Sent) : Prop :=
  ∀ hello, HelloPacket.deserialize p.body = .ok hello →
    hello.helloInterval = (s.intf p.intf).helloInterval ∧ hello.deadInterval = (s.intf p.intf).deadInterval ∧
      hello.networkMask = (s.intf p.intf).ipMask ∧
        ∀ routerId ∈ hello.neighbors, (⟨p.intf, routerId⟩, .helloReceived) ∈ s.trace

/-- What the router sent is headed with its settings, its Hellos are true, and whom it lists it has heard. -/
structure Instance.Frank (s : Instance) : Prop where
  headed : ∀ p ∈ s.sent, p.Headed s
  tells : ∀ p ∈ s.sent, p.pktType = packetTypeHello → p.Tells s
  named : ∀ n, (s.nbr n).routerId = n.routerId
  recorded : ∀ n : NbrRef, n.routerId ∈ (s.intf n.intf).neighbors → (n, .helloReceived) ∈ s.trace

section Frank

variable {s t : Instance} {p : Sent} {e : Event}

theorem Sent.Tells.later (hr : Remains s t) (h : p.Tells s) : p.Tells t := by
  intro hello hread
  obtain ⟨hhello, hdead, hmask, hnbrs⟩ := h hello hread
  have hset := hr.settings p.intf
  rw [OspfInterface.setting_eq hset OspfInterface.helloInterval,
    OspfInterface.setting_eq hset OspfInterface.deadInterval, OspfInterface.setting_eq hset OspfInterface.ipMask]
  exact ⟨hhello, hdead, hmask, fun routerId hmem => hr.trace.subset (hnbrs routerId hmem)⟩

/-- The Hello of an interface is true. -/
theorem Instance.Frank.tells_of_hails (h : s.Frank) (htype : p.pktType = packetTypeHello) (hp : p.Hails s) :
    p.Tells s := by
  intro hello hread
  rw [HelloPacket.deserialize_of_serialize (hp htype)] at hread
  cases hread
  refine ⟨rfl, rfl, rfl, fun routerId hmem => ?_⟩
  obtain ⟨n, hn, rfl⟩ := List.mem_map.1 hmem
  obtain ⟨hi, hlisted⟩ := Instance.mem_neighborsOf.1 (List.mem_of_mem_filter hn)
  rw [h.named n, ← hi]
  rw [← hi] at hlisted
  exact h.recorded n hlisted

/-- A move keeps the ID of a neighbor. -/
theorem OspfNeighbor.routerId_of_move {should : Bool} {x x' : OspfNeighbor} {m : NbrMove}
    (hm : m.Rel should x x') : x'.routerId = x.routerId := by
  cases m with
  | refresh =>
    obtain ⟨-, t, rfl⟩ := hm
    rfl
  | wake =>
    obtain ⟨-, state, t, -, rfl⟩ := hm
    rfl
  | hello src =>
    obtain ⟨priority, dr, bdr, rfl⟩ := hm
    rfl
  | decide =>
    obtain ⟨-, ⟨-, seq, dd, rfl⟩ | ⟨-, rfl⟩⟩ := hm
    · rfl
    · rfl
  | restart =>
    obtain ⟨-, seq, dd, rfl⟩ := hm
    rfl
  | oneWay =>
    obtain ⟨-, rfl⟩ := hm
    rfl
  | down =>
    obtain rfl : x' = _ := hm
    rfl
  | negotiate =>
    obtain ⟨-, isMaster, seq, opts, summary, rfl⟩ := hm
    rfl
  | request hdr =>
    obtain ⟨-, -, rfl⟩ := hm
    rfl
  | describe =>
    obtain ⟨seq, summary, last, -, rfl⟩ := hm
    rfl
  | received =>
    obtain ⟨-, dd, rfl⟩ := hm
    rfl
  | exchangeDone =>
    obtain ⟨-, ⟨-, rfl⟩ | ⟨-, rxmt, -, rfl⟩⟩ := hm
    · rfl
    · rfl
  | retry =>
    obtain ⟨-, rfl⟩ := hm
    rfl
  | strike keys =>
    obtain rfl : x' = _ := hm
    rw [OspfNeighbor.struck, OspfNeighbor.foldl_strike]
    split <;> rfl
  | acked key =>
    obtain rfl : x' = _ := hm
    rfl
  | pend key r =>
    obtain ⟨-, -, rfl⟩ := hm
    rfl

theorem named_of_moves {A : Label → Prop} (hm : Moves A s t) (h : ∀ n, (s.nbr n).routerId = n.routerId) :
    ∀ n, (t.nbr n).routerId = n.routerId := by
  refine Lts.Moves.invariant (I := fun u : Instance => ∀ n, (u.nbr n).routerId = n.routerId) ?_ hm h
  intro l u v _ hm hu n
  refine move_nbr (P := fun x => x.routerId = n.routerId) hm (fun _ _ => rfl) (fun m x' _ hx => ?_)
    (fun x' hx => ?_) (hu n)
  · exact (OspfNeighbor.routerId_of_move hx).trans (hu n)
  · rcases hx with ⟨-, -, seq, dd, rfl⟩ | ⟨-, -, rfl⟩ | ⟨-, rfl⟩ <;> exact hu n

/-- **Every event** leaves a router frank. -/
theorem Instance.Frank.exec (h : s.Frank) (hen : e.Enabled s) : (exec s e).Frank := by
  have hsigns := exec_signs s e
  refine ⟨fun p hp => ?_, fun p hp htype => ?_, named_of_moves (exec_moves hen) h.named, fun n hn => ?_⟩
  · obtain ⟨new, hnew, hall⟩ := hsigns.sent
    rw [hnew] at hp
    have hbefore : p.Headed s := (List.mem_append.1 hp).elim (h.headed p) (hall p)
    exact hbefore.same hsigns.routerId hsigns.settings
  · obtain ⟨new, hnew, hall⟩ := exec_hails s e
    rw [hnew] at hp
    rcases List.mem_append.1 hp with hp | hp
    · exact (h.tells p hp htype).later hsigns.toRemains
    · exact (h.tells_of_hails htype (hall p hp)).later hsigns.toRemains
  · rcases listed_of_exec hen hn with hold | ⟨src, hello, hh, hacc⟩
    · exact hsigns.trace.subset (h.recorded n hold)
    · exact exec_records hh hacc hn

theorem Instance.Starts.frank (h : s.Starts) : s.Frank := by
  refine ⟨fun p hp => ?_, fun p hp => ?_, fun n => ?_, fun n hn => ?_⟩
  · rw [h.sent] at hp
    cases hp
  · rw [h.sent] at hp
    cases hp
  · rw [h.empty.1.nbr]
  · rw [h.empty.1.neighbors] at hn
    cases hn

end Frank

/-! ## Routers among one another -/

section Settings

variable {x y x' y' : OspfInterface}

theorem OspfInterface.reaches_asCreated : x.asCreated.Reaches y.asCreated ↔ x.Reaches y :=
  ⟨fun h => ⟨h.areaId, h.authType, h.plain, h.password⟩, fun h => ⟨h.areaId, h.authType, h.plain, h.password⟩⟩

theorem OspfInterface.agrees_asCreated : x.asCreated.Agrees y.asCreated ↔ x.Agrees y :=
  ⟨fun h => ⟨reaches_asCreated.1 h.toReaches, h.helloInterval, h.deadInterval, h.ipMask⟩,
    fun h => ⟨reaches_asCreated.2 h.toReaches, h.helloInterval, h.deadInterval, h.ipMask⟩⟩

theorem OspfInterface.Reaches.same (hx : x'.asCreated = x.asCreated) (hy : y'.asCreated = y.asCreated)
    (h : x.Reaches y) : x'.Reaches y' := by
  rw [← reaches_asCreated, hx, hy]
  exact reaches_asCreated.2 h

theorem OspfInterface.Agrees.same (hx : x'.asCreated = x.asCreated) (hy : y'.asCreated = y.asCreated)
    (h : x.Agrees y) : x'.Agrees y' := by
  rw [← agrees_asCreated, hx, hy]
  exact agrees_asCreated.2 h

end Settings

/-- An interface of another router, which has the ID of a neighbor, with the same parameters. -/
structure Behind (w : ι → Instance) (i : ι) (n : NbrRef) (k : ι) (j : IntfId) : Prop where
  routerId : (w k).routerId = n.routerId
  other : (w k).routerId ≠ (w i).routerId
  agrees : ((w k).intf j).Agrees ((w i).intf n.intf)

/-- The neighbor heard a Hello of a router with this ID on its interface, or sent a description from one. -/
def Met (w : ι → Instance) (i : ι) (n : NbrRef) : Prop :=
  (∃ k j, Behind w i n k j ∧ (⟨j, (w i).routerId⟩, .helloReceived) ∈ (w k).trace) ∨
    ∃ k, (w k).routerId = n.routerId ∧ (w k).routerId ≠ (w i).routerId ∧
      ∃ p ∈ (w k).sent, p.pktType = packetTypeDd ∧ ((w k).intf p.intf).Reaches ((w i).intf n.intf)

/-- Everybody is frank, and who is a neighbor, and bidirectional, is so for a reason. -/
structure Acquainted (w : ι → Instance) : Prop where
  frank : ∀ i, (w i).Frank
  behind : ∀ i (n : NbrRef), n.routerId ∈ ((w i).intf n.intf).neighbors → ∃ k j, Behind w i n k j
  met : ∀ i (n : NbrRef), .twoWay ≤ ((w i).nbr n).state → Met w i n

section Network

variable {w w' : ι → Instance} {i : ι} {n : NbrRef} {e : Event} {src : IPv4Address} {packet : Packet}
  {hello : HelloPacket}

theorem Behind.later {k : ι} {j : IntfId} (hr : ∀ k, Signs (w k) (w' k)) (h : Behind w i n k j) :
    Behind w' i n k j := by
  refine ⟨(hr k).routerId.trans h.routerId, ?_, h.agrees.same ((hr k).settings j) ((hr i).settings _)⟩
  rw [(hr k).routerId, (hr i).routerId]
  exact h.other

theorem Met.later (hr : ∀ k, Signs (w k) (w' k)) (h : Met w i n) : Met w' i n := by
  rcases h with ⟨k, j, hb, hmem⟩ | ⟨k, hid, hother, p, hp, htype, hreach⟩
  · refine .inl ⟨k, j, hb.later hr, ?_⟩
    rw [(hr i).routerId]
    exact (hr k).trace.subset hmem
  · refine .inr ⟨k, (hr k).routerId.trans hid, ?_, p, (hr k).sent.subset hp, htype, ?_⟩
    · rw [(hr k).routerId, (hr i).routerId]
      exact hother
    · exact hreach.same ((hr k).settings _) ((hr i).settings _)

/-- **Whatever is heard** was sent by a router of this ID, on an interface that reaches this one. -/
theorem reached_of_heard (hfrank : ∀ k, (w k).Frank) (hsent : Genuine w i e)
    (hh : heard (w i) e = some (n, src, packet)) :
    ∃ k, ∃ p ∈ (w k).sent, (w k).routerId = n.routerId ∧ (w k).routerId ≠ (w i).routerId ∧
      ((w k).intf p.intf).Reaches ((w i).intf n.intf) ∧ decodePacket p.pktType p.body = some packet := by
  cases e with
  | receive j data src' =>
    rcases hsent j data src' rfl with ⟨k, p, hp, rfl⟩ | hnone
    · have hheaded := (hfrank k).headed p hp
      obtain ⟨hid, hother, hdecode⟩ := heard_of_framed hheaded.framed hh
      refine ⟨k, p, hp, hid.symm, hother, ?_, hdecode⟩
      rw [heard] at hh
      split at hh
      · cases hh
      · rename_i header body hacc
        obtain ⟨packet', -, heq⟩ := Option.map_eq_some_iff.1 hh
        cases heq
        exact reaches_of_accepted hheaded hacc
    · rw [heard, hnone] at hh
      cases hh
  | _ => cases hh

theorem eq_of_helloAccepted {s : Instance} {j : IntfId} (h : helloAccepted s j hello = true) :
    hello.helloInterval = (s.intf j).helloInterval ∧ hello.deadInterval = (s.intf j).deadInterval ∧
      ((s.intf j).intfType = .broadcast → hello.networkMask = (s.intf j).ipMask) := by
  rw [helloAccepted] at h
  split_ifs at h with hhello hdead hmask
  exact ⟨not_not.1 hhello, not_not.1 hdead, fun hb => not_not.1 fun hne => hmask ⟨hb, hne⟩⟩

theorem type_of_hello {pktType : Nat} {body : Bytes} (h : decodePacket pktType body = some (.hello hello)) :
    pktType = packetTypeHello ∧ HelloPacket.deserialize body = .ok hello := by
  rw [decodePacket] at h
  split_ifs at h with hhello
  · refine ⟨hhello, ?_⟩
    rcases hread : HelloPacket.deserialize body with e | a
    · rw [hread] at h
      cases h
    · rw [hread] at h
      cases h
      rfl
  all_goals exact absurd h (map_toOption_ne (by rintro _ ⟨⟩) _)

theorem type_of_dd {pktType : Nat} {body : Bytes} {dd : DDPacket} (h : decodePacket pktType body = some (.dd dd)) :
    pktType = packetTypeDd := by
  rw [decodePacket] at h
  split_ifs at h with hhello hdd
  · exact absurd h (map_toOption_ne (by rintro _ ⟨⟩) _)
  · exact hdd
  all_goals exact absurd h (map_toOption_ne (by rintro _ ⟨⟩) _)

/-- **A Hello that is accepted** comes from an interface with the same parameters, and lists whom was heard there. -/
theorem behind_of_hello (hfrank : ∀ k, (w k).Frank) (hsent : Genuine w i e)
    (hh : heard (w i) e = some (n, src, .hello hello)) (hacc : helloAccepted (w i) n.intf hello = true) :
    ∃ k j, Behind w i n k j ∧ ∀ routerId ∈ hello.neighbors, (⟨j, routerId⟩, .helloReceived) ∈ (w k).trace := by
  obtain ⟨k, p, hp, hid, hother, hreach, hdecode⟩ := reached_of_heard hfrank hsent hh
  obtain ⟨htype, hread⟩ := type_of_hello hdecode
  obtain ⟨hhello, hdead, hmask, hlisted⟩ := (hfrank k).tells p hp htype hello hread
  obtain ⟨hhello', hdead', hmask'⟩ := eq_of_helloAccepted hacc
  refine ⟨k, p.intf, ⟨hid, hother, hreach, ?_, ?_, fun hb => ?_⟩, hlisted⟩
  · exact hhello.symm.trans hhello'
  · exact hdead.symm.trans hdead'
  · exact hmask.symm.trans (hmask' hb)

section Heard

variable (h : Acquainted w) (hen : e.Enabled (w i)) (hsent : Genuine w i e)
include h hen hsent

/-- Who is listed after an event has an interface behind it. -/
theorem Acquainted.behind_exec (hn : n.routerId ∈ ((exec (w i) e).intf n.intf).neighbors) :
    ∃ k j, Behind w i n k j := by
  rcases listed_of_exec hen hn with hold | ⟨src, hello, hh, hacc⟩
  · exact h.behind i n hold
  · obtain ⟨k, j, hb, -⟩ := behind_of_hello h.frank hsent hh hacc
    exact ⟨k, j, hb⟩

/-- Who is bidirectional after an event has met this router. -/
theorem Acquainted.met_exec (hn : .twoWay ≤ ((exec (w i) e).nbr n).state) : Met w i n := by
  rcases twoWay_of_exec hen hn with hold | ⟨src, hello, hh, hacc, hlisted⟩ | ⟨src, dd, hh⟩
  · exact h.met i n hold
  · obtain ⟨k, j, hb, hheard⟩ := behind_of_hello h.frank hsent hh hacc
    exact .inl ⟨k, j, hb, hheard _ hlisted⟩
  · obtain ⟨k, p, hp, hid, hother, hreach, hdecode⟩ := reached_of_heard h.frank hsent hh
    exact .inr ⟨k, hid, hother, p, hp, type_of_dd hdecode, hreach⟩

end Heard

variable [DecidableEq ι]

/-- **Every event of any router.** -/
theorem Acquainted.step (h : Acquainted w) (hen : e.Enabled (w i)) (hsent : Genuine w i e) :
    Acquainted (Function.update w i (exec (w i) e)) := by
  have hsigns : ∀ k, Signs (w k) (Function.update w i (exec (w i) e) k) := signs_update (exec_signs _ e)
  -- what holds of the router that goes on, and of the others as they were, holds of all
  have hall : ∀ {P : ι → Instance → Prop}, P i (exec (w i) e) → (∀ k, P k (w k)) →
      ∀ k, P k (Function.update w i (exec (w i) e) k) := fun {P} hP hk =>
    (Function.forall_update_iff w P).2 ⟨hP, fun k _ => hk k⟩
  refine ⟨hall (P := fun _ u => u.Frank) ((h.frank i).exec hen) h.frank, fun k n hn => ?_, fun k n hn => ?_⟩
  · have hbehind : ∃ k' j, Behind w k n k' j :=
      hall (P := fun k u => n.routerId ∈ (u.intf n.intf).neighbors → ∃ k' j, Behind w k n k' j)
        (h.behind_exec hen hsent) (fun k => h.behind k n) k hn
    obtain ⟨k', j, hb⟩ := hbehind
    exact ⟨k', j, hb.later hsigns⟩
  · have hmet : Met w k n :=
      hall (P := fun k u => .twoWay ≤ (u.nbr n).state → Met w k n) (h.met_exec hen hsent) (fun k => h.met k n) k hn
    exact hmet.later hsigns

/-- **The invariant** of every run. -/
theorem Interleaved.acquainted {heardOn : ι → LsaRef → Option IntfId} (h : Interleaved w heardOn) : Acquainted w := by
  induction h with
  | @init w hstart =>
    refine ⟨fun i => (hstart i).frank, fun i n hn => ?_, fun i n hn => ?_⟩
    · rw [(hstart i).empty.1.neighbors] at hn
      cases hn
    · rw [(hstart i).empty.1.nbr] at hn
      exact absurd hn (by decide : ¬NbrState.twoWay ≤ .down)
  | step _ i hen _ hsent ih => exact ih.step hen hsent

/-- **Neighbors agree**: a neighbor that is listed is another router with an interface in the same area and with
the same parameters, and one in 2-Way or above has itself heard a Hello of a router with this ID there, or sent
a description. -/
theorem neighbors_agree {heardOn : ι → LsaRef → Option IntfId} (h : Interleaved w heardOn) (i : ι) (n : NbrRef) :
    (n.routerId ∈ ((w i).intf n.intf).neighbors → ∃ k j, Behind w i n k j) ∧
      (.twoWay ≤ ((w i).nbr n).state → Met w i n) :=
  ⟨h.acquainted.behind i n, h.acquainted.met i n⟩

end Network

/-- The two ends of the link have met. -/
theorem neighbors_agree_linkFlood : ∃ heardOn, Interleaved linkFlood heardOn ∧
    2 ∈ ((linkFlood false).intf 0).neighbors ∧ .twoWay ≤ ((linkFlood false).nbr ⟨0, 2⟩).state ∧
      (∃ k j, Behind linkFlood false ⟨0, 2⟩ k j) ∧ Met linkFlood false ⟨0, 2⟩ := by
  obtain ⟨heardOn, h⟩ := arises_linkFlood
  have hlisted : 2 ∈ ((linkFlood false).intf 0).neighbors := by decide +kernel
  have htwo : .twoWay ≤ ((linkFlood false).nbr ⟨0, 2⟩).state := by decide +kernel
  obtain ⟨hbehind, hmet⟩ := neighbors_agree h false ⟨0, 2⟩
  dsimp only at hbehind
  exact ⟨heardOn, h, hlisted, htwo, hbehind hlisted, hmet htwo⟩

end Ospfd
