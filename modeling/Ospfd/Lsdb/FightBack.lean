import Ospfd.Lsdb.Coverage
import Ospfd.Lsdb.Verdict

/-!
# An LSA in this router's name

A neighbor sends an instance of one of this router's LSAs that is newer than the one this
router originated.  The router is to override it with its own content.

* `Contested` — such a reception, long after anything else happened to the key.
* `FightsBack` — the database holds a newer instance with the router's own body, and it
  was flooded.
* `originate_of_arrived` — within MinLSArrival of an installation nothing is originated.
* `not_fightsBack` — **the received instance always stays**.
-/

namespace Ospfd

/-- A neighbor in Exchange or above sends `r`, in this router's name and newer than its own
instance `e`, when nothing was installed or originated under their key for five seconds. -/
structure Contested (s : Instance) (n : NbrRef) (areaId : IPv4Address) (r e : LsaRef) : Prop where
  adjacent : .exchange ≤ (s.nbr n).state
  allocated : r < s.heap.next
  claimed : (s.heap.obj r).header.advertisingRouter = s.routerId
  young : (s.heap.obj r).header.lsAge < maxAge
  below : signed32 (s.heap.obj r).header.lsSequenceNumber < maxSeqNum
  stored : s.lsdb.lookup areaId (s.heap.obj r).key = some e
  newer : 0 < compareLsa (s.heap.obj r).header (s.heap.obj e).header
  arrival : 5 * second ≤ s.now - s.lsdb.arrivalOf (s.heap.obj r).key
  origination : 5 * second ≤ s.now - lastOriginationOf s (s.heap.obj r).key

/-- From `s` to `t` the router overrode the instance `r` with the content of its own `e`: the
database holds another instance, newer than `r`, which was sent to everyone adjacent in its
scope. -/
def FightsBack (s t : Instance) (areaId : IPv4Address) (r e : LsaRef) : Prop :=
  ∃ x, x ≠ r ∧ t.lsdb.lookup areaId (s.heap.obj r).key = some x ∧
    0 < compareLsa (t.heap.obj x).header (s.heap.obj r).header ∧
    (t.heap.obj x).body = (s.heap.obj e).body ∧
    ∀ i ∈ floodScope t (t.heap.obj x).header.lsType areaId, t.adjacentNeighbors i ≠ [] →
      ∃ new, t.sent = s.sent ++ new ∧
        ∃ p ∈ new, p.intf = i ∧ p.pktType = packetTypeLsu ∧ lsuBytes t x = .ok p.body

/-- Of two instances at most one is newer. -/
theorem compareLsa_pos_asymm {a b : LsaHeader} (h : 0 < compareLsa a b) : ¬0 < compareLsa b a := by
  simp only [compareLsa, maxAge, maxAgeDiff] at *
  split_ifs at * <;> omega

/-! ## Just after an installation -/

/-- The instance `r` arrived under a key just now. -/
def JustArrived (areaId : IPv4Address) (key : LsaKey) (r : LsaRef) (s : Instance) : Prop :=
  s.lsdb.lookup areaId key = some r ∧ s.lsdb.arrivalOf key = s.now

section JustArrived

variable {areaId : IPv4Address} {key : LsaKey} {r : LsaRef} {s t : Instance}

theorem JustArrived.of_sameStore (h : JustArrived areaId key r s) (hst : SameStore s t) :
    JustArrived areaId key r t := by
  rw [JustArrived, hst.lsdb, hst.now]
  exact h

theorem justArrived_installed (h : (s.lsdb.decision s.heap s.now areaId (s.heap.obj r)).1 = true) :
    JustArrived areaId (s.heap.obj r).key r (s.installed areaId r) := by
  have hanswer : (s.lsdb.install s.heap s.now areaId r).1.1 = true := by
    rw [LinkStateDatabase.install_answer, h]
  constructor
  · rw [Instance.installed]
    dsimp only
    rw [LinkStateDatabase.lookup_install, if_pos ⟨hanswer, rfl, Or.inr rfl⟩]
  · rw [Instance.installed]
    dsimp only
    rw [LinkStateDatabase.arrivalOf_install, if_pos ⟨hanswer, rfl⟩]

/-- **Within MinLSArrival of an installation nothing is originated**: the draft is refused. -/
theorem originate_of_arrived {lsType : Nat} {linkStateId : IPv4Address}
    (h : JustArrived areaId ⟨lsType, linkStateId, s.routerId⟩ r s) (body : Option LsaBody)
    (seqNum : Option Nat) : SameStore s (originate areaId lsType linkStateId body seqNum s).2 := by
  rcases originate_cases areaId lsType linkStateId body seqNum s with heq | ⟨n, heq⟩
  · rw [heq]
    exact refl_of SameStore s
  · rw [heq, originateWith_eq areaId lsType linkStateId body n s rfl]
    generalize hlsa : ({ header := originatedHeader s lsType linkStateId n, body } : Lsa) = lsa
    have hdraft : (lsa.serialize s.now).2.key = ⟨lsType, linkStateId, s.routerId⟩ := by
      rw [(Lsa.serialize_sameInstance lsa s.now).key, ← hlsa]
      rfl
    have hrefused :
        ¬(s.lsdb.decision (s.drafted lsa).heap s.now areaId (lsa.serialize s.now).2).1 = true := by
      intro hdec
      rw [← hdraft] at h
      have hage := ((LinkStateDatabase.decision_of_some h.1).1 hdec).2
      rw [h.2, Nat.sub_self] at hage
      exact absurd hage (by decide)
    split
    · exact ⟨rfl, rfl, rfl⟩
    · rw [if_neg hrefused]
      exact ⟨rfl, rfl, rfl⟩

theorem refreshLsa_of_arrived (h : JustArrived areaId (s.heap.obj r).key r s)
    (hadv : (s.heap.obj r).header.advertisingRouter = s.routerId) :
    SameStore s (refreshLsa areaId r s).2 := by
  have hown : (s.heap.obj r).key =
      ⟨(s.heap.obj r).header.lsType, (s.heap.obj r).header.linkStateId, s.routerId⟩ := by
    rw [← hadv]
    rfl
  rw [refreshLsa, Eff.get_bind_apply, h.1]
  dsimp only
  rw [Eff.ite_apply]
  split
  · exact refl_of SameStore s
  · rcases nextSeqNum (s.heap.obj r).header.lsSequenceNumber with _ | n
    · exact refl_of SameStore s
    · rw [hown] at h
      exact originate_of_arrived h _ _

/-- The steps after an installation leave the installed LSA in place, or remove it. -/
theorem afterInstall_lookup (n : NbrRef) (h : JustArrived areaId (s.heap.obj r).key r s)
    (hadv : (s.heap.obj r).header.advertisingRouter = s.routerId) :
    (afterInstall r n areaId s).2.lsdb.lookup areaId (s.heap.obj r).key ∈ [some r, none] := by
  have hkept : ∀ {t : Instance}, SameStore s t →
      t.lsdb.lookup areaId (s.heap.obj r).key ∈ [some r, none] := fun hst => by
    rw [hst.lsdb, h.1]
    exact List.mem_cons_self
  rw [afterInstall, Eff.get_bind_apply]
  by_cases hself : s.lsdb.isSelfOriginated (s.heap.obj r) = true
  · rw [if_pos hself]
    by_cases hage : maxAge ≤ (s.heap.obj r).header.lsAge
    · rw [if_pos hage]
      -- somebody flushes the LSA
      change (s.lsdb.remove areaId (s.heap.obj r).key).lookup areaId (s.heap.obj r).key ∈ _
      rw [LinkStateDatabase.lookup_remove, if_pos ⟨rfl, Or.inr rfl⟩]
      exact List.mem_cons_of_mem _ List.mem_cons_self
    · rw [if_neg hage]
      have hrefresh := hkept (refreshLsa_of_arrived h hadv)
      exact Eff.bind_final (P := fun t : Instance => t.lsdb.lookup areaId (s.heap.obj r).key ∈ [some r, none])
        hrefresh fun _ _ => hrefresh
  · rw [if_neg hself]
    refine hkept (Eff.Within.bind (acknowledge_sameStore r n) (fun _ => ?_) s)
    exact scheduleSpf_within.mono fun _ _ => Quiet.sameStore

/-- The same after the installation as a whole. -/
theorem installed_lookup (n : NbrRef) (hr : r < s.heap.next)
    (hdec : (s.lsdb.decision s.heap s.now areaId (s.heap.obj r)).1 = true)
    (hadv : (s.heap.obj r).header.advertisingRouter = s.routerId) :
    ((do
      floodLsa r areaId (some n.intf)
      afterInstall r n areaId) (s.installed areaId r)).2.lsdb.lookup areaId (s.heap.obj r).key ∈
        [some r, none] := by
  have hstore := floodLsa_sameStore r areaId (some n.intf) (s.installed areaId r)
  have harrived := (justArrived_installed hdec).of_sameStore hstore
  have hgrows : s.heap.Grows (floodLsa r areaId (some n.intf) (s.installed areaId r)).2.heap :=
    (move_grows (l := .install areaId r) (t := s.installed areaId r) rfl).trans
      (floodLsa_within r areaId (some n.intf) (s.installed areaId r)).grows
  refine Eff.bind_final (P := fun t : Instance =>
    t.lsdb.lookup areaId (s.heap.obj r).key ∈ [some r, none]) ?_ fun _ _ => ?_
  · rw [harrived.1]
    exact List.mem_cons_self
  · have hkey := (hgrows.same r hr).key
    have hadv' := (congrArg LsaKey.advertisingRouter hkey).trans (hadv.trans hstore.routerId.symm)
    rw [← hkey] at harrived ⊢
    exact afterInstall_lookup n harrived hadv'

end JustArrived

/-- **The router never fights back.** -/
theorem not_fightsBack {s : Instance} {n : NbrRef} {areaId : IPv4Address} {r e : LsaRef}
    (h : Contested s n areaId r e) :
    ¬FightsBack s (processReceivedLsa r n areaId s).2 areaId r e := by
  rintro ⟨x, hxr, hlook, hnewer, -⟩
  -- its own instance is not newer than the one received
  have hsame : (processReceivedLsa r n areaId s).2 ≠ s := fun heq => by
    rw [heq, h.stored] at hlook
    cases hlook
    rw [heq] at hnewer
    exact compareLsa_pos_asymm h.newer hnewer
  have hverdict : verdict s areaId (s.heap.obj r) = .unknown ∨
      verdict s areaId (s.heap.obj r) = admission s areaId (s.heap.obj r) := by
    rw [verdict, h.stored]
    dsimp only
    rw [if_pos h.newer]
    split
    · exact Or.inl rfl
    · exact Or.inr rfl
  rcases hverdict with hv | hv
  · rw [processReceivedLsa_eq, hv] at hsame
    exact hsame rfl
  · rcases admission_cases s areaId (s.heap.obj r) with ⟨hadm, hdec⟩ | hadm
    · rw [processReceivedLsa_eq, hv, hadm] at hlook
      have hlookup := installed_lookup n h.allocated hdec h.claimed
      dsimp only at hlook
      rw [hlook] at hlookup
      simp [hxr] at hlookup
    · rw [processReceivedLsa_eq, hv, hadm] at hsame
      exact hsame rfl

/-! ### A forged Router-LSA -/

/-- A Router-LSA of router 1 without links, with the second sequence number. -/
def forgedLsa : Lsa :=
  (Lsa.serialize
    { header := { originatedHeader (linkRouter .none) lsaTypeRouter 1 (initialSeqNum + 1) with lsAge := 1 },
      body := some (.router { flags := 0, numLinks := 0, links := [] }) } 0).2

/-- Router 1 has originated its Router-LSA; six seconds later the neighbor sends the other. -/
def peerContested : Instance :=
  (newLsa forgedLsa
    ([Event.tick (6 * second), .routerLsa backboneArea, .tick (6 * second)].foldl exec peerExchange)).2

theorem contested_peerContested : Contested peerContested ⟨0, 2⟩ backboneArea 1 0 where
  adjacent := by decide +kernel
  allocated := by decide +kernel
  claimed := by decide +kernel
  young := by decide +kernel
  below := by decide +kernel
  stored := by decide +kernel
  newer := by decide +kernel
  arrival := by decide +kernel
  origination := by decide +kernel

/-- The forged LSA stays. -/
theorem not_fightsBack_forged :
    ¬FightsBack peerContested (processReceivedLsa 1 ⟨0, 2⟩ backboneArea peerContested).2 backboneArea 1 0 :=
  not_fightsBack contested_peerContested

/-- It is what the database holds. -/
theorem not_fought_back : ¬∀ s n areaId r e, Contested s n areaId r e →
    FightsBack s (processReceivedLsa r n areaId s).2 areaId r e := by
  intro hall
  obtain ⟨x, hx, hlook, -⟩ := hall _ _ _ _ _ contested_peerContested
  have hheld : (processReceivedLsa 1 ⟨0, 2⟩ backboneArea peerContested).2.lsdb.lookup backboneArea
      (peerContested.heap.obj 1).key = some 1 := by decide +kernel
  rw [hheld] at hlook
  cases hlook
  exact hx rfl

end Ospfd
