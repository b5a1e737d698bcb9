import Ospfd.Lsdb.Areas
import Ospfd.Lsdb.Packable
import Ospfd.Lsdb.Summaries
import Ospfd.Lsdb.Updates

/-!
# The scope of flooding

An LSA belongs to an area, to a link, or to the whole domain except its stub areas.  The
database keeps the areas apart; nothing keeps AS-wide LSAs out of a stub area, nor the LSAs
of a link on it.

* `recordIntfs` — on which interface each LSA was received.
* `MaySend`, `InScope` — what was sent, described and installed is in scope.
* `KeepsScope` — the events that leave no scope, by the state before them.
* `Housed` — **the invariant**: the LSAs have their homes, and were sent from there.
-/

namespace Ospfd

/-! ## Scope -/

/-- Whether an interface belongs to a stub area. -/
def Instance.inStub (s : Instance) (i : IntfId) : Bool :=
  (s.areas.get? (s.intf i).areaId).any OspfArea.stub

/-- The type of an LSA object. -/
def Instance.lsTypeOf (s : Instance) (r : LsaRef) : Nat := (s.heap.obj r).header.lsType

/-- On which interface each LSA was received, after an event. -/
def recordIntfs (s : Instance) (e : Event) (heardOn : LsaRef → Option IntfId) :
    LsaRef → Option IntfId :=
  match heard s e with
  | some (n, _, .lsu lsu) =>
      if n.routerId ∈ (s.intf n.intf).neighbors then fun r =>
        if r ∈ received s lsu then some n.intf else heardOn r
      else heardOn
  | _ => heardOn

/-- An LSA with a home area may be sent on an interface. -/
structure MaySend (s : Instance) (heardOn : LsaRef → Option IntfId) (home : LsaRef → IPv4Address)
    (i : IntfId) (r : LsaRef) : Prop where
  domain : asWide (s.lsTypeOf r) = true → s.inStub i = false
  area : asWide (s.lsTypeOf r) = false → home r = (s.intf i).areaId
  link : s.lsTypeOf r = lsaTypeOpaqueLink → ∀ j, heardOn r = some j → j = i

/-- Everything is in scope.  An LSA that is not AS-wide has a home area: the one it was
received in, or originated for, as the database has it. -/
structure InScope (s : Instance) (heardOn : LsaRef → Option IntfId) (home : LsaRef → IPv4Address) :
    Prop where
  received : ∀ r i, heardOn r = some i → asWide (s.lsTypeOf r) = false → home r = (s.intf i).areaId
  stored : ∀ areaId, ∀ r ∈ s.lsdb.getAll areaId, home r = areaId
  sent : ∀ p ∈ s.sent, p.pktType = packetTypeLsu →
    ∃ rs, s.Wrote rs p.body ∧ ∀ r ∈ rs, MaySend s heardOn home p.intf r
  described : ∀ p ∈ s.sent, p.pktType = packetTypeDd → s.inStub p.intf = true → AreaOnly p.body
  installed : ∀ r i, heardOn r = some i → s.inStub i = true → asWide (s.lsTypeOf r) = true →
    (s.heap.obj r).installTime = none

/-! ## Runs -/

/-- The interfaces of an area belong to it. -/
def Instance.Laid (s : Instance) : Prop :=
  ∀ areaId area, s.areas.get? areaId = some area → ∀ i ∈ area.interfaces, (s.intf i).areaId = areaId

/-- A daemon that starts: no LSA stored, nothing sent, and the interfaces in their areas. -/
structure Instance.Unused (s : Instance) : Prop where
  empty : s.Empty
  sent : s.sent = []
  laid : s.Laid

/-- The states of a daemon, with the interface on which each LSA was received. -/
inductive Recorded (ok : Instance → (LsaRef → Option IntfId) → Event → Prop) :
    Instance → (LsaRef → Option IntfId) → Prop where
  | init {s : Instance} (h : s.Unused) : Recorded ok s fun _ => none
  | step {s : Instance} {heardOn : LsaRef → Option IntfId} {e : Event} (h : Recorded ok s heardOn)
      (hen : e.Enabled s) (hok : ok s heardOn e) : Recorded ok (exec s e) (recordIntfs s e heardOn)

/-- A run in scope: every state is, and an LSA keeps its home area. -/
inductive Scoped : Instance → (LsaRef → Option IntfId) → (LsaRef → IPv4Address) → Prop where
  | init {s : Instance} {home : LsaRef → IPv4Address} (h : s.Unused) (hs : InScope s (fun _ => none) home) :
      Scoped s (fun _ => none) home
  | step {s : Instance} {heardOn : LsaRef → Option IntfId} {home home' : LsaRef → IPv4Address}
      {e : Event} (h : Scoped s heardOn home) (hen : e.Enabled s)
      (hkept : ∀ r, r < s.heap.next → home' r = home r)
      (hs : InScope (exec s e) (recordIntfs s e heardOn) home') :
      Scoped (exec s e) (recordIntfs s e heardOn) home'

/-- No neighbor on an interface of a stub area is adjacent. -/
def Instance.StubsCalm (s : Instance) : Prop := ∀ i, s.inStub i = true → s.Calm i

/-- A received LSA stays in scope: an AS-wide one comes from no stub area, and no neighbor in
a stub area is adjacent; nor is one on the other links, for the LSA of a link, and no other
instance was received there. -/
structure UpdateFits (s : Instance) (heardOn : LsaRef → Option IntfId) (i : IntfId) (key : LsaKey) :
    Prop where
  domain : asWide key.lsType = true → s.inStub i = false ∧ s.StubsCalm
  calm : key.lsType = lsaTypeOpaqueLink →
    ∀ j ∈ s.interfacesForArea (s.intf i).areaId, j ≠ i → s.Calm j
  stored : key.lsType = lsaTypeOpaqueLink → ∀ r, s.lsdb.lookup (s.intf i).areaId key = some r →
    ∀ j, heardOn r = some j → j = i

/-- A requested LSA stays in scope. -/
structure AnswerFits (s : Instance) (heardOn : LsaRef → Option IntfId) (i : IntfId) (r : LsaRef) :
    Prop where
  domain : asWide (s.lsTypeOf r) = true → s.inStub i = false
  link : s.lsTypeOf r = lsaTypeOpaqueLink → ∀ j, heardOn r = some j → j = i

/-- A link's LSA in an area is flooded to the link it was received on, or nowhere. -/
def StaysOnLink (s : Instance) (heardOn : LsaRef → Option IntfId) (areaId : IPv4Address) (r : LsaRef) :
    Prop :=
  s.lsTypeOf r = lsaTypeOpaqueLink → s.lsdb.isSelfOriginated (s.heap.obj r) = false →
    ∀ i ∈ s.interfacesForArea areaId, s.Calm i ∨ ∀ j, heardOn r = some j → j = i

/-- The events that keep everything in scope. -/
structure KeepsScope (s : Instance) (heardOn : LsaRef → Option IntfId) (e : Event) : Prop where
  update : ∀ n src lsu, heard s e = some (n, src, .lsu lsu) → n.routerId ∈ (s.intf n.intf).neighbors →
    ∀ lsa ∈ lsu.lsas, UpdateFits s heardOn n.intf lsa.key
  answer : ∀ n src lsr, heard s e = some (n, src, .lsr lsr) → n.routerId ∈ (s.intf n.intf).neighbors →
    .exchange ≤ (s.nbr n).state → ∀ rs, requestedLsas s (s.intf n.intf).areaId lsr.items = some rs →
      ∀ r ∈ rs, AnswerFits s heardOn n.intf r
  summary : ∀ n src dd, heard s e = some (n, src, .dd dd) → n.routerId ∈ (s.intf n.intf).neighbors →
    (s.nbr n).state = .init ∨ (s.nbr n).state = .exStart → s.inStub n.intf = true →
      s.lsdb.external.values = []
  origination : ∀ areaId lsType linkStateId body, e = .originate areaId lsType linkStateId body →
    asWide lsType = true → s.StubsCalm
  aging : e = .aging → ∀ areaId, ∀ r ∈ s.lsdb.getMaxageLsas s.heap s.now areaId,
    StaysOnLink s heardOn areaId r

/-! ## The invariant -/

/-- An LSA was received in its home area, or outside of stub areas if it is AS-wide. -/
structure HeardAt (s : Instance) (home : LsaRef → IPv4Address) (i : IntfId) (r : LsaRef) : Prop where
  area : asWide (s.lsTypeOf r) = false → home r = (s.intf i).areaId
  domain : asWide (s.lsTypeOf r) = true → s.inStub i = false

/-- The LSAs have their homes: the stored ones their area, and what was sent was in scope. -/
structure Housed (s : Instance) (heardOn : LsaRef → Option IntfId) (home : LsaRef → IPv4Address) :
    Prop where
  laid : s.Laid
  fresh : ∀ r, s.heap.next ≤ r → heardOn r = none
  received : ∀ r i, heardOn r = some i → HeardAt s home i r
  areas : ∀ areaId key r, (s.lsdb.area areaId).get? key = some r →
    r < s.heap.next ∧ (s.heap.obj r).key = key ∧ asWide key.lsType = false ∧ home r = areaId
  external : ∀ areaId key r, asWide key.lsType = true → s.lsdb.lookup areaId key = some r →
    r < s.heap.next ∧ (s.heap.obj r).key = key
  sent : ∀ p ∈ s.sent, p.pktType = packetTypeLsu →
    ∃ rs, s.Wrote rs p.body ∧ ∀ r ∈ rs, MaySend s heardOn home p.intf r

section Housed

variable {s t : Instance} {heardOn heardOn' : LsaRef → Option IntfId}
  {home home' : LsaRef → IPv4Address} {areaId : IPv4Address} {key : LsaKey} {r : LsaRef} {i : IntfId}

theorem lsTypeOf_of_grows (hg : s.heap.Grows t.heap) (hr : r < s.heap.next) :
    t.lsTypeOf r = s.lsTypeOf r :=
  congrArg LsaKey.lsType (hg.same r hr).key

theorem SameLayout.inStub (h : SameLayout s t) (i : IntfId) : t.inStub i = s.inStub i := by
  rw [Instance.inStub, Instance.inStub, h.areas, h.areaId]

theorem SameLayout.laid (h : SameLayout s t) (hs : s.Laid) : t.Laid := by
  intro areaId area harea i hi
  rw [h.areas] at harea
  rw [h.areaId]
  exact hs areaId area harea i hi

theorem MaySend.later (h : MaySend s heardOn home i r) (hlayout : SameLayout s t)
    (hg : s.heap.Grows t.heap) (hr : r < s.heap.next) (hheard : heardOn' r = heardOn r)
    (hhome : home' r = home r) : MaySend t heardOn' home' i r := by
  have htype := lsTypeOf_of_grows hg hr
  refine ⟨fun hw => ?_, fun hw => ?_, fun hlink j hj => h.link (htype ▸ hlink) j (hheard ▸ hj)⟩
  · rw [hlayout.inStub]
    exact h.domain (htype ▸ hw)
  · rw [hhome, hlayout.areaId]
    exact h.area (htype ▸ hw)

namespace Housed

/-- A stored LSA is there, under its own key, and at home. -/
theorem of_lookup (h : Housed s heardOn home) (hr : s.lsdb.lookup areaId key = some r) :
    r < s.heap.next ∧ (s.heap.obj r).key = key ∧ (asWide key.lsType = false → home r = areaId) := by
  by_cases hw : asWide key.lsType = true
  · obtain ⟨hlt, hkey⟩ := h.external areaId key r hw hr
    exact ⟨hlt, hkey, fun hno => absurd (hw.symm.trans hno) nofun⟩
  · have hno : asWide key.lsType = false := by simpa using hw
    rw [LinkStateDatabase.lookup_of_scoped _ _ hno] at hr
    obtain ⟨hlt, hkey, -, hhome⟩ := h.areas areaId key r hr
    exact ⟨hlt, hkey, fun _ => hhome⟩

/-- What was sent stays in scope. -/
theorem sent_later (h : Housed s heardOn home) (hlayout : SameLayout s t) (hg : s.heap.Grows t.heap)
    (hheard : ∀ r, r < s.heap.next → heardOn' r = heardOn r)
    (hhome : ∀ r, r < s.heap.next → home' r = home r) : ∀ p ∈ s.sent, p.pktType = packetTypeLsu →
      ∃ rs, t.Wrote rs p.body ∧ ∀ r ∈ rs, MaySend t heardOn' home' p.intf r := by
  intro p hp htype
  obtain ⟨rs, hwrote, hmay⟩ := h.sent p hp htype
  obtain ⟨u, hu, hrs, -⟩ := id hwrote
  refine ⟨rs, hwrote.later hg, fun r hr => ?_⟩
  have hlt := lt_of_lt_of_le (hrs r hr) hu.next
  exact (hmay r hr).later hlayout hg hlt (hheard r hlt) (hhome r hlt)

/-- What changes neither the database nor what is known of the LSAs. -/
theorem keep (h : Housed s heardOn home) (hlsdb : t.lsdb = s.lsdb) (hg : s.heap.Grows t.heap)
    (hlayout : SameLayout s t) (hfresh : ∀ r, t.heap.next ≤ r → heardOn' r = none)
    (hheard : ∀ r, r < s.heap.next → heardOn' r = heardOn r)
    (hhome : ∀ r, r < s.heap.next → home' r = home r)
    (hsent : Sends (fun p => p.pktType = packetTypeLsu → ∃ rs, t.Wrote rs p.body ∧
      ∀ r ∈ rs, MaySend t heardOn' home' p.intf r) s t)
    (hreceived : ∀ r i, heardOn' r = some i → HeardAt t home' i r) : Housed t heardOn' home' where
  laid := hlayout.laid h.laid
  fresh := hfresh
  received := hreceived
  areas := by
    intro areaId key r hr
    rw [hlsdb] at hr
    obtain ⟨hlt, hkey, hw, hat⟩ := h.areas areaId key r hr
    exact ⟨lt_of_lt_of_le hlt hg.next, (hg.same r hlt).key.trans hkey, hw, (hhome r hlt).trans hat⟩
  external := by
    intro areaId key r hw hr
    rw [hlsdb] at hr
    obtain ⟨hlt, hkey⟩ := h.external areaId key r hw hr
    exact ⟨lt_of_lt_of_le hlt hg.next, (hg.same r hlt).key.trans hkey⟩
  sent := by
    obtain ⟨new, hnew, hall⟩ := hsent
    intro p hp htype
    rw [hnew] at hp
    rcases List.mem_append.1 hp with hp | hp
    · exact h.sent_later hlayout hg hheard hhome p hp htype
    · exact hall p hp htype

/-- What was received stays where it was. -/
theorem received_later (h : Housed s heardOn home) (hlayout : SameLayout s t) (hg : s.heap.Grows t.heap)
    (hhome : ∀ r, r < s.heap.next → home' r = home r) :
    ∀ r i, heardOn r = some i → HeardAt t home' i r := by
  intro r i hr
  have hlt : r < s.heap.next := by
    by_contra hno
    rw [h.fresh r (Nat.not_lt.1 hno)] at hr
    cases hr
  have htype := lsTypeOf_of_grows hg hlt
  refine ⟨fun hw => ?_, fun hw => ?_⟩
  · rw [hhome r hlt, hlayout.areaId]
    exact (h.received r i hr).area (htype ▸ hw)
  · rw [hlayout.inStub]
    exact (h.received r i hr).domain (htype ▸ hw)

theorem idle (h : Housed s heardOn home) (hi : Idle s t) : Housed t heardOn home :=
  h.keep hi.lsdb hi.heap hi.layout (fun r hr => h.fresh r (hi.heap.next.trans hr)) (fun _ _ => rfl)
    (fun _ _ => rfl)
    (hi.sent.mono fun _ hp htype => absurd htype hp) (h.received_later hi.layout hi.heap fun _ _ => rfl)

/-- Updates with LSAs that may be sent. -/
theorem told (h : Housed s heardOn home)
    (ht : Tells s.Calm (fun i r => r < s.heap.next ∧ MaySend s heardOn home i r) s t) :
    Housed t heardOn home := by
  refine h.keep ht.lsdb ht.heap ht.layout (fun r hr => h.fresh r (ht.heap.next.trans hr)) (fun _ _ => rfl)
    (fun _ _ => rfl)
    ?_ (h.received_later ht.layout ht.heap fun _ _ => rfl)
  refine (ht.sent (fun i r hr => hr.1) fun i hi => hi).mono fun p hp htype => ?_
  obtain ⟨rs, hwrote, hall⟩ := hp htype
  exact ⟨rs, hwrote, fun r hr => (hall r hr).2.later ht.layout ht.heap (hall r hr).1 rfl rfl⟩

/-- An LSA is filed in its home area. -/
theorem installed (h : Housed s heardOn home) (hr : r < s.heap.next)
    (hhome : asWide (s.lsTypeOf r) = false → home r = areaId) :
    Housed (s.installed areaId r) heardOn home := by
  have hg : s.heap.Grows (s.installed areaId r).heap := move_grows (l := .install areaId r) rfl
  have hlayout : SameLayout s (s.installed areaId r) := ⟨rfl, fun _ => rfl⟩
  refine ⟨hlayout.laid h.laid, fun k hk => h.fresh k (hg.next.trans hk),
    h.received_later hlayout hg fun _ _ => rfl, fun a key k hk => ?_, fun a key k hw hk => ?_,
    h.sent_later hlayout hg (fun _ _ => rfl) fun _ _ => rfl⟩
  · rw [Instance.installed] at hk
    rcases LinkStateDatabase.get?_area_of_install hk with ⟨rfl, rfl, hw, rfl⟩ | hold
    · exact ⟨lt_of_lt_of_le hr hg.next, (hg.same _ hr).key, hw, hhome hw⟩
    · obtain ⟨hlt, hkey, hw, hat⟩ := h.areas a key k hold
      exact ⟨lt_of_lt_of_le hlt hg.next, (hg.same k hlt).key.trans hkey, hw, hat⟩
  · rw [Instance.installed, LinkStateDatabase.lookup_install] at hk
    split at hk
    · rename_i hinst
      obtain rfl := Option.some.inj hk
      exact ⟨lt_of_lt_of_le hr hg.next, (hg.same r hr).key.trans hinst.2.1⟩
    · obtain ⟨hlt, hkey⟩ := h.external a key k hw hk
      exact ⟨lt_of_lt_of_le hlt hg.next, (hg.same k hlt).key.trans hkey⟩

theorem removed (h : Housed s heardOn home) (areaId : IPv4Address) (key : LsaKey) :
    Housed (removeLsa areaId key s).2 heardOn home := by
  refine ⟨h.laid, h.fresh, h.received_later ⟨rfl, fun _ => rfl⟩ (.refl _) fun _ _ => rfl,
    fun a k r hr => ?_, fun a k r hw hr => ?_,
    h.sent_later ⟨rfl, fun _ => rfl⟩ (.refl _) (fun _ _ => rfl) fun _ _ => rfl⟩
  · rw [removeLsa, Eff.modify_apply] at hr
    exact h.areas a k r (LinkStateDatabase.get?_area_of_remove hr)
  · rw [removeLsa, Eff.modify_apply] at hr
    dsimp only at hr
    rw [LinkStateDatabase.lookup_remove] at hr
    split at hr
    · cases hr
    · exact h.external a k r hw hr

/-- A new own LSA has a home from the start. -/
theorem drafted (h : Housed s heardOn home) (lsa : Lsa) (areaId : IPv4Address) :
    Housed (s.drafted lsa) heardOn (Function.update home s.heap.next areaId) := by
  have hg : s.heap.Grows (s.drafted lsa).heap := (drafted_moves s lsa).grows
  have hlayout : SameLayout s (s.drafted lsa) := ⟨rfl, fun _ => rfl⟩
  have hhome : ∀ r, r < s.heap.next → Function.update home s.heap.next areaId r = home r :=
    fun r hr => Function.update_of_ne (Nat.ne_of_lt hr) ..
  exact h.keep rfl hg hlayout (fun r hr => h.fresh r (hg.next.trans hr)) (fun _ _ => rfl) hhome (.of_eq rfl)
    (h.received_later hlayout hg hhome)

end Housed
end Housed

end Ospfd
