import Ospfd.Lib.Moves
import Ospfd.Protocol.Instance

/-!
# The moves of the daemon

What the callbacks do, as a sequence of moves.  A move is large enough that the lists,
timers and states of a neighbor fit together after it: entering ExStart is one move with
everything `_start_dd_exchange` sets up, and an election is one move with the decisions
of all neighbors.

* `NbrMove`, `NbrMove.Rel` — what can happen to one neighbor.
* `Redecided`, `Elected` — an election and its AdjOK? events.
* `Label`, `move` — the moves of the instance; `Moves A` — runs of moves with labels in `A`.
* `move_framed` — **what a move leaves alone**.
-/

namespace Ospfd

/-! ## Neighbors -/

/-- A neighbor for which `_start_dd_exchange` was run. -/
def OspfNeighbor.started (x : OspfNeighbor) (seq : Int) (dd : SentDD) : OspfNeighbor :=
  { x with
    ddSeqNumber := seq, isMaster := true, dbSummaryList := [], lsRequestList := Dict.empty,
    lsRetransmissionList := Dict.empty, requested := [], lastSentDd := some dd,
    ddRxmtTimer := true }

/-- A neighbor in ExStart, everything set up. -/
def OspfNeighbor.InExStart (x x' : OspfNeighbor) : Prop :=
  ∃ seq dd, x' = { x with state := .exStart }.started seq dd

/-- A neighbor whose lists and retransmission timers are cleared, in a state. -/
def OspfNeighbor.cleared (x : OspfNeighbor) (state : NbrState) : OspfNeighbor :=
  { x with state }.clearLists.stopRxmtTimers

/-- The types of the requested LSAs fit their field. -/
def OspfNeighbor.TypesFit (x : OspfNeighbor) : Prop :=
  ∀ h ∈ x.lsRequestList.values, h.lsType < 4294967296

/-- After the keys of an update were struck: a Loading neighbor with nothing left to
request is Full. -/
def OspfNeighbor.struck (x : OspfNeighbor) (keys : List LsaKey) : OspfNeighbor :=
  let y := keys.foldl OspfNeighbor.strike x
  if y.state = .loading ∧ y.lsRequestList.entries = [] then { y with state := .full } else y

/-- The moves of a neighbor. -/
inductive NbrMove where
  /-- The inactivity timer is restarted. -/
  | refresh
  /-- A neighbor that was Down is heard, or looked for. -/
  | wake
  /-- The fields of a Hello from `src`. -/
  | hello (src : IPv4Address)
  /-- A neighbor in Init is bidirectional. -/
  | decide
  /-- An adjacency starts over. -/
  | restart
  | oneWay
  | down
  /-- Master and slave are settled. -/
  | negotiate
  /-- A header goes on the request list. -/
  | request (h : LsaHeader)
  /-- Sequence number, summary list and last sent description. -/
  | describe
  /-- A description is the last one received. -/
  | received
  | exchangeDone
  /-- The requests are sent again. -/
  | retry
  /-- The keys of an update leave both lists. -/
  | strike (keys : List LsaKey)
  /-- An acknowledged key leaves the retransmission list. -/
  | acked (key : LsaKey)
  /-- An LSA goes on the retransmission list. -/
  | pend (key : LsaKey) (r : LsaRef)
  deriving DecidableEq

/-- What a move does to a neighbor, which should or should not become adjacent. -/
def NbrMove.Rel (should : Bool) (x x' : OspfNeighbor) : NbrMove → Prop
  | .refresh => x.state ≠ .down ∧ ∃ t, x' = { x with inactivityTimer := some t }
  | .wake => x.state = .down ∧ ∃ state t, (state = .init ∨ state = .attempt) ∧
      x' = { x with state, inactivityTimer := some t }
  | .hello src => ∃ priority dr bdr, x' = { x with ipAddr := src, priority, dr, bdr }
  | .decide => x.state = .init ∧
      (should = true ∧ x.InExStart x' ∨ should = false ∧ x' = { x with state := .twoWay })
  | .restart => .exStart ≤ x.state ∧ x.clearLists.InExStart x'
  | .oneWay => .twoWay ≤ x.state ∧ x' = x.cleared .init
  | .down => x' = x.goneDown
  | .negotiate => x.state = .exStart ∧ ∃ isMaster ddSeqNumber ddOptions dbSummaryList,
      x' = { x with state := .exchange, isMaster, ddSeqNumber, ddOptions, dbSummaryList,
                    ddRxmtTimer := false }
  | .request h => x.state = .exchange ∧ h.lsType < 4294967296 ∧
      x' = { x with lsRequestList := x.lsRequestList.set h.key h, requested := x.requested ++ [h] }
  | .describe => ∃ ddSeqNumber dbSummaryList lastSentDd,
      (x.dbSummaryList = [] → dbSummaryList = []) ∧
        x' = { x with ddSeqNumber, dbSummaryList, lastSentDd }
  | .received => .exchange ≤ x.state ∧ ∃ dd, x' = { x with lastReceivedDd := some dd }
  | .exchangeDone => x.state = .exchange ∧
      (x.lsRequestList.entries = [] ∧ x' = { x with state := .full, rxmtTimer := false } ∨
        x.lsRequestList.entries ≠ [] ∧ ∃ rxmtTimer, (x.TypesFit → rxmtTimer = true) ∧
          x' = { x with state := .loading, rxmtTimer })
  | .retry => x.state = .loading ∧ x' = { x with rxmtTimer := true }
  | .strike keys => x' = x.struck keys
  | .acked key => x' = x.acked key
  | .pend key r => .exchange ≤ x.state ∧ x.lsRetransmissionList.get? key = none ∧
      x' = { x with lsRetransmissionList := x.lsRetransmissionList.set key r }

/-! ## Elections -/

/-- What AdjOK? does to a bidirectional neighbor. -/
def Redecided (should : Bool) (x x' : OspfNeighbor) : Prop :=
  x.state = .twoWay ∧ should = true ∧ x.InExStart x' ∨
    .exStart ≤ x.state ∧ should = false ∧ x' = x.cleared .twoWay ∨
    (x.state = .twoWay ∧ should = false ∨ .exStart ≤ x.state ∧ should = true) ∧ x' = x

/-- The outcome of an election on an interface; when DR or BDR changed, every
bidirectional neighbor reconsidered its adjacency. -/
structure Elected (i : IntfId) (s t : Instance) : Prop where
  other : ∀ j, j ≠ i → t.intf j = s.intf j
  intf : ∃ dr bdr state, t.intf i = { s.intf i with dr, bdr, state }
  decided : ∀ n, n.intf = i → n.routerId ∈ (s.intf i).neighbors → .twoWay ≤ (s.nbr n).state →
    ((s.intf i).dr ≠ (t.intf i).dr ∨ (s.intf i).bdr ≠ (t.intf i).bdr) →
    Redecided (shouldFormAdjacency t n) (s.nbr n) (t.nbr n)
  kept : ∀ n, ¬(n.intf = i ∧ n.routerId ∈ (s.intf i).neighbors ∧ .twoWay ≤ (s.nbr n).state ∧
    ((s.intf i).dr ≠ (t.intf i).dr ∨ (s.intf i).bdr ≠ (t.intf i).bdr)) → t.nbr n = s.nbr n
  heap : t.heap = s.heap
  lsdb : t.lsdb = s.lsdb
  areas : t.areas = s.areas
  routerId : t.routerId = s.routerId
  now : t.now = s.now

/-! ## The instance -/

/-- Only what is sent, scheduled or recorded changed. -/
structure Quiet (s t : Instance) : Prop where
  nbr : t.nbr = s.nbr
  intf : t.intf = s.intf
  heap : t.heap = s.heap
  lsdb : t.lsdb = s.lsdb
  areas : t.areas = s.areas
  routerId : t.routerId = s.routerId
  now : t.now = s.now

/-- The interface kept its place in the network: type, addresses, area, DR, BDR and
neighbors. -/
structure SameRole (x y : OspfInterface) : Prop where
  intfType : y.intfType = x.intfType
  ipAddr : y.ipAddr = x.ipAddr
  areaId : y.areaId = x.areaId
  dr : y.dr = x.dr
  bdr : y.bdr = x.bdr
  neighbors : y.neighbors = x.neighbors

/-- The moves of the instance. -/
inductive Label where
  | quiet
  | tick
  | intf (i : IntfId)
  | elect (i : IntfId)
  /-- An interface went down and forgets its neighbors. -/
  | clear (i : IntfId)
  | create (n : NbrRef) (src : IPv4Address)
  | nbr (n : NbrRef) (m : NbrMove)
  /-- An LSA object is serialized. -/
  | write (r : LsaRef)
  | alloc
  | install (areaId : IPv4Address) (r : LsaRef)
  | remove (areaId : IPv4Address) (key : LsaKey)

/-- What a move does. -/
def move (l : Label) (s t : Instance) : Prop :=
  match l with
  | .quiet => Quiet s t
  | .tick => ∃ d, t = { s with now := s.now + d }
  | .intf i => ∃ x, SameRole (s.intf i) x ∧ t = s.setIntf i x
  | .elect i => Elected i s t
  | .clear i => (∀ n ∈ s.neighborsOf i, (s.nbr n).state = .down) ∧
      t = s.setIntf i { s.intf i with neighbors := [], dr := zeroAddr, bdr := zeroAddr }
  | .create n src => n.routerId ∉ (s.intf n.intf).neighbors ∧
      t = (s.setNbr n { routerId := n.routerId, ipAddr := src }).setIntf n.intf
        { s.intf n.intf with neighbors := (s.intf n.intf).neighbors ++ [n.routerId] }
  | .nbr n .wake => n.routerId ∈ (s.intf n.intf).neighbors ∧
      ∃ x, NbrMove.wake.Rel (shouldFormAdjacency s n) (s.nbr n) x ∧ t = s.setNbr n x
  | .nbr n m => ∃ x, m.Rel (shouldFormAdjacency s n) (s.nbr n) x ∧ t = s.setNbr n x
  | .write r => t = { s with heap := s.heap.set r ((s.heap.obj r).serialize s.now).2 }
  | .alloc => ∃ lsa, t = { s with heap := (s.heap.alloc lsa).2 }
  | .install areaId r => t = { s with
      lsdb := (s.lsdb.install s.heap s.now areaId r).2.1
      heap := (s.lsdb.install s.heap s.now areaId r).2.2 }
  | .remove areaId key => t = { s with lsdb := s.lsdb.remove areaId key }

/-- Runs of moves with labels in `A`. -/
abbrev Moves (A : Label → Prop) : Instance → Instance → Prop := Lts.Moves move A

namespace Quiet

theorem refl (s : Instance) : Quiet s s := ⟨rfl, rfl, rfl, rfl, rfl, rfl, rfl⟩

theorem trans {s t u : Instance} (h : Quiet s t) (h' : Quiet t u) : Quiet s u :=
  ⟨h'.nbr.trans h.nbr, h'.intf.trans h.intf, h'.heap.trans h.heap, h'.lsdb.trans h.lsdb,
    h'.areas.trans h.areas, h'.routerId.trans h.routerId, h'.now.trans h.now⟩

instance : Std.Refl Quiet := ⟨refl⟩

instance : IsTrans Instance Quiet := ⟨fun _ _ _ => trans⟩

theorem moves {A : Label → Prop} (hA : A .quiet) {s t : Instance} (h : Quiet s t) : Moves A s t :=
  Lts.Moves.single hA h

/-- A computation that is quiet stays within the moves. -/
theorem within {α : Type} {m : Py α} {A : Label → Prop} (hA : A .quiet)
    (h : Eff.Within Quiet m) : Eff.Within (Moves A) m := h.mono fun _ _ => moves hA

theorem setNbr {s t : Instance} (h : Quiet s t) (n : NbrRef) (x : OspfNeighbor) :
    Quiet (s.setNbr n x) (t.setNbr n x) :=
  ⟨by simp only [Instance.setNbr, h.nbr], h.intf, h.heap, h.lsdb, h.areas, h.routerId, h.now⟩

theorem setIntf {s t : Instance} (h : Quiet s t) (i : IntfId) (x : OspfInterface) :
    Quiet (s.setIntf i x) (t.setIntf i x) :=
  ⟨h.nbr, by simp only [Instance.setIntf, h.intf], h.heap, h.lsdb, h.areas, h.routerId, h.now⟩

theorem shouldFormAdjacency {s t : Instance} (h : Quiet s t) (n : NbrRef) :
    shouldFormAdjacency t n = shouldFormAdjacency s n := by
  simp only [Ospfd.shouldFormAdjacency, h.nbr, h.intf]

theorem neighborsOf {s t : Instance} (h : Quiet s t) (i : IntfId) :
    t.neighborsOf i = s.neighborsOf i := by
  simp only [Instance.neighborsOf, h.intf]

end Quiet

/-- Setting a neighbor twice. -/
theorem Instance.setNbr_setNbr (s : Instance) (n : NbrRef) (x y : OspfNeighbor) :
    (s.setNbr n x).setNbr n y = s.setNbr n y := by
  simp only [Instance.setNbr, Function.update_idem]

theorem Instance.setNbr_eq_self (s : Instance) (n : NbrRef) : s.setNbr n (s.nbr n) = s := by
  simp only [Instance.setNbr, Function.update_eq_self]

/-- A move of a neighbor, other than waking up. -/
theorem Moves.nbr {A : Label → Prop} {s : Instance} {n : NbrRef} {m : NbrMove} {x : OspfNeighbor}
    (hA : A (.nbr n m)) (hm : m ≠ .wake) (h : m.Rel (shouldFormAdjacency s n) (s.nbr n) x) :
    Moves A s (s.setNbr n x) := by
  refine Lts.Moves.single hA ?_
  cases m with
  | wake => exact absurd rfl hm
  | _ => exact ⟨x, h, rfl⟩

/-! ## What a move leaves alone -/

section Framed

variable {l : Label} {s t : Instance}

/-- A move of a neighbor sets that neighbor. -/
theorem nbr_of_move {n : NbrRef} {m : NbrMove} (hm : move (.nbr n m) s t) :
    ∃ x, m.Rel (shouldFormAdjacency s n) (s.nbr n) x ∧ t = s.setNbr n x := by
  cases m with
  | wake => exact hm.2
  | _ => exact hm

/-- The moves that leave the LSA objects alone. -/
def Label.keepsHeap : Label → Bool
  | .write _ => false
  | .alloc => false
  | .install _ _ => false
  | _ => true

/-- The moves that leave the database alone. -/
def Label.keepsLsdb : Label → Bool
  | .install _ _ => false
  | .remove _ _ => false
  | _ => true

/-- The moves that leave interfaces and neighbors alone. -/
def Label.keepsTables : Label → Bool
  | .intf _ => false
  | .elect _ => false
  | .clear _ => false
  | .create _ _ => false
  | .nbr _ _ => false
  | _ => true

/-- What a move leaves alone: the router and its areas, and what is not its own. -/
structure Framed (l : Label) (s t : Instance) : Prop where
  routerId : t.routerId = s.routerId
  areas : t.areas = s.areas
  clock : s.now ≤ t.now
  heap : l.keepsHeap = true → t.heap = s.heap
  lsdb : l.keepsLsdb = true → t.lsdb = s.lsdb
  tables : l.keepsTables = true → t.nbr = s.nbr ∧ t.intf = s.intf

/-- **What a move leaves alone.** -/
theorem move_framed (hm : move l s t) : Framed l s t := by
  cases l with
  | quiet =>
    exact ⟨hm.routerId, hm.areas, le_of_eq hm.now.symm, fun _ => hm.heap, fun _ => hm.lsdb, fun _ =>
      ⟨hm.nbr, hm.intf⟩⟩
  | tick =>
    obtain ⟨d, rfl⟩ := hm
    exact ⟨rfl, rfl, Nat.le_add_right .., fun _ => rfl, fun _ => rfl, fun _ => ⟨rfl, rfl⟩⟩
  | intf i =>
    obtain ⟨x, -, rfl⟩ := hm
    exact ⟨rfl, rfl, le_rfl, fun _ => rfl, fun _ => rfl, by rintro ⟨⟩⟩
  | elect i =>
    exact ⟨hm.routerId, hm.areas, le_of_eq hm.now.symm, fun _ => hm.heap, fun _ => hm.lsdb, by rintro ⟨⟩⟩
  | clear i =>
    obtain ⟨-, rfl⟩ := hm
    exact ⟨rfl, rfl, le_rfl, fun _ => rfl, fun _ => rfl, by rintro ⟨⟩⟩
  | create n src =>
    obtain ⟨-, rfl⟩ := hm
    exact ⟨rfl, rfl, le_rfl, fun _ => rfl, fun _ => rfl, by rintro ⟨⟩⟩
  | nbr n m =>
    obtain ⟨x, -, rfl⟩ := nbr_of_move hm
    exact ⟨rfl, rfl, le_rfl, fun _ => rfl, fun _ => rfl, by rintro ⟨⟩⟩
  | write r =>
    obtain rfl : t = _ := hm
    exact ⟨rfl, rfl, le_rfl, by rintro ⟨⟩, fun _ => rfl, fun _ => ⟨rfl, rfl⟩⟩
  | alloc =>
    obtain ⟨lsa, rfl⟩ := hm
    exact ⟨rfl, rfl, le_rfl, by rintro ⟨⟩, fun _ => rfl, fun _ => ⟨rfl, rfl⟩⟩
  | install areaId r =>
    obtain rfl : t = _ := hm
    exact ⟨rfl, rfl, le_rfl, by rintro ⟨⟩, by rintro ⟨⟩, fun _ => ⟨rfl, rfl⟩⟩
  | remove areaId key =>
    obtain rfl : t = _ := hm
    exact ⟨rfl, rfl, le_rfl, fun _ => rfl, by rintro ⟨⟩, fun _ => ⟨rfl, rfl⟩⟩

end Framed

end Ospfd
