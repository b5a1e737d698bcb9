import Mathlib.Data.List.MinMax
import Mathlib.Data.Prod.Lex
import Ospfd.Protocol.State

/-!
# The DR/BDR election

* `Candidate` — an eligible router, with what it declares.
* `runElection` — a single pass.
* `electDrBdr` — the election as one router runs it: a second pass is run when the
  first changes the router's own role, with its own declaration rewritten.
-/

namespace Ospfd

/-- A candidate for DR/BDR election. -/
structure Candidate where
  routerId : IPv4Address
  ipAddr : IPv4Address
  priority : Int
  declaredDr : IPv4Address
  declaredBdr : IPv4Address
  deriving DecidableEq, Repr

namespace Candidate

/-- Candidates are compared by priority, ties by router ID. -/
def rank (c : Candidate) : Int ×ₗ IPv4Address := toLex (c.priority, c.routerId)

def DeclaresDr (c : Candidate) : Prop := c.declaredDr = c.ipAddr

def DeclaresBdr (c : Candidate) : Prop := c.declaredBdr = c.ipAddr

instance (c : Candidate) : Decidable c.DeclaresDr := inferInstanceAs (Decidable (_ = _))

instance (c : Candidate) : Decidable c.DeclaresBdr := inferInstanceAs (Decidable (_ = _))

end Candidate

/-- The order of ranks, built from the instances that compute. -/
instance rankOrder : LinearOrder (Int ×ₗ IPv4Address) :=
  @Prod.Lex.instLinearOrder Int IPv4Address Int.instLinearOrder Fin.instLinearOrder

instance rankPreorder : Preorder (Int ×ₗ IPv4Address) := rankOrder.toPartialOrder.toPreorder

/-- `max(cs, key=lambda c: (c.priority, c.router_id))`, of a list that may be empty. -/
def highest (cs : List Candidate) : Option Candidate := cs.argmax Candidate.rank

/-- The address of a candidate, or `0.0.0.0`. -/
def addrOf (c : Option Candidate) : IPv4Address := (c.map Candidate.ipAddr).getD zeroAddr

/-- The highest of those that declare themselves BDR, or of all when none does. -/
def preferBdr (cs : List Candidate) : Option Candidate :=
  match highest (cs.filter Candidate.DeclaresBdr) with
  | some c => some c
  | none => highest cs

/-- `_run_election`: a single pass, as the addresses of DR and BDR. -/
def runElection (candidates : List Candidate) : IPv4Address × IPv4Address :=
  let nonDrDeclarers := candidates.filter fun c => ¬c.DeclaresDr
  let newBdr := addrOf (preferBdr nonDrDeclarers)
  match highest (candidates.filter Candidate.DeclaresDr) with
  | some c => (c.ipAddr, newBdr)
  | none =>
      -- nobody declares itself DR: the BDR is promoted, and another BDR is chosen
      match preferBdr nonDrDeclarers with
      | some _ => (newBdr, addrOf (preferBdr (nonDrDeclarers.filter fun c => c.ipAddr ≠ newBdr)))
      | none => (newBdr, newBdr)

/-- Rewrite the declaration of the first candidate with an address. -/
def redeclare (addr dr bdr : IPv4Address) : List Candidate → List Candidate
  | [] => []
  | c :: cs =>
      if c.ipAddr = addr then { c with declaredDr := dr, declaredBdr := bdr } :: cs
      else c :: redeclare addr dr bdr cs

/-- This router as a candidate. -/
def selfCandidate (s : Instance) (i : IntfId) : Candidate :=
  { routerId := s.routerId, ipAddr := (s.intf i).ipAddr, priority := (s.intf i).priority,
    declaredDr := (s.intf i).dr, declaredBdr := (s.intf i).bdr }

/-- A neighbor as a candidate. -/
def nbrCandidate (nbr : OspfNeighbor) : Candidate :=
  { routerId := nbr.routerId, ipAddr := nbr.ipAddr, priority := nbr.priority,
    declaredDr := nbr.dr, declaredBdr := nbr.bdr }

/-- This router and its bidirectional neighbors, as far as they are eligible. -/
def electionCandidates (s : Instance) (i : IntfId) : List Candidate :=
  (if 0 < (s.intf i).priority then [selfCandidate s i] else []) ++
    ((s.neighborsOf i).map s.nbr |>.filter
      fun nbr => NbrState.twoWay ≤ nbr.state ∧ 0 < nbr.priority).map nbrCandidate

/-- Only the eligible neighbors matter. -/
theorem eligible_congr {f g : NbrRef → OspfNeighbor} {ns : List NbrRef}
    (h : ∀ n ∈ ns, ((NbrState.twoWay ≤ (f n).state ∧ 0 < (f n).priority) ↔
        (NbrState.twoWay ≤ (g n).state ∧ 0 < (g n).priority)) ∧
      (NbrState.twoWay ≤ (g n).state ∧ 0 < (g n).priority → nbrCandidate (f n) = nbrCandidate (g n))) :
    ((ns.map f).filter fun nbr => NbrState.twoWay ≤ nbr.state ∧ 0 < nbr.priority).map nbrCandidate =
      ((ns.map g).filter fun nbr => NbrState.twoWay ≤ nbr.state ∧ 0 < nbr.priority).map nbrCandidate := by
  induction ns with
  | nil => rfl
  | cons n ns ih =>
    obtain ⟨hiff, hcand⟩ := h n (List.mem_cons_self ..)
    have hrest := ih fun m hm => h m (List.mem_cons_of_mem _ hm)
    simp only [List.map_cons, List.filter_cons, hiff]
    split
    · rename_i helig
      rw [List.map_cons, List.map_cons, hrest, hcand (of_decide_eq_true helig)]
    · exact hrest

/-- The two passes, from the seat of the router with address `myAddr` whose current
DR and BDR are `oldDr` and `oldBdr`. -/
def electFrom (candidates : List Candidate) (myAddr oldDr oldBdr : IPv4Address) :
    IPv4Address × IPv4Address :=
  if candidates = [] then (zeroAddr, zeroAddr)
  else
    let (newDr, newBdr) := runElection candidates
    if decide (oldDr = myAddr) ≠ decide (newDr = myAddr) ∨
        decide (oldBdr = myAddr) ≠ decide (newBdr = myAddr) then
      runElection (redeclare myAddr newDr newBdr candidates)
    else (newDr, newBdr)

/-- `elect_dr_bdr`: the addresses of the new DR and BDR. -/
def electDrBdr (s : Instance) (i : IntfId) : IPv4Address × IPv4Address :=
  electFrom (electionCandidates s i) (s.intf i).ipAddr (s.intf i).dr (s.intf i).bdr

end Ospfd
