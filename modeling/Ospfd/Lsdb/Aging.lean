import Ospfd.Lsdb.Origination

/-!
# Aging

* `checkAges` — the periodic scan of the areas: LSAs that reached MaxAge are flushed, or
  re-originated when they are this router's own; its own old LSAs are refreshed.
-/

namespace Ospfd

/-- Whether some adjacent neighbor of the interfaces has an entry on its retransmission
list.  The scan asks a key of the list for the `key` of an LSA, which it does not have. -/
def rxmtPendingOn (s : Instance) (interfaces : List IntfId) : Except PyError Bool :=
  if (interfaces.map s.adjacentNeighbors).flatten.any fun n =>
      (s.nbr n).lsRetransmissionList.entries ≠ []
  then .error .attributeError
  else .ok false

/-- `_flush_maxage_lsa`. -/
def flushMaxageLsa (r : LsaRef) (areaId : IPv4Address) : Py Unit := do
  floodLsa r areaId none
  let s ← Eff.get
  match s.areas.get? areaId with
  | none => removeLsa areaId (s.heap.obj r).key
  | some area => do
      let pending ← Eff.lift (rxmtPendingOn s area.interfaces)
      Eff.when (¬pending) (removeLsa areaId (s.heap.obj r).key)

/-- An LSA that reached MaxAge. -/
def expireLsa (areaId : IPv4Address) (r : LsaRef) : Py Unit := do
  let s ← Eff.get
  if s.lsdb.isSelfOriginated (s.heap.obj r) then
    let _ ← refreshLsa areaId r
    pure ()
  else flushMaxageLsa r areaId

/-- Refresh an own LSA whose age approaches the refresh time. -/
def refreshIfOld (areaId : IPv4Address) (r : LsaRef) : Py Unit := do
  let s ← Eff.get
  let age := (s.heap.obj r).currentAge s.now
  Eff.when (s.lsdb.isSelfOriginated (s.heap.obj r) ∧ lsRefreshTime ≤ age ∧ age < maxAge) do
    let _ ← refreshLsa areaId r
    pure ()

/-- `_check_ages`. -/
def checkAges : Py Unit := do
  let s ← Eff.get
  Eff.forEach s.lsdb.areaIds fun areaId => do
    let s ← Eff.get
    Eff.forEach (s.lsdb.getMaxageLsas s.heap s.now areaId) (expireLsa areaId)
    let s ← Eff.get
    Eff.forEach (s.lsdb.getAll areaId) (refreshIfOld areaId)

end Ospfd
