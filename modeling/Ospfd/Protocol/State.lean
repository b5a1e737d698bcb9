import Ospfd.Lib.Effect
import Ospfd.Lsdb.Database
import Ospfd.Packet.Body
import Ospfd.Packet.Header

/-!
# The state of the daemon

Everything an `OspfInstance` owns, as one value.  Neighbors and interfaces are
objects that refer to each other, so they are kept by reference: an interface by
its name, a neighbor by its interface and router ID.

* `OspfNeighbor`, `OspfInterface`, `OspfArea`, `Instance` — the objects.
* `Py` — the monad of the daemon's methods: they change the instance and may raise.
* `modifyNbr`, `modifyIntf`, … — assignments to the fields of an object.
-/

namespace Ospfd

/-! ## References -/

/-- An interface, by name; the names of the configured interfaces are distinct. -/
abbrev IntfId : Type := Nat

/-- A neighbor object: `interface.neighbors[router_id]`. -/
structure NbrRef where
  intf : IntfId
  routerId : IPv4Address
  deriving DecidableEq, Repr

/-! ## Neighbors -/

/-- A database description as the sender keeps it: its headers are the headers of LSA
objects, and are serialized as they stand. -/
structure SentDD where
  interfaceMtu : Nat
  options : Nat
  flags : Nat
  ddSeqNumber : Int
  lsaHeaders : List LsaRef

/-- The packet such a description is at present. -/
def SentDD.packet (dd : SentDD) (heap : LsaHeap) : DDPacket :=
  { interfaceMtu := dd.interfaceMtu, options := dd.options, flags := dd.flags,
    ddSeqNumber := dd.ddSeqNumber, lsaHeaders := dd.lsaHeaders.map fun r => (heap.obj r).header }

structure OspfNeighbor where
  routerId : IPv4Address
  ipAddr : IPv4Address
  state : NbrState := .down
  priority : Int := 0
  dr : IPv4Address := zeroAddr
  bdr : IPv4Address := zeroAddr
  isMaster : Bool := false
  ddSeqNumber : Int := 0
  ddOptions : Nat := 0
  lastReceivedDd : Option DDPacket := none
  lastSentDd : Option SentDD := none
  /-- The LSAs whose headers are still to be described. -/
  dbSummaryList : List LsaRef := []
  lsRequestList : Dict LsaKey LsaHeader := Dict.empty
  lsRetransmissionList : Dict LsaKey LsaRef := Dict.empty
  /-- When the inactivity timer fires, while it is armed. -/
  inactivityTimer : Option Time := none
  rxmtTimer : Bool := false
  ddRxmtTimer : Bool := false
  /-- History: the headers put on the request list since ExStart was last entered. -/
  requested : List LsaHeader := []

/-! ## Interfaces and areas -/

structure OspfInterface where
  intfType : IntfType
  cost : Int
  priority : Int
  helloInterval : Int
  deadInterval : Int
  passive : Bool
  authType : AuthType
  authKey : Bytes
  authKeyId : Nat
  areaId : IPv4Address
  ipAddr : IPv4Address
  ipMask : IPv4Address
  mtu : Nat
  /-- Only links in operational state `up` are used, and their MTU is that of IPv4. -/
  mtu_lt : mtu < 65536
  ifIndex : Nat
  /-- Whether the interface has a socket. -/
  socket : Bool
  state : IntfState := .down
  dr : IPv4Address := zeroAddr
  bdr : IPv4Address := zeroAddr
  /-- The keys of `neighbors`, in insertion order. -/
  neighbors : List IPv4Address := []
  helloTimer : Bool := false
  /-- When the wait timer fires, while it is armed. -/
  waitTimer : Option Time := none
  ackTimer : Bool := false
  /-- The LSAs whose headers are queued for acknowledgment. -/
  delayedAcks : List LsaRef := []

structure OspfArea where
  areaId : IPv4Address
  stub : Bool := false
  interfaces : List IntfId := []

/-! ## The instance -/

/-- A packet handed to a socket. -/
structure Sent where
  intf : IntfId
  dest : IPv4Address
  pktType : Nat
  body : Bytes
  /-- The complete packet. -/
  data : Bytes
  deriving DecidableEq, Repr

structure Instance where
  routerId : IPv4Address
  isAsbr : Bool := false
  areas : Dict IPv4Address OspfArea := Dict.empty
  intf : IntfId → OspfInterface
  nbr : NbrRef → OspfNeighbor
  heap : LsaHeap
  lsdb : LinkStateDatabase
  /-- For MinLSInterval. -/
  lastOrigination : Dict LsaKey Time := Dict.empty
  spfDelay : Time := 0
  spfHold : Time := 0
  /-- When the pending SPF run starts, while one is pending. -/
  spfTimer : Option Time := none
  lastSpfTime : Time := 0
  routerLsaPending : Dict IPv4Address Time := Dict.empty
  networkLsaPending : Dict IntfId Time := Dict.empty
  /-- The cryptographic sequence number of each interface. -/
  cryptSeq : IntfId → Nat
  /-- The hash of cryptographic authentication. -/
  md5 : Md5
  /-- What `os.urandom(4)` returns, draw by draw. -/
  entropy : Nat → Fin 4294967296
  drawn : Nat := 0
  /-- The present time. -/
  now : Time
  /-- The packets sent, oldest first. -/
  sent : List Sent := []
  /-- History: the events the neighbors were given, oldest first. -/
  trace : List (NbrRef × NbrEvent) := []

/-- The instance when its interfaces are created: no neighbors, an empty database. -/
def Instance.init (routerId : IPv4Address) (areas : Dict IPv4Address OspfArea)
    (intf : IntfId → OspfInterface) (md5 : Md5) (entropy : Nat → Fin 4294967296) (now : Time) :
    Instance :=
  { routerId, areas, intf, md5, entropy, now, nbr := fun n => { routerId := n.routerId, ipAddr := 0 },
    heap := LsaHeap.empty, lsdb := { routerId }, cryptSeq := fun _ => 0 }

/-- The largest Ethernet payload fits the MTU field. -/
theorem ethernetMtu_lt : 1500 < 65536 := by decide

/-- A digest that is always zero. -/
def zeroMd5 : Md5 := fun _ => ⟨List.replicate 16 0, List.length_replicate⟩

/-- The options this router advertises: external LSAs are accepted. -/
def Instance.options (_ : Instance) : Nat := optE

/-- A method of the daemon. -/
abbrev Py (α : Type) : Type := Eff PyError Instance α

namespace Instance

def setNbr (s : Instance) (n : NbrRef) (x : OspfNeighbor) : Instance :=
  { s with nbr := Function.update s.nbr n x }

def setIntf (s : Instance) (i : IntfId) (x : OspfInterface) : Instance :=
  { s with intf := Function.update s.intf i x }

@[simp] theorem nbr_setNbr_self (s : Instance) (n : NbrRef) (x : OspfNeighbor) :
    (s.setNbr n x).nbr n = x := Function.update_self ..

theorem nbr_setNbr (s : Instance) (n m : NbrRef) (x : OspfNeighbor) :
    (s.setNbr n x).nbr m = if m = n then x else s.nbr m := Function.update_apply ..

theorem nbr_setNbr_of_ne (s : Instance) {n m : NbrRef} (h : m ≠ n) (x : OspfNeighbor) :
    (s.setNbr n x).nbr m = s.nbr m := Function.update_of_ne h ..

@[simp] theorem intf_setNbr (s : Instance) (n : NbrRef) (x : OspfNeighbor) :
    (s.setNbr n x).intf = s.intf := rfl

@[simp] theorem heap_setNbr (s : Instance) (n : NbrRef) (x : OspfNeighbor) :
    (s.setNbr n x).heap = s.heap := rfl

@[simp] theorem lsdb_setNbr (s : Instance) (n : NbrRef) (x : OspfNeighbor) :
    (s.setNbr n x).lsdb = s.lsdb := rfl

@[simp] theorem now_setNbr (s : Instance) (n : NbrRef) (x : OspfNeighbor) :
    (s.setNbr n x).now = s.now := rfl

@[simp] theorem routerId_setNbr (s : Instance) (n : NbrRef) (x : OspfNeighbor) :
    (s.setNbr n x).routerId = s.routerId := rfl

@[simp] theorem intf_setIntf_self (s : Instance) (i : IntfId) (x : OspfInterface) :
    (s.setIntf i x).intf i = x := Function.update_self ..

theorem intf_setIntf (s : Instance) (i j : IntfId) (x : OspfInterface) :
    (s.setIntf i x).intf j = if j = i then x else s.intf j := Function.update_apply ..

theorem intf_setIntf_of_ne (s : Instance) {i j : IntfId} (h : j ≠ i) (x : OspfInterface) :
    (s.setIntf i x).intf j = s.intf j := Function.update_of_ne h ..

@[simp] theorem nbr_setIntf (s : Instance) (i : IntfId) (x : OspfInterface) :
    (s.setIntf i x).nbr = s.nbr := rfl

@[simp] theorem heap_setIntf (s : Instance) (i : IntfId) (x : OspfInterface) :
    (s.setIntf i x).heap = s.heap := rfl

@[simp] theorem lsdb_setIntf (s : Instance) (i : IntfId) (x : OspfInterface) :
    (s.setIntf i x).lsdb = s.lsdb := rfl

@[simp] theorem now_setIntf (s : Instance) (i : IntfId) (x : OspfInterface) :
    (s.setIntf i x).now = s.now := rfl

@[simp] theorem routerId_setIntf (s : Instance) (i : IntfId) (x : OspfInterface) :
    (s.setIntf i x).routerId = s.routerId := rfl

/-- The neighbors of an interface, in insertion order. -/
def neighborsOf (s : Instance) (i : IntfId) : List NbrRef :=
  (s.intf i).neighbors.map fun r => ⟨i, r⟩

theorem mem_neighborsOf {s : Instance} {i : IntfId} {n : NbrRef} :
    n ∈ s.neighborsOf i ↔ n.intf = i ∧ n.routerId ∈ (s.intf i).neighbors := by
  rcases n with ⟨j, r⟩
  simp only [neighborsOf, List.mem_map, NbrRef.mk.injEq]
  constructor
  · rintro ⟨r', hr', rfl, rfl⟩
    exact ⟨rfl, hr'⟩
  · rintro ⟨rfl, hr⟩
    exact ⟨r, hr, rfl, rfl⟩

/-- `adjacent_neighbors`: those in state Exchange or above. -/
def adjacentNeighbors (s : Instance) (i : IntfId) : List NbrRef :=
  (s.neighborsOf i).filter fun n => NbrState.exchange ≤ (s.nbr n).state

/-- `full_neighbors`. -/
def fullNeighbors (s : Instance) (i : IntfId) : List NbrRef :=
  (s.neighborsOf i).filter fun n => (s.nbr n).state = .full

/-- `get_interfaces_for_area`. -/
def interfacesForArea (s : Instance) (areaId : IPv4Address) : List IntfId :=
  match s.areas.get? areaId with
  | some area => area.interfaces
  | none => []

end Instance

/-! ## Assignments -/

/-- Change a neighbor object. -/
def modifyNbr (n : NbrRef) (f : OspfNeighbor → OspfNeighbor) : Py Unit :=
  Eff.modify fun s => s.setNbr n (f (s.nbr n))

/-- Change an interface object. -/
def modifyIntf (i : IntfId) (f : OspfInterface → OspfInterface) : Py Unit :=
  Eff.modify fun s => s.setIntf i (f (s.intf i))

@[simp] theorem modifyNbr_apply (n : NbrRef) (f : OspfNeighbor → OspfNeighbor) (s : Instance) :
    modifyNbr n f s = (.ok (), s.setNbr n (f (s.nbr n))) := rfl

@[simp] theorem modifyNbr_bind_apply {α : Type} (n : NbrRef) (f : OspfNeighbor → OspfNeighbor)
    (g : Unit → Py α) (s : Instance) :
    (modifyNbr n f >>= g) s = g () (s.setNbr n (f (s.nbr n))) := rfl

@[simp] theorem modifyIntf_apply (i : IntfId) (f : OspfInterface → OspfInterface) (s : Instance) :
    modifyIntf i f s = (.ok (), s.setIntf i (f (s.intf i))) := rfl

@[simp] theorem modifyIntf_bind_apply {α : Type} (i : IntfId) (f : OspfInterface → OspfInterface)
    (g : Unit → Py α) (s : Instance) :
    (modifyIntf i f >>= g) s = g () (s.setIntf i (f (s.intf i))) := rfl

end Ospfd
