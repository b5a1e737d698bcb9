import Mathlib.Order.Basic
import Mathlib.Order.Fin.Basic

/-!
# Addresses, times and the numbered constants

The values every part of the daemon shares: IPv4 addresses, the monotonic clock,
the protocol's numeric constants, and the enumerations the source writes as
numbers.  Where the source compares those numbers, the enumeration is ordered by
them.

* `IPv4Address` — an address is its 32-bit value.
* `NbrState`, `NbrEvent`, `IntfState`, `IntfEvent`, `IntfType` — the state machines'
  alphabets.
* `maxAge`, `minLsArrival`, `initialSeqNum`, … — the architectural constants.
-/

namespace Ospfd

/-! ## Addresses -/

/-- An IPv4 address, identified with its 32-bit value. -/
abbrev IPv4Address : Type := Fin 4294967296

instance neZero_addresses : @NeZero Nat Zero.ofOfNat0 4294967296 := ⟨by decide⟩

instance lawfulBEq_address : LawfulBEq IPv4Address := inferInstance

/-- The address `0.0.0.0`. -/
def zeroAddr : IPv4Address := 0

/-- The address `255.255.255.255`. -/
def hostMask : IPv4Address := 4294967295

/-- `224.0.0.5`. -/
def allSpfRouters : IPv4Address := 3758096389

/-- `224.0.0.6`. -/
def allDRouters : IPv4Address := 3758096390

/-- The backbone area, `0.0.0.0`. -/
def backboneArea : IPv4Address := 0

/-- `int(a) & int(mask)`, as an address. -/
def networkAddress (a mask : IPv4Address) : IPv4Address := a &&& mask

/-! ## Time -/

/-- A reading of the monotonic clock, in nanoseconds. -/
abbrev Time : Type := Nat

/-- One second. -/
def second : Time := 1000000000

/-! ## Packet and LSA constants -/

def ospfVersion : Nat := 2

def packetTypeHello : Nat := 1
def packetTypeDd : Nat := 2
def packetTypeLsr : Nat := 3
def packetTypeLsu : Nat := 4
def packetTypeLsack : Nat := 5

def lsaTypeRouter : Nat := 1
def lsaTypeNetwork : Nat := 2
def lsaTypeSummary : Nat := 3
def lsaTypeAsbrSummary : Nat := 4
def lsaTypeExternal : Nat := 5
def lsaTypeOpaqueLink : Nat := 9
def lsaTypeOpaqueArea : Nat := 10
def lsaTypeOpaqueAs : Nat := 11

/-- The first sequence number; stored unsigned, ordered as a signed number. -/
def initialSeqNum : Nat := 0x80000001
def maxSeqNum : Nat := 0x7FFFFFFF

/-- Ages and age differences are in seconds. -/
def maxAge : Nat := 3600
def maxAgeDiff : Nat := 900
def lsRefreshTime : Nat := 1800

/-- Minimum time between two originations of one LSA. -/
def minLsInterval : Time := 5 * second

/-- Minimum time between two accepted instances of one LSA. -/
def minLsArrival : Time := second

def ddFlagI : Nat := 0x04
def ddFlagM : Nat := 0x02
def ddFlagMS : Nat := 0x01

def routerFlagE : Nat := 0x02
def routerFlagB : Nat := 0x01

def linkTypeP2P : Nat := 1
def linkTypeTransit : Nat := 2
def linkTypeStub : Nat := 3

def optE : Nat := 0x02

/-! ## Interfaces -/

/-- The type of the attached network. -/
inductive IntfType where
  | p2p | broadcast | nbma | p2mp | virtual
  deriving DecidableEq, Repr

/-- Broadcast and NBMA networks elect a designated router. -/
def IntfType.isMultiAccess : IntfType → Bool
  | .broadcast => true
  | .nbma => true
  | _ => false

/-- The states of an interface, in the order of their numbers. -/
inductive IntfState where
  | down | loopback | waiting | p2p | drOther | backup | dr
  deriving DecidableEq, Repr

/-- The events of the interface state machine. -/
inductive IntfEvent where
  | ifUp | waitTimer | backupSeen | nbrChange | loopInd | unloopInd | ifDown
  deriving DecidableEq, Repr

/-! ## Neighbors -/

/-- The states of a neighbor, in the order of their numbers. -/
inductive NbrState where
  | down | attempt | init | twoWay | exStart | exchange | loading | full
  deriving DecidableEq, Repr

namespace NbrState

/-- The number the source gives the state. -/
def num : NbrState → Nat
  | down => 0
  | attempt => 1
  | init => 2
  | twoWay => 3
  | exStart => 4
  | exchange => 5
  | loading => 6
  | full => 7

instance : LE NbrState := ⟨fun a b => a.num ≤ b.num⟩

instance : LT NbrState := ⟨fun a b => a.num < b.num⟩

instance (a b : NbrState) : Decidable (a ≤ b) := inferInstanceAs (Decidable (a.num ≤ b.num))

instance (a b : NbrState) : Decidable (a < b) := inferInstanceAs (Decidable (a.num < b.num))

theorem le_def {a b : NbrState} : a ≤ b ↔ a.num ≤ b.num := Iff.rfl

theorem lt_def {a b : NbrState} : a < b ↔ a.num < b.num := Iff.rfl

theorem not_le {a b : NbrState} : ¬a ≤ b ↔ b < a := Nat.not_le

theorem le_trans {a b c : NbrState} (hab : a ≤ b) (hbc : b ≤ c) : a ≤ c := Nat.le_trans hab hbc

end NbrState

/-- The events of the neighbor state machine. -/
inductive NbrEvent where
  | helloReceived | start | twoWayReceived | negotiationDone | exchangeDone | badLsReq
  | loadingDone | adjOk | seqNumMismatch | oneWay | killNbr | inactivityTimer | llDown
  deriving DecidableEq, Repr

/-! ## Authentication -/

/-- The authentication types of an interface. -/
inductive AuthType where
  | none | simple | md5
  deriving DecidableEq, Repr

/-- The AuType field of the packet header. -/
def AuthType.num : AuthType → Nat
  | .none => 0
  | .simple => 1
  | .md5 => 2

end Ospfd
