import Mathlib.Data.List.Forall2
import Ospfd.Packet.Wire

/-!
# The configuration

* `Yaml` — what the YAML loader makes of the file, with the conversions that are applied to it.
* `AuthConfig`, `InterfaceConfig`, `AreaConfig`, `OspfConfig` — the configuration.
* `parseInterface`, `parseArea`, `OspfConfig.parse` — how it is read and validated.
* `parse_interfaces` — **each interface of an accepted configuration was parsed from its own
  entry of the file**.
-/

namespace Ospfd

/-! ## YAML -/

/-- The values `yaml.safe_load` returns; a mapping has its entries in the order of the file. -/
inductive Yaml where
  | none
  | bool (b : Bool)
  | int (n : Int)
  | float (x : Float)
  | str (s : String)
  | bytes (b : Bytes)
  | date (iso : String)
  | list (xs : List Yaml)
  | dict (entries : List (Yaml × Yaml))
  | set (xs : List Yaml)

inductive ConfigError where
  | valueError (msg : String)
  | addressValueError
  | attributeError
  | typeError
  | overflowError
  deriving DecidableEq, Repr

/-- The built-in operations on strings, numbers and paths. -/
structure Builtins where
  /-- `str.lower` -/
  lower : String → String
  /-- `str(x)` -/
  text : Yaml → String
  /-- `float(x)` -/
  float : Yaml → Except ConfigError Float
  /-- `int(x)` -/
  int : Yaml → Except ConfigError Int
  /-- `str(pathlib.Path(x).resolve())` -/
  resolve : Yaml → Except ConfigError String
  /-- `x == y`, for keys of a mapping -/
  same : Yaml → Yaml → Bool

/-- `key.encode('utf-8')` -/
def encode (key : String) : Bytes := key.toUTF8.toList

namespace Yaml

/-- The value of a string key. -/
def find (key : String) : List (Yaml × Yaml) → Option Yaml
  | [] => .none
  | (.str k, v) :: entries => if k = key then some v else find key entries
  | _ :: entries => find key entries

/-- `entries.get(key, default)` -/
def getD (entries : List (Yaml × Yaml)) (key : String) (default : Yaml) : Yaml :=
  (find key entries).getD default

/-- `data.get(key, default)`, where `data` need not be a mapping. -/
def get (data : Yaml) (key : String) (default : Yaml) : Except ConfigError Yaml :=
  match data with
  | .dict entries => .ok (getD entries key default)
  | _ => .error .attributeError

/-- `data.items()` of a mapping; other values are passed over. -/
def items : Yaml → List (Yaml × Yaml)
  | .dict entries => entries
  | _ => []

/-- `bool(x)` -/
def truthy : Yaml → Bool
  | .none => false
  | .bool b => b
  | .int n => n ≠ 0
  | .float x => !(x == 0)
  | .str s => s ≠ ""
  | .bytes b => b ≠ []
  | .date _ => true
  | .list xs => !xs.isEmpty
  | .dict entries => !entries.isEmpty
  | .set xs => !xs.isEmpty

/-- `x or {}` -/
def orEmpty (x : Yaml) : Yaml := if x.truthy then x else .dict []

/-- `x == 0` -/
def isZero : Yaml → Bool
  | .bool b => !b
  | .int n => n = 0
  | .float x => x == 0
  | _ => false

/-- `x <= 0` -/
def nonPositive : Yaml → Except ConfigError Bool
  | .bool b => .ok !b
  | .int n => .ok (n ≤ 0)
  | .float x => .ok (x ≤ 0)
  | _ => .error .typeError

/-- `x * n`; strings, bytes and lists are repeated. -/
def times (n : Nat) : Yaml → Except ConfigError Yaml
  | .bool b => .ok (.int (if b then n else 0))
  | .int m => .ok (.int (m * n))
  | .float x => .ok (.float (x * n.toFloat))
  | .str s => .ok (.str (String.join (List.replicate n s)))
  | .bytes b => .ok (.bytes (List.replicate n b).flatten)
  | .list xs => .ok (.list (List.replicate n xs).flatten)
  | _ => .error .typeError

/-- `x.lower()` -/
def lowered (b : Builtins) : Yaml → Except ConfigError Yaml
  | .str s => .ok (.str (b.lower s))
  | .bytes bs => .ok (.bytes (bs.map fun c => if 65 ≤ c ∧ c ≤ 90 then c + 32 else c))
  | _ => .error .attributeError

/-- A decimal octet of an address, without leading zeros. -/
def octet (digits : List Char) : Option Nat :=
  if digits = [] ∨ ¬digits.all Char.isDigit ∨ 3 < digits.length then .none
  else if digits ≠ ['0'] ∧ digits.head? = some '0' then .none
  else
    let n := digits.foldl (fun n c => 10 * n + (c.toNat - '0'.toNat)) 0
    if n ≤ 255 then some n else .none

/-- `IPv4Address(x)` -/
def ipv4Address : Yaml → Except ConfigError IPv4Address
  | .bool b => .ok (if b then 1 else 0)
  | .int n => if 0 ≤ n ∧ n < 4294967296 then .ok (Fin.ofNat _ n.toNat) else .error .addressValueError
  | .bytes b => if b.length = 4 then .ok (addressField b) else .error .addressValueError
  | .str s =>
      match (s.toList.splitOn '.').mapM octet with
      | some [w, x, y, z] => .ok (Fin.ofNat _ (((w * 256 + x) * 256 + y) * 256 + z))
      | _ => .error .addressValueError
  | _ => .error .addressValueError

end Yaml

/-- `str(address)` -/
def dotted (a : IPv4Address) : String :=
  ".".intercalate ((packed a).map fun octet => toString octet.toNat)

/-! ## The dataclasses -/

def defaultHelloIntervalBroadcast : Nat := 10
def defaultDeadIntervalMultiplier : Nat := 4
def defaultRxmtInterval : Nat := 5
def defaultInfTransDelay : Nat := 1
def defaultPriority : Nat := 1
def defaultCost : Nat := 10
def srDefaultSrgbStart : Nat := 16000
def srDefaultSrgbSize : Nat := 8000

/-- Authentication of an interface. -/
structure AuthConfig where
  type : AuthType := .none
  key : Bytes := []
  keyId : Yaml := .int 0

/-- An interface, with the numbers as they stand in the file. -/
structure InterfaceConfig where
  name : Yaml
  type : IntfType := .broadcast
  cost : Yaml := .int defaultCost
  priority : Yaml := .int defaultPriority
  helloInterval : Yaml := .int defaultHelloIntervalBroadcast
  /-- 0 means automatic, a multiple of `helloInterval`. -/
  deadInterval : Yaml := .int 0
  retransmitInterval : Yaml := .int defaultRxmtInterval
  transmitDelay : Yaml := .int defaultInfTransDelay
  passive : Yaml := .bool false
  auth : AuthConfig := {}

/-- `__post_init__` -/
def InterfaceConfig.postInit (intf : InterfaceConfig) : Except ConfigError InterfaceConfig :=
  if intf.deadInterval.isZero then do
    let deadInterval ← intf.helloInterval.times defaultDeadIntervalMultiplier
    pure { intf with deadInterval }
  else pure intf

structure AreaConfig where
  areaId : IPv4Address
  stub : Yaml := .bool false
  defaultCost : Yaml := .int 1
  interfaces : List InterfaceConfig := []

structure RedistributeConfig where
  static : Yaml := .bool false
  connected : Yaml := .bool false
  metric : Yaml := .int 20
  metricType : Yaml := .int 2

structure SrConfig where
  enabled : Yaml := .bool false
  srgbStart : Yaml := .int srDefaultSrgbStart
  srgbSize : Yaml := .int srDefaultSrgbSize
  nodeSidIndex : Yaml := .none

structure OspfConfig where
  routerId : Option IPv4Address := none
  logLevel : Yaml := .str "info"
  logFile : Yaml := .none
  pidFile : Yaml := .str "/var/run/ospfd.pid"
  spfDelay : Float := 1.0
  spfHold : Float := 5.0
  lsaRefresh : Int := lsRefreshTime
  areas : List AreaConfig := []
  redistribute : RedistributeConfig := {}
  sr : SrConfig := {}

/-- The interfaces of all areas. -/
def OspfConfig.interfaces (config : OspfConfig) : List InterfaceConfig :=
  config.areas.flatMap AreaConfig.interfaces

/-! ## Parsing -/

/-- `_INTF_TYPE_MAP.get(name)` -/
def intfTypeMap : Yaml → Option IntfType
  | .str "broadcast" => some .broadcast
  | .str "point-to-point" => some .p2p
  | .str "p2p" => some .p2p
  | .str "nbma" => some .nbma
  | .str "point-to-multipoint" => some .p2mp
  | .str "p2mp" => some .p2mp
  | .str "virtual" => some .virtual
  | _ => none

/-- `_AUTH_TYPE_MAP.get(name)` -/
def authTypeMap : Yaml → Option AuthType
  | .str "none" => some .none
  | .str "simple" => some .simple
  | .str "md5" => some .md5
  | _ => none

/-- The MD5 section of an authentication section. -/
def AuthConfig.withMd5 (config : AuthConfig) : Yaml → AuthConfig
  | .dict md5 =>
      let config := { config with keyId := Yaml.getD md5 "key_id" (.int 0) }
      match Yaml.getD md5 "key" (.str "") with
      | .str key => { config with key := encode key }
      | _ => config
  | _ => config

variable (b : Builtins)

/-- The authentication section of an interface. -/
def parseAuth (name : Yaml) : Yaml → Except ConfigError AuthConfig
  | .dict auth => do
      let authType ← (Yaml.getD auth "type" (.str "none")).lowered b
      match authTypeMap authType with
      | none =>
          let got := b.text authType
          let intf := b.text name
          throw (.valueError s!"Unknown auth type '{got}' for {intf}")
      | some type =>
          let config : AuthConfig :=
            match Yaml.getD auth "key" (.str "") with
            | .str key => { type, key := encode key }
            | _ => { type }
          pure (config.withMd5 (Yaml.getD auth "md5" (.dict [])))
  | _ => pure {}

/-- `_parse_interface` -/
def parseInterface (name data : Yaml) : Except ConfigError InterfaceConfig := do
  let intfType ← (← data.get "type" (.str "broadcast")).lowered b
  match intfTypeMap intfType with
  | none =>
      let got := b.text intfType
      let intf := b.text name
      throw (.valueError s!"Unknown interface type '{got}' for {intf}")
  | some type =>
      let auth ← parseAuth b name (← data.get "auth" (.dict []))
      let cost ← data.get "cost" (.int defaultCost)
      let priority ← data.get "priority" (.int defaultPriority)
      let helloInterval ← data.get "hello_interval" (.int defaultHelloIntervalBroadcast)
      let deadInterval ← data.get "dead_interval" (.int 0)
      let retransmitInterval ← data.get "retransmit_interval" (.int defaultRxmtInterval)
      let transmitDelay ← data.get "transmit_delay" (.int defaultInfTransDelay)
      let passive ← data.get "passive" (.bool false)
      InterfaceConfig.postInit
        { name, type, cost, priority, helloInterval, deadInterval, retransmitInterval, transmitDelay,
          passive, auth }

def parseInterfaces : List (Yaml × Yaml) → Except ConfigError (List InterfaceConfig)
  | [] => pure []
  | (name, data) :: entries => do
      let intf ← parseInterface b name data.orEmpty
      let rest ← parseInterfaces entries
      pure (intf :: rest)

/-- `_parse_area` -/
def parseArea (areaIdStr data : Yaml) : Except ConfigError AreaConfig := do
  let areaId ← areaIdStr.ipv4Address
  let stub ← data.get "stub" (.bool false)
  let defaultCost ← data.get "default_cost" (.int 1)
  let interfaces ← parseInterfaces b (← data.get "interfaces" (.dict [])).items
  pure { areaId, stub, defaultCost, interfaces }

def parseAreas : List (Yaml × Yaml) → Except ConfigError (List AreaConfig)
  | [] => pure []
  | (areaIdStr, data) :: entries => do
      let area ← parseArea b areaIdStr data.orEmpty
      let rest ← parseAreas entries
      pure (area :: rest)

/-! ### Validation -/

/-- A number of an interface that must be above zero. -/
def checkPositive (intf : InterfaceConfig) (field : String) (value : Yaml) : Except ConfigError Unit := do
  let name := b.text intf.name
  if ← value.nonPositive then throw (.valueError s!"Interface {name}: {field} must be > 0")

/-- The interfaces of an area, after those with the names `seen`. -/
def validateInterfaces : List InterfaceConfig → List Yaml → Except ConfigError (List Yaml)
  | [], seen => pure seen
  | intf :: intfs, seen => do
      let name := b.text intf.name
      if seen.any (b.same intf.name) then
        throw (.valueError s!"Interface {name} configured in multiple areas")
      checkPositive b intf "hello_interval" intf.helloInterval
      checkPositive b intf "dead_interval" intf.deadInterval
      checkPositive b intf "cost" intf.cost
      validateInterfaces intfs (intf.name :: seen)

def validateAreas : List AreaConfig → List Yaml → Except ConfigError Unit
  | [], _ => pure ()
  | area :: areas, seen => do
      let areaId := dotted area.areaId
      if area.interfaces.isEmpty then throw (.valueError s!"Area {areaId} has no interfaces")
      let seen ← validateInterfaces b area.interfaces seen
      validateAreas areas seen

/-- `_validate` -/
def OspfConfig.validate (config : OspfConfig) : Except ConfigError Unit := do
  if config.areas.isEmpty then throw (.valueError "At least one area must be configured")
  validateAreas b config.areas []

/-! ### The file -/

def parseRouterId (rid : Yaml) : Except ConfigError (Option IPv4Address) :=
  if rid.truthy then some <$> rid.ipv4Address else pure none

/-- The log file is under `/var/log/`. -/
def checkLogFile (logFile : Yaml) : Except ConfigError Unit := do
  if logFile.truthy then
    let path ← b.resolve logFile
    let got := b.text logFile
    unless path.startsWith "/var/log/" do
      throw (.valueError s!"log_file must be under /var/log/, got: {got}")

/-- `spf_delay`, `spf_hold` and `lsa_refresh`. -/
def parseTimers : Yaml → Except ConfigError (Float × Float × Int)
  | .dict timers => do
      let spfDelay ← b.float (Yaml.getD timers "spf_delay" (.float 1.0))
      let spfHold ← b.float (Yaml.getD timers "spf_hold" (.float 5.0))
      let lsaRefresh ← b.int (Yaml.getD timers "lsa_refresh" (.int lsRefreshTime))
      pure (spfDelay, spfHold, lsaRefresh)
  | _ => pure (1.0, 5.0, lsRefreshTime)

def parseRedistribute : Yaml → RedistributeConfig
  | .dict redist =>
      { static := Yaml.getD redist "static" (.bool false)
        connected := Yaml.getD redist "connected" (.bool false)
        metric := Yaml.getD redist "metric" (.int 20)
        metricType := Yaml.getD redist "metric_type" (.int 2) }
  | _ => {}

def parseSr : Yaml → SrConfig
  | .dict sr =>
      { enabled := Yaml.getD sr "enabled" (.bool false)
        srgbStart := Yaml.getD sr "srgb_start" (.int srDefaultSrgbStart)
        srgbSize := Yaml.getD sr "srgb_size" (.int srDefaultSrgbSize)
        nodeSidIndex := Yaml.getD sr "node_sid_index" .none }
  | _ => {}

/-- `_parse` -/
def OspfConfig.parse (raw : List (Yaml × Yaml)) : Except ConfigError OspfConfig := do
  let routerId ← parseRouterId (Yaml.getD raw "router_id" .none)
  let logFile := Yaml.getD raw "log_file" .none
  checkLogFile b logFile
  let (spfDelay, spfHold, lsaRefresh) ← parseTimers b (Yaml.getD raw "timers" (.dict []))
  let areas ← parseAreas b (Yaml.getD raw "areas" (.dict [])).items
  let config : OspfConfig :=
    { routerId, logLevel := Yaml.getD raw "log_level" (.str "info"), logFile,
      pidFile := Yaml.getD raw "pid_file" (.str "/var/run/ospfd.pid"), spfDelay, spfHold, lsaRefresh, areas,
      redistribute := parseRedistribute (Yaml.getD raw "redistribute" (.dict [])),
      sr := parseSr (Yaml.getD raw "sr" (.dict [])) }
  config.validate b
  pure config

/-! ## What is accepted -/

/-- The entries of the interfaces of an area. -/
def areaEntries (data : Yaml) : List (Yaml × Yaml) :=
  (Yaml.getD data.orEmpty.items "interfaces" (.dict [])).items.map fun e => (e.1, e.2.orEmpty)

/-- The entries of all interfaces. -/
def interfaceEntries (raw : List (Yaml × Yaml)) : List (Yaml × Yaml) :=
  (Yaml.getD raw "areas" (.dict [])).items.flatMap fun e => areaEntries e.2

/-- An interface was parsed from an entry. -/
def Parsed (e : Yaml × Yaml) (intf : InterfaceConfig) : Prop := parseInterface b e.1 e.2 = .ok intf

variable {b}

theorem Yaml.get_eq_ok {data v default : Yaml} {key : String} (h : data.get key default = .ok v) :
    ∃ entries, data = .dict entries ∧ getD entries key default = v := by
  cases data with
  | dict entries => exact ⟨entries, rfl, Except.ok.inj h⟩
  | _ => cases h

theorem parsed_of_parseInterfaces {entries : List (Yaml × Yaml)} {intfs : List InterfaceConfig}
    (h : parseInterfaces b entries = .ok intfs) :
    List.Forall₂ (Parsed b) (entries.map fun e => (e.1, e.2.orEmpty)) intfs := by
  induction entries generalizing intfs with
  | nil =>
    cases h
    exact .nil
  | cons e entries ih =>
    obtain ⟨intf, hone, h⟩ := bind_eq_ok h
    obtain ⟨rest, hrest, h⟩ := bind_eq_ok h
    cases h
    exact .cons hone (ih hrest)

theorem parsed_of_parseArea {areaIdStr data : Yaml} {area : AreaConfig}
    (h : parseArea b areaIdStr data.orEmpty = .ok area) :
    List.Forall₂ (Parsed b) (areaEntries data) area.interfaces := by
  obtain ⟨areaId, -, h⟩ := bind_eq_ok h
  obtain ⟨stub, -, h⟩ := bind_eq_ok h
  obtain ⟨cost, -, h⟩ := bind_eq_ok h
  obtain ⟨auths, hsection, h⟩ := bind_eq_ok h
  obtain ⟨interfaces, hparse, h⟩ := bind_eq_ok h
  cases h
  obtain ⟨entries, hdata, rfl⟩ := Yaml.get_eq_ok hsection
  rw [areaEntries, hdata]
  exact parsed_of_parseInterfaces hparse

theorem parsed_of_parseAreas {entries : List (Yaml × Yaml)} {areas : List AreaConfig}
    (h : parseAreas b entries = .ok areas) :
    List.Forall₂ (Parsed b) (entries.flatMap fun e => areaEntries e.2)
      (areas.flatMap AreaConfig.interfaces) := by
  induction entries generalizing areas with
  | nil =>
    cases h
    exact .nil
  | cons e entries ih =>
    obtain ⟨area, hone, h⟩ := bind_eq_ok h
    obtain ⟨rest, hrest, h⟩ := bind_eq_ok h
    cases h
    rw [List.flatMap_cons, List.flatMap_cons]
    exact List.rel_append (parsed_of_parseArea hone) (ih hrest)

/-- **Each interface of an accepted configuration** was parsed from its own entry. -/
theorem parse_interfaces {raw : List (Yaml × Yaml)} {config : OspfConfig}
    (h : OspfConfig.parse b raw = .ok config) :
    List.Forall₂ (Parsed b) (interfaceEntries raw) config.interfaces := by
  obtain ⟨routerId, -, h⟩ := bind_eq_ok h
  obtain ⟨-, -, h⟩ := bind_eq_ok h
  obtain ⟨timers, -, h⟩ := bind_eq_ok h
  obtain ⟨areas, hareas, h⟩ := bind_eq_ok h
  obtain ⟨-, -, h⟩ := bind_eq_ok h
  cases h
  exact parsed_of_parseAreas hareas

end Ospfd
