import Ospfd.Config.Passwords
import Ospfd.Config.Validation
import Ospfd.Lsdb.Queued
import Ospfd.Sr.Configured

/-!
# What an accepted configuration puts on the wire

* `StartedFrom` — the daemon of a configuration; `startedFrom_of_ran` — it keeps its settings.
* `Conveys` — its Hellos and LSAs are written, and carry the configured numbers to those who decode
  them.
* `InWireRange` — the bounds that validation leaves to the file.
* `conveys_iff` — **the numbers are conveyed** exactly within these bounds.
-/

namespace Ospfd

variable {config : OspfConfig} {cfg : InterfaceConfig} {cfgs : IntfId → Option InterfaceConfig} {s : Instance}
  {i : IntfId} {areaId : IPv4Address}

/-! ## The daemon of a configuration -/

/-- An interface with the settings of its configuration. -/
structure OspfInterface.CreatedFrom (x : OspfInterface) (cfg : InterfaceConfig) : Prop where
  intfType : x.intfType = cfg.type
  cost : ∀ z, cfg.cost = .int z → x.cost = z
  priority : ∀ z, cfg.priority = .int z → x.priority = z
  helloInterval : ∀ z, cfg.helloInterval = .int z → x.helloInterval = z
  deadInterval : ∀ z, cfg.deadInterval = .int z → x.deadInterval = z
  passive : x.passive = cfg.passive.truthy

/-- A daemon of a configuration.  `cfgs` has the interfaces that were created, those of the
configuration that are there on the system, and the areas have no others. -/
structure StartedFrom (config : OspfConfig) (cfgs : IntfId → Option InterfaceConfig) (s : Instance) : Prop where
  created : ∀ i cfg, cfgs i = some cfg → cfg ∈ config.interfaces ∧ (s.intf i).CreatedFrom cfg
  areas : ∀ areaId, ∀ i ∈ s.interfacesForArea areaId, ∃ cfg, cfgs i = some cfg

theorem OspfInterface.CreatedFrom.of_asCreated {x y : OspfInterface} (h : x.CreatedFrom cfg)
    (heq : y.asCreated = x.asCreated) : y.CreatedFrom cfg := by
  have hset : y.asCreated.CreatedFrom cfg := by
    rw [heq]
    exact ⟨h.intfType, h.cost, h.priority, h.helloInterval, h.deadInterval, h.passive⟩
  exact ⟨hset.intfType, hset.cost, hset.priority, hset.helloInterval, hset.deadInterval, hset.passive⟩

/-- **A daemon of a configuration stays one.** -/
theorem startedFrom_of_ran (h : Ran (StartedFrom config cfgs) s) : StartedFrom config cfgs s := by
  obtain ⟨s₀, hstart, hset, hareas⟩ := settings_of_ran h
  refine ⟨fun i cfg hcfg => ?_, fun areaId i hi => ?_⟩
  · obtain ⟨hmem, hcreated⟩ := hstart.created i cfg hcfg
    exact ⟨hmem, hcreated.of_asCreated (hset i)⟩
  · refine hstart.areas areaId i ?_
    rw [Instance.interfacesForArea, hareas] at hi
    exact hi

/-! ## Hellos -/

/-- The Hello of an interface is written, and the configured numbers are read from it. -/
def HelloConveys (s : Instance) (i : IntfId) (cfg : InterfaceConfig) : Prop :=
  ∃ b hello, (helloOf s i).serialize = .ok b ∧ HelloPacket.deserialize b = .ok hello ∧
    cfg.helloInterval = .int hello.helloInterval ∧ cfg.deadInterval = .int hello.deadInterval ∧
    cfg.priority = .int hello.priority

/-- The numbers of a Hello are below the bounds of their fields, and the priority is not negative. -/
structure InterfaceConfig.HelloInRange (cfg : InterfaceConfig) : Prop where
  helloInterval : ∀ z, cfg.helloInterval = .int z → z < 65536
  deadInterval : ∀ z, cfg.deadInterval = .int z → z < 4294967296
  priority : ∀ z, cfg.priority = .int z → 0 ≤ z ∧ z < 256

/-- **A Hello conveys the numbers** exactly when they fit. -/
theorem helloConveys_iff (hcreated : (s.intf i).CreatedFrom cfg) (hint : cfg.Integers) (hpos : cfg.Positive) :
    HelloConveys s i cfg ↔ cfg.HelloInRange := by
  obtain ⟨hello, hhello⟩ := hint.helloInterval
  obtain ⟨dead, hdead⟩ := hint.deadInterval
  obtain ⟨priority, hpriority⟩ := hint.priority
  have hello_eq : (helloOf s i).helloInterval = hello := hcreated.helloInterval hello hhello
  have dead_eq : (helloOf s i).deadInterval = dead := hcreated.deadInterval dead hdead
  have priority_eq : (helloOf s i).priority = priority := hcreated.priority priority hpriority
  constructor
  · rintro ⟨b, h, hser, -⟩
    have hw := HelloPacket.wireRange_of_serialize hser
    constructor <;> intro z hz
    · rw [hhello, Yaml.int.injEq] at hz
      rw [← hz, ← hello_eq]
      exact hw.helloInterval.2
    · rw [hdead, Yaml.int.injEq] at hz
      rw [← hz, ← dead_eq]
      exact hw.deadInterval.2
    · rw [hpriority, Yaml.int.injEq] at hz
      rw [← hz, ← priority_eq]
      exact hw.priority
  · intro h
    have hw : (helloOf s i).WireRange := by
      constructor
      · rw [hello_eq]
        exact ⟨le_of_lt (hpos.helloInterval hello hhello), h.helloInterval hello hhello⟩
      · exact (by decide : optE < 256)
      · rw [priority_eq]
        exact h.priority priority hpriority
      · rw [dead_eq]
        exact ⟨le_of_lt (hpos.deadInterval dead hdead), h.deadInterval dead hdead⟩
    obtain ⟨b, hser, hread⟩ := HelloPacket.deserialize_of_wireRange hw
    exact ⟨b, _, hser, hread, by rw [hello_eq, hhello], by rw [dead_eq, hdead], by rw [priority_eq, hpriority]⟩

/-! ## Router-LSAs -/

/-- The Router-LSA of an area survives, whatever its sequence number, and a link of an interface in
it has the configured cost or is that of the address alone. -/
structure RouterLsaConveys (cfgs : IntfId → Option InterfaceConfig) (s : Instance) (areaId : IPv4Address) : Prop where
  survives : ∀ seqNum < 4294967296, (routerLsaOf s areaId seqNum).Survives s.now
  cost : ∀ i ∈ s.interfacesForArea areaId, ∀ cfg, cfgs i = some cfg → ∀ link ∈ linksOf s i,
    link = stubLink (s.intf i).ipAddr hostMask 0 ∨ cfg.cost = .int link.metric

/-- The costs in the Router-LSA of an area and its length fit. -/
structure RouterLsaInRange (cfgs : IntfId → Option InterfaceConfig) (s : Instance) (areaId : IPv4Address) : Prop where
  cost : ∀ i ∈ s.interfacesForArea areaId, s.AdvertisesCost i →
    ∀ cfg, cfgs i = some cfg → ∀ z, cfg.cost = .int z → z < 65536
  length : 24 + 12 * ((s.interfacesForArea areaId).map s.linkCount).sum < 65536

/-- **A Router-LSA conveys the costs** exactly when they and its length fit. -/
theorem routerLsaConveys_iff (hstarted : StartedFrom config cfgs s)
    (hint : ∀ intf ∈ config.interfaces, intf.Integers) (hpos : ∀ intf ∈ config.interfaces, intf.Positive) :
    RouterLsaConveys cfgs s areaId ↔ RouterLsaInRange cfgs s areaId := by
  have hcfg : ∀ i cfg, cfgs i = some cfg → ∃ z, cfg.cost = .int z ∧ (s.intf i).cost = z ∧ 0 < z := by
    intro i cfg hcfg
    obtain ⟨hmem, hcreated⟩ := hstarted.created i cfg hcfg
    obtain ⟨z, hz⟩ := (hint cfg hmem).cost
    exact ⟨z, hz, hcreated.cost z hz, (hpos cfg hmem).cost z hz⟩
  constructor
  · intro h
    obtain ⟨hcost, hlen⟩ := (routerLsa_survives_iff (Nat.zero_lt_succ _) s.now).1 (h.survives 0 (Nat.zero_lt_succ _))
    refine ⟨fun i hi hadv cfg hc z hz => ?_, hlen⟩
    obtain ⟨z', hz', heq, -⟩ := hcfg i cfg hc
    rw [hz', Yaml.int.injEq] at hz
    rw [← hz, ← heq]
    exact (hcost i hi hadv).2
  · intro h
    refine ⟨fun seqNum hseq => (routerLsa_survives_iff hseq s.now).2 ⟨fun i hi hadv => ?_, h.length⟩, ?_⟩
    · obtain ⟨cfg, hc⟩ := hstarted.areas areaId i hi
      obtain ⟨z, hz, heq, hzpos⟩ := hcfg i cfg hc
      rw [heq]
      exact ⟨le_of_lt hzpos, h.cost i hi hadv cfg hc z hz⟩
    · intro i hi cfg hc link hlink
      obtain ⟨z, hz, heq, -⟩ := hcfg i cfg hc
      rcases (costLink_of_mem hlink).metric with hhost | ⟨-, hmetric⟩
      · exact .inl hhost
      · exact .inr (by rw [hz, hmetric, heq])

/-! ## Configurations -/

/-- Hellos and LSAs are written without an exception, and carry the configured numbers. -/
structure Conveys (config : OspfConfig) (cfgs : IntfId → Option InterfaceConfig) (s : Instance) : Prop where
  hello : ∀ i cfg, cfgs i = some cfg → cfg.passive.truthy = false → HelloConveys s i cfg
  routerLsa : ∀ areaId, RouterLsaConveys cfgs s areaId
  riLsa : config.sr.enabled.truthy = true →
    ∃ start size, config.sr.srgbStart = .int start ∧ config.sr.srgbSize = .int size ∧ RiConveys s start size
  prefixSidLsa : config.sr.enabled.truthy = true → config.sr.nodeSidIndex ≠ .none →
    ∃ index, config.sr.nodeSidIndex = .int index ∧ ∀ network : IPv4Network, network.Valid → SidConveys s network index

/-- What validation leaves to the file: the upper bounds, and the bounds of what it does not check. -/
structure InWireRange (config : OspfConfig) (cfgs : IntfId → Option InterfaceConfig) (s : Instance) : Prop where
  hello : ∀ i cfg, cfgs i = some cfg → cfg.passive.truthy = false → cfg.HelloInRange
  routerLsa : ∀ areaId, RouterLsaInRange cfgs s areaId
  srgbStart : config.sr.enabled.truthy = true → ∀ z, config.sr.srgbStart = .int z → 0 ≤ z ∧ z < 16777216
  srgbSize : config.sr.enabled.truthy = true → ∀ z, config.sr.srgbSize = .int z → 0 ≤ z ∧ z < 16777216
  nodeSidIndex : config.sr.enabled.truthy = true → ∀ z, config.sr.nodeSidIndex = .int z → 0 ≤ z ∧ z < 4294967296

/-- The network of all addresses. -/
theorem valid_everything : IPv4Network.Valid ⟨0, 0⟩ := ⟨Nat.zero_le _, rfl⟩

/-- **In every state of a daemon the numbers of its configuration are conveyed** exactly when they
are within the bounds of their fields. -/
theorem conveys_iff {b : Builtins} {raw : List (Yaml × Yaml)} (hraw : IntegerValued raw)
    (hparse : OspfConfig.parse b raw = .ok config) (hran : Ran (StartedFrom config cfgs) s) :
    Conveys config cfgs s ↔ InWireRange config cfgs s := by
  have hstarted := startedFrom_of_ran hran
  obtain ⟨hint, hsr⟩ := integers_of_parse hraw hparse
  have hpos := positive_of_parse hparse
  have hhello : ∀ i cfg, cfgs i = some cfg → (HelloConveys s i cfg ↔ cfg.HelloInRange) := by
    intro i cfg hcfg
    obtain ⟨hmem, hcreated⟩ := hstarted.created i cfg hcfg
    exact helloConveys_iff hcreated (hint cfg hmem) (hpos cfg hmem)
  have hrouter : ∀ areaId, RouterLsaConveys cfgs s areaId ↔ RouterLsaInRange cfgs s areaId := fun areaId =>
    routerLsaConveys_iff hstarted hint hpos
  constructor
  · intro h
    have hsrgb : config.sr.enabled.truthy = true → ∀ start size, config.sr.srgbStart = .int start →
        config.sr.srgbSize = .int size → (0 ≤ start ∧ start < 16777216) ∧ 0 ≤ size ∧ size < 16777216 := by
      intro hen start size hstart hsize
      obtain ⟨start', size', hstart', hsize', hri⟩ := h.riLsa hen
      rw [hstart, Yaml.int.injEq] at hstart'
      rw [hsize, Yaml.int.injEq] at hsize'
      rw [hstart', hsize']
      exact riConveys_iff.1 hri
    refine ⟨fun i cfg hcfg hactive => (hhello i cfg hcfg).1 (h.hello i cfg hcfg hactive),
      fun areaId => (hrouter areaId).1 (h.routerLsa areaId), fun hen z hz => ?_, fun hen z hz => ?_, fun hen z hz => ?_⟩
    · obtain ⟨size, hsize⟩ := hsr.srgbSize
      exact (hsrgb hen z size hz hsize).1
    · obtain ⟨start, hstart⟩ := hsr.srgbStart
      exact (hsrgb hen start z hstart hz).2
    · obtain ⟨index, hindex, hsid⟩ := h.prefixSidLsa hen (by rw [hz]; nofun)
      rw [hz, Yaml.int.injEq] at hindex
      rw [hindex]
      exact (sidConveys_iff valid_everything).1 (hsid _ valid_everything)
  · intro h
    refine ⟨fun i cfg hcfg hactive => (hhello i cfg hcfg).2 (h.hello i cfg hcfg hactive),
      fun areaId => (hrouter areaId).2 (h.routerLsa areaId), fun hen => ?_, fun hen hsome => ?_⟩
    · obtain ⟨start, hstart⟩ := hsr.srgbStart
      obtain ⟨size, hsize⟩ := hsr.srgbSize
      exact ⟨start, size, hstart, hsize, riConveys_iff.2 ⟨h.srgbStart hen start hstart, h.srgbSize hen size hsize⟩⟩
    · rcases hsr.nodeSidIndex with hnone | ⟨index, hindex⟩
      · exact absurd hnone hsome
      · exact ⟨index, hindex, fun network hnet => (sidConveys_iff hnet).2 (h.nodeSidIndex hen index hindex)⟩

/-! ### A file with one interface -/

/-- A file with one interface and segment routing. -/
def helloFile (hello : Int) : List (Yaml × Yaml) :=
  [(.str "sr", .dict [(.str "enabled", .bool true), (.str "node_sid_index", .int 1)]),
    (.str "areas", .dict [(.int 0, .dict [(.str "interfaces", .dict [(.str "eth0",
      .dict [(.str "type", .str "p2p"), (.str "hello_interval", .int hello)])])])])]

def helloIntf (hello : Int) : InterfaceConfig :=
  { name := .str "eth0", type := .p2p, helloInterval := .int hello, deadInterval := .int (hello * 4) }

def helloConfig (hello : Int) : OspfConfig :=
  { areas := [{ areaId := 0, interfaces := [helloIntf hello] }],
    sr := { enabled := .bool true, nodeSidIndex := .int 1 } }

/-- The first interface is there. -/
def helloCreated (hello : Int) (i : IntfId) : Option InterfaceConfig := if i = 0 then some (helloIntf hello) else none

/-- The daemon of the file. -/
def helloRouter (hello : Int) : Instance :=
  { linkRouter .none with
    intf := fun _ => { linkEnd .none with helloInterval := hello, deadInterval := hello * 4 } }

theorem integerValued_helloFile (hello : Int) : IntegerValued (helloFile hello) where
  interfaces := by
    intro e he
    obtain rfl := List.mem_singleton.1 he
    intro key hkey v hv
    simp only [List.mem_cons, List.not_mem_nil, or_false] at hkey
    rcases hkey with rfl | rfl | rfl | rfl
    · cases hv
    · cases hv
    · cases hv
      exact ⟨hello, rfl⟩
    · cases hv
  sr := by
    intro key hkey v hv
    simp only [List.mem_cons, List.not_mem_nil, or_false] at hkey
    rcases hkey with rfl | rfl | rfl
    · cases hv
    · cases hv
    · cases hv
      exact ⟨1, rfl⟩

theorem interfaces_helloRouter {hello : Int} (hi : i ∈ (helloRouter hello).interfacesForArea areaId) : i = 0 := by
  rw [Instance.interfacesForArea] at hi
  rcases harea : (helloRouter hello).areas.get? areaId with _ | area
  · rw [harea] at hi
    cases hi
  · rw [harea] at hi
    change (Dict.empty.set backboneArea ({ areaId := backboneArea, interfaces := [0] } : OspfArea)).get? areaId =
      some area at harea
    rw [Dict.get?_set] at harea
    split at harea
    · cases harea
      exact List.mem_singleton.1 hi
    · cases harea

theorem startedFrom_helloRouter (hello : Int) : StartedFrom (helloConfig hello) (helloCreated hello) (helloRouter hello) where
  created := by
    intro i cfg hcfg
    rw [helloCreated] at hcfg
    split at hcfg
    · cases hcfg
      refine ⟨List.mem_singleton_self _, rfl, ?_, ?_, ?_, ?_, rfl⟩ <;> rintro z ⟨⟩ <;> rfl
    · cases hcfg
  areas := by
    intro areaId i hi
    rw [interfaces_helloRouter hi]
    exact ⟨_, rfl⟩

/-- The usual numbers are conveyed. -/
theorem conveys_usual : Conveys (helloConfig 10) (helloCreated 10) (helloRouter 10) := by
  refine (conveys_iff (b := plainBuiltins) (integerValued_helloFile 10) (by with_unfolding_all rfl)
    (.start (startedFrom_helloRouter 10))).2 ⟨?_, ?_, ?_, ?_, ?_⟩
  · intro i cfg hcfg _
    rw [helloCreated] at hcfg
    split at hcfg
    · cases hcfg
      constructor <;> rintro z ⟨⟩ <;> decide
    · cases hcfg
  · intro areaId
    refine ⟨fun i _ hadv => absurd rfl hadv.1, ?_⟩
    have hnone : (helloRouter 10).linkCount = fun _ => 0 := rfl
    rw [hnone, List.map_const', List.sum_replicate, smul_zero]
    decide
  · rintro - z ⟨⟩
    decide
  · rintro - z ⟨⟩
    decide
  · rintro - z ⟨⟩
    decide

/-- An interval of 65536 seconds is accepted, and no Hello is written. -/
theorem not_conveys : ¬∀ (b : Builtins) (raw : List (Yaml × Yaml)) (config : OspfConfig), IntegerValued raw →
    OspfConfig.parse b raw = .ok config → ∀ (cfgs : IntfId → Option InterfaceConfig) (s : Instance),
      Ran (StartedFrom config cfgs) s → Conveys config cfgs s := by
  intro hall
  have h := hall plainBuiltins (helloFile 65536) (helloConfig 65536) (integerValued_helloFile 65536)
    (by with_unfolding_all rfl) (helloCreated 65536) (helloRouter 65536) (.start (startedFrom_helloRouter 65536))
  obtain ⟨b, hello, hser, -⟩ := h.hello 0 (helloIntf 65536) rfl rfl
  have hlt : (65536 : Int) < 65536 := (HelloPacket.wireRange_of_serialize hser).helloInterval.2
  exact absurd hlt (by decide)

end Ospfd
