import Ospfd.Config.Parse

/-!
# What validation promises

* `IntegerValued` — a file whose numbers are integers.
* `integers_of_parse` — **the numbers of an accepted file are integers**, defaults and derived
  values, too.
* `positive_of_parse` — **the validated numbers are above zero**.
-/

namespace Ospfd

/-! ## Integers -/

/-- The values under some keys are integers, where there are any. -/
def IntegerKeys (keys : List String) (entries : List (Yaml × Yaml)) : Prop :=
  ∀ key ∈ keys, ∀ v, Yaml.find key entries = some v → ∃ z, v = .int z

/-- A file with integers for the numbers of interfaces and of segment routing. -/
structure IntegerValued (raw : List (Yaml × Yaml)) : Prop where
  interfaces : ∀ e ∈ interfaceEntries raw,
    IntegerKeys ["cost", "priority", "hello_interval", "dead_interval"] e.2.items
  sr : IntegerKeys ["srgb_start", "srgb_size", "node_sid_index"] (Yaml.getD raw "sr" (.dict [])).items

/-- An interface whose numbers are integers. -/
structure InterfaceConfig.Integers (intf : InterfaceConfig) : Prop where
  cost : ∃ z, intf.cost = .int z
  priority : ∃ z, intf.priority = .int z
  helloInterval : ∃ z, intf.helloInterval = .int z
  deadInterval : ∃ z, intf.deadInterval = .int z

/-- Segment routing whose numbers are integers; the index may be missing. -/
structure SrConfig.Integers (sr : SrConfig) : Prop where
  srgbStart : ∃ z, sr.srgbStart = .int z
  srgbSize : ∃ z, sr.srgbSize = .int z
  nodeSidIndex : sr.nodeSidIndex = .none ∨ ∃ z, sr.nodeSidIndex = .int z

theorem IntegerKeys.getD {keys : List String} {entries : List (Yaml × Yaml)} (h : IntegerKeys keys entries)
    {key : String} (hkey : key ∈ keys) (n : Int) : ∃ z, Yaml.getD entries key (.int n) = .int z := by
  rw [Yaml.getD]
  rcases hfind : Yaml.find key entries with _ | v
  · exact ⟨n, rfl⟩
  · exact h key hkey v hfind

variable {b : Builtins}

/-- A missing dead interval is derived from an integer. -/
theorem InterfaceConfig.Integers.postInit {intf intf' : InterfaceConfig} (h : intf.Integers)
    (hpost : intf.postInit = .ok intf') : intf'.Integers := by
  rw [InterfaceConfig.postInit] at hpost
  split at hpost
  · obtain ⟨hello, hhello⟩ := h.helloInterval
    obtain ⟨dead, hdead, hpost⟩ := bind_eq_ok hpost
    rw [hhello, Yaml.times] at hdead
    cases hdead
    cases hpost
    exact ⟨h.cost, h.priority, h.helloInterval, _, rfl⟩
  · cases hpost
    exact h

theorem integers_of_parsed {e : Yaml × Yaml} {intf : InterfaceConfig} (hparsed : Parsed b e intf)
    (h : IntegerKeys ["cost", "priority", "hello_interval", "dead_interval"] e.2.items) : intf.Integers := by
  obtain ⟨name, data⟩ := e
  obtain ⟨type, htype, hparsed⟩ := bind_eq_ok hparsed
  obtain ⟨lowered, -, hparsed⟩ := bind_eq_ok hparsed
  obtain ⟨entries, rfl, -⟩ := Yaml.get_eq_ok htype
  split at hparsed
  · cases hparsed
  · obtain ⟨auths, -, hparsed⟩ := bind_eq_ok hparsed
    obtain ⟨auth, -, hparsed⟩ := bind_eq_ok hparsed
    -- the remaining entries are read from a mapping, and are there
    refine InterfaceConfig.Integers.postInit ?_ hparsed
    exact ⟨h.getD (by simp) _, h.getD (by simp) _, h.getD (by simp) _, h.getD (by simp) _⟩

theorem integers_of_parseSr {sr : Yaml} (h : IntegerKeys ["srgb_start", "srgb_size", "node_sid_index"] sr.items) :
    (parseSr sr).Integers := by
  cases sr with
  | dict entries =>
    refine ⟨h.getD (by simp) _, h.getD (by simp) _, ?_⟩
    change Yaml.getD entries "node_sid_index" .none = .none ∨ ∃ z, Yaml.getD entries "node_sid_index" .none = .int z
    rw [Yaml.getD]
    rcases hfind : Yaml.find "node_sid_index" entries with _ | v
    · exact .inl rfl
    · exact .inr (h _ (by simp) v hfind)
  | _ => exact ⟨⟨_, rfl⟩, ⟨_, rfl⟩, .inl rfl⟩

theorem exists_parsed {entries : List (Yaml × Yaml)} {intfs : List InterfaceConfig}
    (h : List.Forall₂ (Parsed b) entries intfs) {intf : InterfaceConfig} (hintf : intf ∈ intfs) :
    ∃ e ∈ entries, Parsed b e intf := by
  induction h with
  | nil => cases hintf
  | @cons e intf' entries intfs hone _ ih =>
    rcases List.mem_cons.1 hintf with rfl | hintf
    · exact ⟨e, List.mem_cons_self .., hone⟩
    · obtain ⟨e', he', hparsed⟩ := ih hintf
      exact ⟨e', List.mem_cons_of_mem _ he', hparsed⟩

/-- **The numbers of an accepted file are integers.** -/
theorem integers_of_parse {raw : List (Yaml × Yaml)} {config : OspfConfig} (hint : IntegerValued raw)
    (h : OspfConfig.parse b raw = .ok config) :
    (∀ intf ∈ config.interfaces, intf.Integers) ∧ config.sr.Integers := by
  refine ⟨fun intf hintf => ?_, ?_⟩
  · obtain ⟨e, he, hparsed⟩ := exists_parsed (parse_interfaces h) hintf
    exact integers_of_parsed hparsed (hint.interfaces e he)
  · obtain ⟨routerId, -, h⟩ := bind_eq_ok h
    obtain ⟨-, -, h⟩ := bind_eq_ok h
    obtain ⟨timers, -, h⟩ := bind_eq_ok h
    obtain ⟨areas, -, h⟩ := bind_eq_ok h
    obtain ⟨-, -, h⟩ := bind_eq_ok h
    cases h
    exact integers_of_parseSr hint.sr

/-! ## Bounds -/

/-- The numbers of an interface that are checked are above zero. -/
structure InterfaceConfig.Positive (intf : InterfaceConfig) : Prop where
  helloInterval : ∀ z, intf.helloInterval = .int z → 0 < z
  deadInterval : ∀ z, intf.deadInterval = .int z → 0 < z
  cost : ∀ z, intf.cost = .int z → 0 < z

theorem pos_of_checkPositive {intf : InterfaceConfig} {field : String} {value : Yaml}
    (h : checkPositive b intf field value = .ok ()) : ∀ z, value = .int z → 0 < z := by
  rintro z rfl
  obtain ⟨nonPositive, hnon, h⟩ := bind_eq_ok h
  rw [Yaml.nonPositive] at hnon
  cases hnon
  by_contra hz
  rw [if_pos (by simpa using hz)] at h
  cases h

theorem positive_of_validateInterfaces {intfs : List InterfaceConfig} {seen seen' : List Yaml}
    (h : validateInterfaces b intfs seen = .ok seen') : ∀ intf ∈ intfs, intf.Positive := by
  induction intfs generalizing seen with
  | nil => nofun
  | cons intf intfs ih =>
    rw [validateInterfaces] at h
    dsimp only at h
    split at h
    · cases h
    · obtain ⟨⟨⟩, hhello, h⟩ := bind_eq_ok h
      obtain ⟨⟨⟩, hdead, h⟩ := bind_eq_ok h
      obtain ⟨⟨⟩, hcost, h⟩ := bind_eq_ok h
      intro intf' hintf'
      rcases List.mem_cons.1 hintf' with rfl | hintf'
      · exact ⟨pos_of_checkPositive hhello, pos_of_checkPositive hdead, pos_of_checkPositive hcost⟩
      · exact ih h intf' hintf'

theorem positive_of_validateAreas {areas : List AreaConfig} {seen : List Yaml}
    (h : validateAreas b areas seen = .ok ()) : ∀ intf ∈ areas.flatMap AreaConfig.interfaces, intf.Positive := by
  induction areas generalizing seen with
  | nil => nofun
  | cons area areas ih =>
    rw [validateAreas] at h
    dsimp only at h
    split at h
    · cases h
    · obtain ⟨seen', harea, h⟩ := bind_eq_ok h
      intro intf hintf
      rw [List.flatMap_cons, List.mem_append] at hintf
      rcases hintf with hintf | hintf
      · exact positive_of_validateInterfaces harea intf hintf
      · exact ih h intf hintf

/-- **The validated numbers of an accepted file are above zero.** -/
theorem positive_of_parse {raw : List (Yaml × Yaml)} {config : OspfConfig}
    (h : OspfConfig.parse b raw = .ok config) : ∀ intf ∈ config.interfaces, intf.Positive := by
  obtain ⟨routerId, -, h⟩ := bind_eq_ok h
  obtain ⟨-, -, h⟩ := bind_eq_ok h
  obtain ⟨timers, -, h⟩ := bind_eq_ok h
  obtain ⟨areas, -, h⟩ := bind_eq_ok h
  obtain ⟨⟨⟩, hvalid, h⟩ := bind_eq_ok h
  cases h
  unfold OspfConfig.validate at hvalid
  split at hvalid
  · cases hvalid
  · exact positive_of_validateAreas hvalid

end Ospfd
