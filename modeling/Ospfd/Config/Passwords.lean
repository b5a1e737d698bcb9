import Ospfd.Config.Parse
import Ospfd.Packet.Header

/-!
# Passwords

* `parsedKey` — the key that is left after both sections of the authentication are read.
* `verifyAuth_applyAuth` — a packet with a password is accepted where the password is the same,
  padded.
* `passwords_iff` — **passwords decide who talks to whom exactly if the parsed keys do as the
  passwords do**; without an MD5 section they are empty.
-/

namespace Ospfd

/-! ## The parsed key -/

/-- What is left of the password `k`: the key of the MD5 section overwrites it, also an absent one. -/
def parsedKey (auth : List (Yaml × Yaml)) (k : String) : Bytes :=
  match Yaml.getD auth "md5" (.dict []) with
  | .dict md5 =>
      match Yaml.getD md5 "key" (.str "") with
      | .str key => encode key
      | _ => encode k
  | _ => encode k

/-- An interface of an accepted configuration with simple authentication, whose section in the file is
`auth` and has the password `k`. -/
structure HasPassword (b : Builtins) (raw : List (Yaml × Yaml)) (intf : InterfaceConfig)
    (auth : List (Yaml × Yaml)) (k : String) : Prop where
  accepted : ∃ config e data, OspfConfig.parse b raw = .ok config ∧
    (e, intf) ∈ (interfaceEntries raw).zip config.interfaces ∧
    e.2 = .dict data ∧ Yaml.getD data "auth" (.dict []) = .dict auth
  key : Yaml.find "key" auth = some (.str k)
  type : intf.auth.type = .simple

section Parsed

variable {b : Builtins}

theorem key_of_parseAuth {name : Yaml} {auth : List (Yaml × Yaml)} {k : String} {config : AuthConfig}
    (hkey : Yaml.find "key" auth = some (.str k)) (h : parseAuth b name (.dict auth) = .ok config) :
    config.key = parsedKey auth k := by
  have hget : Yaml.getD auth "key" (.str "") = .str k := by rw [Yaml.getD, hkey, Option.getD_some]
  obtain ⟨authType, -, h⟩ := bind_eq_ok h
  split at h
  · cases h
  · rw [hget] at h
    obtain rfl := Except.ok.inj h
    rw [parsedKey]
    cases Yaml.getD auth "md5" (.dict []) with
    | dict md5 =>
      simp only [AuthConfig.withMd5]
      cases Yaml.getD md5 "key" (.str "") <;> rfl
    | _ => rfl

theorem InterfaceConfig.auth_of_postInit {intf intf' : InterfaceConfig} (h : intf.postInit = .ok intf') :
    intf'.auth = intf.auth := by
  rw [postInit] at h
  split at h
  · obtain ⟨deadInterval, -, h⟩ := bind_eq_ok h
    cases h
    rfl
  · cases h
    rfl

theorem auth_of_parseInterface {name : Yaml} {data auth : List (Yaml × Yaml)} {intf : InterfaceConfig}
    (hauth : Yaml.getD data "auth" (.dict []) = .dict auth)
    (h : parseInterface b name (.dict data) = .ok intf) : parseAuth b name (.dict auth) = .ok intf.auth := by
  obtain ⟨type, -, h⟩ := bind_eq_ok h
  obtain ⟨intfType, -, h⟩ := bind_eq_ok h
  split at h
  · cases h
  · obtain ⟨auths, hget, h⟩ := bind_eq_ok h
    obtain ⟨config, hconfig, h⟩ := bind_eq_ok h
    -- the remaining entries are read from a mapping, and are there
    rw [InterfaceConfig.auth_of_postInit h]
    cases hget
    rw [hauth] at hconfig
    exact hconfig

theorem HasPassword.key_eq {raw : List (Yaml × Yaml)} {intf : InterfaceConfig} {auth : List (Yaml × Yaml)}
    {k : String} (h : HasPassword b raw intf auth k) : intf.auth.key = parsedKey auth k := by
  obtain ⟨config, e, data, hparse, hmem, hdata, hauth⟩ := h.accepted
  have hone : Parsed b e intf := (List.forall₂_zip (parse_interfaces hparse) hmem)
  rw [Parsed, hdata] at hone
  exact key_of_parseAuth h.key (auth_of_parseInterface hauth hone)

end Parsed

/-! ## On the wire -/

/-- **A packet with a password** is accepted where the password is the same, padded. -/
theorem verifyAuth_applyAuth (md5 : Md5) {packet : Bytes} (h : 16 ≤ packet.length) (key key' : Bytes)
    (keyId keyId' cryptSeq : Nat) :
    verifyAuth md5 (applyAuth md5 packet .simple key keyId cryptSeq) .simple key' keyId' = true ↔
      padKey 8 key = padKey 8 key' := by
  obtain ⟨pre, post, hpre, hbytes⟩ : ∃ pre post : Bytes, pre.length = 14 ∧
      applyAuth md5 packet .simple key keyId cryptSeq = pre ++ Bytes.ofNat 2 1 ++ padKey 8 key ++ post := by
    refine ⟨packet.take 14, packet.drop 24, by rw [List.length_take]; omega, ?_⟩
    have h14 : Bytes.overwrite packet 14 (Bytes.ofNat 2 1) =
        packet.take 14 ++ Bytes.ofNat 2 1 ++ packet.drop 16 := by
      rw [Bytes.overwrite, Bytes.length_ofNat]
    have hlen : (packet.take 14 ++ Bytes.ofNat 2 1).length = 16 := by
      rw [List.length_append, List.length_take, Bytes.length_ofNat]
      omega
    change Bytes.overwrite (Bytes.overwrite packet 14 (Bytes.ofNat 2 1)) 16 (padKey 8 key) = _
    rw [h14, Bytes.overwrite, length_padKey, List.take_append_of_le_length hlen.ge, List.drop_append,
      List.take_of_length_le hlen.le, List.drop_of_length_le (by omega), hlen, List.nil_append, List.drop_drop]
  have hlen : (pre ++ Bytes.ofNat 2 1).length = 16 := by
    rw [List.length_append, hpre, Bytes.length_ofNat]
  have htype : Bytes.slice (pre ++ Bytes.ofNat 2 1 ++ padKey 8 key ++ post) 14 16 = Bytes.ofNat 2 1 := by
    have hs := Bytes.slice_append_append pre (Bytes.ofNat 2 1) (padKey 8 key ++ post)
    rw [hpre, Bytes.length_ofNat] at hs
    rw [List.append_assoc _ (padKey 8 key)]
    exact hs
  have hdata : Bytes.slice (pre ++ Bytes.ofNat 2 1 ++ padKey 8 key ++ post) 16 24 = padKey 8 key := by
    have hs := Bytes.slice_append_append (pre ++ Bytes.ofNat 2 1) (padKey 8 key) post
    rw [hlen, length_padKey] at hs
    exact hs
  have hsize : ¬(pre ++ Bytes.ofNat 2 1 ++ padKey 8 key ++ post).length < 24 := by
    rw [List.length_append, List.length_append, hlen, length_padKey]
    omega
  rw [hbytes, verifyAuth, if_neg hsize, htype, if_neg (by decide), hdata, beq_iff_eq]

/-! ## Who talks to whom -/

/-- Packets from one interface are accepted on the other exactly if the passwords are equal, padded. -/
def PasswordsDecide (intf₁ intf₂ : InterfaceConfig) (k₁ k₂ : String) : Prop :=
  ∀ (md5 : Md5) (packet : Bytes) (keyId₁ keyId₂ cryptSeq : Nat), 16 ≤ packet.length →
    (verifyAuth md5 (applyAuth md5 packet intf₁.auth.type intf₁.auth.key keyId₁ cryptSeq)
      intf₂.auth.type intf₂.auth.key keyId₂ = true ↔ padKey 8 (encode k₁) = padKey 8 (encode k₂))

/-- **Passwords decide who talks to whom exactly if the parsed keys do as the passwords do.** -/
theorem passwords_iff {b : Builtins} {raw₁ raw₂ auth₁ auth₂ : List (Yaml × Yaml)}
    {intf₁ intf₂ : InterfaceConfig} {k₁ k₂ : String} (h₁ : HasPassword b raw₁ intf₁ auth₁ k₁)
    (h₂ : HasPassword b raw₂ intf₂ auth₂ k₂) :
    PasswordsDecide intf₁ intf₂ k₁ k₂ ↔
      (padKey 8 (parsedKey auth₁ k₁) = padKey 8 (parsedKey auth₂ k₂) ↔
        padKey 8 (encode k₁) = padKey 8 (encode k₂)) := by
  have hwire : ∀ (md5 : Md5) (packet : Bytes) (keyId₁ keyId₂ cryptSeq : Nat), 16 ≤ packet.length →
      (verifyAuth md5 (applyAuth md5 packet intf₁.auth.type intf₁.auth.key keyId₁ cryptSeq)
        intf₂.auth.type intf₂.auth.key keyId₂ = true ↔
        padKey 8 (parsedKey auth₁ k₁) = padKey 8 (parsedKey auth₂ k₂)) := by
    intro md5 packet keyId₁ keyId₂ cryptSeq hlen
    rw [h₁.type, h₂.type, h₁.key_eq, h₂.key_eq]
    exact verifyAuth_applyAuth md5 hlen ..
  constructor
  · intro h
    let md5 : Md5 := fun _ => ⟨List.replicate 16 0, List.length_replicate⟩
    have hlen : 16 ≤ (List.replicate 24 (0 : UInt8)).length := by decide
    exact (hwire md5 _ 0 0 0 hlen).symm.trans (h md5 _ 0 0 0 hlen)
  · intro h md5 packet keyId₁ keyId₂ cryptSeq hlen
    exact (hwire md5 packet keyId₁ keyId₂ cryptSeq hlen).trans h

/-! ### Two files -/

/-- The built-in operations, as far as the files below need them. -/
def plainBuiltins : Builtins where
  lower := String.toLower
  text := fun
    | .str s => s
    | _ => ""
  float := fun
    | .float x => .ok x
    | _ => .error .typeError
  int := fun
    | .int n => .ok n
    | _ => .error .typeError
  resolve := fun
    | .str s => .ok s
    | _ => .error .typeError
  same := fun
    | .str s, .str t => s = t
    | _, _ => false

/-- An authentication section with a password. -/
def passwordAuth (k : String) (more : List (Yaml × Yaml)) : List (Yaml × Yaml) :=
  [(.str "type", .str "simple"), (.str "key", .str k)] ++ more

/-- A file with one interface. -/
def passwordFile (auth : List (Yaml × Yaml)) : List (Yaml × Yaml) :=
  [(.str "areas", .dict [(.int 0, .dict [(.str "interfaces", .dict [(.str "eth0",
    .dict [(.str "auth", .dict auth)])])])])]

def passwordIntf (key : Bytes) : InterfaceConfig :=
  { name := .str "eth0", deadInterval := .int 40, auth := { type := .simple, key } }

theorem hasPassword_file {k : String} {more : List (Yaml × Yaml)} {key : Bytes}
    (h : OspfConfig.parse plainBuiltins (passwordFile (passwordAuth k more)) =
      .ok { areas := [{ areaId := 0, interfaces := [passwordIntf key] }] }) :
    HasPassword plainBuiltins (passwordFile (passwordAuth k more)) (passwordIntf key)
      (passwordAuth k more) k where
  accepted := ⟨_, (.str "eth0", .dict [(.str "auth", .dict (passwordAuth k more))]), _, h,
    List.mem_singleton_self _, rfl, rfl⟩
  key := rfl
  type := rfl

/-- A null MD5 section leaves the passwords alone. -/
theorem passwords_abc_xyz : PasswordsDecide (passwordIntf (encode "abc")) (passwordIntf (encode "xyz"))
    "abc" "xyz" := by
  have habc : HasPassword plainBuiltins _ (passwordIntf (encode "abc")) _ "abc" :=
    @hasPassword_file "abc" [(.str "md5", .none)] _ (by with_unfolding_all rfl)
  have hxyz : HasPassword plainBuiltins _ (passwordIntf (encode "xyz")) _ "xyz" :=
    @hasPassword_file "xyz" [(.str "md5", .none)] _ (by with_unfolding_all rfl)
  exact (passwords_iff habc hxyz).2 (by decide +kernel)

/-- Without one, both keys are empty. -/
theorem not_passwords : ¬∀ (b : Builtins) (raw₁ raw₂ auth₁ auth₂ : List (Yaml × Yaml))
    (intf₁ intf₂ : InterfaceConfig) (k₁ k₂ : String), HasPassword b raw₁ intf₁ auth₁ k₁ →
    HasPassword b raw₂ intf₂ auth₂ k₂ → PasswordsDecide intf₁ intf₂ k₁ k₂ := by
  intro hall
  have hfile : ∀ k, HasPassword plainBuiltins _ (passwordIntf []) (passwordAuth k []) k := fun k =>
    hasPassword_file (by with_unfolding_all rfl)
  have h := hall _ _ _ _ _ _ _ _ _ (hfile "abc") (hfile "xyz")
    (fun _ => ⟨List.replicate 16 0, List.length_replicate⟩) (List.replicate 24 0) 0 0 0 (by decide)
  have hkeys : padKey 8 (encode "abc") = padKey 8 (encode "xyz") := h.1 (by decide +kernel)
  exact absurd hkeys (by decide +kernel)

end Ospfd
