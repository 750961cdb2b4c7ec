import WirelessProgrammer.GoClient

/-!
# The hello result in Go

What `encoding/json` makes of the `hello` result that the daemon writes.  Every member arrives under its own name but the
length of an alphanumeric identity format, which the daemon writes as `max_len` and the client reads as `maxLen`
(`hello_preserved_iff`).
-/

namespace WirelessProgrammer.GoClient

/-! ### Decoding an object with distinct names -/

def foldName (name : String) : List Char := name.toList.map foldChar

/-- The members that have a value. -/
def present (ms : List (String × Option Json)) : List (String × Json) := ms.filterMap fun m => m.2.map fun v => (m.1, v)

private theorem member?_cons (m : String × Json) (ms : List (String × Json)) (name : String) :
    member? (m :: ms) name = (member? ms name).or (if sameName m.1 name then some m.2 else none) := by
  unfold member?
  rw [List.reverse_cons, List.find?_append, Option.map_or]
  congr 1
  by_cases h : sameName m.1 name = true
  · rw [if_pos h, List.find?_cons_of_pos (by exact h)]
    rfl
  · rw [if_neg h, List.find?_cons_of_neg (by exact h)]
    rfl

private theorem member?_present_cons (m : String × Option Json) (ms : List (String × Option Json)) (name : String) :
    member? (present (m :: ms)) name = (member? (present ms) name).or (if sameName m.1 name then m.2 else none) := by
  obtain ⟨name', v⟩ := m
  cases v with
  | none => simp [present]
  | some v => exact member?_cons (name', v) (present ms) name

private theorem member?_present_of_ne {ms : List (String × Option Json)} {name : String}
    (h : foldName name ∉ ms.map fun m => foldName m.1) : member? (present ms) name = none := by
  induction ms with
  | nil => rfl
  | cons m ms ih =>
    rw [List.map_cons, List.mem_cons, not_or] at h
    have hne : ¬ sameName m.1 name = true := fun hsame => h.1 (of_decide_eq_true hsame).symm
    rw [member?_present_cons, ih h.2, if_neg hne]
    rfl

/-- With distinct names, a field is filled by its own member. -/
theorem member?_present {ms : List (String × Option Json)} (hms : (ms.map fun m => foldName m.1).Nodup) {name : String}
    {v : Option Json} (h : (name, v) ∈ ms) : member? (present ms) name = v := by
  induction ms with
  | nil => exact absurd h List.not_mem_nil
  | cons m ms ih =>
    obtain ⟨hfirst, hrest⟩ := List.nodup_cons.1 hms
    rw [member?_present_cons]
    rcases List.mem_cons.1 h with rfl | h
    · have hsame : sameName name name = true := by simp [sameName]
      rw [member?_present_of_ne hfirst, if_pos hsame]
      rfl
    · have hne : ¬ sameName m.1 name = true := by
        intro hsame
        have hmem : foldName name ∈ ms.map fun m => foldName m.1 := List.mem_map.2 ⟨_, h, rfl⟩
        have hfold : foldName m.1 = foldName name := of_decide_eq_true hsame
        exact hfirst (show foldName m.1 ∈ _ from hfold.symm ▸ hmem)
      rw [ih hrest h, if_neg hne, Option.or_none]

section Fields

variable {ms : List (String × Option Json)} {name : String} {α : Type} {zero : α} {dec : Decoder α}

/-- A member that is there. -/
theorem field_present (hms : (ms.map fun m => foldName m.1).Nodup) {v : Json} {a : α} (h : (name, some v) ∈ ms)
    (hdec : dec v = .ok a) (hnull : v ≠ .null) : field (present ms) name zero dec = .ok a := by
  rw [field_of_member? (member?_present hms h) hnull, hdec]

/-- A member that may be left out. -/
theorem field_optional (hms : (ms.map fun m => foldName m.1).Nodup) {v : Option Json} {a : α} (h : (name, v) ∈ ms)
    (hsome : ∀ w, v = some w → w ≠ .null ∧ dec w = .ok a) (hnone : v = none → a = zero) :
    field (present ms) name zero dec = .ok a := by
  have hmember := member?_present hms h
  cases v with
  | none =>
    unfold field
    rw [hmember, hnone rfl]
  | some w => rw [field_of_member? hmember (hsome w rfl).1, (hsome w rfl).2]

/-- A member that is not there. -/
theorem field_absent (h : foldName name ∉ ms.map fun m => foldName m.1) :
    field (present ms) name zero dec = .ok zero := by
  unfold field
  rw [member?_present_of_ne h]

end Fields

private theorem slice_map {α β : Type} {zero : β} {dec : Decoder β} {toJson : α → Json} {f : α → β}
    (h : ∀ a, toJson a ≠ .null ∧ dec (toJson a) = .ok (f a)) (l : List α) :
    slice zero dec (.arr (l.map toJson)) = .ok (l.map f) := by
  show (l.map toJson).mapM _ = _
  induction l with
  | nil => rfl
  | cons a l ih =>
    rw [List.map_cons, List.mapM_cons, ih]
    obtain ⟨hnull, hdec⟩ := h a
    cases hv : toJson a with
    | null => exact absurd hv hnull
    | _ =>
      rw [hv] at hdec
      simp only [hdec]
      rfl

private theorem uint8_num (n : UInt8) : uint8 (.num n.toNat) = .ok n := by
  have hn := n.toNat_lt
  simp only [uint8, integer]
  rw [if_pos (by omega)]
  simp

private theorem uint16_num (n : UInt16) : uint16 (.num n.toNat) = .ok n := by
  have hn := n.toNat_lt
  simp only [uint16, integer]
  rw [if_pos (by omega)]
  simp

private theorem uint64_num (n : UInt64) : uint64 (.num n.toNat) = .ok n := by
  have hn := n.toNat_lt
  simp only [uint64, integer]
  rw [if_pos (by omega)]
  simp

/-! ### What the client is meant to see -/

def IdentityFormatWire.mirror : WirelessProgrammer.IdentityFormatWire → IdentityFormatWire
  | .digits len => ⟨"digits", len, 0⟩
  | .alphanumeric maxLen => ⟨"alphanumeric", 0, maxLen⟩
  | .any => ⟨"any", 0, 0⟩

def CommissioningNetWire.mirror (net : CommissioningNet) : CommissioningNetWire :=
  ⟨net.host, net.port, net.source, net.pfx⟩

/-- The capabilities with an identity format read in a given way. -/
def CapabilitiesWire.mirror (format : WirelessProgrammer.IdentityFormatWire → IdentityFormatWire)
    (c : WirelessProgrammer.CapabilitiesWire) : CapabilitiesWire where
  maxRosterSlots := c.maxRosterSlots
  maxFunctionIndex := c.maxFunctionIndex
  identityFormat := format c.identityFormat
  supportsThrottleServer := c.supportsThrottleServer
  supportsFirmwareUpdate := c.supportsFirmwareUpdate
  commissioning := c.commissioning.asStr
  commissioningNet := c.commissioningNet.map CommissioningNetWire.mirror
  maxFirmwareBytes := c.maxFirmwareBytes
  firmwareModes := c.firmwareModes.map ReachMode.asStr
  firmwareRequireEspAppBin := c.firmwareRequireEspAppBin

def DriverInfoWire.mirror (format : WirelessProgrammer.IdentityFormatWire → IdentityFormatWire)
    (d : WirelessProgrammer.DriverInfoWire) : DriverInfoWire :=
  ⟨d.id, d.name, .mirror format d.capabilities⟩

/-- A missing commit is the empty string. -/
def HelloResult.mirror (format : WirelessProgrammer.IdentityFormatWire → IdentityFormatWire)
    (h : WirelessProgrammer.HelloResult) : HelloResult :=
  ⟨h.version, h.commit.getD "", h.drivers.map (.mirror format)⟩

/-- What arrives of an identity format. -/
def IdentityFormatWire.arrived : WirelessProgrammer.IdentityFormatWire → IdentityFormatWire
  | .digits len => ⟨"digits", len, 0⟩
  | .alphanumeric _ => ⟨"alphanumeric", 0, 0⟩
  | .any => ⟨"any", 0, 0⟩

/-! ### Decoding, struct by struct -/

private theorem IdentityFormatWire.decode_toJson (f : WirelessProgrammer.IdentityFormatWire) :
    decode f.toJson = .ok (arrived f) := by
  cases f with
  | digits len =>
    let ms : List (String × Option Json) := [("type", some (.str "digits")), ("len", some (.num len.toNat))]
    have hms : (ms.map fun m => foldName m.1).Nodup := by
      show (["type", "len"].map foldName).Nodup
      decide
    have htype : field (present ms) "type" "" string = .ok "digits" :=
      field_present (v := .str "digits") hms (by simp [ms]) rfl (Json.str_ne_null _)
    have hlen : field (present ms) "len" 0 uint8 = .ok len :=
      field_present (v := .num len.toNat) hms (by simp [ms]) (uint8_num len) (Json.num_ne_null _)
    have hmax : field (present ms) "maxLen" 0 uint8 = .ok 0 := field_absent (by
      show _ ∉ ["type", "len"].map foldName
      decide)
    show decode (.obj (present ms)) = _
    simp only [decode, struct, htype, hlen, hmax]
    rfl
  | alphanumeric maxLen =>
    let ms : List (String × Option Json) :=
      [("type", some (.str "alphanumeric")), ("max_len", some (.num maxLen.toNat))]
    have hms : (ms.map fun m => foldName m.1).Nodup := by
      show (["type", "max_len"].map foldName).Nodup
      decide
    have htype : field (present ms) "type" "" string = .ok "alphanumeric" :=
      field_present (v := .str "alphanumeric") hms (by simp [ms]) rfl (Json.str_ne_null _)
    have hlen : field (present ms) "len" 0 uint8 = .ok 0 := field_absent (by
      show _ ∉ ["type", "max_len"].map foldName
      decide)
    -- `max_len` is not `maxLen` up to case
    have hmax : field (present ms) "maxLen" 0 uint8 = .ok 0 := field_absent (by
      show _ ∉ ["type", "max_len"].map foldName
      decide)
    show decode (.obj (present ms)) = _
    simp only [decode, struct, htype, hlen, hmax]
    rfl
  | any =>
    let ms : List (String × Option Json) := [("type", some (.str "any"))]
    have hms : (ms.map fun m => foldName m.1).Nodup := by simp [ms]
    have htype : field (present ms) "type" "" string = .ok "any" :=
      field_present (v := .str "any") hms (by simp [ms]) rfl (Json.str_ne_null _)
    have hlen : field (present ms) "len" 0 uint8 = .ok 0 := field_absent (by
      show _ ∉ ["type"].map foldName
      decide)
    have hmax : field (present ms) "maxLen" 0 uint8 = .ok 0 := field_absent (by
      show _ ∉ ["type"].map foldName
      decide)
    show decode (.obj (present ms)) = _
    simp only [decode, struct, htype, hlen, hmax]
    rfl

private theorem CommissioningNetWire.decode_toJson (net : CommissioningNet) : decode net.toJson = .ok (mirror net) := by
  let ms : List (String × Option Json) := [("host", some (.str net.host)), ("port", some (.num net.port.toNat)),
    ("source", some (.str net.source)), ("prefix", some (.num net.pfx.toNat))]
  have hms : (ms.map fun m => foldName m.1).Nodup := by
    show (["host", "port", "source", "prefix"].map foldName).Nodup
    decide
  have hhost : field (present ms) "host" "" string = .ok net.host :=
    field_present (v := .str net.host) hms (by simp [ms]) rfl (Json.str_ne_null _)
  have hport : field (present ms) "port" 0 uint16 = .ok net.port :=
    field_present (v := .num net.port.toNat) hms (by simp [ms]) (uint16_num _) (Json.num_ne_null _)
  have hsource : field (present ms) "source" "" string = .ok net.source :=
    field_present (v := .str net.source) hms (by simp [ms]) rfl (Json.str_ne_null _)
  have hpfx : field (present ms) "prefix" 0 uint8 = .ok net.pfx :=
    field_present (v := .num net.pfx.toNat) hms (by simp [ms]) (uint8_num _) (Json.num_ne_null _)
  show decode (.obj (present ms)) = _
  simp only [decode, struct, hhost, hport, hsource, hpfx]
  rfl

/-- The members of the capabilities. -/
def CapabilitiesWire.members (c : WirelessProgrammer.CapabilitiesWire) : List (String × Option Json) :=
  [("maxRosterSlots", some (.num c.maxRosterSlots.toNat)), ("maxFunctionIndex", some (.num c.maxFunctionIndex.toNat)),
    ("identityFormat", some c.identityFormat.toJson), ("supportsThrottleServer", some (.bool c.supportsThrottleServer)),
    ("commissioning", some (.str c.commissioning.asStr)),
    ("supportsFirmwareUpdate", some (.bool c.supportsFirmwareUpdate)),
    ("commissioningNet", c.commissioningNet.map CommissioningNet.toJson),
    ("maxFirmwareBytes", c.maxFirmwareBytes.map fun n => .num n.toNat),
    ("firmwareModes", if c.firmwareModes = [] then none else some (.arr (c.firmwareModes.map fun m => .str m.asStr))),
    ("firmwareRequireEspAppBin", if c.firmwareRequireEspAppBin then some (.bool true) else none)]

private theorem CapabilitiesWire.toJson_eq (c : WirelessProgrammer.CapabilitiesWire) :
    c.toJson = .obj (present (members c)) := by
  obtain ⟨_, _, _, _, _, _, net, bytes, modes, esp⟩ := c
  cases net <;> cases bytes <;> cases modes <;> cases esp <;> rfl

private theorem CapabilitiesWire.decode_toJson (c : WirelessProgrammer.CapabilitiesWire) :
    decode c.toJson = .ok (mirror IdentityFormatWire.arrived c) := by
  have hms : ((members c).map fun m => foldName m.1).Nodup := by
    show (["maxRosterSlots", "maxFunctionIndex", "identityFormat", "supportsThrottleServer", "commissioning",
      "supportsFirmwareUpdate", "commissioningNet", "maxFirmwareBytes", "firmwareModes",
      "firmwareRequireEspAppBin"].map foldName).Nodup
    decide +kernel
  have hslots : field (present (members c)) "maxRosterSlots" 0 uint8 = .ok c.maxRosterSlots :=
    field_present (v := .num c.maxRosterSlots.toNat) hms (by simp [members]) (uint8_num _) (Json.num_ne_null _)
  have hindex : field (present (members c)) "maxFunctionIndex" 0 uint8 = .ok c.maxFunctionIndex :=
    field_present (v := .num c.maxFunctionIndex.toNat) hms (by simp [members]) (uint8_num _) (Json.num_ne_null _)
  have hformat : field (present (members c)) "identityFormat" .zero IdentityFormatWire.decode =
      .ok (.arrived c.identityFormat) :=
    field_present (v := c.identityFormat.toJson) hms (by simp [members]) (IdentityFormatWire.decode_toJson _)
      (by cases c.identityFormat <;> exact Json.obj_ne_null _)
  have hserver : field (present (members c)) "supportsThrottleServer" false bool = .ok c.supportsThrottleServer :=
    field_present (v := .bool c.supportsThrottleServer) hms (by simp [members]) rfl (Json.bool_ne_null _)
  have hupdate : field (present (members c)) "supportsFirmwareUpdate" false bool = .ok c.supportsFirmwareUpdate :=
    field_present (v := .bool c.supportsFirmwareUpdate) hms (by simp [members]) rfl (Json.bool_ne_null _)
  have hcomm : field (present (members c)) "commissioning" "" string = .ok c.commissioning.asStr :=
    field_present (v := .str c.commissioning.asStr) hms (by simp [members]) rfl (Json.str_ne_null _)
  have hnet : field (present (members c)) "commissioningNet" none (pointer CommissioningNetWire.decode) =
      .ok (c.commissioningNet.map CommissioningNetWire.mirror) := by
    refine field_optional hms (v := c.commissioningNet.map CommissioningNet.toJson) (by simp [members]) ?_ ?_
    · rintro w hw
      obtain ⟨net, hnet, rfl⟩ := Option.map_eq_some_iff.1 hw
      rw [hnet, pointer, CommissioningNetWire.decode_toJson]
      exact ⟨Json.obj_ne_null _, rfl⟩
    · intro hnone
      rw [Option.map_eq_none_iff.1 hnone]
      rfl
  have hbytes : field (present (members c)) "maxFirmwareBytes" none (pointer uint64) = .ok c.maxFirmwareBytes := by
    refine field_optional hms (v := c.maxFirmwareBytes.map fun n => .num n.toNat) (by simp [members]) ?_ ?_
    · rintro w hw
      obtain ⟨n, hn, rfl⟩ := Option.map_eq_some_iff.1 hw
      rw [hn, pointer, uint64_num]
      exact ⟨Json.num_ne_null _, rfl⟩
    · exact Option.map_eq_none_iff.1
  have hmode : ∀ m : ReachMode, Json.str m.asStr ≠ .null ∧ string (.str m.asStr) = .ok m.asStr :=
    fun m => ⟨Json.str_ne_null _, rfl⟩
  have hmodes : field (present (members c)) "firmwareModes" [] (slice "" string) =
      .ok (c.firmwareModes.map ReachMode.asStr) := by
    refine field_optional hms (v := if c.firmwareModes = [] then none else
      some (.arr (c.firmwareModes.map fun m => .str m.asStr))) (by simp [members]) ?_ ?_
    · rintro w hw
      split at hw
      · cases hw
      · cases hw
        exact ⟨Json.arr_ne_null _, slice_map hmode _⟩
    · intro hnone
      split at hnone
      · rename_i hnil
        rw [hnil]
        rfl
      · cases hnone
  have hesp : field (present (members c)) "firmwareRequireEspAppBin" false bool = .ok c.firmwareRequireEspAppBin := by
    refine field_optional hms (v := if c.firmwareRequireEspAppBin then some (.bool true) else none)
      (by simp [members]) ?_ ?_
    · rintro w hw
      split at hw
      · rename_i htrue
        cases hw
        exact ⟨Json.bool_ne_null _, by rw [htrue]; rfl⟩
      · cases hw
    · intro hnone
      split at hnone
      · cases hnone
      · rename_i hfalse
        exact Bool.not_eq_true _ ▸ hfalse
  rw [toJson_eq]
  simp only [decode, struct, hslots, hindex, hformat, hserver, hupdate, hcomm, hnet, hbytes, hmodes, hesp]
  rfl

private theorem DriverInfoWire.decode_toJson (d : WirelessProgrammer.DriverInfoWire) :
    decode d.toJson = .ok (mirror IdentityFormatWire.arrived d) := by
  let ms : List (String × Option Json) :=
    [("id", some (.str d.id)), ("name", some (.str d.name)), ("capabilities", some d.capabilities.toJson)]
  have hms : (ms.map fun m => foldName m.1).Nodup := by
    show (["id", "name", "capabilities"].map foldName).Nodup
    decide
  have hid : field (present ms) "id" "" string = .ok d.id :=
    field_present (v := .str d.id) hms (by simp [ms]) rfl (Json.str_ne_null _)
  have hname : field (present ms) "name" "" string = .ok d.name :=
    field_present (v := .str d.name) hms (by simp [ms]) rfl (Json.str_ne_null _)
  have hcaps : field (present ms) "capabilities" .zero CapabilitiesWire.decode =
      .ok (.mirror IdentityFormatWire.arrived d.capabilities) :=
    field_present (v := d.capabilities.toJson) hms (by simp [ms]) (CapabilitiesWire.decode_toJson _)
      (by rw [CapabilitiesWire.toJson_eq]; exact Json.obj_ne_null _)
  show decode (.obj (present ms)) = _
  simp only [decode, struct, hid, hname, hcaps]
  rfl

private theorem HelloResult.decode_toJson (h : WirelessProgrammer.HelloResult) :
    decode h.toJson = .ok (mirror IdentityFormatWire.arrived h) := by
  let ms : List (String × Option Json) := [("version", some (.str h.version)), ("commit", h.commit.map .str),
    ("drivers", some (.arr (h.drivers.map WirelessProgrammer.DriverInfoWire.toJson)))]
  have htoJson : h.toJson = .obj (present ms) := by
    obtain ⟨_, commit, _⟩ := h
    cases commit <;> rfl
  have hms : (ms.map fun m => foldName m.1).Nodup := by
    show (["version", "commit", "drivers"].map foldName).Nodup
    decide
  have hversion : field (present ms) "version" "" string = .ok h.version :=
    field_present (v := .str h.version) hms (by simp [ms]) rfl (Json.str_ne_null _)
  have hcommit : field (present ms) "commit" "" string = .ok (h.commit.getD "") := by
    refine field_optional hms (v := h.commit.map .str) (by simp [ms]) ?_ ?_
    · rintro w hw
      obtain ⟨commit, hcommit, rfl⟩ := Option.map_eq_some_iff.1 hw
      rw [hcommit]
      exact ⟨nofun, rfl⟩
    · intro hnone
      rw [Option.map_eq_none_iff.1 hnone]
      rfl
  have hdrivers : field (present ms) "drivers" [] (slice .zero DriverInfoWire.decode) =
      .ok (h.drivers.map (.mirror IdentityFormatWire.arrived)) := by
    have hdriver : ∀ d : WirelessProgrammer.DriverInfoWire, d.toJson ≠ .null ∧
        DriverInfoWire.decode d.toJson = .ok (.mirror IdentityFormatWire.arrived d) :=
      fun d => ⟨Json.obj_ne_null _, DriverInfoWire.decode_toJson d⟩
    exact field_present (v := .arr (h.drivers.map WirelessProgrammer.DriverInfoWire.toJson)) hms (by simp [ms])
      (slice_map hdriver _) (Json.arr_ne_null _)
  rw [htoJson]
  simp only [decode, struct, hversion, hcommit, hdrivers]
  rfl

/-! ### What is preserved -/

private theorem arrived_eq_mirror_iff (f : WirelessProgrammer.IdentityFormatWire) :
    IdentityFormatWire.arrived f = .mirror f ↔ ∀ n, f = .alphanumeric n → n = 0 := by
  cases f with
  | digits len => exact ⟨nofun, fun _ => rfl⟩
  | any => exact ⟨nofun, fun _ => rfl⟩
  | alphanumeric maxLen =>
    constructor
    · intro h n hn
      cases hn
      exact (congrArg IdentityFormatWire.maxLen h).symm
    · intro h
      rw [h maxLen rfl]
      rfl

/-- The client sees the `hello` result as it is, if and only if no driver has an alphanumeric identity of positive
length. -/
theorem hello_preserved_iff (h : WirelessProgrammer.HelloResult) :
    HelloResult.decode h.toJson = .ok (.mirror IdentityFormatWire.mirror h) ↔
      ∀ d ∈ h.drivers, ∀ n, d.capabilities.identityFormat = .alphanumeric n → n = 0 := by
  rw [HelloResult.decode_toJson]
  constructor
  · intro heq d hd
    have hdrivers := congrArg HelloResult.drivers (Except.ok.inj heq)
    have hmirror : DriverInfoWire.mirror IdentityFormatWire.arrived d = .mirror IdentityFormatWire.mirror d :=
      List.map_inj_left.1 hdrivers d hd
    exact (arrived_eq_mirror_iff _).1 (congrArg (fun d => d.capabilities.identityFormat) hmirror)
  · intro hall
    have hdrivers : h.drivers.map (DriverInfoWire.mirror IdentityFormatWire.arrived) =
        h.drivers.map (.mirror IdentityFormatWire.mirror) := by
      refine List.map_inj_left.2 fun d hd => ?_
      show DriverInfoWire.mk d.id d.name (.mirror IdentityFormatWire.arrived d.capabilities) = ⟨d.id, d.name, _⟩
      rw [CapabilitiesWire.mirror, (arrived_eq_mirror_iff _).2 (hall d hd)]
      rfl
    show Except.ok (HelloResult.mk h.version (h.commit.getD "") _) = _
    rw [hdrivers]
    rfl

/-- The length of a LongFred identity is lost. -/
theorem max_len_lost : ∃ h : WirelessProgrammer.HelloResult,
    HelloResult.decode h.toJson ≠ .ok (.mirror IdentityFormatWire.mirror h) := by
  let c : WirelessProgrammer.CapabilitiesWire := ⟨20, 31, .alphanumeric 16, true, .softAp, true, none, none, [], false⟩
  refine ⟨⟨"0.1.0", none, [⟨"longfred", "LongFred", c⟩]⟩, fun h => ?_⟩
  rw [HelloResult.decode_toJson] at h
  have hdrivers := congrArg HelloResult.drivers (Except.ok.inj h)
  have hlen := congrArg (fun ds => ds.map fun d => d.capabilities.identityFormat.maxLen) hdrivers
  exact absurd hlen (by decide)

end WirelessProgrammer.GoClient
