import WirelessProgrammer.Lib.Serde
import WirelessProgrammer.Proto.Wire

/-!
# Reading responses

`wp-proto/src/wire.rs`: the envelope of a response is read member by member, and its result by the `type` of the envelope.
The bodies are read by derived code: `Bodies` are its deserialisers, `Bodies.derived` those of the structs as they are
declared.
-/

namespace WirelessProgrammer

open Serde

/-! ### Bodies -/

def RequestKind.ofName (name : String) : Option RequestKind :=
  [hello, scan, probe, program, jobGet, jobWatch, jobCancel, identify, linkStatus, updateFirmware].find?
    (·.wireName = name)

def ReachMode.ofName (name : String) : Option ReachMode := [ap, lan, usb, z21].find? (·.asStr = name)

def CommissioningKind.ofName (name : String) : Option CommissioningKind := [softAp, lan, serial].find? (·.asStr = name)

def JobState.ofName (name : String) : Option JobState :=
  [queued, joining, probing, writing, verifying, restarting, done, failed, cancelled].find? (·.asStr = name)

def RequestKind.fromJson : Deserializer RequestKind := variant ofName

def ReachMode.fromJson : Deserializer ReachMode := variant ofName

def CommissioningKind.fromJson : Deserializer CommissioningKind := variant ofName

def JobState.fromJson : Deserializer JobState := variant ofName

/-- The variant is named by a member of its own. -/
def IdentityFormatWire.fromJson : Deserializer IdentityFormatWire := struct fun ms => do
  let type ← required ms "type" string
  if type = "digits" then return digits (← required ms "len" uint8)
  else if type = "alphanumeric" then return alphanumeric (← required ms "max_len" uint8)
  else if type = "any" then return any
  else throw (.unknownVariant type)

def CommissioningNet.fromJson : Deserializer CommissioningNet := struct fun ms =>
  return ⟨← required ms "host" string, ← required ms "port" uint16, ← required ms "source" string,
    ← required ms "prefix" uint8⟩

def CapabilitiesWire.fromJson : Deserializer CapabilitiesWire := struct fun ms =>
  return ⟨← required ms "maxRosterSlots" uint8, ← required ms "maxFunctionIndex" uint8,
    ← required ms "identityFormat" IdentityFormatWire.fromJson, ← required ms "supportsThrottleServer" bool,
    ← required ms "commissioning" CommissioningKind.fromJson, ← defaulted ms "supportsFirmwareUpdate" false bool,
    ← optional ms "commissioningNet" CommissioningNet.fromJson, ← optional ms "maxFirmwareBytes" uint64,
    ← defaulted ms "firmwareModes" [] (list ReachMode.fromJson),
    ← defaulted ms "firmwareRequireEspAppBin" false bool⟩

def DriverInfoWire.fromJson : Deserializer DriverInfoWire := struct fun ms =>
  return ⟨← required ms "id" string, ← required ms "name" string,
    ← required ms "capabilities" CapabilitiesWire.fromJson⟩

def HelloResult.fromJson : Deserializer HelloResult := struct fun ms =>
  return ⟨← required ms "version" string, ← optional ms "commit" string,
    ← required ms "drivers" (list DriverInfoWire.fromJson)⟩

def CandidateWire.fromJson : Deserializer CandidateWire := struct fun ms =>
  return ⟨← required ms "driver" string, ← required ms "key" string, ← required ms "label" string,
    ← optional ms "rssi" int32⟩

def FunctionMappingWire.fromJson : Deserializer FunctionMappingWire := struct fun ms =>
  return ⟨← required ms "index" uint8, ← required ms "value" uint8⟩

def RosterEntryWire.fromJson : Deserializer RosterEntryWire := struct fun ms =>
  return ⟨← optional ms "address" uint16, ← optional ms "longAddress" bool, ← optional ms "mode" string,
    ← optional ms "direction" uint8, ← defaulted ms "functions" [] (list FunctionMappingWire.fromJson)⟩

def DeviceInfoWire.fromJson : Deserializer DeviceInfoWire := struct fun ms =>
  return ⟨← required ms "driver" string, ← required ms "key" string, ← optional ms "firmwareRevision" string,
    ← optional ms "identity" string, ← optional ms "batteryMv" uint32,
    ← defaulted ms "roster" [] (list RosterEntryWire.fromJson)⟩

def ProgramResult.fromJson : Deserializer ProgramResult := struct fun ms => return ⟨← required ms "jobId" string⟩

def JobSnapshotWire.fromJson : Deserializer JobSnapshotWire := struct fun ms =>
  return ⟨← required ms "jobId" string, ← required ms "state" JobState.fromJson, ← required ms "driver" string,
    ← required ms "key" string, ← optional ms "detail" string⟩

def JobFrame.fromJson : Deserializer JobFrame := struct fun ms =>
  return ⟨← required ms "jobId" string, ← required ms "state" JobState.fromJson, ← optional ms "step" string,
    ← optional ms "progress" uint8, ← optional ms "detail" string⟩

def LinkStatusWire.fromJson : Deserializer LinkStatusWire := struct fun ms =>
  return ⟨← required ms "busy" bool, ← optional ms "interface" string, ← required ms "rfkillBlocked" bool⟩

def ErrorBody.fromJson : Deserializer ErrorBody := struct fun ms =>
  return ⟨← required ms "code" string, ← required ms "message" string⟩

/-- The derived deserialisers that the envelopes rest on. -/
structure Bodies where
  kind : Deserializer RequestKind
  hello : Deserializer HelloResult
  scan : Deserializer (List CandidateWire)
  probe : Deserializer DeviceInfoWire
  program : Deserializer ProgramResult
  job : Deserializer JobSnapshotWire
  jobWatch : Deserializer JobFrame
  linkStatus : Deserializer LinkStatusWire
  error : Deserializer ErrorBody

/-- What is derived from the structs as they are declared. -/
def Bodies.derived : Bodies :=
  ⟨RequestKind.fromJson, HelloResult.fromJson, list CandidateWire.fromJson, DeviceInfoWire.fromJson,
    ProgramResult.fromJson, JobSnapshotWire.fromJson, JobFrame.fromJson, LinkStatusWire.fromJson, ErrorBody.fromJson⟩

/-- The bodies are read back as they were written. -/
structure Bodies.ReadBack (bodies : Bodies) : Prop where
  kind : Reads bodies.kind fun kind => .str kind.wireName
  hello : Reads bodies.hello HelloResult.toJson
  scan : Reads bodies.scan fun l => .arr (l.map CandidateWire.toJson)
  probe : Reads bodies.probe DeviceInfoWire.toJson
  program : Reads bodies.program ProgramResult.toJson
  job : Reads bodies.job JobSnapshotWire.toJson
  jobWatch : Reads bodies.jobWatch JobFrame.toJson
  linkStatus : Reads bodies.linkStatus LinkStatusWire.toJson
  error : Reads bodies.error ErrorBody.toJson

/-! ### Envelopes -/

structure EnvelopeDto where
  kind : RequestKind
  params : Option Json
  result : Option Json
  error : Option ErrorBody

section

variable (bodies : Bodies)

def EnvelopeDto.fromJson : Deserializer EnvelopeDto := struct fun ms =>
  return ⟨← required ms "type" bodies.kind, ← optional ms "params" .ok, ← optional ms "result" .ok,
    ← optional ms "error" bodies.error⟩

/-- `result_from_value`: the body is chosen by the kind, and a missing one is the body of `identify`. -/
def resultFromValue (kind : RequestKind) : Option Json → Except DeError (Option ResultBody)
  | none => .ok (if kind = .identify then some .identify else none)
  | some .null => .ok none
  | some value => some <$>
    match kind with
    | .hello => .hello <$> bodies.hello value
    | .scan => .scan <$> bodies.scan value
    | .probe => .probe <$> bodies.probe value
    | .program => .program <$> bodies.program value
    | .updateFirmware => .updateFirmware <$> bodies.program value
    | .jobGet => .job <$> bodies.job value
    | .jobWatch => .jobWatch <$> bodies.jobWatch value
    | .jobCancel => .jobCancelled <$> bodies.job value
    | .identify => .ok .identify
    | .linkStatus => .linkStatus <$> bodies.linkStatus value

/-- `Deserialize for Response`. -/
def Response.fromJson : Deserializer Response := fun v => do
  let dto ← EnvelopeDto.fromJson bodies v
  return ⟨dto.kind, ← resultFromValue bodies dto.kind dto.result, dto.error⟩

end

/-! ### What is written is read back -/

private theorem RequestKind.reads : Reads fromJson fun kind => .str kind.wireName :=
  variant_reads fun kind => by cases kind <;> decide

theorem ReachMode.reads : Reads fromJson fun mode => .str mode.asStr :=
  variant_reads fun mode => by cases mode <;> decide

private theorem CommissioningKind.reads : Reads fromJson fun kind => .str kind.asStr :=
  variant_reads fun kind => by cases kind <;> decide

private theorem JobState.reads : Reads fromJson fun state => .str state.asStr :=
  variant_reads fun state => by cases state <;> decide

private theorem IdentityFormatWire.reads : Reads fromJson toJson := by
  intro f
  cases f with
  | digits len =>
    show (do let type ← required _ "type" string; _) = _
    rw [required_eq string_reads (by simp; rfl)]
    show digits <$> required _ "len" uint8 = _
    rw [required_eq uint8_reads (by simp; rfl)]
    rfl
  | alphanumeric maxLen =>
    show (do let type ← required _ "type" string; _) = _
    rw [required_eq string_reads (by simp; rfl)]
    show alphanumeric <$> required _ "max_len" uint8 = _
    rw [required_eq uint8_reads (by simp; rfl)]
    rfl
  | any => rfl

private theorem CommissioningNet.reads : Reads fromJson toJson := by
  intro net
  show (do return (⟨← required _ _ _, ← required _ _ _, ← required _ _ _, ← required _ _ _⟩ : CommissioningNet)) = _
  rw [required_eq string_reads (by simp; rfl), required_eq uint16_reads (by simp; rfl),
    required_eq string_reads (by simp; rfl), required_eq uint8_reads (by simp; rfl)]
  rfl

private theorem CapabilitiesWire.reads : Reads fromJson toJson := by
  intro c
  rw [fromJson, toJson, struct_object, required_eq uint8_reads (by simp; rfl), required_eq uint8_reads (by simp; rfl),
    required_eq IdentityFormatWire.reads (by simp; rfl), required_eq bool_reads (by simp; rfl),
    required_eq CommissioningKind.reads (by simp; rfl),
    defaulted_eq bool_reads (by simp; rfl),
    optional_eq CommissioningNet.reads nofun (by simp; rfl), optional_eq uint64_reads nofun (by simp; rfl),
    defaulted_list_eq ReachMode.reads (by simp; rfl), defaulted_flag_eq (by simp; rfl)]
  rfl

private theorem DriverInfoWire.reads : Reads fromJson toJson := by
  intro d
  show (do return (⟨← required _ _ _, ← required _ _ _, ← required _ _ _⟩ : DriverInfoWire)) = _
  rw [required_eq string_reads (by simp; rfl), required_eq string_reads (by simp; rfl),
    required_eq CapabilitiesWire.reads (by simp; rfl)]
  rfl

private theorem HelloResult.reads : Reads fromJson toJson := by
  intro h
  rw [fromJson, toJson, struct_object, required_eq string_reads (by simp; rfl),
    optional_eq string_reads nofun (by simp; rfl), required_eq (list_reads DriverInfoWire.reads) (by simp; rfl)]
  rfl

private theorem CandidateWire.reads : Reads fromJson toJson := by
  intro c
  rw [fromJson, toJson, struct_object, required_eq string_reads (by simp; rfl), required_eq string_reads (by simp; rfl),
    required_eq string_reads (by simp; rfl), optional_eq int32_reads nofun (by simp; rfl)]
  rfl

private theorem FunctionMappingWire.reads : Reads fromJson toJson := by
  intro fm
  show (do return (⟨← required _ _ _, ← required _ _ _⟩ : FunctionMappingWire)) = _
  rw [required_eq uint8_reads (by simp; rfl), required_eq uint8_reads (by simp; rfl)]
  rfl

theorem RosterEntryWire.reads : Reads fromJson toJson := by
  intro e
  rw [fromJson, toJson, struct_object, optional_eq uint16_reads nofun (by simp; rfl),
    optional_eq bool_reads nofun (by simp; rfl), optional_eq string_reads nofun (by simp; rfl),
    optional_eq uint8_reads nofun (by simp; rfl), defaulted_list_eq FunctionMappingWire.reads (by simp; rfl)]
  rfl

private theorem DeviceInfoWire.reads : Reads fromJson toJson := by
  intro d
  rw [fromJson, toJson, struct_object, required_eq string_reads (by simp; rfl), required_eq string_reads (by simp; rfl),
    optional_eq string_reads nofun (by simp; rfl), optional_eq string_reads nofun (by simp; rfl),
    optional_eq uint32_reads nofun (by simp; rfl), defaulted_list_eq RosterEntryWire.reads (by simp; rfl)]
  rfl

private theorem ProgramResult.reads : Reads fromJson toJson := fun _ => rfl

private theorem JobSnapshotWire.reads : Reads fromJson toJson := by
  intro s
  rw [fromJson, toJson, struct_object, required_eq string_reads (by simp; rfl),
    required_eq JobState.reads (by simp; rfl), required_eq string_reads (by simp; rfl),
    required_eq string_reads (by simp; rfl), optional_eq string_reads nofun (by simp; rfl)]
  rfl

private theorem JobFrame.reads : Reads fromJson toJson := by
  intro f
  rw [fromJson, toJson, struct_object, required_eq string_reads (by simp; rfl),
    required_eq JobState.reads (by simp; rfl), optional_eq string_reads nofun (by simp; rfl),
    optional_eq uint8_reads nofun (by simp; rfl), optional_eq string_reads nofun (by simp; rfl)]
  rfl

private theorem LinkStatusWire.reads : Reads fromJson toJson := by
  intro s
  rw [fromJson, toJson, struct_object, required_eq bool_reads (by simp; rfl),
    optional_eq string_reads nofun (by simp; rfl), required_eq bool_reads (by simp; rfl)]
  rfl

private theorem ErrorBody.reads : Reads fromJson toJson := fun _ => rfl

theorem Bodies.derived_readBack : derived.ReadBack :=
  ⟨RequestKind.reads, HelloResult.reads, list_reads CandidateWire.reads, DeviceInfoWire.reads, ProgramResult.reads,
    JobSnapshotWire.reads, JobFrame.reads, LinkStatusWire.reads, ErrorBody.reads⟩

/-! ### Responses -/

/-- The kind of the requests that a body answers. -/
def ResultBody.kind : ResultBody → RequestKind
  | hello _ => .hello
  | scan _ => .scan
  | probe _ => .probe
  | program _ => .program
  | updateFirmware _ => .updateFirmware
  | job _ => .jobGet
  | jobWatch _ => .jobWatch
  | jobCancelled _ => .jobCancel
  | identify => .identify
  | linkStatus _ => .linkStatus

namespace Response

/-- The responses that the daemon builds: a body of the request's own kind, or an error. -/
inductive Built : Response → Prop
  | ok (body : ResultBody) : Built ⟨body.kind, some body, none⟩
  | error (kind : RequestKind) (e : ErrorBody) : Built ⟨kind, none, some e⟩

/-- Exactly one of result and error is present. -/
def ExactlyOne (r : Response) : Prop := r.result.isSome = !r.error.isSome

private theorem Built.exactlyOne {r : Response} (h : r.Built) : r.ExactlyOne := by
  cases h <;> rfl

end Response

section

variable {bodies : Bodies} {r : Response}

private theorem ResultBody.toValue_ne_null (body : ResultBody) : body.toValue ≠ some .null := by
  cases body <;> nofun

/-- The envelope is read back with the value of its result. -/
theorem EnvelopeDto.fromJson_toJson (hb : bodies.ReadBack) (r : Response) :
    EnvelopeDto.fromJson bodies r.toJson = .ok ⟨r.kind, none, r.result.bind ResultBody.toValue, r.error⟩ := by
  have hresult : r.result.bind ResultBody.toValue ≠ some .null := by
    cases r.result with
    | none => nofun
    | some body => exact body.toValue_ne_null
  have herror : ∀ e, ErrorBody.toJson e ≠ .null := nofun
  rw [fromJson, Response.toJson, struct_object, required_eq hb.kind (by simp; rfl),
    optional_value_eq (v := none) nofun (by simp), optional_value_eq hresult (by simp),
    optional_eq hb.error herror (by simp; rfl)]
  rfl

private theorem read_as {α : Type} {dec : Deserializer α} {enc : α → Json} (hr : Reads dec enc) (f : α → ResultBody)
    (a : α) : some <$> f <$> dec (enc a) = .ok (some (f a)) := by
  rw [hr a]
  rfl

/-- A body is found again by the kind that it answers. -/
theorem resultFromValue_kind (hb : bodies.ReadBack) (body : ResultBody) :
    resultFromValue bodies body.kind body.toValue = .ok (some body) := by
  cases body with
  | hello v => exact read_as hb.hello .hello v
  | scan v => exact read_as hb.scan .scan v
  | probe v => exact read_as hb.probe .probe v
  | program v => exact read_as hb.program .program v
  | updateFirmware v => exact read_as hb.program .updateFirmware v
  | job v => exact read_as hb.job .job v
  | jobWatch v => exact read_as hb.jobWatch .jobWatch v
  | jobCancelled v => exact read_as hb.job .jobCancelled v
  | identify => rfl
  | linkStatus v => exact read_as hb.linkStatus .linkStatus v

/-- What a response is read back as: a missing result of `identify` is its body. -/
theorem Response.fromJson_toJson (hb : bodies.ReadBack) (h : r.Built) :
    Response.fromJson bodies r.toJson =
      .ok (if r.kind = .identify then { r with result := some .identify } else r) := by
  show (do let dto ← EnvelopeDto.fromJson bodies r.toJson; _) = _
  rw [EnvelopeDto.fromJson_toJson hb]
  cases h with
  | ok body =>
    show (do return (⟨body.kind, ← resultFromValue bodies body.kind body.toValue, none⟩ : Response)) = _
    rw [resultFromValue_kind hb]
    cases body <;> rfl
  | error kind e => cases kind <;> rfl

/-- A response of the daemon is read back as it was built, with exactly one of result and error, exactly when it is not an
error of `identify`. -/
theorem Response.roundTrip_iff (hb : bodies.ReadBack) (h : r.Built) :
    (∃ r', Response.fromJson bodies r.toJson = .ok r' ∧ r' = r ∧ r'.ExactlyOne) ↔
      ¬ (r.kind = .identify ∧ r.error.isSome) := by
  rw [Response.fromJson_toJson hb h]
  constructor
  · rintro ⟨r', hr', rfl, -⟩ ⟨hkind, herror⟩
    rw [if_pos hkind] at hr'
    have hresult : some ResultBody.identify = r'.result := congrArg Response.result (Except.ok.inj hr')
    have hone : r'.result.isSome = !r'.error.isSome := h.exactlyOne
    rw [← hresult, herror] at hone
    cases hone
  · intro hread
    refine ⟨r, congrArg Except.ok ?_, rfl, h.exactlyOne⟩
    by_cases hkind : r.kind = .identify
    · rw [if_pos hkind]
      cases h with
      | ok body =>
        -- only `identify` itself answers an `identify`
        cases body with
        | identify => rfl
        | _ => cases hkind
      | error kind e => exact absurd ⟨hkind, rfl⟩ hread
    · rw [if_neg hkind]

/-- The job in the answer to a cancel request. -/
private def cancelBody : ResultBody :=
  .jobCancelled ⟨"job-1", .writing, "wifred", "wiFred-config12", some "cancel requested"⟩

private def cancelAnswer : Response := ⟨.jobCancel, some cancelBody, none⟩

theorem cancelAnswer_roundTrip :
    ∃ r', Response.fromJson .derived cancelAnswer.toJson = .ok r' ∧ r' = cancelAnswer ∧ r'.ExactlyOne :=
  (Response.roundTrip_iff Bodies.derived_readBack (r := cancelAnswer) (.ok cancelBody)).2 fun h => nomatch h.1

/-- An `identify` that is refused while a job uses the radio is read back with a result. -/
theorem refused_identify_read :
    Response.Built (errResponse .identify "busy" "radio in use by a programming job") ∧
      ¬ ∃ r', Response.fromJson .derived (errResponse .identify "busy" "radio in use by a programming job").toJson =
        .ok r' ∧ r' = errResponse .identify "busy" "radio in use by a programming job" ∧ r'.ExactlyOne := by
  have hread : Response.fromJson .derived (errResponse .identify "busy" "radio in use by a programming job").toJson =
      .ok ⟨.identify, some .identify, some ⟨"busy", "radio in use by a programming job"⟩⟩ := rfl
  refine ⟨.error _ _, ?_⟩
  rintro ⟨r', hr', rfl, -⟩
  have hresult : some ResultBody.identify = none := congrArg Response.result (Except.ok.inj (hread.symm.trans hr'))
  cases hresult

end

end WirelessProgrammer
