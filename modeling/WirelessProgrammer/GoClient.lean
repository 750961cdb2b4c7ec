import WirelessProgrammer.Proto.Wire

/-!
# The Go client

`go/client/client.go`: the methods of `Client`, each of them the decoding of the one frame the daemon answers with.
`encoding/json` fills a struct member by member; names are compared up to case, an absent or `null` member leaves the
zero value, and a raw member keeps its JSON text.
-/

namespace WirelessProgrammer.GoClient

/-! ### `encoding/json` -/

inductive JsonError
  | unexpectedEnd
  | mismatch
  deriving DecidableEq, Repr

abbrev Decoder (α : Type) := Json → Except JsonError α

def foldChar (c : Char) : Char := if c = 'ſ' then 's' else if c = 'K' then 'k' else c.toLower

/-- Member names are matched up to case. -/
def sameName (a b : String) : Bool := a.toList.map foldChar = b.toList.map foldChar

/-- The member that fills a field: the last one with its name. -/
def member? (members : List (String × Json)) (name : String) : Option Json :=
  (members.reverse.find? fun m => sameName m.1 name).map (·.2)

def field {α : Type} (members : List (String × Json)) (name : String) (zero : α) (dec : Decoder α) :
    Except JsonError α :=
  match member? members name with
  | none => .ok zero
  | some .null => .ok zero
  | some v => dec v

def struct {α : Type} (zero : α) (dec : List (String × Json) → Except JsonError α) : Decoder α
  | .null => .ok zero
  | .obj members => dec members
  | _ => .error .mismatch

def string : Decoder String
  | .str s => .ok s
  | _ => .error .mismatch

def bool : Decoder Bool
  | .bool b => .ok b
  | _ => .error .mismatch

/-- An integer of a type with the given range. -/
def integer {α : Type} (lo hi : Int) (ofInt : Int → α) : Decoder α
  | .num n => if lo ≤ n ∧ n ≤ hi then .ok (ofInt n) else .error .mismatch
  | _ => .error .mismatch

def uint8 : Decoder UInt8 := integer 0 (2 ^ 8 - 1) fun n => .ofNat n.toNat

def uint16 : Decoder UInt16 := integer 0 (2 ^ 16 - 1) fun n => .ofNat n.toNat

def uint32 : Decoder UInt32 := integer 0 (2 ^ 32 - 1) fun n => .ofNat n.toNat

def uint64 : Decoder UInt64 := integer 0 (2 ^ 64 - 1) fun n => .ofNat n.toNat

def int32 : Decoder Int32 := integer (-2 ^ 31) (2 ^ 31 - 1) .ofInt

def pointer {α : Type} (dec : Decoder α) : Decoder (Option α) := fun v => some <$> dec v

/-- A slice; a `null` element is a zero value. -/
def slice {α : Type} (zero : α) (dec : Decoder α) : Decoder (List α)
  | .null => .ok []
  | .arr items => items.mapM fun v => match v with
    | .null => .ok zero
    | v => dec v
  | _ => .error .mismatch

/-- `json.Unmarshal` of a raw message; a nil one is empty input. -/
def unmarshal {α : Type} (dec : Decoder α) : Option Json → Except JsonError α
  | none => .error .unexpectedEnd
  | some v => dec v

/-! ### The structs -/

structure IdentityFormatWire where
  type : String
  len : UInt8
  maxLen : UInt8
  deriving Repr

def IdentityFormatWire.zero : IdentityFormatWire := ⟨"", 0, 0⟩

def IdentityFormatWire.decode : Decoder IdentityFormatWire := struct zero fun ms =>
  return ⟨← field ms "type" "" string, ← field ms "len" 0 uint8, ← field ms "maxLen" 0 uint8⟩

structure CommissioningNetWire where
  host : String
  port : UInt16
  source : String
  pfx : UInt8
  deriving Repr

def CommissioningNetWire.decode : Decoder CommissioningNetWire := struct ⟨"", 0, "", 0⟩ fun ms =>
  return ⟨← field ms "host" "" string, ← field ms "port" 0 uint16, ← field ms "source" "" string,
    ← field ms "prefix" 0 uint8⟩

structure CapabilitiesWire where
  maxRosterSlots : UInt8
  maxFunctionIndex : UInt8
  identityFormat : IdentityFormatWire
  supportsThrottleServer : Bool
  supportsFirmwareUpdate : Bool
  commissioning : String
  commissioningNet : Option CommissioningNetWire
  maxFirmwareBytes : Option UInt64
  firmwareModes : List String
  firmwareRequireEspAppBin : Bool
  deriving Repr

def CapabilitiesWire.zero : CapabilitiesWire := ⟨0, 0, .zero, false, false, "", none, none, [], false⟩

def CapabilitiesWire.decode : Decoder CapabilitiesWire := struct zero fun ms =>
  return ⟨← field ms "maxRosterSlots" 0 uint8, ← field ms "maxFunctionIndex" 0 uint8,
    ← field ms "identityFormat" .zero IdentityFormatWire.decode, ← field ms "supportsThrottleServer" false bool,
    ← field ms "supportsFirmwareUpdate" false bool, ← field ms "commissioning" "" string,
    ← field ms "commissioningNet" none (pointer CommissioningNetWire.decode),
    ← field ms "maxFirmwareBytes" none (pointer uint64), ← field ms "firmwareModes" [] (slice "" string),
    ← field ms "firmwareRequireEspAppBin" false bool⟩

structure DriverInfoWire where
  id : String
  name : String
  capabilities : CapabilitiesWire
  deriving Repr

def DriverInfoWire.zero : DriverInfoWire := ⟨"", "", .zero⟩

def DriverInfoWire.decode : Decoder DriverInfoWire := struct zero fun ms =>
  return ⟨← field ms "id" "" string, ← field ms "name" "" string,
    ← field ms "capabilities" .zero CapabilitiesWire.decode⟩

structure HelloResult where
  version : String
  commit : String
  drivers : List DriverInfoWire
  deriving Repr

def HelloResult.decode : Decoder HelloResult := struct ⟨"", "", []⟩ fun ms =>
  return ⟨← field ms "version" "" string, ← field ms "commit" "" string,
    ← field ms "drivers" [] (slice .zero DriverInfoWire.decode)⟩

structure CandidateWire where
  driver : String
  key : String
  label : String
  rssi : Option Int32

def CandidateWire.zero : CandidateWire := ⟨"", "", "", none⟩

def CandidateWire.decode : Decoder CandidateWire := struct zero fun ms =>
  return ⟨← field ms "driver" "" string, ← field ms "key" "" string, ← field ms "label" "" string,
    ← field ms "rssi" none (pointer int32)⟩

structure FunctionMappingWire where
  index : UInt8
  value : UInt8
  deriving Repr

def FunctionMappingWire.zero : FunctionMappingWire := ⟨0, 0⟩

def FunctionMappingWire.decode : Decoder FunctionMappingWire := struct zero fun ms =>
  return ⟨← field ms "index" 0 uint8, ← field ms "value" 0 uint8⟩

structure RosterEntryWire where
  address : Option UInt16
  longAddress : Option Bool
  mode : String
  direction : Option UInt8
  functions : List FunctionMappingWire
  deriving Repr

def RosterEntryWire.zero : RosterEntryWire := ⟨none, none, "", none, []⟩

def RosterEntryWire.decode : Decoder RosterEntryWire := struct zero fun ms =>
  return ⟨← field ms "address" none (pointer uint16), ← field ms "longAddress" none (pointer bool),
    ← field ms "mode" "" string, ← field ms "direction" none (pointer uint8),
    ← field ms "functions" [] (slice .zero FunctionMappingWire.decode)⟩

structure DeviceInfoWire where
  driver : String
  key : String
  firmwareRevision : String
  identity : String
  batteryMv : Option UInt32
  roster : List RosterEntryWire
  deriving Repr

def DeviceInfoWire.decode : Decoder DeviceInfoWire := struct ⟨"", "", "", "", none, []⟩ fun ms =>
  return ⟨← field ms "driver" "" string, ← field ms "key" "" string, ← field ms "firmwareRevision" "" string,
    ← field ms "identity" "" string, ← field ms "batteryMv" none (pointer uint32),
    ← field ms "roster" [] (slice .zero RosterEntryWire.decode)⟩

structure ProgramResult where
  jobId : String
  deriving Repr

def ProgramResult.decode : Decoder ProgramResult := struct ⟨""⟩ fun ms => return ⟨← field ms "jobId" "" string⟩

structure JobSnapshot where
  jobId : String
  state : String
  driver : String
  key : String
  detail : String
  deriving Repr

def JobSnapshot.decode : Decoder JobSnapshot := struct ⟨"", "", "", "", ""⟩ fun ms =>
  return ⟨← field ms "jobId" "" string, ← field ms "state" "" string, ← field ms "driver" "" string,
    ← field ms "key" "" string, ← field ms "detail" "" string⟩

structure LinkStatusWire where
  busy : Bool
  interface : String
  rfkillBlocked : Bool
  deriving Repr

def LinkStatusWire.decode : Decoder LinkStatusWire := struct ⟨false, "", false⟩ fun ms =>
  return ⟨← field ms "busy" false bool, ← field ms "interface" "" string, ← field ms "rfkillBlocked" false bool⟩

structure ErrorBody where
  code : String
  message : String
  deriving Repr

def ErrorBody.decode : Decoder ErrorBody := struct ⟨"", ""⟩ fun ms =>
  return ⟨← field ms "code" "" string, ← field ms "message" "" string⟩

/-- One framed IPC reply; `result` is raw. -/
structure Response where
  type : String
  result : Option Json
  error : Option ErrorBody

def Response.decode : Decoder Response := struct ⟨"", none, none⟩ fun ms =>
  return ⟨← field ms "type" "" string, member? ms "result", ← field ms "error" none (pointer ErrorBody.decode)⟩

/-! ### Errors -/

inductive Sentinel
  | errBusy
  | errNotFound
  | errNoCandidates
  deriving DecidableEq, Repr

/-- An error; `wrap` is `fmt.Errorf` with `%w`. -/
inductive GoError
  | sentinel (s : Sentinel)
  | body (e : ErrorBody)
  | text (message : String)
  | json (e : JsonError)
  | wrap (message : String) (e : GoError)
  deriving Repr

/-- `errors.Is`. -/
def GoError.is (target : Sentinel) : GoError → Bool
  | sentinel s => s = target
  | wrap _ e => e.is target
  | _ => false

/-- Map an IPC error response to a typed error. -/
def responseError (resp : Response) : GoError :=
  match resp.error with
  | none => .text "wireless-programmer request failed"
  | some e =>
    if e.code = "busy" then .wrap e.message (.sentinel .errBusy)
    else if e.code = "notFound" ∨ e.code = "candidateNotFound" then .wrap e.message (.sentinel .errNotFound)
    else if e.code = "noCandidates" then .wrap e.message (.sentinel .errNoCandidates)
    else .body e

/-! ### The methods -/

/-- `roundTrip`, given the frame that is read. -/
def roundTrip (frame : Json) : Except GoError Response := (Response.decode frame).mapError .json

/-- The checks on the type of a response. -/
def checkType (type : String) (resp : Response) : Except GoError Unit :=
  if resp.type = "error" then .error (responseError resp)
  else if resp.type ≠ type then .error (.text s!"unexpected response type \"{resp.type}\"")
  else .ok ()

/-- A method whose result is decoded. -/
def decoding {α : Type} (type what : String) (dec : Decoder α) (frame : Json) : Except GoError α := do
  let resp ← roundTrip frame
  checkType type resp
  (unmarshal dec resp.result).mapError fun e => .wrap s!"decode {what}" (.json e)

def hello : Json → Except GoError HelloResult := decoding "hello" "hello" HelloResult.decode

def scanMode : Json → Except GoError (List CandidateWire) := decoding "scan" "scan" (slice .zero CandidateWire.decode)

def updateFirmware : Json → Except GoError ProgramResult :=
  decoding "updateFirmware" "updateFirmware" ProgramResult.decode

def probe : Json → Except GoError DeviceInfoWire := decoding "probe" "probe" DeviceInfoWire.decode

def program : Json → Except GoError ProgramResult := decoding "program" "program" ProgramResult.decode

def jobGet : Json → Except GoError JobSnapshot := decoding "job.get" "job" JobSnapshot.decode

def jobCancel : Json → Except GoError JobSnapshot := decoding "job.cancel" "job" JobSnapshot.decode

/-- The only method without a result to decode. -/
def identify (frame : Json) : Except GoError Unit := do
  let resp ← roundTrip frame
  checkType "identify" resp

def linkStatus : Json → Except GoError LinkStatusWire := decoding "link.status" "link.status" LinkStatusWire.decode

/-- The error of a result, nil for a success. -/
def errorOf {α : Type} : Except GoError α → Option GoError
  | .ok _ => none
  | .error e => some e

inductive Method
  | hello
  | scanMode
  | probe
  | program
  | updateFirmware
  | jobGet
  | jobCancel
  | identify
  | linkStatus
  deriving DecidableEq, Repr

namespace Method

/-- The request a method sends. -/
def kind : Method → RequestKind
  | hello => .hello
  | scanMode => .scan
  | probe => .probe
  | program => .program
  | updateFirmware => .updateFirmware
  | jobGet => .jobGet
  | jobCancel => .jobCancel
  | identify => .identify
  | linkStatus => .linkStatus

/-- The error a method returns for a frame, nil if there is none. -/
def returnedError (m : Method) (frame : Json) : Option GoError :=
  match m with
  | hello => errorOf (GoClient.hello frame)
  | scanMode => errorOf (GoClient.scanMode frame)
  | probe => errorOf (GoClient.probe frame)
  | program => errorOf (GoClient.program frame)
  | updateFirmware => errorOf (GoClient.updateFirmware frame)
  | jobGet => errorOf (GoClient.jobGet frame)
  | jobCancel => errorOf (GoClient.jobCancel frame)
  | identify => errorOf (GoClient.identify frame)
  | linkStatus => errorOf (GoClient.linkStatus frame)

end Method

/-! ### Error responses -/

theorem field_of_member? {α : Type} {members : List (String × Json)} {name : String} {v : Json}
    (hv : member? members name = some v) (hnull : v ≠ .null) (zero : α) (dec : Decoder α) :
    field members name zero dec = dec v := by
  unfold field
  rw [hv]
  cases v with
  | null => exact absurd rfl hnull
  | _ => rfl

private theorem decode_errorBody (code message : String) :
    ErrorBody.decode (WirelessProgrammer.ErrorBody.toJson ⟨code, message⟩) = .ok ⟨code, message⟩ := by
  have hself : ∀ name, sameName name name = true := by simp [sameName]
  have hcode : sameName "message" "code" = false := by decide
  simp [ErrorBody.decode, WirelessProgrammer.ErrorBody.toJson, struct, field, member?, hself, hcode, string, bind,
    Except.bind, pure, Except.pure]

/-- An error response arrives with its type and its error, and with a nil result. -/
theorem roundTrip_errResponse (kind : RequestKind) (code message : String) :
    roundTrip (errResponse kind code message).toJson = .ok ⟨kind.wireName, none, some ⟨code, message⟩⟩ := by
  have hself : ∀ name, sameName name name = true := by simp [sameName]
  have herror : sameName "error" "result" = false ∧ sameName "type" "result" = false ∧ sameName "error" "type" = false := by
    decide
  let body : Json := WirelessProgrammer.ErrorBody.toJson ⟨code, message⟩
  let members : List (String × Json) := [("type", .str kind.wireName), ("error", body)]
  have htype : field members "type" "" string = .ok kind.wireName :=
    field_of_member? (v := .str kind.wireName) (by simp [member?, members, hself, herror]) nofun _ _
  have hresult : member? members "result" = none := by simp [member?, members, herror]
  have hbody : field members "error" none (pointer ErrorBody.decode) = .ok (some ⟨code, message⟩) := by
    rw [field_of_member? (v := body) (by simp [member?, members, hself]) nofun, pointer, decode_errorBody]
    rfl
  show (Response.decode (.obj members)).mapError GoError.json = _
  simp only [Response.decode, struct, htype, hresult, hbody]
  rfl

/-- The daemon never sends the type that the methods test for, and a nil result does not decode. -/
theorem decoding_errResponse {α : Type} {kind : RequestKind} {type : String} (htype : type = kind.wireName)
    (what : String) (dec : Decoder α) (code message : String) :
    decoding type what dec (errResponse kind code message).toJson =
      .error (.wrap s!"decode {what}" (.json .unexpectedEnd)) := by
  have hne : kind.wireName ≠ "error" := by cases kind <;> decide
  subst htype
  simp only [decoding, roundTrip_errResponse, checkType, bind, Except.bind, if_neg hne, ne_eq, not_true_eq_false,
    if_false]
  rfl

/-- What a method that decodes a result makes of an error response. -/
theorem errorOf_decoding_errResponse {α : Type} {kind : RequestKind} {type : String} (htype : type = kind.wireName)
    (what : String) (dec : Decoder α) (code message : String) :
    (∃ e, errorOf (decoding type what dec (errResponse kind code message).toJson) = some e ∧
      (code = "busy" → e.is .errBusy = true)) ↔ code ≠ "busy" := by
  rw [decoding_errResponse htype]
  simp [errorOf, GoError.is]

/-- A method reports an error response, and a busy one as `ErrBusy`, exactly when it decodes a result and the code is not
`busy`. -/
theorem Method.returnedError_errResponse (m : Method) (code message : String) :
    (∃ e, m.returnedError (errResponse m.kind code message).toJson = some e ∧
      (code = "busy" → e.is .errBusy = true)) ↔ m ≠ .identify ∧ code ≠ "busy" := by
  rw [and_comm (a := m ≠ .identify)]
  cases m with
  | identify =>
    have hnil : Method.identify.returnedError (errResponse .identify code message).toJson = none := by
      simp only [returnedError, GoClient.identify, roundTrip_errResponse, checkType]
      rfl
    simp [kind, hnil]
  | hello => exact (errorOf_decoding_errResponse rfl ..).trans (by simp)
  | scanMode => exact (errorOf_decoding_errResponse rfl ..).trans (by simp)
  | probe => exact (errorOf_decoding_errResponse rfl ..).trans (by simp)
  | program => exact (errorOf_decoding_errResponse rfl ..).trans (by simp)
  | updateFirmware => exact (errorOf_decoding_errResponse rfl ..).trans (by simp)
  | jobGet => exact (errorOf_decoding_errResponse rfl ..).trans (by simp)
  | jobCancel => exact (errorOf_decoding_errResponse rfl ..).trans (by simp)
  | linkStatus => exact (errorOf_decoding_errResponse rfl ..).trans (by simp)

/-- A refused `identify` looks like a success, and a refused `probe` is not `ErrBusy`. -/
theorem Method.busy_errResponse_lost :
    Method.identify.returnedError (errResponse .identify "busy" "radio in use by a programming job").toJson = none ∧
      ∀ e, Method.probe.returnedError (errResponse .probe "busy" "radio in use by a programming job").toJson = some e →
        e.is .errBusy = false := by
  constructor
  · simp only [returnedError, GoClient.identify, roundTrip_errResponse, checkType]
    rfl
  · intro e he
    have htype : "probe" = RequestKind.probe.wireName := rfl
    have hsome : errorOf (decoding "probe" "probe" DeviceInfoWire.decode
      (errResponse .probe "busy" "radio in use by a programming job").toJson) = some e := he
    rw [decoding_errResponse htype] at hsome
    cases hsome
    rfl

end WirelessProgrammer.GoClient
