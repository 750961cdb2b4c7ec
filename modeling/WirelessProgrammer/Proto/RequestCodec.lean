import WirelessProgrammer.Proto.Decode

/-!
# Writing and reading requests

`wp-proto/src/wire.rs`: the parameters of a request are written as a flat object and found again by the `type` of the
envelope.  Every request whose parameters belong to its kind is read back as it was, up to the two spellings of absent
parameters (`Request.fromJson_toJson`).
-/

namespace WirelessProgrammer

open Serde

/-! ### Parameters -/

def CandidateRef.toJson (c : CandidateRef) : Json := .obj [("driver", .str c.driver), ("key", .str c.key)]

def CandidateRef.fromJson : Deserializer CandidateRef := struct fun ms =>
  return ⟨← required ms "driver" string, ← required ms "key" string⟩

namespace WifiCredentialsWire

def default : WifiCredentialsWire := ⟨"", none⟩

def toJson (w : WifiCredentialsWire) : Json := .object [some ("ssid", .str w.ssid), Json.member "psk" .str w.psk]

def fromJson : Deserializer WifiCredentialsWire := struct fun ms =>
  return ⟨← defaulted ms "ssid" "" string, ← optional ms "psk" string⟩

end WifiCredentialsWire

namespace ThrottleServerWire

def default : ThrottleServerWire := ⟨"", 0, none⟩

def toJson (s : ThrottleServerWire) : Json :=
  .object [
    some ("host", .str s.host),
    some ("port", .num s.port.toNat),
    Json.member "automatic" .bool s.automatic]

/-- The port has no default of its own. -/
def fromJson : Deserializer ThrottleServerWire := struct fun ms =>
  return ⟨← defaulted ms "host" "" string, ← required ms "port" uint16, ← optional ms "automatic" bool⟩

end ThrottleServerWire

def BigfredCredsWire.toJson (b : BigfredCredsWire) : Json := .obj [("login", .str b.login), ("pin", .str b.pin)]

def BigfredCredsWire.fromJson : Deserializer BigfredCredsWire := struct fun ms =>
  return ⟨← required ms "login" string, ← required ms "pin" string⟩

namespace ProgramRequestWire

def toJson (r : ProgramRequestWire) : Json :=
  .object [
    some ("identity", .str r.identity),
    some ("wifi", r.wifi.toJson),
    some ("server", r.server.toJson),
    some ("roster", .arr (r.roster.map RosterEntryWire.toJson)),
    Json.member "bigfred" BigfredCredsWire.toJson r.bigfred,
    Json.member "rosterMode" .str r.rosterMode]

/-- Only the roster is required. -/
def fromJson : Deserializer ProgramRequestWire := struct fun ms =>
  return ⟨← defaulted ms "identity" "" string, ← defaulted ms "wifi" .default WifiCredentialsWire.fromJson,
    ← defaulted ms "server" .default ThrottleServerWire.fromJson, ← required ms "roster" (list RosterEntryWire.fromJson),
    ← optional ms "bigfred" BigfredCredsWire.fromJson, ← optional ms "rosterMode" string⟩

end ProgramRequestWire

namespace UpdateFirmwareParams

def toJson (p : UpdateFirmwareParams) : Json :=
  .object [
    some ("mode", .str p.mode.asStr),
    Json.member "candidate" CandidateRef.toJson p.candidate,
    some ("path", .str p.path),
    Json.member "host" .str p.host,
    Json.member "port" .str p.port,
    Json.member "partitionTable" .str p.partitionTable]

def fromJson : Deserializer UpdateFirmwareParams := struct fun ms =>
  return ⟨← defaulted ms "mode" .ap ReachMode.fromJson, ← optional ms "candidate" CandidateRef.fromJson,
    ← required ms "path" string, ← optional ms "host" string, ← optional ms "port" string,
    ← optional ms "partitionTable" string⟩

end UpdateFirmwareParams

namespace Params

/-- `params_to_value`. -/
def toValue : Params → Option Json
  | program candidate request => some (.obj [("candidate", candidate.toJson), ("request", request.toJson)])
  | probe candidate => some (.obj [("candidate", candidate.toJson)])
  | job jobId => some (.obj [("jobId", .str jobId)])
  | identify candidate count => some (.object [
      some ("candidate", candidate.toJson),
      Json.member "count" (fun n : UInt32 => .num n.toNat) count])
  | scan mode => some (.obj [("mode", .str mode.asStr)])
  | updateFirmware p => some p.toJson
  | none => .none

def programFromJson : Deserializer Params := struct fun ms =>
  return .program (← required ms "candidate" CandidateRef.fromJson) (← required ms "request" ProgramRequestWire.fromJson)

def probeFromJson : Deserializer Params := struct fun ms =>
  return .probe (← required ms "candidate" CandidateRef.fromJson)

def jobFromJson : Deserializer Params := struct fun ms => return .job (← required ms "jobId" string)

def identifyFromJson : Deserializer Params := struct fun ms =>
  return .identify (← required ms "candidate" CandidateRef.fromJson) (← optional ms "count" uint32)

def scanFromJson : Deserializer Params := struct fun ms => return .scan (← defaulted ms "mode" .ap ReachMode.fromJson)

/-- `params_from_value`: what is read is chosen by the kind. -/
def fromValue (kind : RequestKind) : Option Json → Except DeError (Option Params)
  | Option.none => .ok Option.none
  | some .null => .ok Option.none
  | some value => some <$>
    match kind with
    | .hello => .ok none
    | .linkStatus => .ok none
    | .scan => scanFromJson value
    | .probe => probeFromJson value
    | .program => programFromJson value
    | .jobGet => jobFromJson value
    | .jobWatch => jobFromJson value
    | .jobCancel => jobFromJson value
    | .identify => identifyFromJson value
    | .updateFirmware => updateFirmware <$> UpdateFirmwareParams.fromJson value

end Params

/-! ### Requests -/

namespace Request

/-- `Serialize for Request`: the `type`, and the parameters that are there. -/
def toJson (r : Request) : Json :=
  .object [some ("type", .str r.kind.wireName), Json.member "params" id (r.params.bind Params.toValue)]

/-- `Deserialize for Request`. -/
def fromJson : Deserializer Request := fun v => do
  let dto ← EnvelopeDto.fromJson .derived v
  return ⟨dto.kind, ← Params.fromValue dto.kind dto.params⟩

end Request

/-! ### What is written is read back -/

private theorem CandidateRef.reads : Reads fromJson toJson := fun _ => rfl

private theorem WifiCredentialsWire.reads : Reads fromJson toJson := by
  intro w
  rw [fromJson, toJson, struct_object, defaulted_eq string_reads (by simp; rfl),
    optional_eq string_reads nofun (by simp; rfl)]
  rfl

private theorem ThrottleServerWire.reads : Reads fromJson toJson := by
  intro s
  rw [fromJson, toJson, struct_object, defaulted_eq string_reads (by simp; rfl),
    required_eq uint16_reads (by simp; rfl), optional_eq bool_reads nofun (by simp; rfl)]
  rfl

private theorem BigfredCredsWire.reads : Reads fromJson toJson := fun _ => rfl

private theorem ProgramRequestWire.reads : Reads fromJson toJson := by
  intro r
  rw [fromJson, toJson, struct_object, defaulted_eq string_reads (by simp; rfl),
    defaulted_eq WifiCredentialsWire.reads (by simp; rfl), defaulted_eq ThrottleServerWire.reads (by simp; rfl),
    required_eq (list_reads RosterEntryWire.reads) (by simp; rfl),
    optional_eq BigfredCredsWire.reads nofun (by simp; rfl), optional_eq string_reads nofun (by simp; rfl)]
  rfl

private theorem UpdateFirmwareParams.reads : Reads fromJson toJson := by
  intro p
  rw [fromJson, toJson, struct_object, defaulted_eq ReachMode.reads (by simp; rfl),
    optional_eq CandidateRef.reads nofun (by simp; rfl), required_eq string_reads (by simp; rfl),
    optional_eq string_reads nofun (by simp; rfl), optional_eq string_reads nofun (by simp; rfl),
    optional_eq string_reads nofun (by simp; rfl)]
  rfl

/-! ### Requests are read back -/

/-- The parameters belong to requests of the kind; every kind may do without. -/
def Params.BelongsTo (kind : RequestKind) : Params → Prop
  | program .. => kind = .program
  | probe _ => kind = .probe
  | job _ => kind = .jobGet ∨ kind = .jobWatch ∨ kind = .jobCancel
  | identify .. => kind = .identify
  | scan _ => kind = .scan
  | updateFirmware _ => kind = .updateFirmware
  | none => True

namespace Request

/-- The request with absent parameters in their one spelling. -/
def canonical (r : Request) : Request := ⟨r.kind, r.params.filter (· ≠ .none)⟩

/-- The same kind and the same parameters, where no parameters have two spellings. -/
def Same (r r' : Request) : Prop := r.canonical = r'.canonical

end Request

section

variable {r : Request} {kind : RequestKind}

private theorem Params.toValue_ne_null (p : Params) : p.toValue ≠ some .null := by
  cases p <;> nofun

/-- Parameters are found again by a kind that they belong to. -/
theorem Params.fromValue_toValue {p : Params} (h : p.BelongsTo kind) :
    fromValue kind p.toValue = .ok (if p = .none then Option.none else some p) := by
  cases p with
  | program candidate request =>
    obtain rfl := h
    show some <$> programFromJson _ = _
    rw [programFromJson, struct, required_eq CandidateRef.reads (by simp; rfl),
      required_eq ProgramRequestWire.reads (by simp; rfl)]
    rfl
  | probe candidate =>
    obtain rfl := h
    rfl
  | job jobId =>
    rcases h with rfl | rfl | rfl <;> rfl
  | identify candidate count =>
    obtain rfl := h
    show some <$> identifyFromJson (Json.object _) = _
    rw [identifyFromJson, struct_object, required_eq CandidateRef.reads (by simp; rfl),
      optional_eq uint32_reads nofun (by simp; rfl)]
    rfl
  | scan mode =>
    obtain rfl := h
    show some <$> scanFromJson _ = _
    rw [scanFromJson, struct, defaulted_eq ReachMode.reads (by simp; rfl)]
    rfl
  | updateFirmware p =>
    obtain rfl := h
    show some <$> updateFirmware <$> UpdateFirmwareParams.fromJson p.toJson = _
    rw [UpdateFirmwareParams.reads p]
    rfl
  | none => rfl

/-- The envelope is read back with the value of the parameters. -/
theorem Request.envelope_toJson (r : Request) :
    EnvelopeDto.fromJson .derived r.toJson = .ok ⟨r.kind, r.params.bind Params.toValue, none, none⟩ := by
  have hparams : r.params.bind Params.toValue ≠ some .null := by
    cases r.params with
    | none => exact (Option.some_ne_none _).symm
    | some p => exact p.toValue_ne_null
  have herror : ∀ e, ErrorBody.toJson e ≠ .null := fun e => Json.obj_ne_null _
  rw [EnvelopeDto.fromJson, toJson, struct_object, required_eq Bodies.derived_readBack.kind (by simp; rfl),
    optional_value_eq hparams (by simp), optional_value_eq (v := none) (Option.some_ne_none _).symm (by simp),
    optional_eq (a := none) Bodies.derived_readBack.error herror (by simp)]
  rfl

theorem Request.fromJson_toJson (h : ∀ p ∈ r.params, p.BelongsTo r.kind) :
    Request.fromJson r.toJson = .ok r.canonical := by
  show (do let dto ← EnvelopeDto.fromJson .derived r.toJson; _) = _
  rw [r.envelope_toJson]
  show (do return (⟨r.kind, ← Params.fromValue r.kind (r.params.bind Params.toValue)⟩ : Request)) = _
  obtain ⟨kind, params⟩ := r
  cases params with
  | none => rfl
  | some p =>
    show (do return (⟨kind, ← Params.fromValue kind p.toValue⟩ : Request)) = _
    rw [Params.fromValue_toValue (h p rfl)]
    by_cases hp : p = .none
    · subst hp
      rfl
    · rw [if_neg hp, canonical, Option.filter_some, if_pos (by simpa using hp)]
      rfl

private theorem Request.canonical_canonical (r : Request) : r.canonical.canonical = r.canonical := by
  simp [canonical, Option.filter_filter]

/-- A request whose parameters belong to its kind is the same after it has been written and read. -/
theorem Request.roundTrip (h : ∀ p ∈ r.params, p.BelongsTo r.kind) :
    ∃ r', Request.fromJson r.toJson = .ok r' ∧ r'.Same r :=
  ⟨r.canonical, Request.fromJson_toJson h, r.canonical_canonical⟩

/-- A throttle with one slot for a locomotive, and a functions list with one entry. -/
private def oneSlot : ProgramRequestWire :=
  ⟨"123456", ⟨"layout", none⟩, ⟨"bigfred.local", 12090, none⟩, [⟨some 3, none, none, none, [⟨0, 1⟩]⟩,
    ⟨none, some false, some "DCC128", some 2, []⟩], none, some "static"⟩

theorem oneSlot_roundTrip : ∃ r', Request.fromJson
      (Request.toJson ⟨.program, some (.program ⟨"wifred", "wiFred-config12"⟩ oneSlot)⟩) = .ok r' ∧
    r'.Same ⟨.program, some (.program ⟨"wifred", "wiFred-config12"⟩ oneSlot)⟩ := by
  refine Request.roundTrip ?_
  rintro _ ⟨⟩
  rfl

end

end WirelessProgrammer
