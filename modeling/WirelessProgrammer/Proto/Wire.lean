import WirelessProgrammer.Lib.Json
import WirelessProgrammer.Drivers.Contract

/-!
# The IPC envelopes

`wp-proto`: requests with their parameters, responses with their results, and the flat JSON object a response is
serialised to.
-/

namespace WirelessProgrammer

/-! ### Requests -/

/-- Supported request methods. -/
inductive RequestKind
  | hello
  | scan
  | probe
  | program
  | jobGet
  | jobWatch
  | jobCancel
  | identify
  | linkStatus
  | updateFirmware
  deriving DecidableEq, Repr

/-- The `type` of an envelope. -/
def RequestKind.wireName : RequestKind → String
  | hello => "hello"
  | scan => "scan"
  | probe => "probe"
  | program => "program"
  | jobGet => "job.get"
  | jobWatch => "job.watch"
  | jobCancel => "job.cancel"
  | identify => "identify"
  | linkStatus => "link.status"
  | updateFirmware => "updateFirmware"

/-- A reference to a scan result. -/
structure CandidateRef where
  driver : String
  key : String
  deriving DecidableEq, Repr

structure WifiCredentialsWire where
  ssid : String
  psk : Option String
  deriving DecidableEq, Repr

structure ThrottleServerWire where
  host : String
  port : UInt16
  automatic : Option Bool
  deriving DecidableEq, Repr

structure FunctionMappingWire where
  index : UInt8
  value : UInt8
  deriving DecidableEq, Repr

structure RosterEntryWire where
  address : Option UInt16
  longAddress : Option Bool
  mode : Option String
  direction : Option UInt8
  functions : List FunctionMappingWire
  deriving DecidableEq, Repr

structure BigfredCredsWire where
  login : String
  pin : String
  deriving DecidableEq, Repr

/-- The full programming request, in wire form. -/
structure ProgramRequestWire where
  identity : String
  wifi : WifiCredentialsWire
  server : ThrottleServerWire
  roster : List RosterEntryWire
  bigfred : Option BigfredCredsWire
  rosterMode : Option String
  deriving DecidableEq, Repr

/-- `updateFirmware` parameters; the image stays on disk. -/
structure UpdateFirmwareParams where
  mode : ReachMode
  candidate : Option CandidateRef
  path : String
  host : Option String
  port : Option String
  partitionTable : Option String
  deriving DecidableEq, Repr

/-- Method parameters. -/
inductive Params
  | program (candidate : CandidateRef) (request : ProgramRequestWire)
  | probe (candidate : CandidateRef)
  | job (jobId : String)
  | identify (candidate : CandidateRef) (count : Option UInt32)
  | scan (mode : ReachMode)
  | updateFirmware (p : UpdateFirmwareParams)
  | none
  deriving DecidableEq, Repr

structure Request where
  kind : RequestKind
  params : Option Params
  deriving DecidableEq, Repr

/-! ### Results -/

inductive IdentityFormatWire
  | digits (len : UInt8)
  | alphanumeric (maxLen : UInt8)
  | any
  deriving DecidableEq, Repr

structure CapabilitiesWire where
  maxRosterSlots : UInt8
  maxFunctionIndex : UInt8
  identityFormat : IdentityFormatWire
  supportsThrottleServer : Bool
  commissioning : CommissioningKind
  supportsFirmwareUpdate : Bool
  commissioningNet : Option CommissioningNet
  maxFirmwareBytes : Option UInt64
  firmwareModes : List ReachMode
  firmwareRequireEspAppBin : Bool
  deriving DecidableEq, Repr

structure DriverInfoWire where
  id : String
  name : String
  capabilities : CapabilitiesWire
  deriving DecidableEq, Repr

structure HelloResult where
  version : String
  commit : Option String
  drivers : List DriverInfoWire
  deriving DecidableEq, Repr

structure CandidateWire where
  driver : String
  key : String
  label : String
  rssi : Option Int32
  deriving DecidableEq

structure DeviceInfoWire where
  driver : String
  key : String
  firmwareRevision : Option String
  identity : Option String
  batteryMv : Option UInt32
  roster : List RosterEntryWire
  deriving DecidableEq, Repr

/-- A job has been queued. -/
structure ProgramResult where
  jobId : String
  deriving DecidableEq, Repr

/-- Job lifecycle states; the wire has the same ones. -/
inductive JobState
  | queued
  | joining
  | probing
  | writing
  | verifying
  | restarting
  | done
  | failed
  | cancelled
  deriving DecidableEq, Repr

namespace JobState

/-- Whether this state is terminal. -/
def isTerminal (s : JobState) : Bool := s = done || s = failed || s = cancelled

/-- The wire name. -/
def asStr : JobState → String
  | queued => "queued"
  | joining => "joining"
  | probing => "probing"
  | writing => "writing"
  | verifying => "verifying"
  | restarting => "restarting"
  | done => "done"
  | failed => "failed"
  | cancelled => "cancelled"

end JobState

/-- A snapshot of a job, in wire form. -/
structure JobSnapshotWire where
  jobId : String
  state : JobState
  driver : String
  key : String
  detail : Option String
  deriving DecidableEq, Repr

/-- A streamed progress frame. -/
structure JobFrame where
  id : String
  state : JobState
  step : Option String
  progress : Option UInt8
  detail : Option String
  deriving DecidableEq, Repr

structure LinkStatusWire where
  busy : Bool
  interface : Option String
  rfkillBlocked : Bool
  deriving DecidableEq, Repr

/-- Successful response bodies. -/
inductive ResultBody
  | hello (v : HelloResult)
  | scan (v : List CandidateWire)
  | probe (v : DeviceInfoWire)
  | program (v : ProgramResult)
  | updateFirmware (v : ProgramResult)
  | job (v : JobSnapshotWire)
  | jobWatch (v : JobFrame)
  | jobCancelled (v : JobSnapshotWire)
  | identify
  | linkStatus (v : LinkStatusWire)
  deriving DecidableEq

structure ErrorBody where
  code : String
  message : String
  deriving DecidableEq, Repr

structure Response where
  kind : RequestKind
  result : Option ResultBody
  error : Option ErrorBody
  deriving DecidableEq

/-- A failed request: its own `type`, no result. -/
def errResponse (kind : RequestKind) (code message : String) : Response := ⟨kind, none, some ⟨code, message⟩⟩

/-! ### Serialisation -/

def ReachMode.asStr : ReachMode → String
  | ap => "ap"
  | lan => "lan"
  | usb => "usb"
  | z21 => "z21"

def CommissioningKind.asStr : CommissioningKind → String
  | softAp => "softAp"
  | lan => "lan"
  | serial => "serial"

/-- The variants are renamed to camel case, their fields are not. -/
def IdentityFormatWire.toJson : IdentityFormatWire → Json
  | digits len => .obj [("type", .str "digits"), ("len", .num len.toNat)]
  | alphanumeric maxLen => .obj [("type", .str "alphanumeric"), ("max_len", .num maxLen.toNat)]
  | any => .obj [("type", .str "any")]

def CommissioningNet.toJson (net : CommissioningNet) : Json :=
  .obj [("host", .str net.host), ("port", .num net.port.toNat), ("source", .str net.source),
    ("prefix", .num net.pfx.toNat)]

def CapabilitiesWire.toJson (c : CapabilitiesWire) : Json :=
  .object [
    some ("maxRosterSlots", .num c.maxRosterSlots.toNat),
    some ("maxFunctionIndex", .num c.maxFunctionIndex.toNat),
    some ("identityFormat", c.identityFormat.toJson),
    some ("supportsThrottleServer", .bool c.supportsThrottleServer),
    some ("commissioning", .str c.commissioning.asStr),
    some ("supportsFirmwareUpdate", .bool c.supportsFirmwareUpdate),
    Json.member "commissioningNet" CommissioningNet.toJson c.commissioningNet,
    Json.member "maxFirmwareBytes" (fun n : UInt64 => .num n.toNat) c.maxFirmwareBytes,
    if c.firmwareModes = [] then none else some ("firmwareModes", .arr (c.firmwareModes.map fun m => .str m.asStr)),
    if c.firmwareRequireEspAppBin then some ("firmwareRequireEspAppBin", .bool true) else none]

def DriverInfoWire.toJson (d : DriverInfoWire) : Json :=
  .obj [("id", .str d.id), ("name", .str d.name), ("capabilities", d.capabilities.toJson)]

def HelloResult.toJson (h : HelloResult) : Json :=
  .object [
    some ("version", .str h.version),
    Json.member "commit" .str h.commit,
    some ("drivers", .arr (h.drivers.map DriverInfoWire.toJson))]

def CandidateWire.toJson (c : CandidateWire) : Json :=
  .object [
    some ("driver", .str c.driver),
    some ("key", .str c.key),
    some ("label", .str c.label),
    Json.member "rssi" (fun n : Int32 => .num n.toInt) c.rssi]

def FunctionMappingWire.toJson (fm : FunctionMappingWire) : Json :=
  .obj [("index", .num fm.index.toNat), ("value", .num fm.value.toNat)]

def RosterEntryWire.toJson (e : RosterEntryWire) : Json :=
  .object [
    Json.member "address" (fun n : UInt16 => .num n.toNat) e.address,
    Json.member "longAddress" .bool e.longAddress,
    Json.member "mode" .str e.mode,
    Json.member "direction" (fun n : UInt8 => .num n.toNat) e.direction,
    if e.functions = [] then none else some ("functions", .arr (e.functions.map FunctionMappingWire.toJson))]

def DeviceInfoWire.toJson (d : DeviceInfoWire) : Json :=
  .object [
    some ("driver", .str d.driver),
    some ("key", .str d.key),
    Json.member "firmwareRevision" .str d.firmwareRevision,
    Json.member "identity" .str d.identity,
    Json.member "batteryMv" (fun n : UInt32 => .num n.toNat) d.batteryMv,
    if d.roster = [] then none else some ("roster", .arr (d.roster.map RosterEntryWire.toJson))]

def ProgramResult.toJson (r : ProgramResult) : Json := .obj [("jobId", .str r.jobId)]

def JobSnapshotWire.toJson (s : JobSnapshotWire) : Json :=
  .object [
    some ("jobId", .str s.jobId),
    some ("state", .str s.state.asStr),
    some ("driver", .str s.driver),
    some ("key", .str s.key),
    Json.member "detail" .str s.detail]

def JobFrame.toJson (f : JobFrame) : Json :=
  .object [
    some ("jobId", .str f.id),
    some ("state", .str f.state.asStr),
    Json.member "step" .str f.step,
    Json.member "progress" (fun n : UInt8 => .num n.toNat) f.progress,
    Json.member "detail" .str f.detail]

def LinkStatusWire.toJson (s : LinkStatusWire) : Json :=
  .object [
    some ("busy", .bool s.busy),
    Json.member "interface" .str s.interface,
    some ("rfkillBlocked", .bool s.rfkillBlocked)]

/-- `result_to_value`. -/
def ResultBody.toValue : ResultBody → Option Json
  | hello v => some v.toJson
  | scan v => some (.arr (v.map CandidateWire.toJson))
  | probe v => some v.toJson
  | program v => some v.toJson
  | updateFirmware v => some v.toJson
  | job v => some v.toJson
  | jobWatch v => some v.toJson
  | jobCancelled v => some v.toJson
  | identify => none
  | linkStatus v => some v.toJson

def ErrorBody.toJson (e : ErrorBody) : Json := .obj [("code", .str e.code), ("message", .str e.message)]

/-- `Serialize for Response`: the `type`, and the result and the error that are there. -/
def Response.toJson (r : Response) : Json :=
  .object [
    some ("type", .str r.kind.wireName),
    Json.member "result" id (r.result.bind ResultBody.toValue),
    Json.member "error" ErrorBody.toJson r.error]

end WirelessProgrammer
