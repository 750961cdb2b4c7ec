import WirelessProgrammer.Drivers.WiFred
import WirelessProgrammer.Drivers.LongFred

/-!
# The driver registry

The remaining drivers (`wp-drivers/src/rb23xx`, `wp-drivers/src/fred.rs`) and the registry of `drivers.rs`, which
dispatches on the closed set of drivers.  `Codecs` are the XML and JSON libraries the drivers read and write with.
-/

namespace WirelessProgrammer

open Effect

/-! ### RailBOX RB23xx -/

namespace Rb23xx

def WIFI_CONFIG_SSID_PREFIXES : List String := ["RB2300_", "RB2310_", "RB2302_"]

def LIST_PATH : String := "/?p=/"

def UPLOAD_CONTENT_TYPE : String := "multipart/form-data"

/-- Firmware POST cap (5 MiB). -/
def MAX_FIRMWARE_BYTES : Nat := 5 * 1024 * 1024

def commissioningNet : CommissioningNet := ⟨"192.168.4.1", 80, "192.168.4.2", 24⟩

def capabilities : DriverCapabilities where
  maxRosterSlots := 0
  maxFunctionIndex := 0
  identityFormat := .any
  supportsThrottleServer := false
  commissioning := .softAp
  commissioningNet := some commissioningNet
  softapPsk := some "00000000"
  firmware := some ⟨MAX_FIRMWARE_BYTES, "5 MiB", .AP, false, true⟩

def identify (obs : Observation) : Option DeviceCandidate := claim "rb23xx" WIFI_CONFIG_SSID_PREFIXES obs

def validate (_req : ProgramRequest) : Except ValidationError Unit := .ok ()

def probe (t : Transport) : DriverM Json := do
  DriverM.httpClient "rb23xx" t
  let body ← DriverM.get LIST_PATH
  return .obj [("bytes", .num body.length), ("ok", .bool true)]

def program : DriverM Outcome :=
  throw (.other "rb23xx does not support program; use updateFirmware to upload a .bin")

/-- The name an image is stored under. -/
def uploadName (filename : String) : String := ((fileName filename).filter (· ≠ "")).getD "firmware.bin"

def uploadPath (filename : String) : String := "/upload?p=/" ++ percentEncode (uploadName filename)

def updateFirmware (t : Transport) (image : List UInt8) (filename : String) : DriverM Outcome :=
  DriverM.upload "rb23xx" t (uploadPath filename) UPLOAD_CONTENT_TYPE image

end Rb23xx

/-! ### Digitrax FRED -/

namespace Fred

def capabilities : DriverCapabilities where
  maxRosterSlots := 1
  maxFunctionIndex := 0
  identityFormat := .any
  supportsThrottleServer := false
  commissioning := .lan
  commissioningNet := none
  softapPsk := none
  firmware := none

/-- Exactly one entry, with a DCC address. -/
def validate (req : ProgramRequest) : Except ValidationError Unit :=
  match req.roster with
  | [entry] =>
    match entry.address with
    | some addr => if 1 ≤ addr ∧ addr ≤ 10239 then .ok () else .error (.addressOutOfRange addr)
    | none => .error (.rosterEntry 0 "missing address")
  | roster => .error (.capacityExceeded 1 roster.length)

def probe : DriverM Json := return .obj [("driver", .str "fred")]

def program : DriverM Outcome := throw (.other "fred programming uses Z21 UDP, not HTTP/serial")

def updateFirmware : DriverM Outcome := throw (.other "firmware update is not supported")

end Fred

/-! ### Dispatch -/

inductive Driver
  | wiFred
  | longFred
  | fred
  | rb23xx
  deriving DecidableEq, Repr

/-- The libraries the drivers use for the formats of the devices. -/
structure Codecs where
  xmlReader : List Char → XmlDocument
  readJson : List UInt8 → Except String Json
  writeJson : Json → List UInt8

namespace Driver

/-- The driver's stable id string. -/
def idStr : Driver → String
  | wiFred => "wifred"
  | longFred => "longfred"
  | fred => "fred"
  | rb23xx => "rb23xx"

/-- Human-readable name. -/
def name : Driver → String
  | wiFred => "NewHeiko WiFred"
  | longFred => "LongFred"
  | fred => "Digitrax FRED"
  | rb23xx => "RailBOX RB23xx"

def fromId (id : String) : Option Driver :=
  if id = "wifred" then some wiFred
  else if id = "longfred" then some longFred
  else if id = "fred" then some fred
  else if id = "rb23xx" then some rb23xx
  else none

/-- Soft-AP addressing for commissioning. -/
def commissioningNet : Driver → CommissioningNet
  | wiFred => ⟨"192.168.4.1", 80, "192.168.4.2", 24⟩
  | longFred => LongFred.commissioningNet
  | fred => ⟨"0.0.0.0", 0, "0.0.0.0", 0⟩
  | rb23xx => Rb23xx.commissioningNet

def capabilities : Driver → DriverCapabilities
  | wiFred => WiFred.capabilities
  | longFred => LongFred.capabilities
  | fred => Fred.capabilities
  | rb23xx => Rb23xx.capabilities

def supportsFirmwareUpdate (d : Driver) : Bool := d.capabilities.firmware.isSome

def validate : Driver → ProgramRequest → Except ValidationError Unit
  | wiFred => WiFred.validate
  | longFred => LongFred.validate
  | fred => Fred.validate
  | rb23xx => Rb23xx.validate

variable (codecs : Codecs)

def probe (t : Transport) : Driver → DriverM Json
  | wiFred => WiFred.probe codecs.xmlReader t
  | longFred => LongFred.probe codecs.readJson t
  | fred => Fred.probe
  | rb23xx => Rb23xx.probe t

def program (t : Transport) (req : ProgramRequest) : Driver → DriverM Outcome
  | wiFred => WiFred.program codecs.xmlReader t req
  | longFred => LongFred.program codecs.readJson codecs.writeJson t req
  | fred => Fred.program
  | rb23xx => Rb23xx.program

def updateFirmware (t : Transport) (image : List UInt8) (filename : String) : Driver → DriverM Outcome
  | wiFred => WiFred.updateFirmware
  | longFred => LongFred.updateFirmware t image
  | fred => Fred.updateFirmware
  | rb23xx => Rb23xx.updateFirmware t image filename

/-- Blink a device LED. -/
def blink (t : Transport) (count : Option UInt32) : Driver → DriverM Unit
  | wiFred => do
    match t with
    | .http =>
      let _ ← DriverM.request DriverM.httpError ⟨"GET", WiFred.identifyRequest count, none⟩
    | .bytes => throw (.other "wifred identify requires an HTTP transport")
  | longFred => throw (.other "LongFred has no LED identify in programming mode")
  | fred => throw (.other "FRED has no LED identify over Z21 LAN")
  | rb23xx => throw (.other "RB23xx has no LED identify over Soft-AP")

end Driver

/-- Claim a raw observation against every driver. -/
def identifyObservation (obs : Observation) : Option DeviceCandidate :=
  (LongFred.identify obs).or ((WiFred.identify obs).or (Rb23xx.identify obs))

/-- A driver claims only observations with an SSID, as candidates labelled with it. -/
theorem claim_label {driver : String} {prefixes : List String} {obs : Observation} {c : DeviceCandidate}
    (hne : "" ∉ prefixes) (h : claim driver prefixes obs = some c) :
    c.driver = driver ∧ obs.ssid = some c.label ∧ c.label ≠ "" := by
  unfold claim at h
  cases hs : obs.ssid with
  | none => simp [hs] at h
  | some ssid =>
    simp only [hs, bind, Option.bind] at h
    split at h
    · rename_i hany
      cases h
      refine ⟨rfl, rfl, fun (hempty : ssid = "") => ?_⟩
      subst hempty
      obtain ⟨p, hp, hpre⟩ := List.any_eq_true.1 hany
      have hp0 : p = "" := by
        have := List.isPrefixOf_iff_prefix.1 hpre
        exact String.toList_eq_nil_iff.1 (List.prefix_nil.1 (by simpa using this))
      exact hne (hp0 ▸ hp)
    · exact nomatch h

/-- A claimed observation has a non-empty SSID. -/
theorem identifyObservation_label {obs : Observation} {c : DeviceCandidate} (h : identifyObservation obs = some c) :
    obs.ssid = some c.label ∧ c.label ≠ "" := by
  unfold identifyObservation at h
  rcases Option.or_eq_some_iff.1 h with h | ⟨-, h⟩
  · exact (claim_label (by decide) h).2
  · rcases Option.or_eq_some_iff.1 h with h | ⟨-, h⟩
    · exact (claim_label (by decide) h).2
    · exact (claim_label (by decide) h).2

end WirelessProgrammer
