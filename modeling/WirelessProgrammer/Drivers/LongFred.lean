import WirelessProgrammer.Lib.Json
import WirelessProgrammer.Drivers.Contract

/-!
# The LongFred driver

`wp-drivers/src/longfred`.  The configuration is one JSON `PUT`, read back and compared, after which the device is told to
leave its Soft-AP.  `readJson` and `writeJson` stand for the JSON library.
-/

namespace WirelessProgrammer

open Effect

namespace LongFred

/-! ### Constants -/

def WIFI_CONFIG_SSID_PREFIX : String := "longfred_prog"

def SETTINGS_PATH : String := "/api/v1/settings"

def FIRMWARE_PATH : String := "/api/v1/firmware"

def PROGRAMMING_MODE_OFF_PATH : String := "/api/v1/programming-mode/off"

def JSON_CONTENT_TYPE : String := "application/json"

def FIRMWARE_CONTENT_TYPE : String := "application/octet-stream"

/-- LongFred static roster capacity. -/
def MAX_ROSTER_SLOTS : UInt8 := 12

def MAX_FUNCTION : UInt8 := 0

def MAX_FIRMWARE_BYTES : Nat := 0x3C0000

def commissioningNet : CommissioningNet := ⟨"192.168.4.1", 80, "192.168.4.2", 24⟩

def capabilities : DriverCapabilities where
  maxRosterSlots := MAX_ROSTER_SLOTS
  maxFunctionIndex := MAX_FUNCTION
  identityFormat := .alphanumeric 16
  supportsThrottleServer := true
  commissioning := .softAp
  commissioningNet := some commissioningNet
  softapPsk := none
  firmware := some ⟨MAX_FIRMWARE_BYTES, "LongFred OTA slot (3.75 MiB)", .AP_LAN_USB, true, false⟩

def identify (obs : Observation) : Option DeviceCandidate := claim "longfred" [WIFI_CONFIG_SSID_PREFIX] obs

def validate (req : ProgramRequest) : Except ValidationError Unit := validateCommon capabilities req

/-! ### Settings -/

/-- Format a DCC address the way the static roster expects (`S42`, `L128`). -/
def formatRosterAddr (address : UInt16) (longAddress : Option Bool) : Option String :=
  if address = 0 ∨ address > 10239 then none
  else some ((if longAddress.getD (128 ≤ address) then "L" else "S") ++ toString address)

/-- The formatted addresses of the roster; an entry without a usable address has none. -/
def rosterAddrs (req : ProgramRequest) : List String :=
  req.roster.filterMap fun entry => do formatRosterAddr (← entry.address) entry.longAddress

/-- The body of `PUT /api/v1/settings`. -/
def buildSettingsPut (req : ProgramRequest) : Json :=
  .object [
    some ("wifi", .object [
      some ("ssid", .str req.wifi.ssid),
      Json.member "password" .str req.wifi.psk,
      if req.identity = "" then none else some ("hostname", .str req.identity)]),
    Json.member "bigfred" (fun bf => .obj [("login", .str bf.login), ("pin", .str bf.pin)]) req.bigfred,
    Json.member "roster_mode" .str req.rosterMode,
    if rosterAddrs req = [] then none
    else some ("roster", .arr ((rosterAddrs req).map fun addr => .obj [("addr", .str addr)]))]

/-- The text at a path of a settings document, empty when there is none. -/
def textAt (settings : Json) (path : List String) : String := ((settings.pointer path).bind Json.asStr?).getD ""

/-- The items of the array at a path of a settings document. -/
def itemsAt (settings : Json) (path : List String) : List Json := ((settings.pointer path).bind Json.asArray?).getD []

/-- The mismatch of one formatted roster address. -/
def verifyAddr (entries : List Json) (want : String × Nat) : List String :=
  if ((entries[want.2]?.bind (Json.get? "addr")).bind Json.asStr?) = some want.1 then []
  else [s!"roster[{want.2}].addr"]

/-- Compare a `GET` settings payload against the request; return mismatch fields. -/
def verify (settings : Json) (req : ProgramRequest) : List String :=
  (if (itemsAt settings ["wifi", "networks"]).any (fun n => n.asStr? = some req.wifi.ssid) then [] else ["wifi"]) ++
  (if req.identity ≠ "" ∧ textAt settings ["wifi", "hostname"] ≠ req.identity then ["wifi.hostname"] else []) ++
  (match req.bigfred with
    | some bf => if textAt settings ["bigfred", "login"] ≠ bf.login then ["bigfred.login"] else []
    | none => []) ++
  (match req.rosterMode with
    | some mode => if textAt settings ["roster", "mode"] ≠ mode then ["roster.mode"] else []
    | none => []) ++
  (rosterAddrs req).zipIdx.flatMap (verifyAddr (itemsAt settings ["roster", "entries"]))

/-! ### The driver -/

section Driver

variable (readJson : List UInt8 → Except String Json) (writeJson : Json → List UInt8)

/-- Read and parse the device's settings. -/
def readSettings : DriverM Json := do
  let body ← DriverM.get SETTINGS_PATH
  DriverM.liftExcept ((readJson body).mapError .parse)

def probe (t : Transport) : DriverM Json := do
  DriverM.httpClient "longfred" t
  readSettings readJson

def program (t : Transport) (req : ProgramRequest) : DriverM Outcome := do
  DriverM.httpClient "longfred" t
  DriverM.step "write"
  let _ ← DriverM.request DriverM.httpError
    ⟨"PUT", SETTINGS_PATH, some (JSON_CONTENT_TYPE, writeJson (buildSettingsPut req))⟩
  DriverM.step "verify"
  let after ← readSettings readJson
  if verify after req ≠ [] then throw (.verificationFailed (verify after req))
  DriverM.step "exit"
  let _ ← DriverM.request DriverM.httpError ⟨"POST", PROGRAMMING_MODE_OFF_PATH, none⟩
  return ⟨true, []⟩

def updateFirmware (t : Transport) (image : List UInt8) : DriverM Outcome :=
  DriverM.upload "longfred" t FIRMWARE_PATH FIRMWARE_CONTENT_TYPE image

/-- Whatever the device answers, programming issues a prefix of these requests, and all of them if it succeeds. -/
theorem program_issues (t : Transport) (req : ProgramRequest) :
    Issues (program readJson writeJson t req)
      [⟨"PUT", SETTINGS_PATH, some (JSON_CONTENT_TYPE, writeJson (buildSettingsPut req))⟩,
        ⟨"GET", SETTINGS_PATH, none⟩, ⟨"POST", PROGRAMMING_MODE_OFF_PATH, none⟩] := by
  have hread : Issues (readSettings readJson) [⟨"GET", SETTINGS_PATH, none⟩] :=
    (Issues.get _).bind fun _ => .liftExcept _
  have hlast : Issues (do
      DriverM.step "exit"
      let _ ← DriverM.request DriverM.httpError ⟨"POST", PROGRAMMING_MODE_OFF_PATH, none⟩
      return (⟨true, []⟩ : Outcome)) [⟨"POST", PROGRAMMING_MODE_OFF_PATH, none⟩] :=
    (Issues.step _).bind fun _ => (Issues.request _ _).bind fun _ => .pure _
  refine (Issues.httpClient "longfred" t).bind fun _ => (Issues.step "write").bind fun _ => ?_
  refine (Issues.request _ _).bind fun _ => (Issues.step "verify").bind fun _ => ?_
  refine hread.bind fun after => ?_
  exact .ite ((Issues.throw _ []).bind fun _ => hlast) hlast

end Driver

end LongFred

end WirelessProgrammer
