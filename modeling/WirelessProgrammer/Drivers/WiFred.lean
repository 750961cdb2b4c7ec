import WirelessProgrammer.Http.Message
import WirelessProgrammer.Drivers.Contract
import WirelessProgrammer.Drivers.WiFredConfig

/-!
# The WiFred driver

`wp-drivers/src/wifred/mod.rs`.  Programming is a fixed sequence of `GET` requests; `writePlan` is that sequence for a
request, and `program_run` says that a successful run issues exactly the requests of the plan, whatever the device
answers.
-/

namespace WirelessProgrammer

open Effect

namespace WiFred

/-! ### Constants -/

def CONFIG_XML_PATH : String := "/api/getConfigXML"

def WIFI_CONFIG_SSID_PREFIX : String := "wiFred-config"

/-- WiFred stores exactly 4 loco slots. -/
def MAX_ROSTER_SLOTS : UInt8 := 4

def MAX_FUNCTION : UInt8 := 16

def STRUCTURE_VERSION : String := "1"

/-- `Direction::DontChange`. -/
def DONT_CHANGE : UInt8 := 2

def capabilities : DriverCapabilities where
  maxRosterSlots := MAX_ROSTER_SLOTS
  maxFunctionIndex := MAX_FUNCTION
  identityFormat := .digits 6
  supportsThrottleServer := true
  commissioning := .softAp
  commissioningNet := none
  softapPsk := none
  firmware := none

def identify (obs : Observation) : Option DeviceCandidate := claim "wifred" [WIFI_CONFIG_SSID_PREFIX] obs

def validate (req : ProgramRequest) : Except ValidationError Unit := validateCommon capabilities req

/-! ### Verification -/

/-- Reject an unsupported structure version. -/
def checkStructureVersion (cfg : DeviceConfig) : Except DriverError Unit :=
  match cfg.structureVersion with
  | some v => if v = STRUCTURE_VERSION then .ok () else .error (.unsupportedStructureVersion v)
  | none => .error (.parse "missing structureVersion in device response")

/-- The address a slot should hold: `-1` disables an unused slot. -/
def wantAddr (entry : RosterEntry) : Int := (entry.address.map fun a => (a.toNat : Int)).getD (-1)

/-- The mismatch of one roster slot. -/
def verifySlot (cfg : DeviceConfig) (e : RosterEntry × Nat) : List String :=
  match cfg.locos[e.2]? with
  | some g => if g.address = wantAddr e.1 then [] else [s!"loco[{e.2 + 1}].address"]
  | none => [s!"loco[{e.2 + 1}].address"]

/-- Compare the read-back config against the request, returning mismatch field names. -/
def verify (cfg : DeviceConfig) (req : ProgramRequest) : List String :=
  (if cfg.throttleName ≠ some req.identity then ["throttleName"] else []) ++
  (if cfg.locoServer.map (·.name) ≠ some req.server.host ∨ (cfg.locoServer.map (·.port)).getD 0 ≠ req.server.port
    then ["locoServer"] else []) ++
  (if cfg.networks.any (fun n => n.ssid = req.wifi.ssid && n.enabled) then [] else ["wifi"]) ++
  req.roster.zipIdx.flatMap (verifySlot cfg)

/-! ### Requests -/

/-- The number of a slot: `(slot + 1) as u8`. -/
def slotNumber (slot : Nat) : UInt8 := UInt8.ofNat (slot + 1)

/-- `entry.address.and_then(|a| i16::try_from(a).ok()).unwrap_or(-1)`. -/
def slotAddr (entry : RosterEntry) : Int :=
  match entry.address with
  | some a => if a.toNat < 2 ^ 15 then a.toNat else -1
  | none => -1

def namePath (req : ProgramRequest) : String := "/index.html?throttleName=" ++ percentEncode req.identity

/-- The write of a slot's address, mode, direction and long flag. -/
def locoPath (e : RosterEntry × Nat) : String :=
  "/index.html?loco=" ++ toString (slotNumber e.2) ++ "&loco.address=" ++ toString (slotAddr e.1) ++
    "&loco.mode=" ++ percentEncode (e.1.mode.getD "") ++
    "&loco.direction=" ++ toString (e.1.direction.getD DONT_CHANGE) ++
    (if e.1.longAddress = some true then "&loco.longAddress=on" else "")

/-- The write of a slot's function map. -/
def functionsPath (e : RosterEntry × Nat) : String :=
  "/index.html?loco=" ++ toString (slotNumber e.2) ++
    String.join (e.1.functions.map fun fm => "&f" ++ toString fm.index ++ "=" ++ toString fm.value)

def serverPath (req : ProgramRequest) : String :=
  "/index.html?loco.serverName=" ++ percentEncode req.server.host ++ "&loco.serverPort=" ++
    toString req.server.port ++ (if req.server.automatic then "&loco.automatic=on" else "")

def removePath (req : ProgramRequest) : String := "/index.html?remove=" ++ percentEncode req.wifi.ssid

def wifiPath (req : ProgramRequest) : String :=
  "/index.html?wifiSSID=" ++ percentEncode req.wifi.ssid ++
    (match req.wifi.psk with
      | some psk => if psk = "" then "" else "&wifiKEY=" ++ percentEncode psk
      | none => "")

def RESTART_PATH : String := "/restart.html"

/-! ### The driver -/

section Driver

variable (xmlReader : List Char → XmlDocument)

/-- Read and parse the device's configuration. -/
def readConfig : DriverM DeviceConfig := do
  let body ← DriverM.get CONFIG_XML_PATH
  DriverM.liftExcept ((parseConfig xmlReader body).mapError .parse)

/-- `get` of `wifred/mod.rs`: a write whose answer is not looked at. -/
def write (path : String) : DriverM Unit := do
  let _ ← DriverM.get path

def probe (t : Transport) : DriverM Json := do
  DriverM.httpClient "wifred" t
  let cfg ← readConfig xmlReader
  DriverM.liftExcept (checkStructureVersion cfg)
  return cfg.toJson

def program (t : Transport) (req : ProgramRequest) : DriverM Outcome := do
  DriverM.httpClient "wifred" t
  DriverM.step "read"
  let before ← readConfig xmlReader
  DriverM.liftExcept (checkStructureVersion before)
  DriverM.step "identity"
  write (namePath req)
  DriverM.step "locos"
  req.roster.zipIdx.forM fun e => write (locoPath e)
  DriverM.step "functions"
  req.roster.zipIdx.forM fun e => if e.1.functions = [] then pure () else write (functionsPath e)
  DriverM.step "server"
  write (serverPath req)
  -- WiFi comes last so the device does not drop our AP mid-write
  DriverM.step "wifi"
  write (removePath req)
  write (wifiPath req)
  DriverM.step "verify"
  let after ← readConfig xmlReader
  if verify after req ≠ [] then throw (.verificationFailed (verify after req))
  DriverM.step "restart"
  write RESTART_PATH
  return ⟨true, []⟩

def updateFirmware : DriverM Outcome := throw (.other "firmware update is not supported")

/-- Blink the device LED. -/
def identifyRequest (count : Option UInt32) : String :=
  match count with
  | some n => s!"/flashred.html?count={n}"
  | none => "/flashred.html"

/-! ### The write plan -/

def getRequest (path : String) : HttpRequest := ⟨"GET", path, none⟩

/-- The function map write of a slot, if its entry has one. -/
def functionWrites (e : RosterEntry × Nat) : List String := if e.1.functions = [] then [] else [functionsPath e]

/-- The paths of a programming run that gets to its end, in order. -/
def writePlan (req : ProgramRequest) : List String :=
  [CONFIG_XML_PATH, namePath req] ++ req.roster.zipIdx.map locoPath ++ req.roster.zipIdx.flatMap functionWrites ++
    [serverPath req, removePath req, wifiPath req, CONFIG_XML_PATH, RESTART_PATH]

private theorem write_issues (path : String) : Issues (write path) [getRequest path] :=
  (Issues.get path).bind fun _ => .pure ()

private theorem readConfig_issues : Issues (readConfig xmlReader) [getRequest CONFIG_XML_PATH] :=
  (Issues.get _).bind fun _ => .liftExcept _

private theorem functions_issues (e : RosterEntry × Nat) :
    Issues (if e.1.functions = [] then pure () else write (functionsPath e)) ((functionWrites e).map getRequest) := by
  unfold functionWrites
  split
  · exact .pure ()
  · exact write_issues _

/-- Whatever the device answers, programming issues a prefix of the plan, and all of it if it succeeds. -/
theorem program_issues (t : Transport) (req : ProgramRequest) :
    Issues (program xmlReader t req) ((writePlan req).map getRequest) := by
  have hplan : (writePlan req).map getRequest =
      [getRequest CONFIG_XML_PATH] ++ ([getRequest (namePath req)] ++
        (req.roster.zipIdx.flatMap (fun e => [getRequest (locoPath e)]) ++
          (req.roster.zipIdx.flatMap (fun e => (functionWrites e).map getRequest) ++
            ([getRequest (serverPath req)] ++ ([getRequest (removePath req)] ++ ([getRequest (wifiPath req)] ++
              ([getRequest CONFIG_XML_PATH] ++ [getRequest RESTART_PATH]))))))) := by
    simp [writePlan, List.map_eq_flatMap, List.flatMap_assoc]
  have hlast : Issues (do DriverM.step "restart"; write RESTART_PATH; return (⟨true, []⟩ : Outcome))
      [getRequest RESTART_PATH] :=
    (Issues.step _).bind fun _ => (write_issues _).bind fun _ => .pure _
  rw [hplan]
  refine (Issues.httpClient "wifred" t).bind fun _ => (Issues.step "read").bind fun _ => ?_
  refine (readConfig_issues xmlReader).bind fun before => ?_
  refine (Issues.liftExcept _).bind fun _ => (Issues.step "identity").bind fun _ => ?_
  refine (write_issues _).bind fun _ => (Issues.step "locos").bind fun _ => ?_
  refine (Issues.forM fun e _ => write_issues (locoPath e)).bind fun _ => ?_
  refine (Issues.step "functions").bind fun _ => (Issues.forM fun e _ => functions_issues e).bind fun _ => ?_
  refine (Issues.step "server").bind fun _ => (write_issues _).bind fun _ => ?_
  refine (Issues.step "wifi").bind fun _ => (write_issues _).bind fun _ => (write_issues _).bind fun _ => ?_
  refine (Issues.step "verify").bind fun _ => (readConfig_issues xmlReader).bind fun after => ?_
  exact .ite ((Issues.throw _ []).bind fun _ => hlast) hlast

/-- A device that keeps showing a configuration that matches the request is programmed. -/
theorem program_succeeds {req : ProgramRequest} {answer : (o : DriverOp) → o.Res} {body : List UInt8}
    {cfg : DeviceConfig} (hread : answer (.request (getRequest CONFIG_XML_PATH)) = .ok body)
    (hparse : parseConfig xmlReader body = .ok cfg) (hversion : cfg.structureVersion = some STRUCTURE_VERSION)
    (hverify : verify cfg req = []) (hwrites : ∀ path, ∃ b, answer (.request (getRequest path)) = .ok b) :
    Succeeds answer (program xmlReader .http req) ⟨true, []⟩ := by
  have hconfig : Succeeds answer (readConfig xmlReader) cfg := by
    refine (Succeeds.get hread).bind ?_
    rw [hparse]
    rfl
  have hwrite : ∀ path, Succeeds answer (write path) () := by
    intro path
    obtain ⟨b, hb⟩ := hwrites path
    exact (Succeeds.get hb).bind (.pure ())
  have hcheck : Succeeds answer (DriverM.liftExcept (checkStructureVersion cfg)) () := by
    simp [Succeeds, checkStructureVersion, hversion, DriverM.liftExcept, Prog.exec]
  have hfun : ∀ e : RosterEntry × Nat,
      Succeeds answer (if e.1.functions = [] then pure () else write (functionsPath e)) () := by
    intro e
    split
    · exact .pure ()
    · exact hwrite _
  refine (Succeeds.pure ()).bind ((Succeeds.step "read").bind (hconfig.bind (hcheck.bind ?_)))
  refine (Succeeds.step "identity").bind ((hwrite _).bind ((Succeeds.step "locos").bind ?_))
  refine (Succeeds.forM fun e _ => hwrite _).bind ((Succeeds.step "functions").bind ?_)
  refine (Succeeds.forM fun e _ => hfun e).bind ((Succeeds.step "server").bind ((hwrite _).bind ?_))
  refine (Succeeds.step "wifi").bind ((hwrite _).bind ((hwrite _).bind ((Succeeds.step "verify").bind ?_)))
  refine hconfig.bind ?_
  simp only [hverify, ne_eq, not_true_eq_false, if_false]
  exact (Succeeds.step "restart").bind ((hwrite _).bind (.pure _))

end Driver

end WiFred

end WirelessProgrammer
