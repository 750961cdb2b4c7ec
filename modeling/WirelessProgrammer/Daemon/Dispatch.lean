import WirelessProgrammer.Daemon.Worker

/-!
# Requests

What a request thread does: the scans, the submission of jobs, `probe` and `identify` of `runtime.rs`, and the dispatch of
`ipc.rs` on the kind of the request.
-/

namespace WirelessProgrammer

open Effect

/-! ### Scans -/

/-- Claim a scan result via the driver registry. -/
def claimScanned (s : ScanResult) : Option CachedCandidate :=
  (identifyObservation ⟨s.ssid, s.bssid, s.rssi⟩).map fun c =>
    ⟨c.label, s.bssid, c.driver, c.key, c.label, c.rssi, .ap, false⟩

/-- A claimed scan result is cached under the SSID it was seen with. -/
theorem claimScanned_eq_some {s : ScanResult} {c : CachedCandidate} (h : claimScanned s = some c) :
    s.ssid = some c.ssid ∧ c.ssid ≠ "" ∧
      ∃ d, identifyObservation ⟨s.ssid, s.bssid, s.rssi⟩ = some d ∧ d.driver = c.driver ∧ d.key = c.key := by
  obtain ⟨d, hd, rfl⟩ := Option.map_eq_some_iff.1 h
  obtain ⟨hssid, hne⟩ := identifyObservation_label hd
  exact ⟨hssid, hne, d, hd, rfl, rfl⟩

/-- Store what a scan has found, and report it. -/
def storeScanned (mode : ReachMode) (found : List CachedCandidate) :
    DaemonM (Except DriverError (List CachedCandidate)) := do
  perform (.store (.scanned mode found))
  return .ok found

/-- Scan the radio and claim candidates. -/
def scan : DaemonM (Except DriverError (List CachedCandidate)) := do
  match ← withRadio (radio (.scan 64)) with
  | .error e => return .error e
  | .ok results => storeScanned .ap (results.filterMap claimScanned)

/-- A candidate without an SSID. -/
def wiredCandidate (driver : Driver) (mode : ReachMode) (manual : Bool) (key label : String) : CachedCandidate :=
  ⟨"", none, driver.idStr, key, label, none, mode, manual⟩

/-- A scan that does not use the radio. -/
def scanWired {α : Type} (name : String) (mode : ReachMode) (candidate : α → CachedCandidate)
    (discovered : Except String (List α)) : DaemonM (Except DriverError (List CachedCandidate)) :=
  match discovered with
  | .error e => return .error (.other s!"{name}: {e}")
  | .ok hosts => storeScanned mode (hosts.map candidate)

/-- Discover LongFred HTTP OTA advertisers via mDNS. -/
def scanLan : DaemonM (Except DriverError (List CachedCandidate)) := do
  let hosts ← world .discoverOtaHosts
  scanWired "mdns" .lan (fun h => wiredCandidate .longFred .lan false h.ipv4 s!"{h.hostname} ({h.ipv4})") hosts

/-- Enumerate USB serial ports. -/
def scanUsb : DaemonM (Except DriverError (List CachedCandidate)) := do
  let ports ← world .listUsbPorts
  scanWired "usb scan" .usb (fun p => wiredCandidate .longFred .usb false p.path p.label) ports

/-- Discover Z21 LAN command stations. -/
def scanZ21 : DaemonM (Except DriverError (List CachedCandidate)) := do
  let hosts ← world .discoverZ21
  scanWired "z21 scan" .z21 (fun h => wiredCandidate .fred .z21 false h.key h.label) hosts

/-- Remember a target that the caller has named. -/
def cacheManual (driver : Driver) (mode : ReachMode) (key : String) (label : Option String) : DaemonM Unit :=
  perform (.store (.manual (wiredCandidate driver mode true key (label.getD key))))

def cacheZ21Host (key : String) (label : Option String) : DaemonM Unit := cacheManual .fred .z21 key label

def cacheUsbPort (port : String) (label : Option String) : DaemonM Unit := cacheManual .longFred .usb port label

def cacheLanHost (host : String) (label : Option String) : DaemonM Unit := cacheManual .longFred .lan host label

/-! ### Submitting jobs -/

/-- Take the slot and hand the job to the worker. -/
def submitJob (driver : Driver) (key : String) (payload : JobPayload) : DaemonM (Except JobError String) := do
  match ← perform (.jobs (.submit driver.idStr key (some payload))) with
  | .error e => return .error e
  | .ok id =>
    match ← perform (.send id) with
    | .ok () => return .ok id
    | .error e =>
      failJob id none s!"worker channel closed: {e}"
      return .error (.driver (.other "worker channel closed"))

def submitFirmware (driver : Driver) (key : String) (job : FirmwareJob) : DaemonM (Except JobError String) :=
  if driver.supportsFirmwareUpdate then submitJob driver key (.firmware job)
  else return .error .firmwareUnsupported

/-- A FRED is programmed at the Z21 the request names. -/
def rememberZ21 (driver : Driver) (key : String) : DaemonM Unit :=
  if driver = .fred then do
    let known ← cached driver.idStr key
    if known.isNone then cacheZ21Host key none
  else return ()

def submitProgram (driver : Driver) (key : String) (request : ProgramRequestWire) :
    DaemonM (Except JobError String) :=
  match driver.validate request.toRequest with
  | .error e => return .error (.validation e)
  | .ok () => do
    rememberZ21 driver key
    submitJob driver key (.program request)

/-! ### Probing and blinking -/

/-- The steps after the association, each with `?`. -/
def prepareOrFail (net : CommissioningNet) : DaemonM (Except DriverError Unit) := do
  match ← radio (.setAddress net.source net.pfx) with
  | .error e => return .error e
  | .ok () =>
    match ← radio .linkUp with
    | .error e => return .error e
    | .ok () => radio (.prepareSoftap net.source net.host)

/-- Driver code without a progress sink, and the release of the radio after it. -/
def talkAndRelease {α : Type} (net : CommissioningNet) (x : DriverM α) : DaemonM (Except DriverError α) := do
  let result ← runDriver net.host net.port (fun _ => return ()) (fun _ => return ()) (fun _ => return ()) x
  let _ ← radio .release
  return result

section Requests

variable (cfg : Config)

/-- `probe` under the radio's mutex: only a failed association is cleaned up after. -/
def probeSession (candidate : CachedCandidate) (driver : Driver) : DaemonM (Except DriverError Json) := do
  let net := cfg.effectiveNet driver
  match ← radioJoin candidate driver.capabilities.softapPsk with
  | .error e =>
    let _ ← radio .release
    return .error e
  | .ok () =>
    match ← prepareOrFail net with
    | .error e => return .error e
    | .ok () => talkAndRelease net (driver.probe cfg.codecs .http)

/-- Connect to a candidate Soft-AP and probe. -/
def probe (driver : Driver) (key : String) : DaemonM (Except DriverError Json) := do
  match ← cached driver.idStr key with
  | none => return .error (.other "candidate not in scan cache; run scan first")
  | some candidate => withHold (withRadio (probeSession cfg candidate driver))

/-- `identify` under the radio's mutex: no failure is cleaned up after. -/
def identifySession (candidate : CachedCandidate) (driver : Driver) (count : Option UInt32) :
    DaemonM (Except DriverError Unit) := do
  let net := cfg.effectiveNet driver
  match ← radioJoin candidate driver.capabilities.softapPsk with
  | .error e => return .error e
  | .ok () =>
    match ← prepareOrFail net with
    | .error e => return .error e
    | .ok () => talkAndRelease net (driver.blink .http count)

/-- Blink an LED over the Soft-AP. -/
def identify (driver : Driver) (key : String) (count : Option UInt32) : DaemonM (Except DriverError Unit) := do
  match ← cached driver.idStr key with
  | none => return .error (.other "candidate not in scan cache; run scan first")
  | some candidate => withHold (withRadio (identifySession cfg candidate driver count))

/-! ### Responses -/

def IdentityFormat.toWire : IdentityFormat → IdentityFormatWire
  | .digits len => .digits len
  | .alphanumeric maxLen => .alphanumeric maxLen
  | .any => .any

def FirmwareModes.toReachModes (m : FirmwareModes) : List ReachMode :=
  (if m.ap then [.ap] else []) ++ (if m.lan then [.lan] else []) ++ (if m.usb then [.usb] else [])

def DriverCapabilities.toWire (c : DriverCapabilities) : CapabilitiesWire where
  maxRosterSlots := c.maxRosterSlots
  maxFunctionIndex := c.maxFunctionIndex
  identityFormat := c.identityFormat.toWire
  supportsThrottleServer := c.supportsThrottleServer
  commissioning := c.commissioning
  supportsFirmwareUpdate := c.firmware.isSome
  commissioningNet := c.commissioningNet
  maxFirmwareBytes := c.firmware.map fun fw => .ofNat fw.maxBytes
  firmwareModes := (c.firmware.map (·.modes.toReachModes)).getD []
  firmwareRequireEspAppBin := c.firmware.any (·.requireEspAppBin)

/-- The `hello` result's driver list. -/
def driverInfos : List DriverInfoWire :=
  [Driver.wiFred, .longFred, .fred, .rb23xx].map fun d => ⟨d.idStr, d.name, d.capabilities.toWire⟩

def CachedCandidate.toWire (c : CachedCandidate) : CandidateWire := ⟨c.driver, c.key, c.label, c.rssi⟩

def JobSnapshot.toWire (s : JobSnapshot) : JobSnapshotWire := ⟨s.id, s.state, s.driver, s.key, s.detail⟩

/-- `as_u64`, cut to 32 bits. -/
def asU32? : Json → Option UInt32
  | .num n => if 0 ≤ n ∧ n < 2 ^ 64 then some (UInt32.ofNat n.toNat) else none
  | _ => none

def deviceInfoFromProbe (driver key : String) (info : Json) : DeviceInfoWire where
  driver := driver
  key := key
  firmwareRevision := (info.get? "firmwareRevision").bind Json.asStr?
  identity := ((info.get? "throttleName").bind Json.asStr?).or ((info.pointer ["wifi", "hostname"]).bind Json.asStr?)
  batteryMv := (info.get? "batteryMv").bind asU32?
  roster := []

def okResponse (kind : RequestKind) (result : ResultBody) : Response := ⟨kind, some result, none⟩

def badParams (kind : RequestKind) : Response := errResponse kind "bad_params" "missing params"

def radioInUse (kind : RequestKind) : Response := errResponse kind "busy" "radio in use by a programming job"

def unknownDriver (kind : RequestKind) : Response := errResponse kind "unknown_driver" "no driver owns this candidate"

/-! ### Dispatch -/

def scanMode : ReachMode → DaemonM (Except DriverError (List CachedCandidate))
  | .lan => scanLan
  | .usb => scanUsb
  | .z21 => scanZ21
  | .ap => scan

def runScan (mode : ReachMode) : DaemonM Response := do
  match ← scanMode mode with
  | .ok found => return okResponse .scan (.scan (found.map CachedCandidate.toWire))
  | .error e => return errResponse .scan "scan_failed" e.text

/-- The mode that a scan request names, the radio by default. -/
def scanModeOf : Option Params → ReachMode
  | some (.scan mode) => mode
  | _ => .ap

def dispatchScan (params : Option Params) : DaemonM Response :=
  if scanModeOf params = .ap then do
    if ← perform .radioHeld then return radioInUse .scan
    else runScan (scanModeOf params)
  else runScan (scanModeOf params)

def dispatchProbe (candidate : CandidateRef) : DaemonM Response := do
  if ← perform .radioHeld then return radioInUse .probe
  else
    match Driver.fromId candidate.driver with
    | none => return unknownDriver .probe
    | some d =>
      match ← probe cfg d candidate.key with
      | .ok info => return okResponse .probe (.probe (deviceInfoFromProbe d.idStr candidate.key info))
      | .error e => return errResponse .probe "probe_failed" e.text

def dispatchProgram (candidate : CandidateRef) (request : ProgramRequestWire) : DaemonM Response :=
  match Driver.fromId candidate.driver with
  | none => return unknownDriver .program
  | some d => do
    match ← submitProgram d candidate.key request with
    | .ok id => return okResponse .program (.program ⟨id⟩)
    | .error e =>
      let code := match e with
        | .busy _ => "busy"
        | .validation _ => "validation"
        | _ => "program_failed"
      return errResponse .program code e.text

def dispatchJobGet (id : String) : DaemonM Response := do
  match ← snapshot id with
  | some s => return okResponse .jobGet (.job s.toWire)
  | none => return errResponse .jobGet "not_found" "no such job"

def dispatchJobCancel (id : String) : DaemonM Response := do
  perform (.jobs (.cancel id))
  match ← snapshot id with
  | some s => return okResponse .jobCancel (.jobCancelled s.toWire)
  | none => return errResponse .jobCancel "not_found" "no such job"

def dispatchIdentify (candidate : CandidateRef) (count : Option UInt32) : DaemonM Response := do
  if ← perform .radioHeld then return radioInUse .identify
  else
    match Driver.fromId candidate.driver with
    | none => return unknownDriver .identify
    | some d =>
      match ← identify cfg d candidate.key count with
      | .ok () => return okResponse .identify .identify
      | .error e => return errResponse .identify "driverError" e.text

def dispatchLinkStatus : DaemonM Response := do
  let blocked ← world .rfkillBlocked
  let busy ← perform (.jobs .isBusy)
  match cfg.interface with
  | some i => return okResponse .linkStatus (.linkStatus ⟨busy, some i, blocked.getD false⟩)
  | none =>
    if cfg.isFakeRadio then return okResponse .linkStatus (.linkStatus ⟨busy, some "fake", blocked.getD false⟩)
    else
      let i ← world .firstWirelessInterface
      return okResponse .linkStatus (.linkStatus ⟨busy, i, blocked.getD false⟩)

/-- A LAN host that the request names is remembered. -/
def rememberLanHost (p : UpdateFirmwareParams) : DaemonM Unit :=
  match p.mode, p.host with
  | .lan, some h => cacheLanHost h none
  | _, _ => return ()

/-- The key of the target; a USB request without one takes the only port there is. -/
def firmwareKey (mode : ReachMode) (key : String) : DaemonM (Except Response String) :=
  if key = "" ∧ mode = .usb then do
    match ← scanUsb with
    | .ok [c] => return .ok c.key
    | .ok [] => return .error (errResponse .updateFirmware "noCandidates" "no USB serial ports; pass --port")
    | .ok _ => return .error (errResponse .updateFirmware "bad_params" "multiple USB ports; pass --port")
    | .error e => return .error (errResponse .updateFirmware "scan_failed" e.text)
  else return .ok key

/-- A USB port is remembered, whether the request names it or it was found. -/
def rememberUsbPort (mode : ReachMode) (key : String) : DaemonM Unit :=
  if mode = .usb then cacheUsbPort key none else return ()

/-- The submission of a firmware job, once its key is known. -/
def submitUpdate (p : UpdateFirmwareParams) (key : String) : DaemonM Response :=
  match Driver.fromId ((p.candidate.map (·.driver)).getD "longfred") with
  | none => return unknownDriver .updateFirmware
  | some d => do
    match ← submitFirmware d key ⟨p.mode, p.path, p.host, p.port.or (if p.mode = .usb then some key else none),
      p.partitionTable⟩ with
    | .ok id => return okResponse .updateFirmware (.updateFirmware ⟨id⟩)
    | .error e =>
      let code := match e with
        | .busy _ => "busy"
        | .firmwareUnsupported => "driverError"
        | _ => "firmware_failed"
      return errResponse .updateFirmware code e.text

/-- The key that a firmware request names. -/
def UpdateFirmwareParams.key (p : UpdateFirmwareParams) : String :=
  ((p.port.or p.host).or (p.candidate.map (·.key))).getD ""

def dispatchUpdateFirmware (p : UpdateFirmwareParams) : DaemonM Response :=
  if p.key = "" ∧ p.mode ≠ .usb then
    return errResponse .updateFirmware "bad_params" "candidate.key, host, or port is required"
  else do
    rememberLanHost p
    match ← firmwareKey p.mode p.key with
    | .error resp => return resp
    | .ok key =>
      rememberUsbPort p.mode key
      submitUpdate p key

def dispatch (req : Request) : DaemonM Response :=
  match req.kind with
  | .hello => return okResponse .hello (.hello ⟨cfg.version, cfg.commit, driverInfos⟩)
  | .scan => dispatchScan req.params
  | .probe =>
    match req.params with
    | some (.probe candidate) => dispatchProbe cfg candidate
    | _ => return badParams .probe
  | .program =>
    match req.params with
    | some (.program candidate request) => dispatchProgram candidate request
    | _ => return badParams .program
  | .jobGet =>
    match req.params with
    | some (.job id) => dispatchJobGet id
    | _ => return badParams .jobGet
  | .jobWatch => return errResponse .jobWatch "internal" "job.watch must stream"
  | .jobCancel =>
    match req.params with
    | some (.job id) => dispatchJobCancel id
    | _ => return badParams .jobCancel
  | .identify =>
    match req.params with
    | some (.identify candidate count) => dispatchIdentify cfg candidate count
    | _ => return badParams .identify
  | .linkStatus => dispatchLinkStatus cfg
  | .updateFirmware =>
    match req.params with
    | some (.updateFirmware p) => dispatchUpdateFirmware p
    | _ => return badParams .updateFirmware

/-- A request thread: the response is written to the socket. -/
def serve (req : Request) : DaemonM Unit := do
  let _ ← dispatch cfg req

end Requests

end WirelessProgrammer
