import WirelessProgrammer.Daemon.Effects

/-!
# The programming worker

The half of `runtime.rs` that runs jobs: `run_job` and what it calls, from the progress sink to the end of a firmware
job.
-/

namespace WirelessProgrammer

open Effect

/-! ### Progress -/

/-- The state a driver's step stands for. -/
def stepState (step : String) : JobState :=
  if step = "read" ∨ step = "probe" then .probing
  else if step ∈ ["identity", "locos", "functions", "server", "wifi", "write"] then .writing
  else if step = "verify" then .verifying
  else if step = "restart" ∨ step = "exit" then .restarting
  else .writing

namespace JobProgressSink

def step (id step : String) : DaemonM Unit := transition id (stepState step) (some step) none none

def currentState (id : String) : DaemonM JobState := do
  let snap ← snapshot id
  return (snap.map (·.state)).getD .writing

/-- Progress is written back in the state that was read before, in an acquisition of its own. -/
def progress (id : String) (p : UInt8) : DaemonM Unit := do
  let state ← currentState id
  transition id state none (some p) none

def detail (id detail : String) : DaemonM Unit := do
  let state ← currentState id
  transition id state none none (some detail)

end JobProgressSink

/-! ### Ends of a job -/

/-- The job fails. -/
def failJob (id : String) (step : Option String) (detail : String) : DaemonM Unit :=
  transition id .failed step none (some detail)

def cancelledJob (id : String) : DaemonM Unit := transition id .cancelled none none (some "cancelled")

/-- The job is reported as cancelled, unless it has ended already. -/
def cancelledUnlessEnded (id : String) : DaemonM Unit := do
  let snap ← snapshot id
  if (snap.map fun s => !s.state.isTerminal).getD false then cancelledJob id

/-- The driver has succeeded or failed. -/
def reportOutcome (id : String) : Except DriverError Outcome → DaemonM Unit
  | .ok o => transition id .done (some "done") (some 100) (if o.restarted then some "restarted" else none)
  | .error e => failJob id none e.text

/-! ### FRED -/

/-- The result of a Z21 dispatch. -/
def reportDispatch (id : String) : Except DispatchError DispatchOutcome → DaemonM Unit
  | .ok (.slot n) => transition id .done (some "done") (some 100) (some s!"slot {n}")
  | .ok .noAck => transition id .done (some "done") (some 100) (some "noAck")
  | .error .rejected => failJob id (some "write") "dispatchFailed"
  | .error .unknownCommand => failJob id (some "write") "z21NoLocoNet"
  | .error (.unreachable _) => failJob id (some "write") "unreachable"
  | .error (.io e) => failJob id (some "write") (DispatchError.io e).text

/-- The dispatch itself, once the target and the address are known. -/
def dispatchFred (id target : String) (loco : UInt16) : DaemonM Unit := do
  if ← isCancelled id then cancelledJob id
  else
    transition id .writing (some "write") (some 10) none
    match ← world .bindUdp with
    | .error e => failJob id (some "write") s!"udp bind: {e}"
    | .ok () =>
      let outcome ← world (.dispatchAddr target loco)
      if ← isCancelled id then cancelledJob id
      else
        reportDispatch id (match outcome with
          | .ok outcome => outcome
          | .error e => .error (.io e))

def runFredProgramJob (id : String) (wire : ProgramRequestWire) (key : String) : DaemonM Unit := do
  match ← world (.lookupHost (Z21Host.normalizeKey key)) with
  | .error e => failJob id none s!"invalid Z21 address (want host:port): {e}"
  | .ok none => failJob id none "invalid Z21 address (want host:port)"
  | .ok (some target) =>
    match wire.roster.head?.bind (·.address) with
    | none => failJob id none "fred programming needs exactly one DCC address 1..=10239"
    | some loco => dispatchFred id target loco

/-! ### Joining for a job -/

/-- A step of the join has failed. -/
def abandonJoin (id : String) (e : DriverError) : DaemonM Bool := do
  failJob id (some "join") e.text
  let _ ← radio .release
  return false

/-- The steps after the association, with the device ready at the end. -/
def prepareLink (id : String) (net : CommissioningNet) (associated : Except DriverError Unit) : DaemonM Bool := do
  match associated with
  | .error e => abandonJoin id e
  | .ok () =>
    match ← radio (.setAddress net.source net.pfx) with
    | .error e => abandonJoin id e
    | .ok () =>
      match ← radio .linkUp with
      | .error e => abandonJoin id e
      | .ok () =>
        match ← radio (.prepareSoftap net.source net.host) with
        | .error e => abandonJoin id e
        | .ok () => return true

/-- Re-acquire the radio to release it. -/
def releaseRadio : DaemonM Unit := withRadio do
  let _ ← radio .release

/-! ### Programming -/

/-- A request as the drivers take it. -/
def ProgramRequestWire.toRequest (w : ProgramRequestWire) : ProgramRequest where
  identity := w.identity
  wifi := ⟨w.wifi.ssid, w.wifi.psk⟩
  server := ⟨w.server.host, w.server.port, w.server.automatic.getD false⟩
  roster := w.roster.map fun e =>
    ⟨e.address, e.longAddress, e.mode, e.direction, e.functions.map fun f => ⟨f.index, f.value⟩⟩
  bigfred := w.bigfred.map fun b => ⟨b.login, b.pin⟩
  rosterMode := w.rosterMode

/-! ### Firmware images -/

def OTA0_OFFSET : Nat := 0x10000

inductive ImageKind
  | elf
  | appBin (offset : Nat)
  | mergedBin (offset : Nat)
  deriving DecidableEq, Repr

def ImageKind.isAppBin : ImageKind → Bool
  | appBin _ => true
  | _ => false

/-- Classify an image from its path, header bytes, and length. -/
def classifyImage (path : String) (header : List UInt8) (fileLen : Nat) : Except String ImageKind :=
  let name := ((fileName path).getD "").toList.map Char.toLower
  if header.take 4 = [0x7f, 0x45, 0x4c, 0x46] then .ok .elf
  else if ".app.bin".toList.isSuffixOf name then .ok (.appBin OTA0_OFFSET)
  else if header.head? ≠ some 0xE9 then
    .error s!"{path} is not an ELF or ESP32 image (expected ELF magic or 0xE9)"
  else if ".bin".toList.isSuffixOf name && fileLen > OTA0_OFFSET then .ok (.mergedBin 0)
  else .ok (.appBin OTA0_OFFSET)

/-- The checks on an image that has been read for an upload. -/
def checkImage (fw : FirmwareCapabilities) (path : String) (image : List UInt8) : Except String Unit :=
  if image.length > fw.maxBytes then .error fw.tooLargeDetail
  else if fw.requireEspAppBin then
    match classifyImage path (image.take 16) image.length with
    | .ok (.appBin _) => .ok ()
    | .ok _ => .error "HTTP firmware needs a .app.bin ESP app image, not ELF or a merged dump"
    | .error e => .error e
  else .ok ()

/-- `str::parse::<Ipv4Addr>` succeeds: four decimal octets without leading zeros. -/
def isIpv4 (host : String) : Bool :=
  let octets := Text.splitBy (· == '.') host.toList
  octets.length = 4 && octets.all fun o =>
    o ≠ [] && o.length ≤ 3 && o.all Char.isDigit && (o.length = 1 || o.head? ≠ some '0') &&
      (Text.parseUnsigned 10 8 o).toOption.isSome

section Jobs

variable (cfg : Config)

/-- The part of `run_program_job` under the radio's mutex; `true` when the device is ready and the job goes on. -/
def joinForProgram (id : String) (candidate : CachedCandidate) (net : CommissioningNet) (driver : Driver) :
    DaemonM Bool := do
  let associated ← radioJoin candidate driver.capabilities.softapPsk
  if ← prepareLink id net associated then
    if ← isCancelled id then
      let _ ← radio .release
      cancelledJob id
      return false
    else return true
  else return false

/-- The driver programs the device, without the mutex. -/
def programDevice (id : String) (net : CommissioningNet) (driver : Driver) (req : ProgramRequest) :
    DaemonM (Except DriverError Outcome) := do
  let _ ← isCancelled id
  let outcome ← runDriver net.host net.port (JobProgressSink.step id) (JobProgressSink.progress id)
    (JobProgressSink.detail id) (driver.program cfg.codecs .http req)
  if ← world .deadlineElapsed then return .error (.deadlineElapsed "program")
  else return outcome

/-- `run_program_job` from the `RadioHold` on. -/
def programSoftAp (id : String) (candidate : CachedCandidate) (driver : Driver) (wire : ProgramRequestWire) :
    DaemonM Unit := withHold do
  let net := cfg.effectiveNet driver
  if ← withRadio (joinForProgram id candidate net driver) then
    let outcome ← programDevice cfg id net driver wire.toRequest
    releaseRadio
    if ← isCancelled id then cancelledUnlessEnded id
    else reportOutcome id outcome

def runProgramJob (id : String) (wire : ProgramRequestWire) : DaemonM Unit := do
  match ← snapshot id with
  | none => return ()
  | some snap =>
    match Driver.fromId snap.driver with
    | none => failJob id none "unknown driver"
    | some driver =>
      match ← cached snap.driver snap.key with
      | none => failJob id none "candidate not in scan cache; run scan first"
      | some candidate =>
        if driver = .fred then runFredProgramJob id wire candidate.key
        else
          transition id .joining (some "join") none none
          if ← isCancelled id then cancelledJob id
          else programSoftAp cfg id candidate driver wire

/-! ### Firmware -/

/-- The image of a firmware job, or why there is none; a USB job leaves it on disk. -/
def loadImage (fw : FirmwareCapabilities) (job : FirmwareJob) : DaemonM (Except String (List UInt8)) := do
  if job.mode = .usb then return .ok []
  else
    let size ← world (.fileSize job.path)
    if size.any (· > fw.maxBytes) then return .error fw.tooLargeDetail
    else
      match ← world (.readFile job.path) with
      | .error e => return .error s!"read {job.path}: {e}"
      | .ok [] => return .error "firmware file is empty"
      | .ok image => return (checkImage fw job.path image).map fun _ => image

/-- The key of the target, when the request does not name it. -/
def targetKey (given : Option String) (snap : JobSnapshot) : DaemonM String :=
  match given with
  | some target => return target
  | none => do
    let c ← cached snap.driver snap.key
    return (c.map (·.key)).getD snap.key

def heartbeat (id label : String) (secs : Nat) : DaemonM Unit := do
  if ← isCancelled id then world .storeCancel
  else JobProgressSink.detail id s!"{label} ({secs}s)"

/-- Run blocking firmware work off the worker thread. -/
def awaitBlockingWithHeartbeats (id label : String) (work : BlockingWork) :
    DaemonM (Except DriverError Outcome) := do
  world (.spawnBlocking work)
  let beats ← world .heartbeats
  beats.forM (heartbeat id label)
  match ← world .joinBlocking with
  | .ok outcome => return outcome
  | .error e => return .error (.other s!"firmware worker join: {e}")

/-- The announcements before an upload, and the upload. -/
def uploadFirmware (id : String) (driver : Driver) (image : List UInt8) (filename host : String) (port : UInt16)
    (source device : Option String) : DaemonM (Except DriverError Outcome) := do
  JobProgressSink.step id "write"
  JobProgressSink.detail id s!"{image.length} bytes"
  awaitBlockingWithHeartbeats id "firmware http" (.firmwareHttp driver image filename host port source device)

/-- The USB branch of `run_firmware_job`; nothing is left to finish when the job has failed already. -/
def firmwareUsb (id : String) (snap : JobSnapshot) (job : FirmwareJob) :
    DaemonM (Option (Except DriverError Outcome)) := do
  let port ← targetKey job.port snap
  if port = "" then
    failJob id none "USB firmware update needs --port or scan --mode usb"
    return none
  else
    JobProgressSink.step id "write"
    JobProgressSink.detail id s!"espflash {port}"
    let header ← world (.readHeader job.path)
    if header.any fun h => (classifyImage job.path h.1 h.2).toOption.any (·.isAppBin) then
      JobProgressSink.detail id
        "USB .app.bin writes ota_0 only; first dual-slot install needs ELF + --partition-table"
    let outcome ← awaitBlockingWithHeartbeats id s!"espflash {port}" (.flashUsb port job.path job.partitionTable)
    return some outcome

/-- The LAN branch of `run_firmware_job`. -/
def firmwareLan (id : String) (snap : JobSnapshot) (job : FirmwareJob) (driver : Driver) (image : List UInt8)
    (filename : String) : DaemonM (Option (Except DriverError Outcome)) := do
  let host ← targetKey job.host snap
  if isIpv4 host then
    let outcome ← uploadFirmware id driver image filename host 80 none none
    return some outcome
  else
    failJob id none "LAN firmware update needs an IPv4 --host or scan --mode lan key"
    return none

/-- The part of the Soft-AP branch under the radio's mutex, which reports while the radio associates. -/
def joinForFirmware (id : String) (candidate : CachedCandidate) (net : CommissioningNet) (driver : Driver) :
    DaemonM Bool := do
  connect candidate driver.capabilities.softapPsk
  let beats ← world .heartbeats
  beats.forM fun _ => JobProgressSink.detail id "associating"
  let associated ← radio .connected
  prepareLink id net associated

/-- The Soft-AP branch of `run_firmware_job`. -/
def firmwareSoftAp (id : String) (snap : JobSnapshot) (driver : Driver) (image : List UInt8) (filename : String) :
    DaemonM (Option (Except DriverError Outcome)) := do
  match ← cached snap.driver snap.key with
  | none =>
    failJob id none "candidate not in scan cache; run scan first"
    return none
  | some candidate =>
    let net := cfg.effectiveNet driver
    transition id .joining (some "join") none none
    withHold do
      if ← withRadio (joinForFirmware id candidate net driver) then
        transition id .writing (some "write") none none
        let outcome ← uploadFirmware id driver image filename net.host net.port (some s!"{net.source}:0") cfg.radioDevice
        releaseRadio
        return some outcome
      else return none

def finishFirmwareJob (id : String) (outcome : Except DriverError Outcome) : DaemonM Unit := do
  let snap ← snapshot id
  if (snap.map (·.state.isTerminal)).getD false then return ()
  else
    let cancelled ← isCancelled id
    if cancelled || outcome = .error .cancelled then cancelledJob id
    else reportOutcome id outcome

/-- The work of a firmware job, by mode, once its image is loaded. -/
def firmwareOutcome (id : String) (snap : JobSnapshot) (job : FirmwareJob) (driver : Driver) (image : List UInt8) :
    DaemonM (Option (Except DriverError Outcome)) :=
  let filename := (fileName job.path).getD "firmware.bin"
  match job.mode with
  | .usb => firmwareUsb id snap job
  | .lan => firmwareLan id snap job driver image filename
  | .z21 => do
    failJob id none "firmware update is not supported over Z21 LAN"
    return none
  | .ap => firmwareSoftAp cfg id snap driver image filename

def runFirmwareJob (id : String) (job : FirmwareJob) : DaemonM Unit := do
  match ← snapshot id with
  | none => return ()
  | some snap =>
    match Driver.fromId snap.driver with
    | none => failJob id none "unknown driver"
    | some driver =>
      match driver.capabilities.firmware with
      | none => failJob id none "firmware update is not supported"
      | some fw =>
        if fw.allows job.mode then
          match ← loadImage fw job with
          | .error detail => failJob id none detail
          | .ok image =>
            transition id .writing (some "write") (some 0) none
            match ← firmwareOutcome cfg id snap job driver image with
            | none => return ()
            | some outcome => finishFirmwareJob id outcome
        else failJob id none fw.modeRejectedDetail

/-! ### The worker -/

def runJob (id : String) : DaemonM Unit := do
  if ← isCancelled id then cancelledUnlessEnded id
  else
    match ← perform (.jobs (.takePayload id)) with
    | none => failJob id none "missing job payload"
    | some (.program wire) => runProgramJob cfg id wire
    | some (.firmware job) => runFirmwareJob cfg id job

/-- One round of `worker_loop`, back to waiting for the next job. -/
def workerRound (id : String) : DaemonM Unit := do
  runJob cfg id
  perform .recv

end Jobs

end WirelessProgrammer
