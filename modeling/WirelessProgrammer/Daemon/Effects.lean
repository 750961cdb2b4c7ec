import WirelessProgrammer.Lib.Prog
import WirelessProgrammer.Http.Client
import WirelessProgrammer.Drivers.Registry
import WirelessProgrammer.Link.Bss
import WirelessProgrammer.Link.Z21
import WirelessProgrammer.Daemon.Jobs

/-!
# What the daemon's code does

The operations that the request threads and the worker perform: on the job registry, the candidate cache, the worker's
channel, the radio and its mutex, the `radio_held` flag, and the world outside the daemon.  Every operation is atomic, and
code is a program over them, so that any number of requests can be interleaved with the worker.
-/

namespace WirelessProgrammer

open Effect

/-! ### The candidate cache -/

/-- Cached candidate from the last scan. -/
structure CachedCandidate where
  ssid : String
  bssid : Option String
  driver : String
  key : String
  label : String
  rssi : Option Int32
  mode : ReachMode
  manual : Bool
  deriving DecidableEq

/-- Scan results keyed by driver and key; the mode is not part of the key. -/
abbrev Cache := AList fun _ : String × String => CachedCandidate

/-- What is stored under one acquisition of the cache's lock. -/
inductive CacheWrite
  | scanned (mode : ReachMode) (found : List CachedCandidate)
  | manual (c : CachedCandidate)
  deriving DecidableEq

namespace CacheWrite

/-- The entries that a scan of the given mode clears; LAN and USB scans clear none. -/
def clears (mode : ReachMode) (v : CachedCandidate) : Bool :=
  match mode with
  | .ap => v.mode = .ap
  | .z21 => v.mode = .z21 && !v.manual
  | .lan => false
  | .usb => false

def insert (cache : Cache) (c : CachedCandidate) : Cache := AList.insert (c.driver, c.key) c cache

def retain (keep : CachedCandidate → Bool) (cache : Cache) : Cache :=
  ⟨cache.entries.filter fun e => keep e.2, cache.nodupKeys.sublist List.filter_sublist⟩

theorem mem_lookup_retain {keep : CachedCandidate → Bool} {cache : Cache} {k : String × String}
    {c : CachedCandidate} : c ∈ (retain keep cache).lookup k ↔ c ∈ cache.lookup k ∧ keep c = true := by
  rw [AList.mem_lookup_iff, AList.mem_lookup_iff]
  exact List.mem_filter

def apply (cache : Cache) : CacheWrite → Cache
  | scanned mode found => found.foldl insert (retain (fun v => !clears mode v) cache)
  | manual c => insert cache c

/-- The entries that a write stores. -/
def stored : CacheWrite → List CachedCandidate
  | scanned _ found => found
  | manual c => [c]

private theorem mem_lookup_insert {cache : Cache} {k : String × String} {c c' : CachedCandidate}
    (h : c ∈ (insert cache c').lookup k) : c ∈ cache.lookup k ∨ c = c' ∧ k = (c'.driver, c'.key) := by
  by_cases hk : k = (c'.driver, c'.key)
  · subst hk
    rw [insert, AList.lookup_insert] at h
    exact .inr ⟨(Option.some.inj h).symm, rfl⟩
  · rw [insert, AList.lookup_insert_ne hk] at h
    exact .inl h

/-- An entry of the cache was there before the write, or is stored by it under its own key. -/
theorem mem_lookup_apply {w : CacheWrite} {cache : Cache} {k : String × String} {c : CachedCandidate}
    (h : c ∈ (w.apply cache).lookup k) : c ∈ cache.lookup k ∨ c ∈ w.stored ∧ k = (c.driver, c.key) := by
  have hfold : ∀ (found : List CachedCandidate) (cache : Cache), c ∈ (found.foldl insert cache).lookup k →
      c ∈ cache.lookup k ∨ c ∈ found ∧ k = (c.driver, c.key) := by
    intro found
    induction found with
    | nil => exact fun _ h => .inl h
    | cons c' found ih =>
      intro cache h
      rcases ih _ h with h | ⟨h, hk⟩
      · rcases mem_lookup_insert h with h | ⟨rfl, hk⟩
        · exact .inl h
        · exact .inr ⟨by simp, hk⟩
      · exact .inr ⟨by simp [h], hk⟩
  cases w with
  | scanned mode found =>
    rcases hfold found _ h with h | h
    · exact .inl (mem_lookup_retain.1 h).1
    · exact .inr h
  | manual c' =>
    rcases mem_lookup_insert h with h | ⟨rfl, hk⟩
    · exact .inl h
    · exact .inr ⟨by simp [stored], hk⟩

end CacheWrite

/-! ### Outside the daemon -/

/-- An mDNS advertiser; the address in dotted form. -/
structure OtaHost where
  hostname : String
  ipv4 : String
  deriving DecidableEq, Repr

structure UsbPort where
  path : String
  label : String
  deriving DecidableEq, Repr

structure Z21Host where
  hostname : String
  ipv4 : String
  port : UInt16
  serial : Option UInt32
  deriving DecidableEq, Repr

namespace Z21Host

def Z21_UDP_PORT : UInt16 := 21105

/-- Candidate key `ip:port`. -/
def key (h : Z21Host) : String := s!"{h.ipv4}:{h.port}"

/-- Human-readable scan label. -/
def label (h : Z21Host) : String :=
  if h.hostname = "" ∨ h.hostname = h.key then
    match h.serial with
    | some s => s!"Z21 {h.key} (serial {s})"
    | none => s!"Z21 {h.key}"
  else
    match h.serial with
    | some s => s!"{h.hostname} ({h.key}, serial {s})"
    | none => s!"{h.hostname} ({h.key})"

/-- Append the port when there is none. -/
def normalizeKey (key : String) : String := if ':' ∈ key.toList then key else s!"{key}:{Z21_UDP_PORT}"

end Z21Host

/-- Blocking firmware work, done off the worker thread. -/
inductive BlockingWork
  | flashUsb (port path : String) (table : Option String)
  | firmwareHttp (driver : Driver) (image : List UInt8) (filename host : String) (port : UInt16)
      (source device : Option String)
  deriving DecidableEq, Repr

/-! ### Operations -/

/-- Acquisitions of the registry's lock. -/
inductive JobOp
  | submit (driver key : String) (payload : Option JobPayload)
  | takePayload (id : String)
  | isBusy
  | transition (id : String) (state : JobState) (step : Option String) (progress : Option UInt8)
      (detail : Option String)
  | cancel (id : String)
  | isCancelled (id : String)
  | snapshot (id : String)
  deriving DecidableEq, Repr

abbrev JobOp.Res : JobOp → Type
  | submit .. => Except JobError String
  | takePayload _ => Option JobPayload
  | isBusy => Bool
  | transition .. => Unit
  | cancel _ => Unit
  | isCancelled _ => Bool
  | snapshot _ => Option JobSnapshot

def JobOp.run (now : Nat) (r : JobRegistry) : (o : JobOp) → o.Res × JobRegistry
  | submit driver key payload => r.submit now driver key payload
  | takePayload id => r.takePayload id
  | isBusy => (r.isBusy, r)
  | transition id state step progress detail => ((), r.transition id state step progress detail)
  | cancel id => ((), r.cancel id)
  | isCancelled id => (r.isCancelled id, r)
  | snapshot id => (r.snapshot id, r)

/-- Calls on the radio.  Associating is the call of `connect_open` or `connect_psk` and, some time later, its return. -/
inductive RadioOp
  | scan (max : Nat)
  | connectOpen (ssid : String) (bssid : Option (List UInt8))
  | connectPsk (ssid : String) (bssid : Option (List UInt8)) (psk : String)
  | connected
  | setAddress (addr : String) (prefixLen : UInt8)
  | linkUp
  | prepareSoftap (source host : String)
  | release
  deriving DecidableEq, Repr

abbrev RadioOp.Res : RadioOp → Type
  | scan _ => Except DriverError (List ScanResult)
  | connectOpen .. => Unit
  | connectPsk .. => Unit
  | _ => Except DriverError Unit

/-- Operations that touch nothing the daemon's threads share.  `heartbeats` is answered with the seconds that have passed
at each heartbeat of a wait. -/
inductive WorldOp
  | discoverOtaHosts
  | listUsbPorts
  | discoverZ21
  | rfkillBlocked
  | firstWirelessInterface
  | lookupHost (target : String)
  | bindUdp
  | dispatchAddr (target : String) (loco : UInt16)
  | fileSize (path : String)
  | readFile (path : String)
  | readHeader (path : String)
  | request (host : String) (port : UInt16) (r : HttpRequest)
  | deadlineElapsed
  | heartbeats
  | spawnBlocking (w : BlockingWork)
  | joinBlocking
  | storeCancel
  deriving DecidableEq, Repr

abbrev WorldOp.Res : WorldOp → Type
  | discoverOtaHosts => Except String (List OtaHost)
  | listUsbPorts => Except String (List UsbPort)
  | discoverZ21 => Except String (List Z21Host)
  | rfkillBlocked => Option Bool
  | firstWirelessInterface => Option String
  | lookupHost _ => Except String (Option String)
  | bindUdp => Except String Unit
  | dispatchAddr .. => Except String (Except DispatchError DispatchOutcome)
  | fileSize _ => Option Nat
  | readFile _ => Except String (List UInt8)
  | readHeader _ => Option (List UInt8 × Nat)
  | request .. => Except IoError (List UInt8)
  | deadlineElapsed => Bool
  | heartbeats => List Nat
  | joinBlocking => Except String (Except DriverError Outcome)
  | spawnBlocking _ => Unit
  | storeCancel => Unit

inductive Op
  | jobs (o : JobOp)
  | cached (driver key : String)
  | store (w : CacheWrite)
  | send (id : String)
  | recv
  | radioHeld
  | setHeld (held : Bool)
  | lock
  | unlock
  | radio (o : RadioOp)
  | world (o : WorldOp)
  deriving DecidableEq

/-- `send` fails when the worker's channel is closed; `recv` is the worker going back to wait for a job. -/
abbrev Op.Res : Op → Type
  | jobs o => o.Res
  | cached .. => Option CachedCandidate
  | store _ => Unit
  | send _ => Except String Unit
  | recv => Unit
  | radioHeld => Bool
  | setHeld _ => Unit
  | lock => Unit
  | unlock => Unit
  | radio o => o.Res
  | world o => o.Res

/-- Daemon code. -/
abbrev DaemonM := Prog Op Op.Res

/-! ### Their names in the source -/

abbrev perform (o : Op) : DaemonM o.Res := Prog.perform o

abbrev transition (id : String) (state : JobState) (step : Option String) (progress : Option UInt8)
    (detail : Option String) : DaemonM Unit := perform (.jobs (.transition id state step progress detail))

abbrev isCancelled (id : String) : DaemonM Bool := perform (.jobs (.isCancelled id))

abbrev snapshot (id : String) : DaemonM (Option JobSnapshot) := perform (.jobs (.snapshot id))

abbrev cached (driver key : String) : DaemonM (Option CachedCandidate) := perform (.cached driver key)

abbrev radio (o : RadioOp) : DaemonM o.Res := perform (.radio o)

abbrev world (o : WorldOp) : DaemonM o.Res := perform (.world o)

/-- Code that holds the radio's mutex. -/
def withRadio {α : Type} (body : DaemonM α) : DaemonM α := do
  perform .lock
  let a ← body
  perform .unlock
  return a

/-- Code with a `RadioHold`. -/
def withHold {α : Type} (body : DaemonM α) : DaemonM α := do
  perform (.setHeld true)
  let a ← body
  perform (.setHeld false)
  return a

/-! ### The daemon's settings -/

/-- What the runtime is built with. -/
structure Config where
  version : String
  commit : Option String
  interface : Option String
  commissioningNetOverride : Option CommissioningNet
  /-- The kernel device of the radio. -/
  radioDevice : Option String
  codecs : Codecs

namespace Config

def isFakeRadio (cfg : Config) : Bool := cfg.interface = some "fake"

def effectiveNet (cfg : Config) (d : Driver) : CommissioningNet := cfg.commissioningNetOverride.getD d.commissioningNet

end Config

/-! ### Joining a Soft-AP -/

def parseBssid (s : Option String) : Option (List UInt8) := do
  let parts := Text.splitBy (· == ':') (← s).toList
  if parts.length ≠ 6 then none
  parts.mapM fun p => match Text.parseUnsigned 16 8 p with
    | .ok n => some (UInt8.ofNat n)
    | .error _ => none

/-- The call of `radio_join`. -/
def connect (candidate : CachedCandidate) (psk : Option String) : DaemonM Unit :=
  match psk with
  | some psk => radio (.connectPsk candidate.ssid (parseBssid candidate.bssid) psk)
  | none => radio (.connectOpen candidate.ssid (parseBssid candidate.bssid))

/-- `radio_join`. -/
def radioJoin (candidate : CachedCandidate) (psk : Option String) : DaemonM (Except DriverError Unit) := do
  connect candidate psk
  radio .connected

/-- Driver code that talks to the device at `host:port`, with the handlers of its progress reports. -/
def runDriver {α : Type} (host : String) (port : UInt16) (step : String → DaemonM Unit) (progress : UInt8 → DaemonM Unit)
    (detail : String → DaemonM Unit) (x : DriverM α) : DaemonM (Except DriverError α) :=
  x.run.translate fun
    | .request r => world (.request host port r)
    | .step s => step s
    | .progress p => progress p
    | .detail d => detail d

end WirelessProgrammer
