import WirelessProgrammer.Core
import WirelessProgrammer.Lib.Prog

/-!
# The driver contract

`wp-core`: programming requests and their validation, capabilities, errors, and what a driver may do.  A driver method is
a program over HTTP requests and progress reports that stops at its first error.
-/

namespace WirelessProgrammer

open Effect

/-! ### Requests -/

inductive ReachMode
  | ap
  | lan
  | usb
  | z21
  deriving DecidableEq, Repr

structure WifiCredentials where
  ssid : String
  psk : Option String
  deriving DecidableEq, Repr

structure ThrottleServer where
  host : String
  port : UInt16
  automatic : Bool
  deriving DecidableEq, Repr

structure FunctionMapping where
  index : UInt8
  value : UInt8
  deriving DecidableEq, Repr

/-- One DCC vehicle slot; without an address the slot is disabled. -/
structure RosterEntry where
  address : Option UInt16
  longAddress : Option Bool
  mode : Option String
  direction : Option UInt8
  functions : List FunctionMapping
  deriving DecidableEq, Repr

structure BigfredCreds where
  login : String
  pin : String
  deriving DecidableEq, Repr

structure ProgramRequest where
  identity : String
  wifi : WifiCredentials
  server : ThrottleServer
  roster : List RosterEntry
  bigfred : Option BigfredCreds
  rosterMode : Option String
  deriving DecidableEq, Repr

/-! ### Capabilities -/

inductive IdentityFormat
  | digits (len : UInt8)
  | alphanumeric (maxLen : UInt8)
  | any
  deriving DecidableEq, Repr

def IdentityFormat.matches : IdentityFormat → String → Bool
  | .digits len, value => value.utf8ByteSize == len.toNat && value.toList.all Char.isDigit
  | .alphanumeric maxLen, value =>
    value ≠ "" && value.utf8ByteSize ≤ maxLen.toNat && value.toList.all Char.isAlphanum
  | .any, _ => true

/-- Digits are single bytes. -/
theorem utf8ByteSize_of_digits {s : String} (h : ∀ c ∈ s.toList, c.isDigit = true) : s.utf8ByteSize = s.toList.length := by
  have hlist : ∀ l : List Char, (∀ c ∈ l, c.isDigit = true) → (String.ofList l).utf8ByteSize = l.length := by
    intro l
    induction l with
    | nil => exact fun _ => rfl
    | cons c l ih =>
      intro hl
      have hc := hl c List.mem_cons_self
      have hsize : c.utf8Size = 1 := by
        simp only [Char.isDigit, Bool.and_eq_true, decide_eq_true_eq] at hc
        have := hc.2
        have hle : c.val ≤ 0x7f := UInt32.le_trans this (by decide)
        exact if_pos hle
      rw [String.ofList_cons, String.utf8ByteSize_append, ih fun c' hc' => hl c' (List.mem_cons_of_mem c hc'),
        String.utf8ByteSize_singleton, hsize, List.length_cons, Nat.add_comm]
  have := hlist s.toList h
  rwa [String.ofList_toList] at this

theorem IdentityFormat.matches_digits {len : UInt8} {value : String} :
    (IdentityFormat.digits len).matches value = true ↔
      value.toList.length = len.toNat ∧ ∀ c ∈ value.toList, c.isDigit = true := by
  simp only [IdentityFormat.matches, Bool.and_eq_true, beq_iff_eq, List.all_eq_true]
  constructor
  · rintro ⟨hsize, hdigits⟩
    exact ⟨utf8ByteSize_of_digits hdigits ▸ hsize, hdigits⟩
  · rintro ⟨hlen, hdigits⟩
    exact ⟨utf8ByteSize_of_digits hdigits ▸ hlen, hdigits⟩

inductive CommissioningKind
  | softAp
  | lan
  | serial
  deriving DecidableEq, Repr

/-- On-link Soft-AP addressing; addresses in dotted form. -/
structure CommissioningNet where
  host : String
  port : UInt16
  source : String
  pfx : UInt8
  deriving DecidableEq, Repr

structure FirmwareModes where
  ap : Bool
  lan : Bool
  usb : Bool
  deriving DecidableEq, Repr

namespace FirmwareModes

/-- Soft-AP only. -/
def AP : FirmwareModes := ⟨true, false, false⟩

/-- Soft-AP, LAN HTTP OTA, and USB. -/
def AP_LAN_USB : FirmwareModes := ⟨true, true, true⟩

/-- `Z21` is never a firmware path. -/
def allows (m : FirmwareModes) : ReachMode → Bool
  | .ap => m.ap
  | .lan => m.lan
  | .usb => m.usb
  | .z21 => false

end FirmwareModes

structure FirmwareCapabilities where
  maxBytes : Nat
  maxBytesLabel : String
  modes : FirmwareModes
  requireEspAppBin : Bool
  successOnResetAfterWrite : Bool
  deriving DecidableEq, Repr

namespace FirmwareCapabilities

def allows (fw : FirmwareCapabilities) (mode : ReachMode) : Bool := fw.modes.allows mode

def tooLargeDetail (fw : FirmwareCapabilities) : String := s!"firmware image exceeds {fw.maxBytesLabel}"

def modeRejectedDetail (fw : FirmwareCapabilities) : String :=
  if fw.modes = .AP then "firmware update is Soft-AP only" else "firmware update is not supported in this mode"

end FirmwareCapabilities

structure DriverCapabilities where
  maxRosterSlots : UInt8
  maxFunctionIndex : UInt8
  identityFormat : IdentityFormat
  supportsThrottleServer : Bool
  commissioning : CommissioningKind
  commissioningNet : Option CommissioningNet
  softapPsk : Option String
  firmware : Option FirmwareCapabilities
  deriving DecidableEq, Repr

/-! ### Discovery -/

/-- A raw scan observation. -/
structure Observation where
  ssid : Option String
  bssid : Option String
  rssi : Option Int32
  deriving DecidableEq

structure DeviceCandidate where
  driver : String
  key : String
  label : String
  rssi : Option Int32
  deriving DecidableEq

/-- Claim an observation whose SSID starts with one of the prefixes; the BSSID is the key, if there is one. -/
def claim (driver : String) (prefixes : List String) (obs : Observation) : Option DeviceCandidate := do
  let ssid ← obs.ssid
  if prefixes.any fun p => p.toList.isPrefixOf ssid.toList then
    some ⟨driver, obs.bssid.getD ssid, ssid, obs.rssi⟩
  else none

/-! ### Errors -/

inductive ValidationError
  | identityFormat
  | capacityExceeded (capacity requested : Nat)
  | functionIndexOutOfRange (index max : UInt8)
  | addressOutOfRange (addr : UInt16)
  | emptySsid
  | serverUnsupported
  | rosterEntry (slot : Nat) (reason : String)
  deriving DecidableEq, Repr

def ValidationError.text : ValidationError → String
  | .identityFormat => "identity does not match required format"
  | .capacityExceeded capacity requested => s!"roster of {requested} entries exceeds {capacity} slots"
  | .functionIndexOutOfRange index max => s!"function index {index} exceeds maximum {max}"
  | .addressOutOfRange addr => s!"dcc address {addr} out of range 1..=10239"
  | .emptySsid => "wifi ssid must not be empty"
  | .serverUnsupported => "driver does not support a throttle server"
  | .rosterEntry slot reason => s!"roster entry at index {slot} is invalid: {reason}"

inductive DriverError
  | radioBlocked
  | noInterface
  | associationTimedOut
  | deviceUnreachable (probed : String)
  | http (e : String)
  | parse (e : String)
  | unsupportedStructureVersion (v : String)
  | verificationFailed (mismatches : List String)
  | cancelled
  | deadlineElapsed (what : String)
  | other (e : String)
  deriving DecidableEq, Repr

/-- A list of field names as `{:?}` prints it. -/
def debugNames (names : List String) : String :=
  "[" ++ ", ".intercalate (names.map fun n => "\"" ++ n ++ "\"") ++ "]"

def DriverError.text : DriverError → String
  | .radioBlocked => "radio blocked by rfkill"
  | .noInterface => "no wireless interface available"
  | .associationTimedOut => "association timed out"
  | .deviceUnreachable probed => s!"device unreachable: {probed}"
  | .http e => s!"http error: {e}"
  | .parse e => s!"device response parse error: {e}"
  | .unsupportedStructureVersion v => s!"unsupported device structure version: {v}"
  | .verificationFailed mismatches => s!"verification failed: {debugNames mismatches}"
  | .cancelled => "cancelled"
  | .deadlineElapsed what => s!"deadline elapsed: {what}"
  | .other e => e

/-! ### Shared validation -/

/-- The checks on one function mapping; `seen` are the slots and indexes before it. -/
def validateFunction (caps : DriverCapabilities) (slot : Nat) (seen : List (Nat × UInt8)) (fm : FunctionMapping) :
    Except ValidationError (List (Nat × UInt8)) :=
  if fm.index > caps.maxFunctionIndex then .error (.functionIndexOutOfRange fm.index caps.maxFunctionIndex)
  else if (slot, fm.index) ∈ seen then .error (.rosterEntry slot "duplicate function index")
  else .ok ((slot, fm.index) :: seen)

/-- The checks on one roster entry. -/
def validateEntry (caps : DriverCapabilities) (seen : List (Nat × UInt8)) (e : RosterEntry × Nat) :
    Except ValidationError (List (Nat × UInt8)) := do
  if let some addr := e.1.address then
    if ¬ (1 ≤ addr ∧ addr ≤ 10239) then throw (.addressOutOfRange addr)
  e.1.functions.foldlM (validateFunction caps e.2) seen

/-- Capacity, identity format, address range, function index range, SSID non-empty, server support. -/
def validateCommon (caps : DriverCapabilities) (req : ProgramRequest) : Except ValidationError Unit := do
  if !caps.identityFormat.matches req.identity then throw .identityFormat
  if req.wifi.ssid = "" then throw .emptySsid
  if !caps.supportsThrottleServer then throw .serverUnsupported
  if req.roster.length > caps.maxRosterSlots.toNat then
    throw (.capacityExceeded caps.maxRosterSlots.toNat req.roster.length)
  let _ ← req.roster.zipIdx.foldlM (validateEntry caps) []

/-- What validation asks of one roster entry. -/
structure CheckedEntry (caps : DriverCapabilities) (e : RosterEntry) : Prop where
  address : ∀ a, e.address = some a → 1 ≤ a ∧ a ≤ 10239
  index : ∀ fm ∈ e.functions, fm.index ≤ caps.maxFunctionIndex
  nodup : (e.functions.map (·.index)).Nodup

private theorem foldlM_validateFunction {caps : DriverCapabilities} {slot : Nat} {seen seen' : List (Nat × UInt8)}
    {l : List FunctionMapping} :
    l.foldlM (validateFunction caps slot) seen = .ok seen' ↔
      (∀ fm ∈ l, fm.index ≤ caps.maxFunctionIndex) ∧ (l.map (·.index)).Nodup ∧ (∀ fm ∈ l, (slot, fm.index) ∉ seen) ∧
        (l.map fun fm => (slot, fm.index)).reverse ++ seen = seen' := by
  induction l generalizing seen with
  | nil => simp [pure, Except.pure]
  | cons fm l ih =>
    rw [List.foldlM_cons]
    by_cases hmax : fm.index > caps.maxFunctionIndex
    · have hgt : ¬ fm.index ≤ caps.maxFunctionIndex := UInt8.not_le.2 hmax
      simp [validateFunction, hmax, hgt, bind, Except.bind]
    · have hle : fm.index ≤ caps.maxFunctionIndex := UInt8.not_lt.1 hmax
      by_cases hdup : (slot, fm.index) ∈ seen
      · simp [validateFunction, hmax, hdup, bind, Except.bind]
      · have hstep : validateFunction caps slot seen fm = .ok ((slot, fm.index) :: seen) := by
          rw [validateFunction, if_neg hmax, if_neg hdup]
        rw [hstep]
        refine ih.trans ?_
        -- the index of `fm` is new: it is neither in `seen` nor among the later ones
        have hnew : (∀ fm' ∈ l, (slot, fm'.index) ∉ (slot, fm.index) :: seen) ↔
            fm.index ∉ l.map (·.index) ∧ ∀ fm' ∈ l, (slot, fm'.index) ∉ seen := by
          simp only [List.mem_cons, Prod.mk.injEq, true_and, not_or, List.mem_map, not_exists, not_and]
          exact ⟨fun h => ⟨fun fm' hmem heq => (h fm' hmem).1 heq, fun fm' hmem => (h fm' hmem).2⟩,
            fun h fm' hmem => ⟨h.1 fm' hmem, h.2 fm' hmem⟩⟩
        rw [hnew, List.forall_mem_cons, List.forall_mem_cons, List.map_cons, List.nodup_cons, List.map_cons,
          List.reverse_cons, List.append_assoc, List.singleton_append]
        tauto

private theorem validateEntry_eq_ok_iff {caps : DriverCapabilities} {seen seen' : List (Nat × UInt8)}
    {e : RosterEntry × Nat} : validateEntry caps seen e = .ok seen' ↔
      CheckedEntry caps e.1 ∧ (∀ fm ∈ e.1.functions, (e.2, fm.index) ∉ seen) ∧
        (e.1.functions.map fun fm => (e.2, fm.index)).reverse ++ seen = seen' := by
  have hfunctions := @foldlM_validateFunction caps e.2 seen seen' e.1.functions
  have haddress : validateEntry caps seen e = .ok seen' ↔
      (∀ a, e.1.address = some a → 1 ≤ a ∧ a ≤ 10239) ∧
        e.1.functions.foldlM (validateFunction caps e.2) seen = .ok seen' := by
    unfold validateEntry
    cases ha : e.1.address with
    | none => simp
    | some a =>
      by_cases hrange : 1 ≤ a ∧ a ≤ 10239
      · simp [hrange]
      · simp [hrange, bind, Except.bind]
  rw [haddress, hfunctions]
  constructor
  · rintro ⟨ha, hindex, hnodup, hnew, heq⟩
    exact ⟨⟨ha, hindex, hnodup⟩, hnew, heq⟩
  · rintro ⟨⟨ha, hindex, hnodup⟩, hnew, heq⟩
    exact ⟨ha, hindex, hnodup, hnew, heq⟩

/-- The slots and indexes seen before an entry belong to earlier slots, so every entry is checked by itself. -/
theorem foldlM_validateEntry {caps : DriverCapabilities} {roster : List RosterEntry} {k : Nat} {seen : List (Nat × UInt8)}
    (hseen : ∀ p ∈ seen, p.1 < k) :
    (∃ seen', (roster.zipIdx k).foldlM (validateEntry caps) seen = .ok seen') ↔
      ∀ e ∈ roster, CheckedEntry caps e := by
  induction roster generalizing k seen with
  | nil => simp [pure, Except.pure]
  | cons e roster ih =>
    rw [List.zipIdx_cons, List.foldlM_cons, List.forall_mem_cons]
    by_cases he : CheckedEntry caps e
    · have hstep : validateEntry caps seen (e, k) = .ok ((e.functions.map fun fm => (k, fm.index)).reverse ++ seen) := by
        refine validateEntry_eq_ok_iff.2 ⟨he, fun fm _ hmem => ?_, rfl⟩
        exact absurd (hseen _ hmem) (Nat.lt_irrefl k)
      rw [hstep, and_iff_right he]
      refine ih fun p hp => ?_
      rcases List.mem_append.1 hp with hp | hp
      · obtain ⟨fm, -, rfl⟩ := List.mem_map.1 (List.mem_reverse.1 hp)
        exact Nat.lt_succ_self k
      · exact Nat.lt_succ_of_lt (hseen p hp)
    · cases hstep : validateEntry caps seen (e, k) with
      | ok seen₁ => exact absurd (validateEntry_eq_ok_iff.1 hstep).1 he
      | error x => simp [he, bind, Except.bind]

/-- A request is accepted exactly if it passes every check. -/
theorem validateCommon_eq_ok_iff {caps : DriverCapabilities} {req : ProgramRequest} :
    validateCommon caps req = .ok () ↔
      caps.identityFormat.matches req.identity = true ∧ req.wifi.ssid ≠ "" ∧ caps.supportsThrottleServer = true ∧
        req.roster.length ≤ caps.maxRosterSlots.toNat ∧ ∀ e ∈ req.roster, CheckedEntry caps e := by
  rw [← @foldlM_validateEntry caps req.roster 0 [] nofun]
  unfold validateCommon
  by_cases hid : caps.identityFormat.matches req.identity = true
  swap
  · simp [hid, bind, Except.bind]
  by_cases hssid : req.wifi.ssid = ""
  · simp [hid, hssid, bind, Except.bind, pure, Except.pure]
  by_cases hserver : caps.supportsThrottleServer = true
  swap
  · simp [hid, hssid, hserver, bind, Except.bind, pure, Except.pure]
  by_cases hlen : req.roster.length ≤ caps.maxRosterSlots.toNat
  swap
  · simp [hid, hssid, hserver, hlen, Nat.not_le.1 hlen, bind, Except.bind, pure, Except.pure]
  cases hfold : req.roster.zipIdx.foldlM (validateEntry caps) [] with
  | ok seen => simp [hid, hssid, hserver, hlen, Nat.not_lt.2 hlen, bind, Except.bind, pure, Except.pure]
  | error e => simp [hid, hssid, hserver, hlen, Nat.not_lt.2 hlen, bind, Except.bind]

theorem validateCommon_roster {caps : DriverCapabilities} {req : ProgramRequest}
    (h : validateCommon caps req = .ok ()) : req.roster.length ≤ caps.maxRosterSlots.toNat :=
  (validateCommon_eq_ok_iff.1 h).2.2.2.1

/-- Every entry of an accepted roster passed its checks. -/
theorem validateCommon_entry {caps : DriverCapabilities} {req : ProgramRequest} (h : validateCommon caps req = .ok ())
    {e : RosterEntry} (he : e ∈ req.roster) : CheckedEntry caps e :=
  (validateCommon_eq_ok_iff.1 h).2.2.2.2 e he

/-! ### Driver programs -/

/-- A transport handed to a driver. -/
inductive Transport
  | http
  | bytes
  deriving DecidableEq, Repr

/-- What a driver does: requests to the device, and reports to the progress sink. -/
inductive DriverOp
  | request (r : HttpRequest)
  | step (s : String)
  | progress (p : UInt8)
  | detail (d : String)
  deriving DecidableEq, Repr

abbrev DriverOp.Res : DriverOp → Type
  | .request _ => Except IoError (List UInt8)
  | _ => Unit

/-- The outcome of a successful run. -/
structure Outcome where
  restarted : Bool
  mismatches : List String
  deriving DecidableEq, Repr

/-- Driver code: it stops at the first error. -/
abbrev DriverM := ExceptT DriverError (Prog DriverOp DriverOp.Res)

namespace DriverM

def step (s : String) : DriverM Unit := ExceptT.mk (.op (.step s) fun _ => .ret (.ok ()))

def detail (d : String) : DriverM Unit := ExceptT.mk (.op (.detail d) fun _ => .ret (.ok ()))

/-- A request, with the driver's error for a failure. -/
def request (onError : IoError → DriverError) (r : HttpRequest) : DriverM (List UInt8) :=
  ExceptT.mk (.op (.request r) fun answer => .ret (Except.mapError onError answer))

def httpError (e : IoError) : DriverError := .http e.message

/-- `client.get`. -/
def get (path : String) : DriverM (List UInt8) := request httpError ⟨"GET", path, none⟩

def liftExcept {α : Type} (x : Except DriverError α) : DriverM α := ExceptT.mk (.ret x)

/-- A failed upload; an interrupted one was cancelled. -/
def uploadError (e : IoError) : DriverError := if e.kind = .interrupted then .cancelled else .http e.message

/-- The HTTP client of a transport. -/
def httpClient (name : String) (t : Transport) : DriverM Unit :=
  match t with
  | .http => pure ()
  | .bytes => throw (.other s!"{name} driver requires an HTTP transport")

/-- `POST` a firmware image. -/
def upload (name : String) (t : Transport) (path contentType : String) (image : List UInt8) : DriverM Outcome := do
  httpClient name t
  step "write"
  detail s!"{image.length} bytes"
  let _ ← request uploadError ⟨"POST", path, some (contentType, image)⟩
  step "restart"
  return ⟨true, []⟩

end DriverM

/-! ### The requests of a run -/

/-- The requests of a run, with their answers left out. -/
def requestsOf (tr : List (Event DriverOp DriverOp.Res)) : List HttpRequest :=
  tr.filterMap fun e => match e with
    | ⟨.request r, _⟩ => some r
    | _ => none

@[simp] theorem requestsOf_append (t₁ t₂ : List (Event DriverOp DriverOp.Res)) :
    requestsOf (t₁ ++ t₂) = requestsOf t₁ ++ requestsOf t₂ := List.filterMap_append ..

/-- Whatever the device answers, the driver code issues a prefix of these requests, and all of them if it ends well. -/
def Issues {α : Type} (x : DriverM α) (reqs : List HttpRequest) : Prop :=
  ∀ tr r, Prog.Run x.run tr r → requestsOf tr <+: reqs ∧ ∀ a, r = .ok a → requestsOf tr = reqs

namespace Issues

variable {α β : Type}

theorem pure (a : α) : Issues (pure a) [] := by
  intro tr r h
  obtain ⟨rfl, rfl⟩ := Prog.run_ret.1 h
  exact ⟨List.prefix_rfl, fun _ _ => rfl⟩

theorem throw (e : DriverError) (reqs : List HttpRequest) : Issues (throw e : DriverM α) reqs := by
  intro tr r h
  obtain ⟨rfl, rfl⟩ := Prog.run_ret.1 h
  exact ⟨List.nil_prefix, fun _ h => nomatch h⟩

theorem bind {x : DriverM α} {f : α → DriverM β} {l₁ l₂ : List HttpRequest} (hx : Issues x l₁)
    (hf : ∀ a, Issues (f a) l₂) : Issues (x >>= f) (l₁ ++ l₂) := by
  intro tr r h
  rcases Prog.run_except_bind.1 h with ⟨e, he, rfl⟩ | ⟨t₁, t₂, a, rfl, h₁, h₂⟩
  · exact ⟨(hx _ _ he).1.trans (List.prefix_append ..), fun _ h => nomatch h⟩
  · obtain ⟨hpre, hall⟩ := hf a _ _ h₂
    rw [requestsOf_append, (hx _ _ h₁).2 a rfl]
    exact ⟨(List.prefix_append_right_inj _).2 hpre, fun b hb => by rw [hall b hb]⟩

theorem liftExcept (x : Except DriverError α) : Issues (DriverM.liftExcept x) [] := by
  intro tr r h
  obtain ⟨rfl, -⟩ := Prog.run_ret.1 h
  exact ⟨List.prefix_rfl, fun _ _ => rfl⟩

theorem step (s : String) : Issues (DriverM.step s) [] := by
  intro tr r h
  obtain ⟨u, tr, rfl, hret⟩ := Prog.run_op.1 h
  obtain ⟨rfl, -⟩ := Prog.run_ret.1 hret
  exact ⟨List.prefix_rfl, fun _ _ => rfl⟩

theorem detail (d : String) : Issues (DriverM.detail d) [] := by
  intro tr r h
  obtain ⟨u, tr, rfl, hret⟩ := Prog.run_op.1 h
  obtain ⟨rfl, -⟩ := Prog.run_ret.1 hret
  exact ⟨List.prefix_rfl, fun _ _ => rfl⟩

theorem request (onError : IoError → DriverError) (q : HttpRequest) : Issues (DriverM.request onError q) [q] := by
  intro tr r h
  obtain ⟨answer, tr, rfl, hret⟩ := Prog.run_op.1 h
  obtain ⟨rfl, -⟩ := Prog.run_ret.1 hret
  exact ⟨List.prefix_rfl, fun _ _ => rfl⟩

theorem get (path : String) : Issues (DriverM.get path) [⟨"GET", path, none⟩] := request _ _

theorem httpClient (name : String) (t : Transport) : Issues (DriverM.httpClient name t) [] := by
  cases t with
  | http => exact pure ()
  | bytes => exact throw _ _

theorem ite {c : Prop} [Decidable c] {x y : DriverM α} {reqs : List HttpRequest} (hx : Issues x reqs)
    (hy : Issues y reqs) : Issues (if c then x else y) reqs := by
  split
  · exact hx
  · exact hy

/-- A loop issues what its passes issue, one after the other. -/
theorem forM {l : List β} {f : β → DriverM PUnit} {g : β → List HttpRequest} (h : ∀ b ∈ l, Issues (f b) (g b)) :
    Issues (l.forM f) (l.flatMap g) := by
  induction l with
  | nil => exact pure _
  | cons b l ih =>
    show Issues (f b >>= fun _ => l.forM f) (g b ++ l.flatMap g)
    exact (h b (by simp)).bind fun _ => ih fun b hb => h b (by simp [hb])

end Issues

/-! ### Runs against a given device -/

/-- With these answers the driver code ends well, with `a`. -/
def Succeeds {α : Type} (answer : (o : DriverOp) → o.Res) (x : DriverM α) (a : α) : Prop :=
  (x.run.exec answer).2 = .ok a

namespace Succeeds

variable {answer : (o : DriverOp) → o.Res} {α β : Type}

theorem run {x : DriverM α} {a : α} (h : Succeeds answer x a) : Prog.Run x.run (x.run.exec answer).1 (.ok a) :=
  h ▸ Prog.run_exec answer x.run

theorem bind {x : DriverM α} {f : α → DriverM β} {a : α} {b : β} (hx : Succeeds answer x a)
    (hf : Succeeds answer (f a) b) : Succeeds answer (x >>= f) b := by
  unfold Succeeds at *
  rw [ExceptT.run_bind, Prog.exec_bind, hx]
  exact hf

theorem pure (a : α) : Succeeds answer (pure a) a := rfl

theorem step (s : String) : Succeeds answer (DriverM.step s) () := rfl

theorem get {path : String} {body : List UInt8} (h : answer (.request ⟨"GET", path, none⟩) = .ok body) :
    Succeeds answer (DriverM.get path) body := by
  show Except.mapError _ (answer (.request ⟨"GET", path, none⟩)) = _
  rw [h]
  rfl

theorem forM {l : List β} {f : β → DriverM PUnit} (h : ∀ b ∈ l, Succeeds answer (f b) ()) :
    Succeeds answer (l.forM f) () := by
  induction l with
  | nil => rfl
  | cons b l ih =>
    show Succeeds answer (f b >>= fun _ => l.forM f) ()
    exact (h b (by simp)).bind (ih fun b hb => h b (by simp [hb]))

end Succeeds

end WirelessProgrammer
