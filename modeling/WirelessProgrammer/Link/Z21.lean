import WirelessProgrammer.Link.Udp

/-!
# Z21 LAN client

Framing, and the dispatch of a LocoNet address to a command station, of `z21.rs`.
-/

namespace WirelessProgrammer

/-- Outcome of `LAN_LOCONET_DISPATCH_ADDR`. -/
inductive DispatchOutcome
  | slot (n : UInt8)
  | noAck
  deriving DecidableEq, Repr

inductive DispatchError
  | unreachable (addr : String)
  | rejected
  | unknownCommand
  | io (e : String)
  deriving DecidableEq, Repr

def DispatchError.text : DispatchError → String
  | unreachable a => s!"device unreachable: {a}"
  | rejected => "DISPATCH_PUT rejected"
  | unknownCommand => "z21 does not support LocoNet dispatch"
  | io e => e

namespace Z21

open Effect

def HEADER_GET_SERIAL_NUMBER : UInt16 := 0x0010

def HEADER_LOGOFF : UInt16 := 0x0030

def HEADER_XBUS : UInt16 := 0x0040

def HEADER_LOCONET_DISPATCH_ADDR : UInt16 := 0x00A3

/-- How long to wait for a reply to the dispatch, in milliseconds. -/
def DISPATCH_TIMEOUT : Nat := 2000

/-- How long to wait for the serial number, in milliseconds. -/
def SERIAL_PROBE_TIMEOUT : Nat := 500

/-! ### Records -/

/-- One Z21 LAN record. -/
structure Record where
  header : UInt16
  data : List UInt8
  deriving DecidableEq, Repr

def le16 (a b : UInt8) : UInt16 := a.toUInt16 ||| b.toUInt16 <<< 8

def toLeBytes (n : UInt16) : List UInt8 := [n.toUInt8, (n >>> 8).toUInt8]

/-- The length of an over-long payload saturates. -/
def encode (header : UInt16) (data : List UInt8) : List UInt8 :=
  toLeBytes (.ofNat (min (4 + data.length) 65535)) ++ toLeBytes header ++ data

def serialNumberRequest : List UInt8 := encode HEADER_GET_SERIAL_NUMBER []

def dispatchAddrRequest (loco : UInt16) : List UInt8 := encode HEADER_LOCONET_DISPATCH_ADDR (toLeBytes loco)

def logoffRequest : List UInt8 := encode HEADER_LOGOFF []

/-- Walk concatenated records in one datagram. -/
def parseRecords (buf : List UInt8) : List Record :=
  match buf with
  | l₀ :: l₁ :: h₀ :: h₁ :: data =>
    let dataLen := (le16 l₀ l₁).toNat
    if dataLen < 4 ∨ data.length + 4 < dataLen then []
    else ⟨le16 h₀ h₁, data.take (dataLen - 4)⟩ :: parseRecords (data.drop (dataLen - 4))
  | _ => []
termination_by buf.length
decreasing_by
  simp only [List.length_drop, List.length_cons]
  omega

theorem le16_toLeBytes (n : UInt16) : le16 n.toUInt8 (n >>> 8).toUInt8 = n := by
  apply UInt16.toNat_inj.1
  have hn := n.toNat_lt
  have h1 : (n >>> 8).toNat = n.toNat / 256 := by
    simp [Nat.shiftRight_eq_div_pow]
  have h2 : n.toNat / 256 < 256 := by omega
  unfold le16
  rw [UInt16.toNat_or, UInt16.toNat_shiftLeft, UInt8.toNat_toUInt16, UInt8.toNat_toUInt16,
    UInt16.toNat_toUInt8, UInt16.toNat_toUInt8, h1, Nat.or_comm]
  show (n.toNat / 256 % 256) <<< 8 % 2 ^ 16 ||| n.toNat % 256 = _
  rw [Nat.mod_eq_of_lt h2, Nat.mod_eq_of_lt (by rw [Nat.shiftLeft_eq]; omega),
    ← Nat.shiftLeft_add_eq_or_of_lt (by omega), Nat.shiftLeft_eq]
  omega

/-- A record is read back from the front of a datagram. -/
theorem parseRecords_encode (header : UInt16) (data rest : List UInt8) (h : data.length + 4 < 65536) :
    parseRecords (encode header data ++ rest) = ⟨header, data⟩ :: parseRecords rest := by
  have hlen : (UInt16.ofNat (min (4 + data.length) 65535)).toNat = data.length + 4 := by
    rw [UInt16.toNat_ofNat_of_lt' (by show _ < 65536; omega)]
    omega
  have happ : (data ++ rest).length = data.length + rest.length := List.length_append
  show parseRecords (_ :: _ :: _ :: _ :: (data ++ rest)) = _
  rw [parseRecords, le16_toLeBytes, le16_toLeBytes, hlen]
  rw [if_neg (by omega), Nat.add_sub_cancel, List.take_left, List.drop_left]

theorem parseRecords_encode_single (header : UInt16) (data : List UInt8) (h : data.length + 4 < 65536) :
    parseRecords (encode header data) = [⟨header, data⟩] := by
  have hnil : parseRecords [] = [] := by
    rw [parseRecords]
    exact nofun
  rw [← List.append_nil (encode header data), parseRecords_encode header data [] h, hnil]

/-- `LAN_X_UNKNOWN_COMMAND`. -/
def isUnknownCommand (rec : Record) : Bool :=
  rec.header = HEADER_XBUS ∧ rec.data[0]? = some 0x61 ∧ rec.data[1]? = some 0x82

/-- The address and the result of a dispatch reply. -/
def parseDispatchReply : List UInt8 → Option (UInt16 × UInt8)
  | a :: b :: result :: _ => some (le16 a b, result)
  | _ => none

/-! ### Dispatch -/

section Dispatch

variable {Addr Ip : Type} [DecidableEq Addr] [DecidableEq Ip] [ToString Addr] (ip : Addr → Ip) (target : Addr)
  (loco : UInt16)

/-- `from == target || from.ip() == target.ip()`. -/
def fromTarget (source : Addr) : Bool := source = target ∨ ip source = ip target

def isQuiet (e : IoError) : Bool := e.kind = .wouldBlock ∨ e.kind = .timedOut

/-- The records of one datagram while the serial number is awaited. -/
def probeRecord (alive : Bool) (rec : Record) : Except DispatchError Bool :=
  let alive := alive || rec.header = HEADER_GET_SERIAL_NUMBER
  if isUnknownCommand rec then .error .unknownCommand else .ok alive

/-- A pass of the first loop, which is left as soon as the Z21 is known to be alive. -/
def probePass (alive : Bool) (received : Except IoError (Datagram Addr)) : Except (Except DispatchError Unit) Bool :=
  let heard : Except DispatchError Bool :=
    match received with
    | .ok d => if fromTarget ip target d.source then (parseRecords d.bytes).foldlM probeRecord alive else .ok alive
    | .error e => if isQuiet e then .ok alive else .error (.io e.message)
  match heard with
  | .error e => .error (.error e)
  | .ok true => .error (.ok ())
  | .ok false => .ok false

/-- The records of one datagram while the reply to the dispatch is awaited. -/
def dispatchRecord (_ : Unit) (rec : Record) : Except (Except DispatchError DispatchOutcome) Unit :=
  if isUnknownCommand rec then .error (.error .unknownCommand)
  else if rec.header ≠ HEADER_LOCONET_DISPATCH_ADDR then .ok ()
  else
    match parseDispatchReply rec.data with
    | none => .ok ()
    | some (addr, result) =>
      if addr ≠ loco then .ok ()
      else if result = 0 then .error (.error .rejected)
      else .error (.ok (.slot result))

/-- A pass of the second loop. -/
def dispatchPass (_ : Unit) (received : Except IoError (Datagram Addr)) :
    Except (Except DispatchError DispatchOutcome) Unit :=
  match received with
  | .ok d => if fromTarget ip target d.source then (parseRecords d.bytes).foldlM (dispatchRecord loco) () else .ok ()
  | .error e => if isQuiet e then .ok () else .error (.error (.io e.message))

/-- Log off before returning, except after an error of the socket. -/
def leave (r : Except DispatchError DispatchOutcome) : UdpM Addr (Option (Except DispatchError DispatchOutcome)) :=
  match r with
  | .error (.io e) => return some (.error (.io e))
  | r => do
    let _ ← UdpM.sendTo logoffRequest target
    return some r

/-- The dispatch, once the probe is over. -/
def awaitDispatch (passes : Nat) (alive : Bool) : UdpM Addr (Option (Except DispatchError DispatchOutcome)) := do
  let _ ← UdpM.sendTo (dispatchAddrRequest loco) target
  let start ← UdpM.now
  match ← pollUntil (start + DISPATCH_TIMEOUT) (dispatchPass ip target loco) passes () with
  | none => return none
  | some (.error r) => leave target r
  | some (.ok ()) => leave target (if alive then .ok .noAck else .error (.unreachable (toString target)))

/-- Send DISPATCH_PUT for `loco` to `target`; the two loops have at most the given numbers of passes. -/
def dispatchAddr (probes passes : Nat) : UdpM Addr (Option (Except DispatchError DispatchOutcome)) := do
  match ← UdpM.setReadTimeout 200 with
  | .error e => return some (.error (.io e.message))
  | .ok () =>
    let _ ← UdpM.sendTo serialNumberRequest target
    let start ← UdpM.now
    match ← pollUntil (start + SERIAL_PROBE_TIMEOUT) (probePass ip target) probes false with
    | none => return none
    | some (.error (.error e)) => leave target (.error e)
    | some (.error (.ok ())) => awaitDispatch ip target loco passes true
    | some (.ok alive) => awaitDispatch ip target loco passes alive

end Dispatch

end Z21

end WirelessProgrammer
