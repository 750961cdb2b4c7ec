import WirelessProgrammer.Link.Udp

/-!
# Discovery over mDNS

The query and the collection of answers in `mdns.rs`.  The parser of packets is a walk over resource records that keeps
the port and the label of the last SRV record and takes every A record for a host.
-/

namespace WirelessProgrammer.Mdns

open Effect

def MDNS_GROUP : Ipv4Addr := ⟨224, 0, 0, 251⟩

def MDNS_PORT : UInt16 := 5353

def TYPE_A : UInt16 := 1

def TYPE_PTR : UInt16 := 12

def TYPE_SRV : UInt16 := 33

/-- LongFred STA HTTP OTA service. -/
def OTA_HTTP_SERVICE : List Char := "_longfred-ota._tcp.local".toList

/-- Z21 LAN protocol DNS-SD type. -/
def Z21_UDP_SERVICE : List Char := "_z21._udp.local".toList

/-- A device found over mDNS. -/
structure OtaHost where
  hostname : List Char
  ipv4 : Ipv4Addr
  port : UInt16
  deriving DecidableEq, Repr

namespace OtaHost

def endpoint (h : OtaHost) : SocketAddrV4 := ⟨h.ipv4, h.port⟩

end OtaHost

/-! ### Names -/

def labelsOf (name : List Char) : List (List Char) := Text.splitBy (· = '.') name

def firstLabel (name : List Char) : List Char := (labelsOf name).head?.getD "longfred".toList

def ptrQuery (service : List Char) : List UInt8 :=
  [0, 0, 0, 0, 0, 1, 0, 0, 0, 0, 0, 0] ++
    (labelsOf service).flatMap (fun label =>
      let bytes := label.flatMap String.utf8EncodeChar
      (if bytes.length < 256 then UInt8.ofNat bytes.length else 0) :: bytes) ++
    [0, 0x00, 12, 0x00, 0x01]

section Packet

variable (pkt : List UInt8)

def be16 (off : Nat) : Option UInt16 := do
  let a ← pkt[off]?
  let b ← pkt[off + 1]?
  return a.toUInt16 <<< 8 ||| b.toUInt16

/-- The loop of `read_name`: `next` is where the name ends once a pointer has been followed. -/
def readNameFrom (labels : List (List Char)) (next : Option Nat) (jumps off : Nat) : Option (List Char × Nat) :=
  match pkt[off]? with
  | none => none
  | some len =>
    if len = 0 then some (['.'].intercalate labels, next.getD (off + 1))
    else if len &&& 0xc0 = 0xc0 then
      match pkt[off + 1]? with
      | none => none
      | some low =>
        if 16 < jumps + 1 then none
        else readNameFrom labels (next.or (some (off + 2))) (jumps + 1) (256 * (len &&& 0x3f).toNat + low.toNat)
    else if off + 1 + len.toNat ≤ pkt.length then
      readNameFrom (labels ++ [Text.fromUtf8Lossy ((pkt.drop (off + 1)).take len.toNat)]) next jumps
        (off + 1 + len.toNat)
    else none
termination_by (17 - jumps, pkt.length - off)

/-- A name and where it ends. -/
def readName (start : Nat) : Option (List Char × Nat) := readNameFrom pkt [] none 0 start

section Name

variable {pkt} {labels : List (List Char)} {next : Option Nat} {jumps off : Nat}

theorem readNameFrom_root (h : pkt[off]? = some 0) :
    readNameFrom pkt labels next jumps off = some (['.'].intercalate labels, next.getD (off + 1)) := by
  rw [readNameFrom, h]
  rfl

theorem readNameFrom_label {len : UInt8} (h : pkt[off]? = some len) (h0 : len ≠ 0) (hptr : len &&& 0xc0 ≠ 0xc0)
    (hlen : off + 1 + len.toNat ≤ pkt.length) :
    readNameFrom pkt labels next jumps off =
      readNameFrom pkt (labels ++ [Text.fromUtf8Lossy ((pkt.drop (off + 1)).take len.toNat)]) next jumps
        (off + 1 + len.toNat) := by
  rw [readNameFrom, h]
  show (if len = 0 then _ else if len &&& 0xc0 = 0xc0 then _ else _) = _
  rw [if_neg h0, if_neg hptr, if_pos hlen]

end Name

def skipQuestions : Nat → Nat → Option Nat
  | 0, off => some off
  | n + 1, off => do
    let (_, nend) ← readName pkt off
    skipQuestions n (nend + 4)

/-- A resource record; its data are at `rdata`. -/
structure ResourceRecord where
  name : List Char
  typ : UInt16
  rdlen : UInt16
  rdata : Nat

/-- The record at `off`, and where the next one is. -/
def readRecord (off : Nat) : Option (ResourceRecord × Nat) := do
  let (name, nend) ← readName pkt off
  let typ ← be16 pkt nend
  let rdlen ← be16 pkt (nend + 8)
  return (⟨name, typ, rdlen, nend + 10⟩, nend + 10 + rdlen.toNat)

def ipv4At (off : Nat) : Option Ipv4Addr := do
  let a ← pkt[off]?
  let b ← pkt[off + 1]?
  let c ← pkt[off + 2]?
  let d ← pkt[off + 3]?
  return ⟨a, b, c, d⟩

/-- What the parser of packets keeps from record to record. -/
structure Parsed where
  port : UInt16
  hostname : List Char
  out : List OtaHost

namespace Parsed

def init : Parsed := ⟨80, [], []⟩

/-- One record. -/
def visit (s : Parsed) (r : ResourceRecord) : Parsed :=
  let s :=
    if r.typ = TYPE_SRV ∧ 6 ≤ r.rdlen then
      { s with port := (be16 pkt (r.rdata + 4)).getD s.port, hostname := firstLabel r.name }
    else s
  if r.typ = TYPE_A ∧ r.rdlen = 4 then
    match ipv4At pkt r.rdata with
    | some ipv4 => { s with out := s.out ++ [⟨if s.hostname = [] then firstLabel r.name else s.hostname, ipv4, s.port⟩] }
    | none => s
  else s

end Parsed

/-- The loop over at most `n` records from `off` on. -/
def parseFrom : Nat → Nat → Parsed → Parsed
  | 0, _, s => s
  | n + 1, off, s =>
    match readRecord pkt off with
    | none => s
    | some (r, off) => parseFrom n off (s.visit pkt r)

/-- `u16::saturating_add` of the answer, authority and additional counts. -/
def recordCount : Nat :=
  let count (off : Nat) : Nat := ((be16 pkt off).getD 0).toNat
  min (min (count 6 + count 8) 65535 + count 10) 65535

/-- Where the records start. -/
def recordsStart : Option Nat :=
  if pkt.length < 12 then none else skipQuestions pkt ((be16 pkt 4).getD 0).toNat 12

/-- Parse A/SRV records from an mDNS packet. -/
def parseOtaHosts : List OtaHost :=
  match recordsStart pkt with
  | none => []
  | some off => (parseFrom pkt (recordCount pkt) off .init).out

end Packet

/-! ### Discovery -/

/-- A host is kept unless its address and port are known. -/
def keep (found : List OtaHost) (h : OtaHost) : List OtaHost :=
  if found.any (fun e => e.ipv4 = h.ipv4 ∧ e.port = h.port) then found else found ++ [h]

/-- One pass of the receive loop. -/
def collect (found : List OtaHost) : Except IoError (Datagram SocketAddrV4) → Except IoError (List OtaHost)
  | .ok d => .ok ((parseOtaHosts d.bytes).foldl keep found)
  | .error e => if e.kind = .wouldBlock ∨ e.kind = .timedOut then .ok found else .error e

/-- PTR-query `service` and collect A/SRV answers. -/
def discoverMdnsHosts (passes : Nat) (service : List Char) (wait : Nat) :
    UdpM SocketAddrV4 (Option (Except IoError (List OtaHost))) := do
  match ← UdpM.listen with
  | .error e => return some (.error e)
  | .ok () =>
    let _ ← UdpM.sendTo (ptrQuery service) ⟨MDNS_GROUP, MDNS_PORT⟩
    let start ← UdpM.now
    pollUntil (start + wait) collect passes []

end WirelessProgrammer.Mdns
