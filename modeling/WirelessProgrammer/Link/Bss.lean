import WirelessProgrammer.Core

/-!
# Scan results

What the radio makes of the attributes of a BSS: the address, the signal, and the SSID, which is the first element with
id 0 in the information elements of the access point.
-/

namespace WirelessProgrammer

/-- A scan result from the radio. -/
structure ScanResult where
  ssid : Option String
  bssid : Option String
  rssi : Option Int32
  deriving DecidableEq

structure Mac where
  a : UInt8
  b : UInt8
  c : UInt8
  d : UInt8
  e : UInt8
  f : UInt8

/-- `Nl80211BssInfo`; the attributes that are not looked at are `other`. -/
inductive BssInfo
  | bssid (mac : Mac)
  | signalMbm (mbm : Int32)
  | rawInformationElements (ies : List UInt8)
  | rawBeaconInformationElements (ies : List UInt8)
  | rawProbeResponseInformationElements (ies : List UInt8)
  | other

/-- `{:02x}`. -/
def hexByte (b : UInt8) : List Char := [Nat.digitChar (b.toNat / 16), Nat.digitChar (b.toNat % 16)]

/-- Format a MAC as lowercase colon-separated hex. -/
def formatBssid (mac : Mac) : String :=
  String.ofList ([':'].intercalate ([mac.a, mac.b, mac.c, mac.d, mac.e, mac.f].map hexByte))

/-- Extract an SSID from raw 802.11 information elements, from the cursor on (TLV: id, len, data). -/
def ssidFromIes : List UInt8 → Option String
  | id :: len :: rest =>
    if rest.length < len.toNat then none
    else if id = 0 then
      if len = 0 then none else some (String.ofList (Text.fromUtf8Lossy (rest.take len.toNat)))
    else ssidFromIes (rest.drop len.toNat)
  | _ => none
termination_by ies => ies.length
decreasing_by
  rw [List.length_drop, List.length_cons, List.length_cons]
  omega

/-- An attribute; the first information elements with an SSID count. -/
def BssInfo.visit (r : ScanResult) : BssInfo → ScanResult
  | bssid mac => { r with bssid := some (formatBssid mac) }
  | signalMbm mbm => { r with rssi := some (mbm / 100) }
  | rawInformationElements ies | rawBeaconInformationElements ies | rawProbeResponseInformationElements ies =>
    if r.ssid = none then { r with ssid := ssidFromIes ies } else r
  | other => r

/-- Parse one BSS info vector into a `ScanResult`. -/
def parseBssInfos (bss : List BssInfo) : Option ScanResult :=
  let r := bss.foldl BssInfo.visit ⟨none, none, none⟩
  if r.ssid = none ∧ r.bssid = none then none else some r

end WirelessProgrammer
