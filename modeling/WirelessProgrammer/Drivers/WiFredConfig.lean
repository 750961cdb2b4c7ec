import WirelessProgrammer.Core
import WirelessProgrammer.Lib.Json

/-!
# The WiFred configuration document

`wp-drivers/src/wifred/xml.rs`: what the driver reads out of `/api/getConfigXML`.  The XML reader itself is a library; it
enters as the list of events it delivers for a text.
-/

namespace WirelessProgrammer

open Text

/-! ### Events of the XML reader -/

/-- An element with its well-formed attributes in order; a value that cannot be unescaped is absent. -/
structure XmlElement where
  name : String
  attributes : List (String × Option String)
  deriving DecidableEq, Repr

inductive XmlEvent
  | start (e : XmlElement)
  | empty (e : XmlElement)
  | endTag (name : String)
  | other
  deriving DecidableEq, Repr

/-- What the reader delivers for a text: events, and the text of the error it stops at, if it does not reach the end. -/
structure XmlDocument where
  events : List XmlEvent
  error : Option String
  deriving DecidableEq, Repr

/-! ### The parsed document -/

structure FunctionEntry where
  index : UInt8
  value : UInt8
  deriving DecidableEq, Repr

structure LocoConfig where
  id : Option UInt8
  address : Int
  mode : Option String
  direction : Option UInt8
  longAddress : Option Bool
  functions : List FunctionEntry
  deriving DecidableEq, Repr

structure NetworkConfig where
  ssid : String
  key : Option String
  enabled : Bool
  deriving DecidableEq, Repr

structure LocoServerConfig where
  name : String
  port : UInt16
  automatic : Bool
  deriving DecidableEq, Repr

structure DeviceConfig where
  structureVersion : Option String
  throttleName : Option String
  firmwareRevision : Option String
  batteryMv : Option UInt32
  locos : List LocoConfig
  networks : List NetworkConfig
  locoServer : Option LocoServerConfig
  deriving DecidableEq, Repr

def DeviceConfig.default : DeviceConfig := ⟨none, none, none, none, [], [], none⟩

def NetworkConfig.default : NetworkConfig := ⟨"", none, false⟩

def LocoServerConfig.default : LocoServerConfig := ⟨"", 0, false⟩

/-! ### Attributes -/

/-- Read a string-valued attribute. -/
def attrStr (e : XmlElement) (name : String) : Option String := (e.attributes.lookup name).join

private def attrUnsigned (bits : Nat) (e : XmlElement) (name : String) : Option Nat :=
  (attrStr e name).bind fun s => (parseUnsigned 10 bits (trim s.toList)).toOption

def attrU8 (e : XmlElement) (name : String) : Option UInt8 := (attrUnsigned 8 e name).map UInt8.ofNat

def attrU16 (e : XmlElement) (name : String) : Option UInt16 := (attrUnsigned 16 e name).map UInt16.ofNat

def attrU32 (e : XmlElement) (name : String) : Option UInt32 := (attrUnsigned 32 e name).map UInt32.ofNat

def attrI64 (e : XmlElement) (name : String) : Option Int :=
  (attrStr e name).bind fun s => (parseSigned 10 64 (trim s.toList)).toOption

def attrBool (e : XmlElement) (name : String) : Option Bool :=
  (attrStr e name).bind fun s =>
    let t := String.ofList (trim s.toList)
    if t = "1" || t = "true" then some true else if t = "0" || t = "false" then some false else none

/-! ### The parser -/

/-- The parser's variables. -/
structure ParseState where
  cfg : DeviceConfig
  currentLoco : Option LocoConfig
  currentNetwork : Option NetworkConfig
  inFunctions : Bool
  deriving DecidableEq, Repr

namespace ParseState

def init : ParseState := ⟨.default, none, none, false⟩

private def onLoco (s : ParseState) (f : LocoConfig → LocoConfig) : ParseState :=
  { s with currentLoco := s.currentLoco.map f }

private def onNetwork (s : ParseState) (f : NetworkConfig → NetworkConfig) : ParseState :=
  { s with currentNetwork := s.currentNetwork.map f }

private def onServer (s : ParseState) (f : LocoServerConfig → LocoServerConfig) : ParseState :=
  { s with cfg := { s.cfg with locoServer := s.cfg.locoServer.map f } }

/-- Handle one start/empty element, dispatching by tag name. -/
def handleElement (s : ParseState) (e : XmlElement) : ParseState :=
  match e.name with
  | "structurVersion" => { s with cfg := { s.cfg with structureVersion := attrStr e "value" } }
  | "throttleName" => { s with cfg := { s.cfg with throttleName := attrStr e "value" } }
  | "firmwareRevision" => { s with cfg := { s.cfg with firmwareRevision := attrStr e "value" } }
  | "batteryVoltage" => { s with cfg := { s.cfg with batteryMv := attrU32 e "value" } }
  | "LOCO" => { s with currentLoco := some ⟨attrU8 e "ID", -1, none, none, none, []⟩ }
  | "DCCadress" => s.onLoco fun l => { l with address := (attrI64 e "value").getD (-1) }
  | "Mode" => s.onLoco fun l => { l with mode := attrStr e "value" }
  | "Direction" => s.onLoco fun l => { l with direction := attrU8 e "value" }
  | "LongAdress" => s.onLoco fun l => { l with longAddress := attrBool e "value" }
  | "FUNCTIONS" => { s with inFunctions := true }
  | "Function" =>
    if s.inFunctions then
      s.onLoco fun l =>
        { l with functions := l.functions ++ [⟨(attrU8 e "ID").getD 0, (attrU8 e "value").getD 0⟩] }
    else s
  | "NETWORK" => { s with currentNetwork := some .default }
  | "SSID" => s.onNetwork fun n => { n with ssid := (attrStr e "value").getD "" }
  | "Key" => s.onNetwork fun n => { n with key := attrStr e "value" }
  | "Enabled" => s.onNetwork fun n => { n with enabled := (attrBool e "value").getD false }
  | "ServerName" =>
    let server := s.cfg.locoServer.getD .default
    { s with cfg := { s.cfg with locoServer := some { server with name := (attrStr e "value").getD "" } } }
  | "Port" => s.onServer fun v => { v with port := (attrU16 e "value").getD 0 }
  | "Automatic" => s.onServer fun v => { v with automatic := (attrBool e "value").getD false }
  | _ => s

/-- A closing tag. -/
def handleEnd (s : ParseState) (name : String) : ParseState :=
  match name with
  | "LOCO" => { s with cfg := { s.cfg with locos := s.cfg.locos ++ s.currentLoco.toList }, currentLoco := none }
  | "NETWORK" =>
    { s with cfg := { s.cfg with networks := s.cfg.networks ++ s.currentNetwork.toList }, currentNetwork := none }
  | "FUNCTIONS" => { s with inFunctions := false }
  | _ => s

def handleEvent (s : ParseState) : XmlEvent → ParseState
  | .start e => s.handleElement e
  | .empty e => s.handleElement e
  | .endTag name => s.handleEnd name
  | .other => s

end ParseState

/-- Parse the XML body, given the reader. -/
def parseConfig (xmlReader : List Char → XmlDocument) (body : List UInt8) : Except String DeviceConfig :=
  match fromUtf8 body with
  | .error e => .error s!"non-utf8 body: {e.text}"
  | .ok text =>
    let doc := xmlReader text
    match doc.error with
    | some e => .error s!"xml read: {e}"
    | none => .ok (doc.events.foldl ParseState.handleEvent .init).cfg

/-- The document is parsed as the reader delivers it. -/
theorem parseConfig_utf8Bytes {xmlReader : List Char → XmlDocument} {text : String} {events : List XmlEvent}
    (h : xmlReader text.toList = ⟨events, none⟩) :
    parseConfig xmlReader (utf8Bytes text) = .ok (events.foldl ParseState.handleEvent .init).cfg := by
  simp only [parseConfig, fromUtf8_utf8Bytes, h]

/-! ### The serialised document -/

private def num {α : Type} (f : α → Nat) (a : α) : Json := .num (f a)

def FunctionEntry.toJson (f : FunctionEntry) : Json :=
  .obj [("index", num UInt8.toNat f.index), ("value", num UInt8.toNat f.value)]

def LocoConfig.toJson (l : LocoConfig) : Json :=
  .object [Json.nullable "id" (num UInt8.toNat) l.id, some ("address", .num l.address), Json.nullable "mode" .str l.mode,
    Json.nullable "direction" (num UInt8.toNat) l.direction, Json.nullable "longAddress" .bool l.longAddress,
    some ("functions", .arr (l.functions.map (·.toJson)))]

def NetworkConfig.toJson (n : NetworkConfig) : Json :=
  .object [some ("ssid", .str n.ssid), Json.nullable "key" .str n.key, some ("enabled", .bool n.enabled)]

def LocoServerConfig.toJson (v : LocoServerConfig) : Json :=
  .obj [("name", .str v.name), ("port", num UInt16.toNat v.port), ("automatic", .bool v.automatic)]

/-- `serde_json::to_value`. -/
def DeviceConfig.toJson (c : DeviceConfig) : Json :=
  .object [Json.nullable "structureVersion" .str c.structureVersion, Json.nullable "throttleName" .str c.throttleName,
    Json.nullable "firmwareRevision" .str c.firmwareRevision, Json.nullable "batteryMv" (num UInt32.toNat) c.batteryMv,
    some ("locos", .arr (c.locos.map (·.toJson))), some ("networks", .arr (c.networks.map (·.toJson))),
    Json.nullable "locoServer" LocoServerConfig.toJson c.locoServer]

end WirelessProgrammer
