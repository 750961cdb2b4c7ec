import WirelessProgrammer.Drivers.WiFredConfig
import WirelessProgrammer.Fake.Device

/-!
# The fake WiFred

`wp-fake/src/wifred.rs`: a mock of the device's web server.  It keeps the configuration that it shows as XML and applies
the query arguments of `/index.html`, argument by argument; a `loco` argument selects the slot that the arguments after
it are for, also in later requests.
-/

namespace WirelessProgrammer

open Text

/-! ### Percent decoding -/

def fromHex (b : UInt8) : Option UInt8 :=
  if 48 ≤ b ∧ b ≤ 57 then some (b - 48)
  else if 97 ≤ b ∧ b ≤ 102 then some (b - 97 + 10)
  else if 65 ≤ b ∧ b ≤ 70 then some (b - 65 + 10)
  else none

/-- A `+` is a blank; a `%` that is not followed by two hexadecimal digits stands for itself. -/
def percentDecodeBytes : List UInt8 → List UInt8
  | [] => []
  | [c] => [if c = 43 then 32 else c]
  | [c, a] => (if c = 43 then 32 else c) :: percentDecodeBytes [a]
  | c :: a :: b :: l =>
    if c = 37 then
      match fromHex a, fromHex b with
      | some x, some y => (x <<< 4 ||| y) :: percentDecodeBytes l
      | _, _ => c :: percentDecodeBytes (a :: b :: l)
    else (if c = 43 then 32 else c) :: percentDecodeBytes (a :: b :: l)

def percentDecode (input : List Char) : String :=
  String.ofList (fromUtf8Lossy (percentDecodeBytes (input.flatMap String.utf8EncodeChar)))

/-! ### The device -/

structure WifredFake where
  cfg : DeviceConfig
  /-- Set when `/restart.html` is hit. -/
  restarted : Bool
  /-- The slot selected by `loco=N`, counted from 0. -/
  activeLoco : Option Nat
  deriving DecidableEq, Repr

/-- A slot that was never written. -/
def LocoConfig.unused : LocoConfig := ⟨none, -1, none, none, none, []⟩

/-- Extend the slots up to number `i`, counted from 0. -/
def padLocos (i : Nat) (locos : List LocoConfig) : List LocoConfig :=
  locos ++ List.replicate (i + 1 - locos.length) .unused

/-- Set the value of the first entry with the index, or add one. -/
def upsertFunction (index value : UInt8) : List FunctionEntry → List FunctionEntry
  | [] => [⟨index, value⟩]
  | f :: l => if f.index = index then { f with value := value } :: l else f :: upsertFunction index value l

/-- Enable the first network with the SSID, or add one; an absent key leaves the one it has. -/
def upsertNetwork (ssid : String) (key : Option String) : List NetworkConfig → List NetworkConfig
  | [] => [⟨ssid, key, true⟩]
  | n :: l =>
    if n.ssid = ssid then { n with enabled := true, key := key <|> n.key } :: l else n :: upsertNetwork ssid key l

def isFunctionKey (key : List Char) : Bool :=
  match key with
  | 'f' :: rest => rest ≠ [] && rest.all Char.isDigit
  | _ => false

namespace WifredFake

/-- Factory state: structure version 1, four empty loco slots. -/
def new : WifredFake :=
  ⟨⟨some "1", none, none, none, List.replicate 4 .unused, [], none⟩, false, none⟩

/-- Change the selected slot, if there is one. -/
def onActive (d : WifredFake) (f : LocoConfig → LocoConfig) : WifredFake :=
  match d.activeLoco with
  | none => d
  | some i => { d with cfg := { d.cfg with locos := d.cfg.locos.modify i f } }

/-- Change the server block, which is created if there is none. -/
def onServer (d : WifredFake) (f : LocoServerConfig → LocoServerConfig) : WifredFake :=
  { d with cfg := { d.cfg with locoServer := some (f (d.cfg.locoServer.getD .default)) } }

def selectLoco (d : WifredFake) (i : Nat) : WifredFake :=
  { d with cfg := { d.cfg with locos := padLocos i d.cfg.locos }, activeLoco := some i }

end WifredFake

/-! ### Query arguments -/

/-- The device and the network arguments of the query so far. -/
structure QueryState where
  fake : WifredFake
  pendingSsid : Option String
  pendingKey : Option String
  deriving DecidableEq, Repr

namespace QueryState

def init (d : WifredFake) : QueryState := ⟨d, none, none⟩

def onFake (s : QueryState) (f : WifredFake → WifredFake) : QueryState := { s with fake := f s.fake }

/-- The argument `f<index>=<value>`. -/
def applyFunction (s : QueryState) (key value : String) : QueryState :=
  let index := UInt8.ofNat ((parseUnsigned 10 8 (key.toList.drop 1)).toOption.getD 0)
  let fval := UInt8.ofNat ((parseUnsigned 10 8 value.toList).toOption.getD 0)
  s.onFake fun d => d.onActive fun l => { l with functions := upsertFunction index fval l.functions }

/-- One argument, decoded. -/
def applyPair (s : QueryState) (key value : String) : QueryState :=
  match key with
  | "throttleName" => s.onFake fun d => { d with cfg := { d.cfg with throttleName := some value } }
  | "loco" =>
    match parseUnsigned 10 64 value.toList with
    | .ok n => if 1 ≤ n then s.onFake fun d => d.selectLoco (n - 1) else s
    | .error _ => s
  | "loco.address" =>
    s.onFake fun d => d.onActive fun l => { l with address := (parseSigned 10 64 value.toList).toOption.getD (-1) }
  | "loco.mode" => s.onFake fun d => d.onActive fun l => { l with mode := some value }
  | "loco.direction" =>
    s.onFake fun d => d.onActive fun l =>
      { l with direction := (parseUnsigned 10 8 value.toList).toOption.map UInt8.ofNat }
  | "loco.longAddress" =>
    -- an argument that is absent or not "on" leaves the flag as it is
    if value = "on" then s.onFake fun d => d.onActive fun l => { l with longAddress := some true } else s
  | "loco.serverName" => s.onFake fun d => d.onServer fun v => { v with name := value }
  | "loco.serverPort" =>
    s.onFake fun d => d.onServer fun v =>
      { v with port := UInt16.ofNat ((parseUnsigned 10 16 value.toList).toOption.getD 0) }
  | "loco.automatic" =>
    if value = "on" then s.onFake fun d => d.onServer fun v => { v with automatic := true } else s
  | "remove" =>
    s.onFake fun d => { d with cfg := { d.cfg with networks := d.cfg.networks.filter (·.ssid ≠ value) } }
  | "wifiSSID" => { s with pendingSsid := some value }
  | "wifiKEY" => { s with pendingKey := some value }
  | other => if isFunctionKey other.toList then s.applyFunction other value else s

/-- One piece of the query. -/
def applyPiece (s : QueryState) (piece : List Char) : QueryState :=
  if piece = [] then s
  else
    let raw := (splitOnce '=' piece).getD (piece, [])
    s.applyPair (percentDecode raw.1) (percentDecode raw.2)

/-- The network arguments take effect at the end. -/
def finish (s : QueryState) : WifredFake :=
  match s.pendingSsid with
  | none => s.fake
  | some ssid =>
    { s.fake with cfg := { s.fake.cfg with networks := upsertNetwork ssid s.pendingKey s.fake.cfg.networks } }

end QueryState

def WifredFake.applyQuery (d : WifredFake) (query : List Char) : WifredFake :=
  ((splitBy (· = '&') query).foldl QueryState.applyPiece (.init d)).finish

/-! ### The configuration as XML -/

def xmlEscape (s : String) : List Char :=
  s.toList.flatMap fun c =>
    if c = '&' then "&amp;".toList
    else if c = '<' then "&lt;".toList
    else if c = '>' then "&gt;".toList
    else if c = '"' then "&quot;".toList
    else if c = '\'' then "&apos;".toList
    else [c]

/-- A line of the document, and what an XML reader delivers for it. -/
structure XmlLine where
  text : List Char
  event : XmlEvent
  deriving DecidableEq, Repr

namespace XmlLine

/-- `<tag value="..."/>` -/
def pushEmpty (tag value : String) : XmlLine :=
  ⟨('<' :: tag.toList) ++ " value=\"".toList ++ xmlEscape value ++ "\"/>\n".toList, .empty ⟨tag, [("value", some value)]⟩⟩

def opening (indent : String) (tag : String) : XmlLine :=
  ⟨indent.toList ++ '<' :: tag.toList ++ ">\n".toList, .start ⟨tag, []⟩⟩

def closing (indent : String) (tag : String) : XmlLine :=
  ⟨indent.toList ++ "</".toList ++ tag.toList ++ ">\n".toList, .endTag tag⟩

def loco (id : UInt8) : XmlLine :=
  ⟨" <LOCO ID=\"".toList ++ (toString id).toList ++ "\">\n".toList, .start ⟨"LOCO", [("ID", some (toString id))]⟩⟩

def function (f : FunctionEntry) : XmlLine :=
  ⟨"     <Function ID=\"".toList ++ (toString f.index).toList ++ "\" value=\"".toList ++ (toString f.value).toList ++
      "\"/>\n".toList,
    .empty ⟨"Function", [("ID", some (toString f.index)), ("value", some (toString f.value))]⟩⟩

def flag (tag : String) (b : Bool) : XmlLine := pushEmpty tag (if b then "1" else "0")

end XmlLine

section Document

open XmlLine

/-- The lines of one slot; it is numbered from 1 if it has no number. -/
def locoLines (e : LocoConfig × Nat) : List XmlLine :=
  [loco (e.1.id.getD (UInt8.ofNat (e.2 + 1))), pushEmpty "DCCadress" (toString e.1.address),
    pushEmpty "Mode" (e.1.mode.getD "")] ++
  (e.1.direction.toList.map fun dir => pushEmpty "Direction" (toString dir)) ++
  (e.1.longAddress.toList.map fun long => flag "LongAdress" long) ++
  [opening "  " "FUNCTIONS"] ++ e.1.functions.map function ++ [closing "  " "FUNCTIONS", closing " " "LOCO"]

def networkLines (n : NetworkConfig) : List XmlLine :=
  [opening " " "NETWORK", pushEmpty "SSID" n.ssid] ++ (n.key.toList.map fun key => pushEmpty "Key" key) ++
  [flag "Enabled" n.enabled, closing " " "NETWORK"]

def serverLines (v : LocoServerConfig) : List XmlLine :=
  [opening "" "LOCOSERVER", pushEmpty "ServerName" v.name, pushEmpty "Port" (toString v.port),
    flag "Automatic" v.automatic, closing "" "LOCOSERVER"]

/-- The lines after the prolog. -/
def configLines (cfg : DeviceConfig) : List XmlLine :=
  [opening "" "wiFred"] ++ (cfg.structureVersion.toList.map fun v => pushEmpty "structurVersion" v) ++
  (cfg.throttleName.toList.map fun v => pushEmpty "throttleName" v) ++
  (cfg.firmwareRevision.toList.map fun v => pushEmpty "firmwareRevision" v) ++
  (cfg.batteryMv.toList.map fun mv => pushEmpty "batteryVoltage" (toString mv)) ++
  [opening "" "LOCOS"] ++ cfg.locos.zipIdx.flatMap locoLines ++ [closing "" "LOCOS"] ++
  [opening "" "NETWORKS"] ++ cfg.networks.flatMap networkLines ++ [closing "" "NETWORKS"] ++
  cfg.locoServer.toList.flatMap serverLines ++ [closing "" "wiFred"]

def serializeXml (cfg : DeviceConfig) : String :=
  String.ofList ("<?XML version=\"1.0\" encoding=\"UTF?8\"?>\n".toList ++ (configLines cfg).flatMap (·.text))

end Document

/-! ### Requests -/

/-- Handle one HTTP request. -/
def WifredFake.handle (d : WifredFake) (req : FakeRequest) : FakeResponse × WifredFake :=
  let path := req.path.toList
  if req.method ≠ "GET" then (notFound, d)
  else if "/api/getConfigXML".toList.isPrefixOf path then (okXml (utf8Bytes (serializeXml d.cfg)), d)
  else if "/restart.html".toList.isPrefixOf path then (okText "ok", { d with restarted := true })
  else if "/flashred.html".toList.isPrefixOf path then (okText "flash", d)
  else if "/index.html".toList.isPrefixOf path then
    (okText "ok", match splitOnce '?' path with
      | some (_, query) => d.applyQuery query
      | none => d)
  else (notFound, d)

end WirelessProgrammer
