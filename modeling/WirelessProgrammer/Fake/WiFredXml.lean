import WirelessProgrammer.Fake.WiFred

/-!
# Reading the fake's XML back

The driver's parser on the document that the fake writes.  The XML library in between is asked for one thing, `Delivers`:
the elements of the document, in order and with their values.
-/

namespace WirelessProgrammer

open Text

/-- For the configuration's document the reader delivers the elements that were written, values unescaped, and gets to the
end; what it delivers for the prolog and the white space in between is left to it. -/
def Delivers (xmlReader : List Char → XmlDocument) (cfg : DeviceConfig) : Prop :=
  let doc := xmlReader (serializeXml cfg).toList
  doc.error = none ∧ doc.events.filter (· ≠ .other) = (configLines cfg).map (·.event)

/-- Documents differ in their lines only. -/
theorem toList_serializeXml : ∃ prolog : List Char, ∀ cfg : DeviceConfig,
    (serializeXml cfg).toList = prolog ++ (configLines cfg).flatMap (·.text) :=
  ⟨_, fun _ => String.toList_ofList⟩

/-- What holds of every kind of line holds of every line of a document. -/
theorem forall_mem_configLines {P : XmlLine → Prop} (hempty : ∀ tag value, P (.pushEmpty tag value))
    (hopening : ∀ indent ∈ ["", " ", "  "], ∀ tag, P (.opening indent tag))
    (hclosing : ∀ indent ∈ ["", " ", "  "], ∀ tag, P (.closing indent tag))
    (hfunction : ∀ f, P (.function f)) (hid : ∀ id, P (.loco id)) {cfg : DeviceConfig} {line : XmlLine}
    (hline : line ∈ configLines cfg) : P line := by
  have hflag : ∀ tag b, P (.flag tag b) := fun tag b => hempty tag _
  have hloco : ∀ e, ∀ line ∈ locoLines e, P line := by
    intro e
    unfold locoLines
    simp only [List.forall_mem_append, List.forall_mem_cons, List.forall_mem_map]
    simp [hempty, hflag, hopening, hclosing, hfunction, hid]
  have hnetwork : ∀ n, ∀ line ∈ networkLines n, P line := by
    intro n
    unfold networkLines
    simp only [List.forall_mem_append, List.forall_mem_cons, List.forall_mem_map]
    simp [hempty, hflag, hopening, hclosing]
  have hserver : ∀ v, ∀ line ∈ serverLines v, P line := by
    intro v
    unfold serverLines
    simp only [List.forall_mem_cons]
    simp [hempty, hflag, hopening, hclosing]
  have hall : ∀ line ∈ configLines cfg, P line := by
    unfold configLines
    simp only [List.forall_mem_append, List.forall_mem_cons, List.forall_mem_map, List.forall_mem_flatMap]
    simp [hempty, hopening, hclosing]
    exact ⟨⟨fun e i _ => hloco (e, i), fun n _ => hnetwork n⟩, fun v _ => hserver v⟩
  exact hall line hline

/-- Every line stands for an element. -/
theorem ne_other_of_mem_configLines {cfg : DeviceConfig} {e : XmlEvent} (h : e ∈ (configLines cfg).map (·.event)) :
    e ≠ .other := by
  obtain ⟨line, hline, rfl⟩ := List.mem_map.1 h
  exact forall_mem_configLines (P := fun line => line.event ≠ .other) (fun _ _ => nofun) (fun _ _ _ => nofun)
    (fun _ _ _ => nofun) (fun _ => nofun) (fun _ => nofun) hline

/-! ### What is read back -/

/-- The address that is read; it is the slot's, if that is a 64 bit number. -/
def addressRead (a : Int) : Int := (parseSigned 10 64 (trim (toString a).toList)).toOption.getD (-1)

def locoRead (e : LocoConfig × Nat) : LocoConfig :=
  { e.1 with
    id := some (e.1.id.getD (UInt8.ofNat (e.2 + 1)))
    address := addressRead e.1.address
    mode := some (e.1.mode.getD "") }

def configRead (cfg : DeviceConfig) : DeviceConfig := { cfg with locos := cfg.locos.zipIdx.map locoRead }

theorem addressRead_eq {a : Int} (hlo : -2 ^ 63 ≤ a) (hhi : a < 2 ^ 63) : addressRead a = a := by
  rw [addressRead, trim_toString_int, parseSigned_toString hlo hhi]
  rfl

/-! ### Attributes -/

private theorem attrU8_toString {e : XmlElement} {name : String} {v : UInt8} (h : attrStr e name = some (toString v)) :
    attrU8 e name = some v := by
  have hprint : toString v = toString v.toNat := rfl
  have hattr : attrU8 e name =
      ((attrStr e name).bind fun s => (parseUnsigned 10 8 (trim s.toList)).toOption).map UInt8.ofNat := rfl
  rw [hattr, h, hprint, Option.bind_some, trim_toString, parseUnsigned_toString v.toNat_lt]
  simp [Except.toOption]

private theorem attrU16_toString {e : XmlElement} {name : String} {v : UInt16}
    (h : attrStr e name = some (toString v)) : attrU16 e name = some v := by
  have hprint : toString v = toString v.toNat := rfl
  have hattr : attrU16 e name =
      ((attrStr e name).bind fun s => (parseUnsigned 10 16 (trim s.toList)).toOption).map UInt16.ofNat := rfl
  rw [hattr, h, hprint, Option.bind_some, trim_toString, parseUnsigned_toString v.toNat_lt]
  simp [Except.toOption]

private theorem attrU32_toString {e : XmlElement} {name : String} {v : UInt32}
    (h : attrStr e name = some (toString v)) : attrU32 e name = some v := by
  have hprint : toString v = toString v.toNat := rfl
  have hattr : attrU32 e name =
      ((attrStr e name).bind fun s => (parseUnsigned 10 32 (trim s.toList)).toOption).map UInt32.ofNat := rfl
  rw [hattr, h, hprint, Option.bind_some, trim_toString, parseUnsigned_toString v.toNat_lt]
  simp [Except.toOption]

private theorem attrBool_flag (tag : String) (b : Bool) :
    attrBool ⟨tag, [("value", some (if b then "1" else "0"))]⟩ "value" = some b := by
  show (some (if b then "1" else "0") : Option String).bind _ = _
  cases b with
  | false => decide
  | true => decide

/-! ### Single lines -/

namespace ParseState

/-- The state after a line of a document. -/
def readLine (s : ParseState) (line : XmlLine) : ParseState := s.handleEvent line.event

section Lines

variable (c : DeviceConfig) (l : LocoConfig) (n : NetworkConfig) (cur : Option LocoConfig) (net : Option NetworkConfig)
  (f : Bool) (v : String)

@[simp] theorem readLine_structureVersion :
    readLine ⟨c, cur, net, f⟩ (.pushEmpty "structurVersion" v) = ⟨{ c with structureVersion := some v }, cur, net, f⟩ := rfl

@[simp] theorem readLine_throttleName :
    readLine ⟨c, cur, net, f⟩ (.pushEmpty "throttleName" v) = ⟨{ c with throttleName := some v }, cur, net, f⟩ := rfl

@[simp] theorem readLine_firmwareRevision :
    readLine ⟨c, cur, net, f⟩ (.pushEmpty "firmwareRevision" v) =
      ⟨{ c with firmwareRevision := some v }, cur, net, f⟩ := rfl

@[simp] theorem readLine_batteryVoltage (mv : UInt32) :
    readLine ⟨c, cur, net, f⟩ (.pushEmpty "batteryVoltage" (toString mv)) =
      ⟨{ c with batteryMv := some mv }, cur, net, f⟩ := by
  have hmv : attrU32 ⟨"batteryVoltage", [("value", some (toString mv))]⟩ "value" = some mv := attrU32_toString rfl
  rw [← hmv]
  rfl

@[simp] theorem readLine_loco (id : UInt8) :
    readLine ⟨c, cur, net, f⟩ (.loco id) = ⟨c, some ⟨some id, -1, none, none, none, []⟩, net, f⟩ := by
  have hid : attrU8 ⟨"LOCO", [("ID", some (toString id))]⟩ "ID" = some id := attrU8_toString rfl
  rw [← hid]
  rfl

@[simp] theorem readLine_address (a : Int) :
    readLine ⟨c, some l, net, f⟩ (.pushEmpty "DCCadress" (toString a)) =
      ⟨c, some { l with address := addressRead a }, net, f⟩ := rfl

@[simp] theorem readLine_mode :
    readLine ⟨c, some l, net, f⟩ (.pushEmpty "Mode" v) = ⟨c, some { l with mode := some v }, net, f⟩ := rfl

@[simp] theorem readLine_direction (dir : UInt8) :
    readLine ⟨c, some l, net, f⟩ (.pushEmpty "Direction" (toString dir)) =
      ⟨c, some { l with direction := some dir }, net, f⟩ := by
  have hdir : attrU8 ⟨"Direction", [("value", some (toString dir))]⟩ "value" = some dir := attrU8_toString rfl
  rw [← hdir]
  rfl

@[simp] theorem readLine_longAddress (b : Bool) :
    readLine ⟨c, some l, net, f⟩ (.flag "LongAdress" b) = ⟨c, some { l with longAddress := some b }, net, f⟩ := by
  rw [← attrBool_flag "LongAdress" b]
  rfl

@[simp] theorem readLine_function (fn : FunctionEntry) :
    readLine ⟨c, some l, net, true⟩ (.function fn) = ⟨c, some { l with functions := l.functions ++ [fn] }, net, true⟩ := by
  let e : XmlElement := ⟨"Function", [("ID", some (toString fn.index)), ("value", some (toString fn.value))]⟩
  have hindex : attrU8 e "ID" = some fn.index := attrU8_toString rfl
  have hvalue : attrU8 e "value" = some fn.value := attrU8_toString rfl
  have hfn : fn = ⟨(attrU8 e "ID").getD 0, (attrU8 e "value").getD 0⟩ := by
    rw [hindex, hvalue]
    rfl
  conv => rhs; rw [hfn]
  rfl

@[simp] theorem readLine_ssid :
    readLine ⟨c, cur, some n, f⟩ (.pushEmpty "SSID" v) = ⟨c, cur, some { n with ssid := v }, f⟩ := rfl

@[simp] theorem readLine_key :
    readLine ⟨c, cur, some n, f⟩ (.pushEmpty "Key" v) = ⟨c, cur, some { n with key := some v }, f⟩ := rfl

@[simp] theorem readLine_enabled (b : Bool) :
    readLine ⟨c, cur, some n, f⟩ (.flag "Enabled" b) = ⟨c, cur, some { n with enabled := b }, f⟩ := by
  have hb : b = (attrBool ⟨"Enabled", [("value", some (if b then "1" else "0"))]⟩ "value").getD false := by
    rw [attrBool_flag]
    rfl
  conv => rhs; rw [hb]
  rfl

@[simp] theorem readLine_serverName :
    readLine ⟨c, cur, net, f⟩ (.pushEmpty "ServerName" v) =
      ⟨{ c with locoServer := some { c.locoServer.getD .default with name := v } }, cur, net, f⟩ := rfl

@[simp] theorem readLine_port (port : UInt16) :
    readLine ⟨c, cur, net, f⟩ (.pushEmpty "Port" (toString port)) =
      ⟨{ c with locoServer := c.locoServer.map fun s => { s with port := port } }, cur, net, f⟩ := by
  have hport : port = (attrU16 ⟨"Port", [("value", some (toString port))]⟩ "value").getD 0 := by
    rw [attrU16_toString (v := port) rfl]
    rfl
  conv => rhs; rw [hport]
  rfl

@[simp] theorem readLine_automatic (b : Bool) :
    readLine ⟨c, cur, net, f⟩ (.flag "Automatic" b) =
      ⟨{ c with locoServer := c.locoServer.map fun s => { s with automatic := b } }, cur, net, f⟩ := by
  have hb : b = (attrBool ⟨"Automatic", [("value", some (if b then "1" else "0"))]⟩ "value").getD false := by
    rw [attrBool_flag]
    rfl
  conv => rhs; rw [hb]
  rfl

@[simp] theorem readLine_functions :
    readLine ⟨c, cur, net, f⟩ (.opening "  " "FUNCTIONS") = ⟨c, cur, net, true⟩ := rfl

@[simp] theorem readLine_network :
    readLine ⟨c, cur, net, f⟩ (.opening " " "NETWORK") = ⟨c, cur, some .default, f⟩ := rfl

@[simp] theorem readLine_functionsEnd :
    readLine ⟨c, cur, net, f⟩ (.closing "  " "FUNCTIONS") = ⟨c, cur, net, false⟩ := rfl

@[simp] theorem readLine_locoEnd :
    readLine ⟨c, cur, net, f⟩ (.closing " " "LOCO") = ⟨{ c with locos := c.locos ++ cur.toList }, none, net, f⟩ := rfl

@[simp] theorem readLine_networkEnd :
    readLine ⟨c, cur, net, f⟩ (.closing " " "NETWORK") =
      ⟨{ c with networks := c.networks ++ net.toList }, cur, none, f⟩ := rfl

/-- The tags around a list change nothing. -/
theorem readLine_group (tag : String) (s : ParseState) (h : tag ∈ ["wiFred", "LOCOS", "NETWORKS", "LOCOSERVER"]) :
    s.readLine (.opening "" tag) = s ∧ s.readLine (.closing "" tag) = s := by
  simp only [List.mem_cons, List.not_mem_nil, or_false] at h
  rcases h with rfl | rfl | rfl | rfl <;> exact ⟨rfl, rfl⟩

end Lines

/-! ### The document -/

/-- The state after the lines of a document. -/
def readLines (s : ParseState) (lines : List XmlLine) : ParseState := lines.foldl readLine s

private theorem readLines_cons (s : ParseState) (line : XmlLine) (lines : List XmlLine) :
    s.readLines (line :: lines) = (s.readLine line).readLines lines := rfl

theorem readLines_nil (s : ParseState) : s.readLines [] = s := rfl

private theorem readLines_append (s : ParseState) (l₁ l₂ : List XmlLine) :
    s.readLines (l₁ ++ l₂) = (s.readLines l₁).readLines l₂ := List.foldl_append ..

/-- An optional line. -/
theorem readLines_option {α : Type} (s : ParseState) (o : Option α) (line : α → XmlLine) :
    s.readLines (o.toList.map line) = o.elim s fun a => s.readLine (line a) := by
  cases o with
  | none => rfl
  | some a => rfl

variable (c : DeviceConfig) (cur : Option LocoConfig) (net : Option NetworkConfig)

private theorem readLines_functions (l : LocoConfig) (fs : List FunctionEntry) :
    (⟨c, some l, net, true⟩ : ParseState).readLines (fs.map .function) =
      ⟨c, some { l with functions := l.functions ++ fs }, net, true⟩ := by
  induction fs generalizing l with
  | nil =>
    rw [List.append_nil]
    rfl
  | cons fn fs ih =>
    rw [List.map_cons, readLines_cons, readLine_function, ih]
    simp

/-- The lines of a slot add it to the parser's slots. -/
theorem readLines_loco (e : LocoConfig × Nat) :
    (⟨c, cur, net, false⟩ : ParseState).readLines (locoLines e) =
      ⟨{ c with locos := c.locos ++ [locoRead e] }, none, net, false⟩ := by
  obtain ⟨⟨id, address, mode, direction, longAddress, functions⟩, i⟩ := e
  have hdir : ∀ l : LocoConfig, l.direction = none →
      (direction.elim ⟨c, some l, net, false⟩ fun dir =>
        readLine ⟨c, some l, net, false⟩ (.pushEmpty "Direction" (toString dir))) =
      ⟨c, some { l with direction := direction }, net, false⟩ := by
    rintro ⟨⟩ rfl
    cases direction with
    | none => rfl
    | some dir => exact readLine_direction ..
  have hlong : ∀ l : LocoConfig, l.longAddress = none →
      (longAddress.elim ⟨c, some l, net, false⟩ fun long =>
        readLine ⟨c, some l, net, false⟩ (.flag "LongAdress" long)) =
      ⟨c, some { l with longAddress := longAddress }, net, false⟩ := by
    rintro ⟨⟩ rfl
    cases longAddress with
    | none => rfl
    | some long => exact readLine_longAddress ..
  simp only [locoLines, readLines_append, readLines_cons, readLines_nil, readLines_option, readLine_loco, readLine_address,
    readLine_mode, hdir, hlong, readLine_functions, readLines_functions, readLine_functionsEnd, readLine_locoEnd]
  rfl

private theorem readLines_locos (l : List (LocoConfig × Nat)) :
    (⟨c, none, net, false⟩ : ParseState).readLines (l.flatMap locoLines) =
      ⟨{ c with locos := c.locos ++ l.map locoRead }, none, net, false⟩ := by
  induction l generalizing c with
  | nil =>
    rw [List.map_nil, List.append_nil]
    rfl
  | cons e l ih =>
    rw [List.flatMap_cons, readLines_append, readLines_loco, ih]
    simp

/-- The lines of a network add it to the parser's networks. -/
theorem readLines_network (n : NetworkConfig) :
    (⟨c, cur, net, false⟩ : ParseState).readLines (networkLines n) =
      ⟨{ c with networks := c.networks ++ [n] }, cur, none, false⟩ := by
  obtain ⟨ssid, key, enabled⟩ := n
  cases key with
  | none =>
    simp [networkLines, readLines_cons, readLines_nil, NetworkConfig.default]
  | some key =>
    simp [networkLines, readLines_cons, readLines_nil]

private theorem readLines_networks (l : List NetworkConfig) :
    (⟨c, cur, none, false⟩ : ParseState).readLines (l.flatMap networkLines) =
      ⟨{ c with networks := c.networks ++ l }, cur, none, false⟩ := by
  induction l generalizing c with
  | nil =>
    rw [List.append_nil]
    rfl
  | cons n l ih =>
    rw [List.flatMap_cons, readLines_append, readLines_network, ih]
    simp

private theorem readLines_server (h : c.locoServer = none) (server : Option LocoServerConfig) :
    (⟨c, cur, net, false⟩ : ParseState).readLines (server.toList.flatMap serverLines) =
      ⟨{ c with locoServer := server }, cur, net, false⟩ := by
  cases server with
  | none =>
    obtain ⟨⟩ := c
    obtain rfl := h
    rfl
  | some v =>
    have hgroup := fun s => readLine_group "LOCOSERVER" s (by decide)
    simp [serverLines, readLines_cons, readLines_nil, fun s => (hgroup s).1, fun s => (hgroup s).2, h]

/-- The lines of a configuration are parsed to it. -/
theorem readLines_config (cfg : DeviceConfig) :
    ParseState.init.readLines (configLines cfg) = ⟨configRead cfg, none, none, false⟩ := by
  have hhead : ∀ c : DeviceConfig, c.structureVersion = none → c.throttleName = none → c.firmwareRevision = none →
      c.batteryMv = none → ParseState.readLines ⟨c, none, none, false⟩
        ((cfg.structureVersion.toList.map fun v => .pushEmpty "structurVersion" v) ++
          (cfg.throttleName.toList.map fun v => .pushEmpty "throttleName" v) ++
          (cfg.firmwareRevision.toList.map fun v => .pushEmpty "firmwareRevision" v) ++
          (cfg.batteryMv.toList.map fun mv => .pushEmpty "batteryVoltage" (toString mv))) =
      ⟨⟨cfg.structureVersion, cfg.throttleName, cfg.firmwareRevision, cfg.batteryMv, c.locos, c.networks, c.locoServer⟩,
        none, none, false⟩ := by
    rintro ⟨⟩ rfl rfl rfl rfl
    simp only [readLines_append, readLines_option]
    cases cfg.structureVersion <;> cases cfg.throttleName <;> cases cfg.firmwareRevision <;> cases cfg.batteryMv <;> simp
  have hlines : configLines cfg = .opening "" "wiFred" :: (((cfg.structureVersion.toList.map fun v =>
      .pushEmpty "structurVersion" v) ++ (cfg.throttleName.toList.map fun v => .pushEmpty "throttleName" v) ++
      (cfg.firmwareRevision.toList.map fun v => .pushEmpty "firmwareRevision" v) ++
      (cfg.batteryMv.toList.map fun mv => .pushEmpty "batteryVoltage" (toString mv))) ++
      .opening "" "LOCOS" :: (cfg.locos.zipIdx.flatMap locoLines ++ .closing "" "LOCOS" ::
      .opening "" "NETWORKS" :: (cfg.networks.flatMap networkLines ++ .closing "" "NETWORKS" ::
      (cfg.locoServer.toList.flatMap serverLines ++ [.closing "" "wiFred"])))) := by
    simp [configLines]
  rw [hlines, readLines_cons, (readLine_group "wiFred" _ (by decide)).1, readLines_append, init, hhead _ rfl rfl rfl rfl,
    readLines_cons, (readLine_group "LOCOS" _ (by decide)).1, readLines_append, readLines_locos, readLines_cons,
    (readLine_group "LOCOS" _ (by decide)).2, readLines_cons, (readLine_group "NETWORKS" _ (by decide)).1, readLines_append,
    readLines_networks, readLines_cons, (readLine_group "NETWORKS" _ (by decide)).2, readLines_append,
    readLines_server _ _ _ rfl, readLines_cons, (readLine_group "wiFred" _ (by decide)).2]
  rfl

end ParseState

/-- Events that the parser does not look at can be left out. -/
theorem foldl_handleEvent_filter (events : List XmlEvent) (s : ParseState) :
    events.foldl ParseState.handleEvent s = (events.filter (· ≠ .other)).foldl ParseState.handleEvent s := by
  induction events generalizing s with
  | nil => rfl
  | cons e events ih =>
    by_cases he : e = .other
    · subst he
      exact ih s
    · rw [List.filter_cons_of_pos (by simpa using he), List.foldl_cons, List.foldl_cons, ih]

/-- The driver reads the fake's configuration back out of its document. -/
theorem parseConfig_serializeXml {xmlReader : List Char → XmlDocument} {cfg : DeviceConfig} (h : Delivers xmlReader cfg) :
    parseConfig xmlReader (utf8Bytes (serializeXml cfg)) = .ok (configRead cfg) := by
  obtain ⟨herror, hevents⟩ := h
  have hfold : (xmlReader (serializeXml cfg).toList).events.foldl ParseState.handleEvent .init =
      ⟨configRead cfg, none, none, false⟩ := by
    rw [foldl_handleEvent_filter, hevents, List.foldl_map]
    exact ParseState.readLines_config cfg
  have hdoc : xmlReader (serializeXml cfg).toList = ⟨(xmlReader (serializeXml cfg).toList).events, none⟩ := by
    rw [← herror]
  rw [parseConfig_utf8Bytes hdoc, hfold]

end WirelessProgrammer
