import WirelessProgrammer.Fake.WiFredWrites
import WirelessProgrammer.Fake.WiFredXml
import WirelessProgrammer.Drivers.WiFredVerify

/-!
# Programming the fake WiFred

The driver run against the fake always ends well, whatever the fake held before.  What it leaves behind agrees with the
request except for the two flags that the driver only sends when they are set: a long-address flag or an automatic flag
that was on stays on.
-/

namespace WirelessProgrammer

open Text

/-! ### Function maps -/

/-- The value that is stored for a function. -/
def functionValue (fs : List FunctionEntry) (index : UInt8) : Option UInt8 := (fs.find? (·.index = index)).map (·.value)

private theorem functionValue_upsert (fs : List FunctionEntry) (index value i : UInt8) :
    functionValue (upsertFunction index value fs) i = if i = index then some value else functionValue fs i := by
  induction fs with
  | nil =>
    by_cases hi : i = index
    · simp [functionValue, upsertFunction, hi]
    · simp [functionValue, upsertFunction, hi, Ne.symm hi]
  | cons f fs ih =>
    unfold functionValue at ih ⊢
    rw [upsertFunction]
    by_cases hf : f.index = index
    · by_cases hi : i = index
      · simp [hf, hi]
      · simp [hf, hi, Ne.symm hi]
    · by_cases hfi : f.index = i
      · have hi : ¬ i = index := fun h => hf (hfi.trans h)
        simp [hfi, hi]
      · simp only [if_neg hf, List.find?_cons, hfi, decide_false]
        exact ih

/-- A function without an argument keeps its value. -/
theorem functionValue_fold_of_notMem {l : List FunctionMapping} {i : UInt8} (h : i ∉ l.map (·.index))
    (fs : List FunctionEntry) :
    functionValue (l.foldl (fun fs fm => upsertFunction fm.index fm.value fs) fs) i = functionValue fs i := by
  induction l generalizing fs with
  | nil => rfl
  | cons fm l ih =>
    simp only [List.map_cons, List.mem_cons, not_or] at h
    rw [List.foldl_cons, ih h.2, functionValue_upsert, if_neg h.1]

/-- Each function of the map holds its value afterwards. -/
theorem functionValue_fold {l : List FunctionMapping} (hnodup : (l.map (·.index)).Nodup) {fm : FunctionMapping}
    (hfm : fm ∈ l) (fs : List FunctionEntry) :
    functionValue (l.foldl (fun fs fm => upsertFunction fm.index fm.value fs) fs) fm.index = some fm.value := by
  induction l generalizing fs with
  | nil => exact nomatch hfm
  | cons fm' l ih =>
    obtain ⟨hnew, hnodup⟩ := List.nodup_cons.1 hnodup
    rw [List.foldl_cons]
    rcases List.mem_cons.1 hfm with rfl | hfm
    · rw [functionValue_fold_of_notMem hnew, functionValue_upsert, if_pos rfl]
    · exact ih hnodup hfm _

/-! ### Agreement -/

namespace WiFred

/-- The slot's loco is what the entry asks for: mode empty and direction 2 if it has none. -/
def SlotAgrees (l : LocoConfig) (e : RosterEntry) : Prop :=
  l.address = wantAddr e ∧ l.mode = some (e.mode.getD "") ∧ l.direction = some (e.direction.getD DONT_CHANGE) ∧
    (l.longAddress = some true ↔ e.longAddress = some true) ∧
    ∀ fm ∈ e.functions, functionValue l.functions fm.index = some fm.value

/-- The device holds what the request asks for; the target network is there once, enabled and with its key. -/
def Agrees (cfg : DeviceConfig) (req : ProgramRequest) : Prop :=
  cfg.throttleName = some req.identity ∧
    cfg.locoServer = some ⟨req.server.host, req.server.port, req.server.automatic⟩ ∧
    cfg.networks.filter (·.ssid = req.wifi.ssid) = [⟨req.wifi.ssid, sentKey req, true⟩] ∧
    ∀ (slot : Nat) (e : RosterEntry), req.roster[slot]? = some e → ∃ l, cfg.locos[slot]? = some l ∧ SlotAgrees l e

/-- No flag is on that the request wants off: the automatic flag, or the long-address flag of a slot in the roster. -/
def FlagsClear (cfg : DeviceConfig) (req : ProgramRequest) : Prop :=
  (∀ v, cfg.locoServer = some v → v.automatic = true → req.server.automatic = true) ∧
    ∀ (slot : Nat) (e : RosterEntry) (l : LocoConfig), req.roster[slot]? = some e → cfg.locos[slot]? = some l →
      l.longAddress = some true → e.longAddress = some true

/-! ### The writes of a run -/

/-- The fake after the writes of a run. -/
def programmed (d : WifredFake) (req : ProgramRequest) : WifredFake :=
  let written := req.roster.zipIdx.foldl writeFunctions (req.roster.zipIdx.foldl writeLoco (d.setName req.identity))
  ((written.setServer req.server).removeNetwork req.wifi.ssid).addNetwork req.wifi.ssid (sentKey req)

section Programmed

variable (d : WifredFake) (req : ProgramRequest)

private theorem programmed_rest :
    (programmed d req).cfg.structureVersion = d.cfg.structureVersion ∧
      (programmed d req).cfg.throttleName = some req.identity ∧
      (programmed d req).cfg.locoServer = some ⟨req.server.host, req.server.port,
        req.server.automatic || (d.cfg.locoServer.getD .default).automatic⟩ ∧
      (programmed d req).cfg.networks =
        upsertNetwork req.wifi.ssid (sentKey req) (d.cfg.networks.filter (·.ssid ≠ req.wifi.ssid)) := by
  have hrest := (writesSlots_functions.fold_rest req.roster.zipIdx _).1.trans
    (writesSlots_loco.fold_rest req.roster.zipIdx (d.setName req.identity)).1
  have hserver : (programmed d req).cfg.locoServer = some ⟨req.server.host, req.server.port, req.server.automatic ||
      ((req.roster.zipIdx.foldl writeFunctions (req.roster.zipIdx.foldl writeLoco
        (d.setName req.identity))).cfg.locoServer.getD .default).automatic⟩ := rfl
  have hnetworks : (programmed d req).cfg.networks = upsertNetwork req.wifi.ssid (sentKey req)
      ((req.roster.zipIdx.foldl writeFunctions (req.roster.zipIdx.foldl writeLoco
        (d.setName req.identity))).cfg.networks.filter (·.ssid ≠ req.wifi.ssid)) := rfl
  have hversion := congrArg DeviceConfig.structureVersion hrest
  have hname := congrArg DeviceConfig.throttleName hrest
  have holdServer := congrArg DeviceConfig.locoServer hrest
  have holdNetworks := congrArg DeviceConfig.networks hrest
  simp only at holdServer holdNetworks
  refine ⟨hversion, hname, ?_, ?_⟩
  · rw [hserver, holdServer]
    rfl
  · rw [hnetworks, holdNetworks]
    rfl

/-- A slot of the roster after the writes. -/
theorem programmed_slot {slot : Nat} {e : RosterEntry} (he : req.roster[slot]? = some e) :
    (programmed d req).cfg.locos[slot]? = some (functionsWritten e (slotWritten e (d.slot slot))) := by
  have hlen : slot < (programmed d req).cfg.locos.length := by
    have hroster : slot < req.roster.length := (List.getElem?_eq_some_iff.1 he).1
    have hlocos := length_writeLoco req.roster (d.setName req.identity)
    have hfunctions := writesSlots_functions.fold_length req.roster.zipIdx
      (req.roster.zipIdx.foldl writeLoco (d.setName req.identity))
    show slot < (req.roster.zipIdx.foldl writeFunctions _).cfg.locos.length
    omega
  have hslot : (programmed d req).slot slot = functionsWritten e (slotWritten e (d.slot slot)) := by
    show (req.roster.zipIdx.foldl writeFunctions (req.roster.zipIdx.foldl writeLoco (d.setName req.identity))).slot slot = _
    rw [writesSlots_functions.fold_slot, writesSlots_loco.fold_slot]
    simp only [he]
    rfl
  unfold WifredFake.slot at hslot
  rw [List.getElem?_eq_getElem hlen] at hslot ⊢
  exact congrArg some hslot

/-- What the writes leave in a slot agrees with the entry if its long flag was not left on. -/
theorem slotAgrees_written {e : RosterEntry} (haddr : slotAddr e = wantAddr e) (hnodup : (e.functions.map (·.index)).Nodup)
    (l : LocoConfig) :
    SlotAgrees (functionsWritten e (slotWritten e l)) e ↔ (l.longAddress = some true → e.longAddress = some true) := by
  have hlong : (functionsWritten e (slotWritten e l)).longAddress =
      if e.longAddress = some true then some true else l.longAddress := rfl
  constructor
  · rintro ⟨-, -, -, hiff, -⟩ hl
    by_contra he
    rw [hlong, if_neg he] at hiff
    exact he (hiff.1 hl)
  · intro h
    refine ⟨haddr, rfl, rfl, ?_, fun fm hfm => functionValue_fold hnodup hfm _⟩
    rw [hlong]
    by_cases he : e.longAddress = some true
    · simp [he]
    · rw [if_neg he]
      exact ⟨h, fun h' => absurd h' he⟩

private theorem upsertNetwork_of_notMem {ssid : String} {key : Option String} {networks : List NetworkConfig}
    (h : ∀ n ∈ networks, n.ssid ≠ ssid) : upsertNetwork ssid key networks = networks ++ [⟨ssid, key, true⟩] := by
  induction networks with
  | nil => rfl
  | cons n networks ih =>
    rw [upsertNetwork, if_neg (h n (by simp)), ih fun n hn => h n (by simp [hn])]
    rfl

/-- The target network is the only one with its SSID. -/
theorem programmed_network :
    (programmed d req).cfg.networks.filter (·.ssid = req.wifi.ssid) = [⟨req.wifi.ssid, sentKey req, true⟩] := by
  have hother : ∀ n ∈ d.cfg.networks.filter (·.ssid ≠ req.wifi.ssid), n.ssid ≠ req.wifi.ssid := by
    intro n hn
    simpa using (List.mem_filter.1 hn).2
  rw [(programmed_rest d req).2.2.2, upsertNetwork_of_notMem hother, List.filter_append,
    List.filter_eq_nil_iff.2 fun n hn => by simpa using hother n hn]
  simp

/-- After the writes the fake agrees with an accepted request exactly when no flag was on that the request wants off. -/
theorem agrees_programmed_iff (hvalid : validate req = .ok ()) :
    Agrees (programmed d req).cfg req ↔ FlagsClear d.cfg req := by
  obtain ⟨-, hname, hserver, -⟩ := programmed_rest d req
  have hslot : ∀ (slot : Nat) (e : RosterEntry), req.roster[slot]? = some e →
      ((∃ l, (programmed d req).cfg.locos[slot]? = some l ∧ SlotAgrees l e) ↔
        ∀ l, d.cfg.locos[slot]? = some l → l.longAddress = some true → e.longAddress = some true) := by
    intro slot e he
    have hmem : e ∈ req.roster := List.mem_of_getElem? he
    have haddr : slotAddr e = wantAddr e := slotAddr_eq fun a ha => (validateCommon_entry hvalid hmem).address a ha
    rw [programmed_slot d req he]
    simp only [Option.some.injEq, exists_eq_left', slotAgrees_written haddr (validateCommon_entry hvalid hmem).nodup]
    unfold WifredFake.slot
    cases d.cfg.locos[slot]? with
    | none => simp [LocoConfig.unused]
    | some l => simp
  have hauto : (req.server.automatic || (d.cfg.locoServer.getD .default).automatic) = req.server.automatic ↔
      ∀ v, d.cfg.locoServer = some v → v.automatic = true → req.server.automatic = true := by
    cases d.cfg.locoServer with
    | none => simp [LocoServerConfig.default]
    | some v => simp
  unfold Agrees FlagsClear
  rw [hname, hserver, programmed_network, ← hauto]
  simp only [Option.some.injEq, LocoServerConfig.mk.injEq, true_and]
  refine and_congr_right fun _ => ⟨fun h slot e l he hl hlong => ?_, fun h slot e he => ?_⟩
  · exact (hslot slot e he).1 (h slot e he) l hl hlong
  · exact (hslot slot e he).2 fun l hl => h slot e l he hl

/-- The read-back after the writes passes verification. -/
theorem verify_programmed (hvalid : validate req = .ok ()) : verify (configRead (programmed d req).cfg) req = [] := by
  obtain ⟨-, hname, hserver, -⟩ := programmed_rest d req
  refine verify_eq_nil.2 ⟨hname, ⟨_, hserver⟩, ?_, fun slot e he => ?_⟩
  · have hmem : (⟨req.wifi.ssid, sentKey req, true⟩ : NetworkConfig) ∈
        (programmed d req).cfg.networks.filter (·.ssid = req.wifi.ssid) := by
      rw [programmed_network]
      exact List.mem_singleton_self _
    exact ⟨_, (List.mem_filter.1 hmem).1, rfl, rfl⟩
  · have haddr : slotAddr e = wantAddr e := slotAddr_eq fun a ha =>
      (validateCommon_entry hvalid (List.mem_of_getElem? he)).address a ha
    refine ⟨locoRead (functionsWritten e (slotWritten e (d.slot slot)), slot), ?_, ?_⟩
    · simp [configRead, List.getElem?_map, List.getElem?_zipIdx, programmed_slot d req he]
    · show addressRead (slotAddr e) = wantAddr e
      rw [addressRead_eq (slotAddr_range e).1 (slotAddr_range e).2, haddr]

end Programmed

/-! ### Runs -/

section Run

variable {xmlReader : List Char → XmlDocument} {d d' : WifredFake} {req : ProgramRequest}

private theorem runAgainst_write {path : String} (h : d.handle ⟨"GET", path, none⟩ = (okText "ok", d')) :
    runAgainst WifredFake.handle (write path) d = (.ok (), d') := by
  have hbody : (d.handle ⟨"GET", path, none⟩).1.result = .ok (utf8Bytes "ok") := by
    rw [h]
    exact okText_result _
  unfold write
  rw [runAgainst_bind (runAgainst_get hbody), h]
  rfl

theorem handle_configPath (d : WifredFake) :
    d.handle ⟨"GET", CONFIG_XML_PATH, none⟩ = (okXml (utf8Bytes (serializeXml d.cfg)), d) := by
  have hpath : "/api/getConfigXML".toList.isPrefixOf CONFIG_XML_PATH.toList = true := by decide
  unfold WifredFake.handle
  rw [if_neg (by simp)]
  exact if_pos hpath

theorem handle_restartPath (d : WifredFake) :
    d.handle ⟨"GET", RESTART_PATH, none⟩ = (okText "ok", { d with restarted := true }) := by
  have hconfig : "/api/getConfigXML".toList.isPrefixOf RESTART_PATH.toList = false := by decide
  have hpath : "/restart.html".toList.isPrefixOf RESTART_PATH.toList = true := by decide
  unfold WifredFake.handle
  simp only [hconfig, hpath]
  rfl

private theorem runAgainst_readConfig (h : Delivers xmlReader d.cfg) :
    runAgainst WifredFake.handle (readConfig xmlReader) d = (.ok (configRead d.cfg), d) := by
  have hbody : (d.handle ⟨"GET", CONFIG_XML_PATH, none⟩).1.result = .ok (utf8Bytes (serializeXml d.cfg)) := by
    rw [handle_configPath]
    exact okXml_result _
  unfold readConfig
  rw [runAgainst_bind (runAgainst_get hbody), handle_configPath]
  exact runAgainst_liftExcept (by rw [parseConfig_serializeXml h]; rfl) d

/-- The slot numbers of an accepted roster are far from the end of `u8`. -/
theorem slot_lt_of_validate (hvalid : validate req = .ok ()) {e : RosterEntry × Nat} (he : e ∈ req.roster.zipIdx) :
    e.2 < 255 := by
  have hlen : req.roster.length ≤ 4 := validateCommon_roster hvalid
  have := List.snd_lt_of_mem_zipIdx he
  omega

/-- Every run against a fake of the supported version ends well, after all writes and the restart. -/
theorem program_run (hvalid : validate req = .ok ()) (hversion : d.cfg.structureVersion = some STRUCTURE_VERSION)
    (hbefore : Delivers xmlReader d.cfg) (hafter : Delivers xmlReader (programmed d req).cfg) :
    runAgainst WifredFake.handle (program xmlReader .http req) d =
      (.ok ⟨true, []⟩, { programmed d req with restarted := true }) := by
  have hclient : runAgainst WifredFake.handle (DriverM.httpClient "wifred" .http) d = (.ok (), d) := rfl
  have hcheck : checkStructureVersion (configRead d.cfg) = .ok () := by
    show checkStructureVersion { d.cfg with locos := _ } = _
    simp only [checkStructureVersion, hversion, if_true]
  have hlocos (d : WifredFake) : runAgainst WifredFake.handle
      (req.roster.zipIdx.forM fun e => write (locoPath e)) d = (.ok (), req.roster.zipIdx.foldl writeLoco d) :=
    runAgainst_forM (fun e he d => runAgainst_write (handle_locoPath d (slot_lt_of_validate hvalid he))) d
  have hfunctions (d : WifredFake) : runAgainst WifredFake.handle
      (req.roster.zipIdx.forM fun e => if e.1.functions = [] then pure () else write (functionsPath e)) d =
      (.ok (), req.roster.zipIdx.foldl writeFunctions d) := by
    refine runAgainst_forM (fun e he d => ?_) d
    unfold writeFunctions
    split
    · rfl
    · exact runAgainst_write (handle_functionsPath d (slot_lt_of_validate hvalid he))
  unfold program
  rw [runAgainst_bind hclient, runAgainst_bind (runAgainst_step "read" d), runAgainst_bind (runAgainst_readConfig hbefore),
    runAgainst_bind (runAgainst_liftExcept hcheck d), runAgainst_bind (runAgainst_step "identity" d),
    runAgainst_bind (runAgainst_write (handle_namePath d req)), runAgainst_bind (runAgainst_step "locos" _),
    runAgainst_bind (hlocos _), runAgainst_bind (runAgainst_step "functions" _), runAgainst_bind (hfunctions _),
    runAgainst_bind (runAgainst_step "server" _), runAgainst_bind (runAgainst_write (handle_serverPath _ req)),
    runAgainst_bind (runAgainst_step "wifi" _), runAgainst_bind (runAgainst_write (handle_removePath _ req)),
    runAgainst_bind (runAgainst_write (handle_wifiPath _ req)), runAgainst_bind (runAgainst_step "verify" _)]
  show runAgainst WifredFake.handle _ (programmed d req) = _
  rw [runAgainst_bind (runAgainst_readConfig hafter)]
  simp only [verify_programmed d req hvalid, ne_eq, not_true_eq_false, if_false]
  rw [runAgainst_bind (runAgainst_step "restart" _), runAgainst_bind (runAgainst_write (handle_restartPath _))]
  rfl

/-- For every accepted request and every fake of the supported version: the run ends well and leaves the fake in agreement
with the request, whatever it held before, exactly when no flag was on that the request wants off. -/
theorem program_agrees_iff (xmlReader : List Char → XmlDocument) (d : WifredFake) (req : ProgramRequest)
    (hvalid : validate req = .ok ()) (hversion : d.cfg.structureVersion = some STRUCTURE_VERSION)
    (hbefore : Delivers xmlReader d.cfg) (hafter : Delivers xmlReader (programmed d req).cfg) :
    ((∃ o, (runAgainst WifredFake.handle (program xmlReader .http req) d).1 = .ok o) ∧
      Agrees (runAgainst WifredFake.handle (program xmlReader .http req) d).2.cfg req) ↔ FlagsClear d.cfg req := by
  rw [program_run hvalid hversion hbefore hafter, ← agrees_programmed_iff d req hvalid]
  exact ⟨fun h => h.2, fun h => ⟨⟨_, rfl⟩, h⟩⟩

end Run

/-! ### A full slot and a flag left on -/

/-- An XML reader for two documents. -/
private def reader (first second : DeviceConfig) (text : List Char) : XmlDocument :=
  ⟨.other :: (configLines (if text = (serializeXml first).toList then first else second)).map (·.event), none⟩

private theorem reader_delivers (first second : DeviceConfig)
    (hlines : (configLines second).flatMap (·.text) ≠ (configLines first).flatMap (·.text)) :
    Delivers (reader first second) first ∧ Delivers (reader first second) second := by
  have hne : (serializeXml second).toList ≠ (serializeXml first).toList := by
    obtain ⟨prolog, htext⟩ := toList_serializeXml
    rw [htext, htext]
    exact fun h => hlines (List.append_cancel_left h)
  have hread : ∀ cfg text, reader first second text = ⟨.other :: (configLines cfg).map (·.event), none⟩ →
      (reader first second text).error = none ∧
        (reader first second text).events.filter (· ≠ .other) = (configLines cfg).map (·.event) := by
    intro cfg text h
    rw [h]
    refine ⟨rfl, ?_⟩
    show ((XmlEvent.other :: (configLines cfg).map (·.event)).filter (· ≠ .other)) = _
    rw [List.filter_cons_of_neg (by simp), List.filter_eq_self]
    exact fun e he => decide_eq_true (ne_other_of_mem_configLines he)
  exact ⟨hread _ _ (by rw [reader, if_pos rfl]), hread _ _ (by rw [reader, if_neg hne])⟩

/-- A fake whose first slot has a long address. -/
private def longFake : WifredFake :=
  ⟨⟨some "1", none, none, none, [⟨none, 2000, none, none, some true, []⟩], [], none⟩, false, none⟩

private def slotRequest (longAddress : Option Bool) : ProgramRequest :=
  ⟨"122145", ⟨"net", some "key"⟩, ⟨"hub", 12090, true⟩, [⟨some 3, longAddress, some "128", some 0, [⟨0, 1⟩]⟩], none, none⟩

private theorem slotRequest_delivers (longAddress : Option Bool)
    (h : (configLines (programmed longFake (slotRequest longAddress)).cfg).flatMap (·.text) ≠
      (configLines longFake.cfg).flatMap (·.text)) :
    ∃ xmlReader, Delivers xmlReader longFake.cfg ∧
      Delivers xmlReader (programmed longFake (slotRequest longAddress)).cfg :=
  ⟨_, reader_delivers _ _ h⟩

/-- A long address over a long address. -/
theorem program_agrees_long : ∃ xmlReader,
    (∃ o, (runAgainst WifredFake.handle (program xmlReader .http (slotRequest (some true))) longFake).1 = .ok o) ∧
      Agrees (runAgainst WifredFake.handle (program xmlReader .http (slotRequest (some true))) longFake).2.cfg
        (slotRequest (some true)) := by
  obtain ⟨xmlReader, hbefore, hafter⟩ := slotRequest_delivers (some true) (by decide +kernel)
  refine ⟨xmlReader, (program_agrees_iff xmlReader longFake (slotRequest (some true)) (by decide +kernel) rfl hbefore hafter).2
    ⟨?_, ?_⟩⟩
  · exact fun v hv => nomatch hv
  · intro slot e l he _ _
    obtain rfl : slot = 0 := by
      have : slot < 1 := (List.getElem?_eq_some_iff.1 he).1
      omega
    obtain rfl := Option.some.inj he
    rfl

/-- A short address over a long one: the run ends well and the slot keeps its long flag. -/
theorem program_keeps_longAddress :
    ∃ (xmlReader : List Char → XmlDocument) (d : WifredFake) (req : ProgramRequest),
      validate req = .ok () ∧ d.cfg.structureVersion = some STRUCTURE_VERSION ∧ Delivers xmlReader d.cfg ∧
        Delivers xmlReader (programmed d req).cfg ∧
        ¬ ((∃ o, (runAgainst WifredFake.handle (program xmlReader .http req) d).1 = .ok o) ∧
          Agrees (runAgainst WifredFake.handle (program xmlReader .http req) d).2.cfg req) := by
  obtain ⟨xmlReader, hbefore, hafter⟩ := slotRequest_delivers none (by decide +kernel)
  have hvalid : validate (slotRequest none) = .ok () := by decide +kernel
  refine ⟨xmlReader, longFake, slotRequest none, hvalid, rfl, hbefore, hafter, fun h => ?_⟩
  rw [program_run hvalid rfl hbefore hafter] at h
  have hclear := (agrees_programmed_iff longFake (slotRequest none) hvalid).1 h.2
  exact absurd (hclear.2 0 _ _ rfl rfl rfl) (by decide)

end WiFred

end WirelessProgrammer
