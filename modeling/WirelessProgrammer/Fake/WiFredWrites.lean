import WirelessProgrammer.Drivers.WiFredSlots
import WirelessProgrammer.Fake.WiFredQuery

/-!
# The driver's writes on the fake WiFred

What each request of the driver does to the fake.  A slot is written by selecting it, which extends the list of slots as
far as needed, and changing what it holds; slots are compared by `slot`, in which a slot beyond the list is an unused
one.
-/

namespace WirelessProgrammer

open Text

/-! ### Writes -/

namespace WifredFake

variable (d : WifredFake)

/-- What a slot holds, counted from 0. -/
def slot (i : Nat) : LocoConfig := d.cfg.locos[i]?.getD .unused

def setName (name : String) : WifredFake := { d with cfg := { d.cfg with throttleName := some name } }

def writeSlot (i : Nat) (f : LocoConfig → LocoConfig) : WifredFake := (d.selectLoco i).onActive f

/-- The automatic flag is only ever set. -/
def setServer (v : ThrottleServer) : WifredFake :=
  d.onServer fun old => ⟨v.host, v.port, v.automatic || old.automatic⟩

def removeNetwork (ssid : String) : WifredFake :=
  { d with cfg := { d.cfg with networks := d.cfg.networks.filter (·.ssid ≠ ssid) } }

def addNetwork (ssid : String) (key : Option String) : WifredFake :=
  { d with cfg := { d.cfg with networks := upsertNetwork ssid key d.cfg.networks } }

private theorem onActive_onActive (f g : LocoConfig → LocoConfig) :
    (d.onActive f).onActive g = d.onActive fun l => g (f l) := by
  unfold onActive
  cases h : d.activeLoco with
  | none => simp [h]
  | some i => simp [List.modify_modify_eq, Function.comp_def]

/-- The slots after a write. -/
theorem slot_writeSlot (i j : Nat) (f : LocoConfig → LocoConfig) :
    (d.writeSlot i f).slot j = if j = i then f (d.slot j) else d.slot j := by
  have hpad : ∀ j, (padLocos i d.cfg.locos)[j]?.getD .unused = d.slot j := by
    intro j
    unfold padLocos slot
    by_cases hj : j < d.cfg.locos.length
    · rw [List.getElem?_append_left hj]
    · rw [List.getElem?_append_right (by omega), List.getElem?_replicate, List.getElem?_eq_none (by omega)]
      split <;> rfl
  have hlen : i < (padLocos i d.cfg.locos).length := by
    simp [padLocos]
    omega
  show (((padLocos i d.cfg.locos).modify i f)[j]?).getD .unused = _
  rw [List.getElem?_modify]
  by_cases hj : j = i
  · subst hj
    rw [if_pos rfl, ← hpad j, List.getElem?_eq_getElem hlen]
    simp
  · rw [if_neg hj, ← hpad j]
    simp [Ne.symm hj]

private theorem length_writeSlot (i : Nat) (f : LocoConfig → LocoConfig) :
    (d.writeSlot i f).cfg.locos.length = max d.cfg.locos.length (i + 1) := by
  show ((padLocos i d.cfg.locos).modify i f).length = _
  simp [padLocos]
  omega

/-- Apart from the slots the devices are the same. -/
def SameRest (d d' : WifredFake) : Prop :=
  { d'.cfg with locos := [] } = { d.cfg with locos := [] } ∧ d'.restarted = d.restarted

private theorem sameRest_writeSlot (i : Nat) (f : LocoConfig → LocoConfig) : SameRest d (d.writeSlot i f) := ⟨rfl, rfl⟩

end WifredFake

namespace WiFred

/-- What the write of a slot makes of it; the long flag is only ever set. -/
def slotWritten (e : RosterEntry) (l : LocoConfig) : LocoConfig :=
  { l with
    address := slotAddr e
    mode := some (e.mode.getD "")
    direction := some (e.direction.getD DONT_CHANGE)
    longAddress := if e.longAddress = some true then some true else l.longAddress }

def functionsWritten (e : RosterEntry) (l : LocoConfig) : LocoConfig :=
  { l with functions := e.functions.foldl (fun fs fm => upsertFunction fm.index fm.value fs) l.functions }

/-! ### Requests -/

/-- A request of `/index.html` hands its query to the device. -/
theorem handle_index (d : WifredFake) {path : String} {query : List Char}
    (h : path.toList = "/index.html?".toList ++ query) :
    d.handle ⟨"GET", path, none⟩ = (okText "ok", d.applyQuery query) := by
  have hquery : splitOnce '?' path.toList = some ("/index.html".toList, query) := by
    rw [h]
    exact splitOnce_append_cons (l := "/index.html".toList) (by decide) query
  unfold WifredFake.handle
  simp only [hquery]
  rw [h]
  rfl

/-- A request whose path ends in a query with these keys is handled argument by argument. -/
theorem handle_query (d : WifredFake) {path : String} {p : String × String} {l : List (String × String)}
    (h : path.toList = "/index.html?".toList ++ queryText (p :: l)) (keys : List String)
    (hkeys : ∀ k ∈ keys, PlainKey k) (hmap : (p :: l).map (·.1) = keys) :
    d.handle ⟨"GET", path, none⟩ =
      (okText "ok", ((p :: l).foldl (fun s q => s.applyPair q.1 q.2) (QueryState.init d)).finish) := by
  rw [handle_index d h, applyQuery_queryText d fun q hq => hkeys _ (hmap ▸ List.mem_map_of_mem hq)]

theorem handle_namePath (d : WifredFake) (req : ProgramRequest) :
    d.handle ⟨"GET", namePath req, none⟩ = (okText "ok", d.setName req.identity) := by
  have hname : "/index.html?throttleName=".toList = "/index.html?".toList ++ ("throttleName".toList ++ ['=']) := rfl
  rw [handle_query d (l := []) (p := ("throttleName", req.identity)) ?_ ["throttleName"] (by decide) rfl]
  · simp only [List.foldl_cons, List.foldl_nil, QueryState.applyPair_throttleName]
    rfl
  · unfold namePath
    simp only [String.toList_append, queryText, pairText, List.flatMap_nil, List.append_nil]
    generalize percentEncode req.identity = name
    rw [hname]
    simp only [List.append_assoc, List.cons_append, List.nil_append]

theorem handle_removePath (d : WifredFake) (req : ProgramRequest) :
    d.handle ⟨"GET", removePath req, none⟩ = (okText "ok", d.removeNetwork req.wifi.ssid) := by
  have hremove : "/index.html?remove=".toList = "/index.html?".toList ++ ("remove".toList ++ ['=']) := rfl
  rw [handle_query d (l := []) (p := ("remove", req.wifi.ssid)) ?_ ["remove"] (by decide) rfl]
  · simp only [List.foldl_cons, List.foldl_nil, QueryState.applyPair_remove]
    rfl
  · unfold removePath
    simp only [String.toList_append, queryText, pairText, List.flatMap_nil, List.append_nil]
    generalize percentEncode req.wifi.ssid = ssid
    rw [hremove]
    simp only [List.append_assoc, List.cons_append, List.nil_append]

/-- The key that is sent with the network: an empty one is not. -/
def sentKey (req : ProgramRequest) : Option String := req.wifi.psk.filter (· ≠ "")

/-- The end of the network's query. -/
private theorem wifiPath_cases (req : ProgramRequest) :
    (sentKey req = none ∧ wifiPath req = "/index.html?wifiSSID=" ++ percentEncode req.wifi.ssid) ∨
      ∃ key, sentKey req = some key ∧
        wifiPath req = "/index.html?wifiSSID=" ++ percentEncode req.wifi.ssid ++ ("&wifiKEY=" ++ percentEncode key) := by
  cases hpsk : req.wifi.psk with
  | none =>
    left
    unfold sentKey wifiPath
    rw [hpsk]
    exact ⟨rfl, String.append_empty⟩
  | some psk =>
    unfold sentKey wifiPath
    rw [hpsk]
    by_cases hempty : psk = ""
    · left
      exact ⟨by simp [hempty], by simp only [hempty, if_true, String.append_empty]⟩
    · right
      exact ⟨psk, by simp [hempty], by simp only [hempty, if_false]⟩

theorem handle_wifiPath (d : WifredFake) (req : ProgramRequest) :
    d.handle ⟨"GET", wifiPath req, none⟩ = (okText "ok", d.addNetwork req.wifi.ssid (sentKey req)) := by
  have hssid : "/index.html?wifiSSID=".toList = "/index.html?".toList ++ ("wifiSSID".toList ++ ['=']) := rfl
  have hwifi : "&wifiKEY=".toList = '&' :: ("wifiKEY".toList ++ ['=']) := rfl
  rcases wifiPath_cases req with ⟨hkey, hpath⟩ | ⟨key, hkey, hpath⟩
  · rw [hkey, hpath, handle_query d (l := []) (p := ("wifiSSID", req.wifi.ssid)) ?_ ["wifiSSID"] (by decide) rfl]
    · simp only [List.foldl_cons, List.foldl_nil, QueryState.applyPair_ssid]
      rfl
    · simp only [String.toList_append, queryText, pairText, List.flatMap_nil, List.append_nil]
      generalize percentEncode req.wifi.ssid = ssid
      rw [hssid]
      simp only [List.append_assoc, List.cons_append, List.nil_append]
  · rw [hkey, hpath, handle_query d (l := [("wifiKEY", key)]) (p := ("wifiSSID", req.wifi.ssid)) ?_
      ["wifiSSID", "wifiKEY"] (by decide) rfl]
    · simp only [List.foldl_cons, List.foldl_nil, QueryState.applyPair_ssid, QueryState.applyPair_key]
      rfl
    · simp only [String.toList_append, queryText, pairText, List.flatMap_cons, List.flatMap_nil, List.append_nil]
      generalize percentEncode req.wifi.ssid = ssid
      generalize percentEncode key = key
      rw [hssid, hwifi]
      simp only [List.append_assoc, List.cons_append, List.nil_append]

private theorem percentEncode_on : percentEncode "on" = "on" :=
  percentEncode_eq_self (show PlainKey "on" by decide).2

private theorem serverPath_manual {req : ProgramRequest} (h : req.server.automatic = false) :
    (serverPath req).toList = "/index.html?".toList ++
      queryText [("loco.serverName", req.server.host), ("loco.serverPort", toString req.server.port)] := by
  have hname : "/index.html?loco.serverName=".toList = "/index.html?".toList ++ ("loco.serverName".toList ++ ['=']) := rfl
  have hport : "&loco.serverPort=".toList = '&' :: ("loco.serverPort".toList ++ ['=']) := rfl
  have hnum : percentEncode (toString req.server.port) = toString req.server.port :=
    percentEncode_toString req.server.port.toNat
  unfold serverPath
  simp only [h, Bool.false_eq_true, if_false, String.append_empty, String.toList_append, queryText, pairText,
    List.flatMap_cons, List.flatMap_nil, List.append_nil, hnum]
  generalize percentEncode req.server.host = host
  generalize toString req.server.port = port
  rw [hname, hport]
  simp only [List.append_assoc, List.cons_append, List.nil_append]

private theorem serverPath_automatic {req : ProgramRequest} (h : req.server.automatic = true) :
    (serverPath req).toList = "/index.html?".toList ++ queryText [("loco.serverName", req.server.host),
      ("loco.serverPort", toString req.server.port), ("loco.automatic", "on")] := by
  have hname : "/index.html?loco.serverName=".toList = "/index.html?".toList ++ ("loco.serverName".toList ++ ['=']) := rfl
  have hport : "&loco.serverPort=".toList = '&' :: ("loco.serverPort".toList ++ ['=']) := rfl
  have hauto : "&loco.automatic=on".toList = '&' :: ("loco.automatic".toList ++ '=' :: "on".toList) := rfl
  have hnum : percentEncode (toString req.server.port) = toString req.server.port :=
    percentEncode_toString req.server.port.toNat
  unfold serverPath
  simp only [h, if_true, String.toList_append, queryText, pairText,
    List.flatMap_cons, List.flatMap_nil, List.append_nil, hnum, percentEncode_on]
  generalize percentEncode req.server.host = host
  generalize toString req.server.port = port
  rw [hname, hport, hauto]
  simp only [List.append_assoc, List.cons_append, List.nil_append]

theorem handle_serverPath (d : WifredFake) (req : ProgramRequest) :
    d.handle ⟨"GET", serverPath req, none⟩ = (okText "ok", d.setServer req.server) := by
  cases hflag : req.server.automatic with
  | false =>
    rw [handle_query d (serverPath_manual hflag) ["loco.serverName", "loco.serverPort"] (by decide) rfl]
    simp only [List.foldl_cons, List.foldl_nil, QueryState.applyPair_serverName, QueryState.applyPair_serverPort]
    unfold WifredFake.setServer
    rw [hflag]
    rfl
  | true =>
    rw [handle_query d (serverPath_automatic hflag) ["loco.serverName", "loco.serverPort", "loco.automatic"] (by decide)
      rfl]
    simp only [List.foldl_cons, List.foldl_nil, QueryState.applyPair_serverName, QueryState.applyPair_serverPort,
      QueryState.applyPair_automatic]
    unfold WifredFake.setServer
    rw [hflag]
    rfl

/-! ### Requests for a slot -/

theorem slotAddr_range (e : RosterEntry) : -2 ^ 63 ≤ slotAddr e ∧ slotAddr e < 2 ^ 63 := by
  unfold slotAddr
  split
  · split
    · omega
    · omega
  · omega

/-- The arguments of a slot's write, up to the long flag. -/
private def locoArgs (e : RosterEntry × Nat) : List (String × String) :=
  [("loco.address", toString (slotAddr e.1)), ("loco.mode", e.1.mode.getD ""),
    ("loco.direction", toString (e.1.direction.getD DONT_CHANGE))]

private def longArgs (e : RosterEntry × Nat) : List (String × String) :=
  if e.1.longAddress = some true then [("loco.longAddress", "on")] else []

private theorem toList_locoPath {e : RosterEntry × Nat} (h : e.2 < 255) :
    (locoPath e).toList = "/index.html?".toList ++
      queryText (("loco", toString (e.2 + 1)) :: (locoArgs e ++ longArgs e)) := by
  have hloco : "/index.html?loco=".toList = "/index.html?".toList ++ ("loco".toList ++ ['=']) := rfl
  have haddr : "&loco.address=".toList = '&' :: ("loco.address".toList ++ ['=']) := rfl
  have hmode : "&loco.mode=".toList = '&' :: ("loco.mode".toList ++ ['=']) := rfl
  have hdir : "&loco.direction=".toList = '&' :: ("loco.direction".toList ++ ['=']) := rfl
  have hlong : (if e.1.longAddress = some true then "&loco.longAddress=on" else "").toList =
      (longArgs e).flatMap fun q => '&' :: pairText q := by
    unfold longArgs
    split
    · rw [List.flatMap_singleton, pairText, percentEncode_on]
      rfl
    · rfl
  have hdirNum : percentEncode (toString (e.1.direction.getD DONT_CHANGE)) = toString (e.1.direction.getD DONT_CHANGE) :=
    percentEncode_toString (e.1.direction.getD DONT_CHANGE).toNat
  unfold locoPath locoArgs
  simp only [toString_slotNumber h, String.toList_append, hlong, queryText, pairText, List.flatMap_append,
    List.flatMap_cons, List.flatMap_nil, List.append_nil, percentEncode_toString, percentEncode_toString_int, hdirNum]
  generalize percentEncode (e.1.mode.getD "") = mode
  generalize toString (e.2 + 1) = n
  generalize toString (slotAddr e.1) = addr
  generalize toString (e.1.direction.getD DONT_CHANGE) = dir
  rw [hloco, haddr, hmode, hdir]
  simp only [List.append_assoc, List.cons_append, List.nil_append]

theorem handle_locoPath (d : WifredFake) {e : RosterEntry × Nat} (h : e.2 < 255) :
    d.handle ⟨"GET", locoPath e, none⟩ = (okText "ok", d.writeSlot e.2 (slotWritten e.1)) := by
  obtain ⟨hlo, hhi⟩ := slotAddr_range e.1
  have hkeys : ∀ k ∈ ["loco", "loco.address", "loco.mode", "loco.direction", "loco.longAddress"], PlainKey k := by decide
  have hmem : ∀ q ∈ ("loco", toString (e.2 + 1)) :: (locoArgs e ++ longArgs e), PlainKey q.1 := by
    intro q hq
    refine hkeys q.1 ?_
    unfold locoArgs longArgs at hq
    split at hq
    · simp only [List.mem_cons, List.cons_append, List.nil_append, List.not_mem_nil, or_false] at hq
      rcases hq with rfl | rfl | rfl | rfl | rfl <;> simp
    · simp only [List.mem_cons, List.cons_append, List.nil_append, List.not_mem_nil, or_false] at hq
      rcases hq with rfl | rfl | rfl | rfl <;> simp
  rw [handle_query d (toList_locoPath h) _ (fun k hk => ?_) rfl]
  · unfold locoArgs
    simp only [List.foldl_cons, List.foldl_append, List.foldl_nil,
      QueryState.applyPair_loco _ (show e.2 + 1 < 2 ^ 64 by omega),
      QueryState.applyPair_address _ hlo hhi, QueryState.applyPair_mode, QueryState.applyPair_direction]
    by_cases hlong : e.1.longAddress = some true
    · simp only [longArgs, if_pos hlong, List.foldl_cons, List.foldl_nil, QueryState.applyPair_longAddress]
      simp only [QueryState.finish, QueryState.onFake, QueryState.init, WifredFake.onActive_onActive]
      unfold WifredFake.writeSlot slotWritten
      simp only [if_pos hlong]
    · simp only [longArgs, if_neg hlong, List.foldl_nil]
      simp only [QueryState.finish, QueryState.onFake, QueryState.init, WifredFake.onActive_onActive]
      unfold WifredFake.writeSlot slotWritten
      simp only [if_neg hlong]
  · obtain ⟨q, hq, rfl⟩ := List.mem_map.1 hk
    exact hmem q hq

private def functionArg (fm : FunctionMapping) : String × String := ("f" ++ toString fm.index, toString fm.value)

private theorem toList_functionsPath {e : RosterEntry × Nat} (h : e.2 < 255) :
    (functionsPath e).toList = "/index.html?".toList ++
      queryText (("loco", toString (e.2 + 1)) :: e.1.functions.map functionArg) := by
  have hloco : "/index.html?loco=".toList = "/index.html?".toList ++ ("loco".toList ++ ['=']) := rfl
  have hf : "&f".toList = '&' :: "f".toList := rfl
  have hone : ∀ fm : FunctionMapping, ("&f" ++ toString fm.index ++ "=" ++ toString fm.value).toList =
      '&' :: pairText (functionArg fm) := by
    intro fm
    have hvalue : percentEncode (toString fm.value) = toString fm.value := percentEncode_toString fm.value.toNat
    unfold functionArg pairText
    simp only [String.toList_append, hvalue]
    rw [hf]
    simp only [List.append_assoc, List.cons_append]
    rfl
  unfold functionsPath
  simp only [toString_slotNumber h, String.toList_append, String.toList_join, List.flatMap_map, hone, queryText, pairText,
    percentEncode_toString]
  generalize toString (e.2 + 1) = n
  rw [hloco]
  simp only [List.append_assoc, List.cons_append, List.nil_append]

/-- The function arguments change the selected slot one after the other. -/
private theorem foldl_functionArgs (l : List FunctionMapping) (s : QueryState) :
    (l.map functionArg).foldl (fun s q => s.applyPair q.1 q.2) s = s.onFake fun d => d.onActive fun loco =>
      { loco with functions := l.foldl (fun fs fm => upsertFunction fm.index fm.value fs) loco.functions } := by
  induction l generalizing s with
  | nil =>
    have hid : ∀ d : WifredFake, d.onActive (fun loco => loco) = d := by
      intro d
      unfold WifredFake.onActive
      cases hactive : d.activeLoco with
      | none => rfl
      | some i =>
        show { d with cfg := { d.cfg with locos := d.cfg.locos.modify i id }, activeLoco := some i } = d
        rw [List.modify_id, ← hactive]
    show s = s.onFake fun d => d.onActive fun loco => loco
    simp [QueryState.onFake, hid]
  | cons fm l ih =>
    rw [List.map_cons, List.foldl_cons, ih]
    simp only [functionArg, QueryState.applyPair_function, QueryState.onFake, WifredFake.onActive_onActive, List.foldl_cons]

theorem handle_functionsPath (d : WifredFake) {e : RosterEntry × Nat} (h : e.2 < 255) :
    d.handle ⟨"GET", functionsPath e, none⟩ = (okText "ok", d.writeSlot e.2 (functionsWritten e.1)) := by
  have hloco : PlainKey "loco" := by decide
  have hmem : ∀ q ∈ ("loco", toString (e.2 + 1)) :: e.1.functions.map functionArg, PlainKey q.1 := by
    intro q hq
    rcases List.mem_cons.1 hq with rfl | hq
    · exact hloco
    · obtain ⟨fm, -, rfl⟩ := List.mem_map.1 hq
      exact plainKey_function fm.index
  rw [handle_query d (toList_functionsPath h) _ (fun k hk => ?_) rfl]
  · rw [List.foldl_cons, foldl_functionArgs, QueryState.applyPair_loco _ (show e.2 + 1 < 2 ^ 64 by omega)]
    rfl
  · obtain ⟨q, hq, rfl⟩ := List.mem_map.1 hk
    exact hmem q hq

/-! ### All slots -/

/-- A pass over the roster that changes slot after slot, each as `F` says, and nothing else. -/
structure WritesSlots (F : RosterEntry → LocoConfig → LocoConfig) (g : WifredFake → RosterEntry × Nat → WifredFake) :
    Prop where
  slot : ∀ d e j, (g d e).slot j = if j = e.2 then F e.1 (d.slot j) else d.slot j
  length : ∀ d e, d.cfg.locos.length ≤ (g d e).cfg.locos.length
  rest : ∀ d e, WifredFake.SameRest d (g d e)

namespace WritesSlots

variable {F : RosterEntry → LocoConfig → LocoConfig} {g : WifredFake → RosterEntry × Nat → WifredFake}

theorem fold_slot (h : WritesSlots F g) (roster : List RosterEntry) (d : WifredFake) (j : Nat) :
    (roster.zipIdx.foldl g d).slot j =
      match roster[j]? with
      | some e => F e (d.slot j)
      | none => d.slot j := by
  induction roster using List.reverseRecOn with
  | nil => rfl
  | append_singleton roster e ih =>
    rw [List.zipIdx_append, List.foldl_append]
    show (g (roster.zipIdx.foldl g d) (e, 0 + roster.length)).slot j = _
    rw [h.slot, ih, Nat.zero_add]
    rcases Nat.lt_trichotomy j roster.length with hj | rfl | hj
    · rw [if_neg (by simp; omega), List.getElem?_append_left hj]
    · rw [if_pos rfl]
      simp
    · rw [if_neg (by simp; omega), List.getElem?_append_right (by omega), List.getElem?_eq_none (by omega),
        List.getElem?_eq_none (by simp; omega)]

theorem fold_rest (h : WritesSlots F g) (l : List (RosterEntry × Nat)) (d : WifredFake) : d.SameRest (l.foldl g d) := by
  induction l generalizing d with
  | nil => exact ⟨rfl, rfl⟩
  | cons e l ih => exact ⟨(ih (g d e)).1.trans (h.rest d e).1, (ih (g d e)).2.trans (h.rest d e).2⟩

theorem fold_length (h : WritesSlots F g) (l : List (RosterEntry × Nat)) (d : WifredFake) :
    d.cfg.locos.length ≤ (l.foldl g d).cfg.locos.length := by
  induction l generalizing d with
  | nil => exact Nat.le_refl _
  | cons e l ih => exact Nat.le_trans (h.length d e) (ih (g d e))

end WritesSlots

/-- The write of a slot's address, mode, direction and long flag. -/
def writeLoco (d : WifredFake) (e : RosterEntry × Nat) : WifredFake := d.writeSlot e.2 (slotWritten e.1)

/-- The write of a slot's function map, if its entry has one. -/
def writeFunctions (d : WifredFake) (e : RosterEntry × Nat) : WifredFake :=
  if e.1.functions = [] then d else d.writeSlot e.2 (functionsWritten e.1)

theorem writesSlots_loco : WritesSlots slotWritten writeLoco where
  slot d e j := d.slot_writeSlot e.2 j _
  length d e := by
    rw [writeLoco, WifredFake.length_writeSlot]
    exact Nat.le_max_left _ _
  rest d e := d.sameRest_writeSlot _ _

theorem writesSlots_functions : WritesSlots functionsWritten writeFunctions where
  slot d e j := by
    unfold writeFunctions
    split
    · rename_i hnil
      have hid : functionsWritten e.1 (d.slot j) = d.slot j := by rw [functionsWritten, hnil, List.foldl_nil]
      rw [hid, ite_self]
    · exact WifredFake.slot_writeSlot d e.2 j _
  length d e := by
    unfold writeFunctions
    split
    · exact Nat.le_refl _
    · rw [WifredFake.length_writeSlot]
      exact Nat.le_max_left _ _
  rest d e := by
    unfold writeFunctions
    split
    · exact ⟨rfl, rfl⟩
    · exact d.sameRest_writeSlot _ _

/-- The fake has all slots of the roster once they were written. -/
theorem length_writeLoco (roster : List RosterEntry) (d : WifredFake) :
    roster.length ≤ (roster.zipIdx.foldl writeLoco d).cfg.locos.length := by
  induction roster using List.reverseRecOn with
  | nil => exact Nat.zero_le _
  | append_singleton roster e ih =>
    rw [List.zipIdx_append, List.foldl_append]
    show _ ≤ (writeLoco _ (e, 0 + roster.length)).cfg.locos.length
    rw [writeLoco, WifredFake.length_writeSlot, List.length_append, List.length_singleton, Nat.zero_add]
    exact Nat.le_max_right _ _

end WiFred

end WirelessProgrammer
