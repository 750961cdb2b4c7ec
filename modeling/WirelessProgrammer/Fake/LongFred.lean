import WirelessProgrammer.Lib.JsonEdit
import WirelessProgrammer.Drivers.LongFredRoster
import WirelessProgrammer.Drivers.LongFredVerify
import WirelessProgrammer.Fake.Device

/-!
# The fake LongFred

`wp-fake/src/longfred.rs`: a mock of the device's programming mode.  It keeps the settings that a `GET` shows and writes
into them what a `PUT` brings.  `Holds` says that the settings hold a request; a `PUT` of the request makes them hold it,
settings that hold it pass verification, and a `PUT` into settings that hold it already changes nothing.
-/

namespace WirelessProgrammer

namespace LongFred

/-! ### The device -/

structure LongFredFake where
  /-- What a `GET` of the settings shows. -/
  settings : Json
  programmingMode : Bool
  deriving Repr

namespace LongFredFake

/-- Factory settings in programming mode. -/
def new : LongFredFake where
  settings := .obj [
    ("wifi", .obj [("hostname", .str ""), ("networks", .arr [])]),
    ("roster", .obj [("mode", .str "static"), ("entries", .arr [])]),
    ("bigfred", .obj [("login", .str ""), ("pin_set", .bool false)]),
    ("programming_mode", .bool true)]
  programmingMode := true

end LongFredFake

/-- Set a member of an object of the settings, if there is a value for it. -/
def setMember (outer inner : String) (value : Option Json) (settings : Json) : Json :=
  match value with
  | some value => settings.modify outer fun o => o.insert inner value
  | none => settings

/-- Add a network to an array of networks, unless it has it. -/
def pushNetwork (ssid : String) : Json → Json
  | .arr items => if items.any fun n => n.asStr? = some ssid then .arr items else .arr (items ++ [.str ssid])
  | v => v

def addNetwork (ssid : Option String) (settings : Json) : Json :=
  match ssid with
  | some ssid => settings.modify "wifi" (Json.modify "networks" (pushNetwork ssid))
  | none => settings

/-- The settings after a `PUT` of the body. -/
def putSettings (settings body : Json) : Json :=
  let wifi := body.get? "wifi"
  let hostname := (wifi.bind (·.get? "hostname")).bind Json.asStr?
  let ssid := (wifi.bind (·.get? "ssid")).bind Json.asStr?
  let login := (body.pointer ["bigfred", "login"]).bind Json.asStr?
  let mode := (body.get? "roster_mode").bind Json.asStr?
  let roster := (body.get? "roster").bind Json.asArray?
  let settings := setMember "wifi" "hostname" (hostname.map .str) settings
  let settings := addNetwork ssid settings
  let settings := setMember "bigfred" "login" (login.map .str) settings
  let settings := setMember "bigfred" "pin_set" (login.map fun _ => .bool true) settings
  let settings := setMember "roster" "mode" (mode.map .str) settings
  setMember "roster" "entries" (roster.map .arr) settings

def LongFredFake.applyPut (d : LongFredFake) (body : Json) : LongFredFake :=
  { d with settings := putSettings d.settings body }

/-! ### Requests -/

def badRequest (message : String) : FakeResponse := ⟨400, "text/plain", Text.utf8Bytes message, false⟩

/-- Handle one HTTP request. -/
def LongFredFake.handle (readJson : List UInt8 → Except String Json) (writeJson : Json → List UInt8) (d : LongFredFake)
    (req : FakeRequest) : FakeResponse × LongFredFake :=
  let path := String.ofList (((Text.splitOnce '?' req.path.toList).map (·.1)).getD req.path.toList)
  if req.method = "GET" ∧ path = SETTINGS_PATH then (okJson (writeJson d.settings), d)
  else if req.method = "PUT" ∧ path = SETTINGS_PATH then
    match readJson (req.body.getD (Text.utf8Bytes "{}")) with
    | .ok body => (okJson (Text.utf8Bytes "{}"), d.applyPut body)
    | .error _ => (badRequest "bad json", d)
  else if req.method = "POST" ∧ path = PROGRAMMING_MODE_OFF_PATH then
    (okText "ok", ⟨d.settings.insert "programming_mode" (.bool false), false⟩)
  else if req.method = "POST" ∧ path = FIRMWARE_PATH then
    (if (req.body.getD []).length = 0 then badRequest "empty image" else okJson (Text.utf8Bytes "\x7b\"ok\":true\x7d"), d)
  else (notFound, d)

/-! ### Members of the settings -/

/-- The settings have an object with the name. -/
def HasObject (name : String) (settings : Json) : Prop := ∃ o, settings.get? name = some o ∧ o.IsObject

section Members

variable {outer inner other other' : String} {settings : Json}

/-- Changing a member reaches the paths that start with its name, and no others. -/
theorem pointer_modify (f : Json → Json) :
    (settings.modify outer f).pointer [outer, inner] = (settings.get? outer).bind fun o => (f o).get? inner := by
  rw [Json.pointer_pair, Json.get?_modify_self, Option.bind_map]
  rfl

private theorem pointer_modify_ne (h : other ≠ outer) (f : Json → Json) :
    (settings.modify outer f).pointer [other, inner] = settings.pointer [other, inner] := by
  rw [Json.pointer_pair, Json.pointer_pair, Json.get?_modify_ne h]

private theorem pointer_setMember_self (h : HasObject outer settings) (value : Json) :
    (setMember outer inner (some value) settings).pointer [outer, inner] = some value := by
  obtain ⟨o, hget, hobj⟩ := h
  rw [setMember, pointer_modify, hget]
  exact Json.get?_insert_self hobj

private theorem pointer_setMember_ne (h : (other, other') ≠ (outer, inner)) (value : Option Json) :
    (setMember outer inner value settings).pointer [other, other'] = settings.pointer [other, other'] := by
  cases value with
  | none => rfl
  | some value =>
    by_cases houter : other = outer
    · subst houter
      have hinner : other' ≠ inner := fun heq => h (by rw [heq])
      rw [setMember, pointer_modify, Json.pointer_pair]
      exact congrArg (Option.bind _) (funext fun o => Json.get?_insert_ne hinner)
    · rw [setMember, pointer_modify_ne houter]

/-- Setting what is set already. -/
theorem setMember_eq_self {value : Option Json} (h : ∀ v, value = some v → settings.pointer [outer, inner] = some v) :
    setMember outer inner value settings = settings := by
  cases value with
  | none => rfl
  | some value =>
    have hvalue := h value rfl
    rw [Json.pointer_pair] at hvalue
    refine Json.modify_eq_self fun o ho => Json.insert_eq_self ?_
    rwa [ho] at hvalue

private theorem setMember_map_eq_self {α : Type} {x : Option α} {f : α → Json}
    (h : ∀ a, x = some a → settings.pointer [outer, inner] = some (f a)) :
    setMember outer inner (x.map f) settings = settings := by
  refine setMember_eq_self fun v hv => ?_
  obtain ⟨a, ha, rfl⟩ := Option.map_eq_some_iff.1 hv
  exact h a ha

private theorem setMember_ite_eq_self {p : Prop} [Decidable p] {value : Json}
    (h : ¬ p → settings.pointer [outer, inner] = some value) :
    setMember outer inner (if p then none else some value) settings = settings := by
  by_cases hp : p
  · rw [if_pos hp]
    rfl
  · rw [if_neg hp]
    refine setMember_eq_self fun v hv => ?_
    rw [h hp, hv]

theorem HasObject.setMember {name : String} (h : HasObject name settings) (value : Option Json) :
    HasObject name (setMember outer inner value settings) := by
  cases value with
  | none => exact h
  | some value =>
    obtain ⟨o, hget, hobj⟩ := h
    by_cases hname : name = outer
    · subst hname
      exact ⟨_, by rw [LongFred.setMember, Json.get?_modify_self, hget]; rfl, hobj.insert⟩
    · exact ⟨o, by rw [LongFred.setMember, Json.get?_modify_ne hname, hget], hobj⟩

private theorem pointer_addNetwork (ssid : String) :
    (addNetwork (some ssid) settings).pointer ["wifi", "networks"] =
      (settings.pointer ["wifi", "networks"]).map (pushNetwork ssid) := by
  rw [addNetwork, pointer_modify, Json.pointer_pair]
  cases settings.get? "wifi" with
  | none => rfl
  | some wifi => exact Json.get?_modify_self

private theorem pointer_addNetwork_ne (h : (other, other') ≠ ("wifi", "networks")) (ssid : String) :
    (addNetwork (some ssid) settings).pointer [other, other'] = settings.pointer [other, other'] := by
  by_cases houter : other = "wifi"
  · subst houter
    have hinner : other' ≠ "networks" := fun heq => h (by rw [heq])
    rw [addNetwork, pointer_modify, Json.pointer_pair]
    exact congrArg (Option.bind _) (funext fun o => Json.get?_modify_ne hinner)
  · rw [addNetwork, pointer_modify_ne houter]

theorem HasObject.addNetwork {name : String} (h : HasObject name settings) (hname : name ≠ "wifi") (ssid : String) :
    HasObject name (addNetwork (some ssid) settings) := by
  obtain ⟨o, hget, hobj⟩ := h
  exact ⟨o, by rw [LongFred.addNetwork, Json.get?_modify_ne hname, hget], hobj⟩

private theorem mem_pushNetwork (ssid : String) (items : List Json) :
    ∃ items', pushNetwork ssid (.arr items) = .arr items' ∧ ∃ n ∈ items', n.asStr? = some ssid := by
  unfold pushNetwork
  by_cases h : (items.any fun n => n.asStr? = some ssid) = true
  · simp only [h, if_true]
    obtain ⟨n, hmem, hn⟩ := List.any_eq_true.1 h
    exact ⟨items, rfl, n, hmem, of_decide_eq_true hn⟩
  · simp only [h]
    exact ⟨_, rfl, .str ssid, by simp, rfl⟩

private theorem pushNetwork_eq_self {ssid : String} {items : List Json} (h : ∃ n ∈ items, n.asStr? = some ssid) :
    pushNetwork ssid (.arr items) = .arr items := by
  obtain ⟨n, hmem, hn⟩ := h
  have hany : (items.any fun n => n.asStr? = some ssid) = true := List.any_eq_true.2 ⟨n, hmem, decide_eq_true hn⟩
  simp only [pushNetwork, hany, if_true]

end Members

/-! ### Writing a request -/

/-- The shape of the factory settings, with any contents. -/
structure FactoryShape (settings : Json) : Prop where
  wifi : HasObject "wifi" settings
  networks : ∃ items, settings.pointer ["wifi", "networks"] = some (.arr items)
  bigfred : HasObject "bigfred" settings
  roster : HasObject "roster" settings

/-- The settings hold what the request writes. -/
structure Holds (settings : Json) (req : ProgramRequest) : Prop where
  hostname : req.identity ≠ "" → settings.pointer ["wifi", "hostname"] = some (.str req.identity)
  network : ∃ items, settings.pointer ["wifi", "networks"] = some (.arr items) ∧
    ∃ n ∈ items, n.asStr? = some req.wifi.ssid
  login : ∀ bf, req.bigfred = some bf → settings.pointer ["bigfred", "login"] = some (.str bf.login)
  pinSet : ∀ bf, req.bigfred = some bf → settings.pointer ["bigfred", "pin_set"] = some (.bool true)
  mode : ∀ mode, req.rosterMode = some mode → settings.pointer ["roster", "mode"] = some (.str mode)
  entries : rosterAddrs req ≠ [] →
    settings.pointer ["roster", "entries"] = some (.arr ((rosterAddrs req).map addrElement))

section Write

variable {settings : Json} (req : ProgramRequest)

/-- What a `PUT` of the request changes, step by step. -/
theorem putSettings_buildSettingsPut (settings : Json) :
    putSettings settings (buildSettingsPut req) =
      setMember "roster" "entries"
        (if rosterAddrs req = [] then none else some (.arr ((rosterAddrs req).map addrElement)))
        (setMember "roster" "mode" (req.rosterMode.map .str)
          (setMember "bigfred" "pin_set" (req.bigfred.map fun _ => .bool true)
            (setMember "bigfred" "login" (req.bigfred.map fun bf => .str bf.login)
              (addNetwork (some req.wifi.ssid)
                (setMember "wifi" "hostname" (if req.identity = "" then none else some (.str req.identity))
                  settings))))) := by
  have hhostname : ((((buildSettingsPut req).get? "wifi").bind (·.get? "hostname")).bind Json.asStr?).map Json.str =
      if req.identity = "" then none else some (.str req.identity) := by
    unfold buildSettingsPut
    by_cases hid : req.identity = ""
    · cases req.wifi.psk <;> simp [hid, Json.object, Json.member, Json.get?, List.lookup_cons]
    · cases req.wifi.psk <;> simp [hid, Json.object, Json.member, Json.get?, List.lookup_cons, Json.asStr?]
  have hssid : (((buildSettingsPut req).get? "wifi").bind (·.get? "ssid")).bind Json.asStr? = some req.wifi.ssid := by
    simp [buildSettingsPut, Json.object, Json.get?, Json.asStr?]
  have hlogin : ((buildSettingsPut req).pointer ["bigfred", "login"]).bind Json.asStr? = req.bigfred.map (·.login) := by
    rw [Json.pointer_pair]
    unfold buildSettingsPut
    cases req.bigfred with
    | none => cases req.rosterMode <;> by_cases h : rosterAddrs req = [] <;>
        simp [h, Json.object, Json.member, Json.get?, List.lookup_cons]
    | some bf => simp [Json.object, Json.member, Json.get?, List.lookup_cons, Json.asStr?]
  have hmode : ((buildSettingsPut req).get? "roster_mode").bind Json.asStr? = req.rosterMode := by
    unfold buildSettingsPut
    cases req.rosterMode with
    | none => cases req.bigfred <;> by_cases h : rosterAddrs req = [] <;>
        simp [h, Json.object, Json.member, Json.get?, List.lookup_cons]
    | some mode => cases req.bigfred <;> simp [Json.object, Json.member, Json.get?, List.lookup_cons, Json.asStr?]
  have hroster : (((buildSettingsPut req).get? "roster").bind Json.asArray?).map Json.arr =
      if rosterAddrs req = [] then none else some (.arr ((rosterAddrs req).map addrElement)) := by
    unfold buildSettingsPut
    by_cases h : rosterAddrs req = []
    · cases req.bigfred <;> cases req.rosterMode <;> simp [h, Json.object, Json.member, Json.get?, List.lookup_cons]
    · cases req.bigfred <;> cases req.rosterMode <;>
        simp [h, Json.object, Json.member, Json.get?, List.lookup_cons, Json.asArray?, addrElement]
  simp only [putSettings, hhostname, hssid, hlogin, hmode, hroster, Option.map_map]
  rfl

/-- Settings of the factory shape hold the request after a `PUT` of it, whatever they held before. -/
theorem holds_putSettings (h : FactoryShape settings) : Holds (putSettings settings (buildSettingsPut req)) req := by
  rw [putSettings_buildSettingsPut]
  refine ⟨fun hid => ?_, ?_, fun bf hbf => ?_, fun bf hbf => ?_, fun mode hmode => ?_, fun hroster => ?_⟩
  · rw [pointer_setMember_ne (by decide), pointer_setMember_ne (by decide), pointer_setMember_ne (by decide),
      pointer_setMember_ne (by decide), pointer_addNetwork_ne (by decide), if_neg hid]
    exact pointer_setMember_self h.wifi _
  · rw [pointer_setMember_ne (by decide), pointer_setMember_ne (by decide), pointer_setMember_ne (by decide),
      pointer_setMember_ne (by decide), pointer_addNetwork, pointer_setMember_ne (by decide)]
    obtain ⟨items, hitems⟩ := h.networks
    obtain ⟨items', hpush, hmem⟩ := mem_pushNetwork req.wifi.ssid items
    exact ⟨items', by rw [hitems, Option.map_some, hpush], hmem⟩
  · rw [pointer_setMember_ne (by decide), pointer_setMember_ne (by decide), pointer_setMember_ne (by decide), hbf]
    exact pointer_setMember_self ((h.bigfred.setMember _).addNetwork (by decide) _) _
  · rw [pointer_setMember_ne (by decide), pointer_setMember_ne (by decide), hbf]
    exact pointer_setMember_self (((h.bigfred.setMember _).addNetwork (by decide) _).setMember _) _
  · rw [pointer_setMember_ne (by decide), hmode]
    exact pointer_setMember_self ((((h.roster.setMember _).addNetwork (by decide) _).setMember _).setMember _) _
  · rw [if_neg hroster]
    exact pointer_setMember_self
      (((((h.roster.setMember _).addNetwork (by decide) _).setMember _).setMember _).setMember _) _

/-- A `PUT` of a request that the settings hold changes nothing. -/
theorem putSettings_of_holds (h : Holds settings req) : putSettings settings (buildSettingsPut req) = settings := by
  have hnetwork : addNetwork (some req.wifi.ssid) settings = settings := by
    obtain ⟨items, hitems, hmem⟩ := h.network
    rw [Json.pointer_pair] at hitems
    refine Json.modify_eq_self fun wifi hwifi => Json.modify_eq_self fun v hv => ?_
    rw [hwifi, Option.bind_some, hv] at hitems
    obtain rfl := Option.some.inj hitems
    exact pushNetwork_eq_self hmem
  rw [putSettings_buildSettingsPut, setMember_ite_eq_self h.hostname, hnetwork, setMember_map_eq_self h.login,
    setMember_map_eq_self h.pinSet, setMember_map_eq_self h.mode, setMember_ite_eq_self h.entries]

/-- Settings that hold a request pass verification. -/
theorem verify_of_holds (h : Holds settings req) : verify settings req = [] := by
  rw [verify_eq_nil]
  refine ⟨?_, ?_, fun bf hbf => ?_, fun mode hmode => ?_, fun i addr haddr => ?_⟩
  · obtain ⟨items, hitems, hmem⟩ := h.network
    rw [itemsAt, hitems]
    exact hmem
  · by_cases hid : req.identity = ""
    · exact .inl hid
    · exact .inr (by rw [textAt, h.hostname hid]; rfl)
  · rw [textAt, h.login bf hbf]
    rfl
  · rw [textAt, h.mode mode hmode]
    rfl
  · have hne : rosterAddrs req ≠ [] := by
      intro hnil
      rw [hnil] at haddr
      exact nomatch haddr
    rw [storedEntries, itemsAt, h.entries hne]
    simp only [Option.bind_some, Json.asArray?, Option.getD_some, List.getElem?_map, haddr, Option.map_some]
    rfl

/-- For every request and every settings of the factory shape: after a `PUT` of the request the settings pass its
verification, and a second `PUT` changes nothing. -/
theorem put_then_verify (d : LongFredFake) (hshape : FactoryShape d.settings) :
    verify (d.applyPut (buildSettingsPut req)).settings req = [] ∧
      (d.applyPut (buildSettingsPut req)).applyPut (buildSettingsPut req) = d.applyPut (buildSettingsPut req) := by
  have hholds := holds_putSettings req hshape
  refine ⟨verify_of_holds req hholds, ?_⟩
  exact congrArg (fun settings => { d with settings := settings }) (putSettings_of_holds req hholds)

end Write

private def twoEntries : ProgramRequest :=
  ⟨"pilot1", ⟨"club-wifi", some "secret"⟩, ⟨"unused.local", 12090, false⟩,
    [⟨some 3, some false, none, none, []⟩, ⟨some 128, some true, none, none, []⟩], some ⟨"ops", "1234"⟩, some "static"⟩

/-- The factory settings have the factory shape. -/
theorem factoryShape_new : FactoryShape LongFredFake.new.settings :=
  ⟨⟨_, rfl, _, rfl⟩, ⟨[], rfl⟩, ⟨_, rfl, _, rfl⟩, ⟨_, rfl, _, rfl⟩⟩

/-- A new device that is sent a network, a login and two locomotives. -/
theorem put_then_verify_new :
    validate twoEntries = .ok () ∧
      verify (LongFredFake.new.applyPut (buildSettingsPut twoEntries)).settings twoEntries = [] :=
  ⟨by decide +kernel, (put_then_verify twoEntries LongFredFake.new factoryShape_new).1⟩

/-! ### Runs -/

section Run

variable {readJson : List UInt8 → Except String Json} {writeJson : Json → List UInt8}

/-- A path without a query is what its request is matched by. -/
theorem matched_of_noQuery {path : String} (h : '?' ∉ path.toList) :
    String.ofList (((Text.splitOnce '?' path.toList).map (·.1)).getD path.toList) = path := by
  rw [Text.splitOnce_eq_none h]
  exact String.ofList_toList

theorem handle_put {d : LongFredFake} {bytes : List UInt8} {body : Json} (h : readJson bytes = .ok body)
    (contentType : String) :
    d.handle readJson writeJson (.ofHttp ⟨"PUT", SETTINGS_PATH, some (contentType, bytes)⟩) =
      (okJson (Text.utf8Bytes "{}"), d.applyPut body) := by
  have hpath := matched_of_noQuery (by decide : '?' ∉ SETTINGS_PATH.toList)
  simp only [LongFredFake.handle, FakeRequest.ofHttp, hpath, Option.map_some, Option.getD_some, h]
  rfl

theorem handle_get (d : LongFredFake) :
    d.handle readJson writeJson (.ofHttp ⟨"GET", SETTINGS_PATH, none⟩) = (okJson (writeJson d.settings), d) := by
  have hpath := matched_of_noQuery (by decide : '?' ∉ SETTINGS_PATH.toList)
  simp only [LongFredFake.handle, FakeRequest.ofHttp, hpath]
  rfl

theorem handle_off (d : LongFredFake) :
    d.handle readJson writeJson (.ofHttp ⟨"POST", PROGRAMMING_MODE_OFF_PATH, none⟩) =
      (okText "ok", ⟨d.settings.insert "programming_mode" (.bool false), false⟩) := by
  have hpath := matched_of_noQuery (by decide : '?' ∉ PROGRAMMING_MODE_OFF_PATH.toList)
  simp only [LongFredFake.handle, FakeRequest.ofHttp, hpath]
  rfl

/-- Programming the device ends well, if it has the factory shape and the JSON library reads back what it has written. -/
theorem program_run (d : LongFredFake) (req : ProgramRequest) (hshape : FactoryShape d.settings)
    (hput : readJson (writeJson (buildSettingsPut req)) = .ok (buildSettingsPut req))
    (hget : readJson (writeJson (putSettings d.settings (buildSettingsPut req))) =
      .ok (putSettings d.settings (buildSettingsPut req))) :
    runAgainst (LongFredFake.handle readJson writeJson) (program readJson writeJson .http req) d =
      (.ok ⟨true, []⟩,
        ⟨(putSettings d.settings (buildSettingsPut req)).insert "programming_mode" (.bool false), false⟩) := by
  have hclient : runAgainst (LongFredFake.handle readJson writeJson) (DriverM.httpClient "longfred" .http) d =
      (.ok (), d) := rfl
  have hread : runAgainst (LongFredFake.handle readJson writeJson) (readSettings readJson)
      (d.applyPut (buildSettingsPut req)) = (.ok (putSettings d.settings (buildSettingsPut req)),
        d.applyPut (buildSettingsPut req)) := by
    have hbody : runAgainst (LongFredFake.handle readJson writeJson) (DriverM.get SETTINGS_PATH)
        (d.applyPut (buildSettingsPut req)) =
        (.ok (writeJson (putSettings d.settings (buildSettingsPut req))), d.applyPut (buildSettingsPut req)) :=
      runAgainst_request (handle_get _) rfl
    unfold readSettings
    rw [runAgainst_bind hbody]
    exact runAgainst_liftExcept (by rw [hget]; rfl) _
  have hverify : verify (putSettings d.settings (buildSettingsPut req)) req = [] :=
    verify_of_holds req (holds_putSettings req hshape)
  unfold program
  rw [runAgainst_bind hclient, runAgainst_bind (runAgainst_step "write" d),
    runAgainst_bind (runAgainst_request (handle_put hput _) rfl), runAgainst_bind (runAgainst_step "verify" _),
    runAgainst_bind hread]
  simp only [hverify, ne_eq, not_true_eq_false, if_false]
  rw [runAgainst_bind (runAgainst_step "exit" _), runAgainst_bind (runAgainst_request (handle_off _) rfl)]
  rfl

end Run

end LongFred

end WirelessProgrammer
