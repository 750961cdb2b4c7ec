import WirelessProgrammer.Fake.WiFredOverSockets

/-!
# Programming the fake LongFred over sockets

The settings of the fake LongFred keep the factory shape, and in that shape a `PUT` made twice is a `PUT` made once; a `PUT`
that has been cut off is no JSON and changes nothing.  So the requests of a programming run count once over connections that
fail.
-/

namespace WirelessProgrammer

open Text Effect

namespace LongFred

/-! ### The factory shape is kept -/

section Shape

variable {settings : Json}

private theorem FactoryShape.putSettings (h : FactoryShape settings) (req : ProgramRequest) :
    FactoryShape (putSettings settings (buildSettingsPut req)) := by
  obtain ⟨items, hitems, -⟩ := (holds_putSettings req h).network
  rw [putSettings_buildSettingsPut] at hitems ⊢
  have hwifi : HasObject "wifi" (addNetwork (some req.wifi.ssid)
      (setMember "wifi" "hostname" (if req.identity = "" then none else some (.str req.identity)) settings)) := by
    have hhostname : HasObject "wifi"
        (setMember "wifi" "hostname" (if req.identity = "" then none else some (.str req.identity)) settings) :=
      h.wifi.setMember _
    obtain ⟨o, ho, members, rfl⟩ := hhostname
    exact ⟨_, by rw [addNetwork, Json.get?_modify_self, ho]; rfl, _, rfl⟩
  exact ⟨(((hwifi.setMember _).setMember _).setMember _).setMember _, ⟨items, hitems⟩,
    (((((h.bigfred.setMember _).addNetwork (by decide) _).setMember _).setMember _).setMember _).setMember _,
    (((((h.roster.setMember _).addNetwork (by decide) _).setMember _).setMember _).setMember _).setMember _⟩

private theorem HasObject.insert {name other : String} {v : Json} (h : HasObject name settings) (hne : name ≠ other) :
    HasObject name (settings.insert other v) := by
  obtain ⟨o, ho, hobj⟩ := h
  exact ⟨o, by rw [Json.get?_insert_ne hne, ho], hobj⟩

private theorem FactoryShape.insert {other : String} {v : Json} (h : FactoryShape settings)
    (hother : other ∉ ["wifi", "bigfred", "roster"]) : FactoryShape (settings.insert other v) := by
  simp only [List.mem_cons, List.not_mem_nil, or_false, not_or] at hother
  obtain ⟨items, hitems⟩ := h.networks
  refine ⟨h.wifi.insert (Ne.symm hother.1), ⟨items, ?_⟩, h.bigfred.insert (Ne.symm hother.2.1),
    h.roster.insert (Ne.symm hother.2.2)⟩
  rw [Json.pointer_pair, Json.get?_insert_ne (Ne.symm hother.1), ← Json.pointer_pair, hitems]

private theorem FactoryShape.isObject (h : FactoryShape settings) : settings.IsObject := by
  obtain ⟨o, ho, -⟩ := h.wifi
  cases settings with
  | obj members => exact ⟨members, rfl⟩
  | _ => cases ho

end Shape

/-! ### Requests that count once -/

section Requests

variable {readJson : List UInt8 → Except String Json} {writeJson : Json → List UInt8} {c : BoundedHttpClient}

/-- The requests of a programming run. -/
def programRequests (writeJson : Json → List UInt8) (req : ProgramRequest) : List HttpRequest :=
  [⟨"PUT", SETTINGS_PATH, some (JSON_CONTENT_TYPE, writeJson (buildSettingsPut req))⟩, ⟨"GET", SETTINGS_PATH, none⟩,
    ⟨"POST", PROGRAMMING_MODE_OFF_PATH, none⟩]

/-- The library writes a request as some bytes that fit into memory. -/
def Written (writeJson : Json → List UInt8) (req : ProgramRequest) : Prop :=
  writeJson (buildSettingsPut req) ≠ [] ∧ (writeJson (buildSettingsPut req)).length < 2 ^ 63

private theorem sendable_programRequests {req : ProgramRequest} (hhost : '\r' ∉ c.host.toList)
    (hwritten : Written writeJson req) :
    ∀ r ∈ programRequests writeJson req, c.Sendable r ∧ ∀ b ∈ r.body, b.2 ≠ [] := by
  have hwords : IsWord "PUT" ∧ IsWord "GET" ∧ IsWord "POST" ∧ IsWord SETTINGS_PATH ∧ IsWord PROGRAMMING_MODE_OFF_PATH :=
    ⟨by decide, by decide, by decide, by decide, by decide⟩
  obtain ⟨hput, hget, hpost, hsettings, hoff⟩ := hwords
  have hnone : ∀ {P : String × List UInt8 → Prop}, ∀ b ∈ (none : Option (String × List UInt8)), P b :=
    fun b hb => absurd hb (by simp)
  intro r hr
  simp only [programRequests, List.mem_cons, List.not_mem_nil, or_false] at hr
  rcases hr with rfl | rfl | rfl
  · refine ⟨⟨hput, hsettings, hhost, ?_, ?_⟩, ?_⟩
    all_goals
      intro b hb
      obtain rfl := Option.some.inj hb
    · show '\r' ∉ JSON_CONTENT_TYPE.toList
      decide
    · exact hwritten.2
    · exact hwritten.1
  · exact ⟨⟨hget, hsettings, hhost, hnone, hnone⟩, hnone⟩
  · exact ⟨⟨hpost, hoff, hhost, hnone, hnone⟩, hnone⟩

/-- Every request of a programming run counts once. -/
theorem served_programRequests {req : ProgramRequest} (hhost : '\r' ∉ c.host.toList) (hwritten : Written writeJson req)
    (hput : readJson (writeJson (buildSettingsPut req)) = .ok (buildSettingsPut req)) :
    ∀ r ∈ programRequests writeJson req,
      Served (LongFredFake.handle readJson writeJson) c (fun d => FactoryShape d.settings) r := by
  have hsend := sendable_programRequests (c := c) hhost hwritten
  unfold programRequests at hsend ⊢
  simp only [List.forall_mem_cons] at hsend ⊢
  obtain ⟨⟨hsput, hbput⟩, ⟨hsget, hbget⟩, ⟨hsoff, hboff⟩, -⟩ := hsend
  refine ⟨?_, ?_, ?_, fun r hr => absurd hr (by simp)⟩
  · refine .of_handle hsput hbput (fun d _ => handle_put hput _) (fun _ _ => FakeResponse.writable_okJson _)
      (fun d hd => hd.putSettings req) fun d hd => ⟨rfl, ?_⟩
    exact congrArg (fun settings => { d with settings := settings }) (putSettings_of_holds req (holds_putSettings req hd))
  · exact .of_handle hsget hbget (fun d _ => handle_get d) (fun _ _ => FakeResponse.writable_okJson _) (fun _ hd => hd)
      fun _ _ => ⟨rfl, rfl⟩
  · refine .of_handle hsoff hboff (fun d _ => handle_off d) (fun _ _ => FakeResponse.writable_okText _)
      (fun d hd => hd.insert (by decide)) fun d hd => ⟨rfl, ?_⟩
    rw [Json.insert_eq_self (Json.get?_insert_self hd.isObject)]

/-- The library reads no part of what it writes for a request. -/
def ReadsWhole (readJson : List UInt8 → Except String Json) (writeJson : Json → List UInt8) (req : ProgramRequest) : Prop :=
  ∀ j < (writeJson (buildSettingsPut req)).length, ∃ e, readJson ((writeJson (buildSettingsPut req)).take j) = .error e

private theorem handle_put_error {d : LongFredFake} {bytes : List UInt8} {e : String} (h : readJson bytes = .error e) :
    d.handle readJson writeJson ⟨"PUT", SETTINGS_PATH, some bytes⟩ = (badRequest "bad json", d) := by
  have hpath := matched_of_noQuery (by decide : '?' ∉ SETTINGS_PATH.toList)
  simp only [LongFredFake.handle, hpath, Option.getD_some, h]
  rfl

/-- A request that has been cut off changes nothing. -/
theorem survivesCut_programRequests {req : ProgramRequest} (hwhole : ReadsWhole readJson writeJson req) :
    ∀ r ∈ programRequests writeJson req,
      SurvivesCut (LongFredFake.handle readJson writeJson) r fun d => FactoryShape d.settings := by
  unfold programRequests
  simp only [List.forall_mem_cons]
  refine ⟨.of_unchanged fun d cut hcut => ?_, .of_none rfl, .of_none rfl, fun r hr => absurd hr (by simp)⟩
  obtain ⟨b, hb, j, hj, rfl⟩ := hcut
  obtain rfl := Option.some.inj hb
  obtain ⟨e, he⟩ := hwhole j hj
  rw [handle_put_error he]

/-- The fake knows the requests by their method and path. -/
theorem serves_programRequests (req : ProgramRequest) (d : LongFredFake) (body : Option (List UInt8)) :
    ∀ r ∈ programRequests writeJson req, (AnyFake.longfred d).Serves ⟨r.method, r.path, body⟩ := by
  intro r hr
  simp only [programRequests, List.mem_cons, List.not_mem_nil, or_false] at hr
  unfold AnyFake.Serves LongFredFake.Serves
  rcases hr with rfl | rfl | rfl
  all_goals
    dsimp only
    decide +kernel

/-- A request of a programming run, whole or cut off, gets to the LongFred among fakes of different kinds. -/
theorem partServed_programRequests {req : ProgramRequest} {d : LongFredFake} {before after : List AnyFake}
    (hhost : '\r' ∉ c.host.toList) (hwritten : Written writeJson req)
    (hput : readJson (writeJson (buildSettingsPut req)) = .ok (buildSettingsPut req))
    (hwhole : ReadsWhole readJson writeJson req)
    (hkinds : ((before ++ .longfred d :: after).map AnyFake.driverId).Nodup) :
    ∀ r ∈ programRequests writeJson req, PartServed (AnyFake.handle readJson writeJson) c
      (LongFredFake.handle readJson writeJson) before (fun d => FactoryShape d.settings) r := by
  intro r hr
  have hgets : ∀ body, GetsTo (AnyFake.handle readJson writeJson) (LongFredFake.handle readJson writeJson) before
      (fun d => FactoryShape d.settings) ⟨r.method, r.path, body⟩ := fun body =>
    ⟨AnyFake.not_knows_before hkinds (serves_programRequests req d body r hr),
      fun s _ => (AnyFake.knows_iff (d := .longfred s)).2 (serves_programRequests req s body r hr)⟩
  refine ⟨served_programRequests hhost hwritten hput r hr, survivesCut_programRequests hwhole r hr, hgets _, ?_⟩
  rintro cut ⟨b, -, j, -, rfl⟩
  exact hgets _

end Requests

/-! ### Runs -/

section Run

variable {readJson : List UInt8 → Except String Json} {writeJson : Json → List UInt8} {c : BoundedHttpClient}
  {d : LongFredFake} {req : ProgramRequest} {before after devices : List AnyFake} {o : Outcome}
  {tr : List (Event DriverOp DriverOp.Res)}

private theorem program_strict (t : Transport) (req : ProgramRequest) : Strict (program readJson writeJson t req) := by
  have hread : Strict (readSettings readJson) := (Strict.get _).bind fun _ => .liftExcept _
  have hlast : Strict (do
      DriverM.step "exit"
      let _ ← DriverM.request DriverM.httpError ⟨"POST", PROGRAMMING_MODE_OFF_PATH, none⟩
      return (⟨true, []⟩ : Outcome)) :=
    (Strict.step _).bind fun _ => (Strict.request _ _).bind fun _ => .pure _
  unfold program
  refine (Strict.httpClient "longfred" t).bind fun _ => (Strict.step "write").bind fun _ => ?_
  refine (Strict.request _ _).bind fun _ => (Strict.step "verify").bind fun _ => hread.bind fun after => ?_
  exact .ite ((Strict.throw _).bind fun _ => hlast) hlast

/-- Programming over sockets that can fail, against a composite of fakes of different kinds: a run that ends well leaves the
LongFred as one run of direct calls does, and the other fakes as they were. -/
theorem programming_overSockets (hflag : c.successOnResetAfterWrite = false) (hhost : '\r' ∉ c.host.toList)
    (hshape : FactoryShape d.settings) (hwritten : Written writeJson req)
    (hput : readJson (writeJson (buildSettingsPut req)) = .ok (buildSettingsPut req))
    (hwhole : ReadsWhole readJson writeJson req)
    (hget : readJson (writeJson (putSettings d.settings (buildSettingsPut req))) =
      .ok (putSettings d.settings (buildSettingsPut req)))
    (hkinds : ((before ++ .longfred d :: after).map AnyFake.driverId).Nodup)
    (hrun : Prog.Run (program readJson writeJson .http req).run tr (.ok o))
    (hserved : Prog.ServedBy (overSockets c fun r => Contact (compositeHandle (AnyFake.handle readJson writeJson)) c r)
      (before ++ .longfred d :: after) tr devices) :
    o = ⟨true, []⟩ ∧
      devices = before ++
        .longfred ⟨(putSettings d.settings (buildSettingsPut req)).insert "programming_mode" (.bool false), false⟩ ::
          after := by
  have hreq : ∀ r ∈ requestsOf tr, PartServed (AnyFake.handle readJson writeJson) c
      (LongFredFake.handle readJson writeJson) before (fun d => FactoryShape d.settings) r := by
    intro r hr
    have hplan : r ∈ programRequests writeJson req := ((program_issues readJson writeJson .http req) _ _ hrun).1.subset hr
    exact partServed_programRequests hhost hwritten hput hwhole hkinds r hplan
  have hdirect := program_run d req hshape hput hget
  obtain ⟨hresult, hdevices⟩ := overSockets_part (fun _ _ => rfl) AnyFake.refusesQuietly_handle
    (J := fun d => FactoryShape d.settings) hshape hrun hserved hreq
    fun r answer hmem => .of_ok hflag (program_strict .http req _ _ hrun r answer hmem)
  rw [clientAnswer_eq hflag] at hresult hdevices
  unfold runAgainst at hdirect
  rw [hdirect] at hresult hdevices
  exact ⟨(Except.ok.inj hresult).symm, hdevices⟩

/-! ### A run over sockets -/

/-- What the client asks of the limits for a run to get through: short requests, and settings within its limit. -/
structure Fits (writeJson : Json → List UInt8) (c : BoundedHttpClient) (d : LongFredFake) (req : ProgramRequest) :
    Prop where
  retries : c.retries = 3
  requests : ∀ r ∈ programRequests writeJson req, (c.requestBytes r).length ≤ 512
  ok : (okText "ok").written.length ≤ c.maxBody
  taken : (okJson (utf8Bytes "{}")).written.length ≤ c.maxBody
  settings : (okJson (writeJson (putSettings d.settings (buildSettingsPut req)))).written.length ≤ c.maxBody

/-- There is a run that ends well although most connections fail. -/
theorem program_completes (hflag : c.successOnResetAfterWrite = false) (hhost : '\r' ∉ c.host.toList)
    (hshape : FactoryShape d.settings)
    (hwritten : Written writeJson req)
    (hput : readJson (writeJson (buildSettingsPut req)) = .ok (buildSettingsPut req))
    (hwhole : ReadsWhole readJson writeJson req)
    (hget : readJson (writeJson (putSettings d.settings (buildSettingsPut req))) =
      .ok (putSettings d.settings (buildSettingsPut req)))
    (hkinds : ((before ++ .longfred d :: after).map AnyFake.driverId).Nodup) (hfits : Fits writeJson c d req) :
    Completes (fourthTry (compositeHandle (AnyFake.handle readJson writeJson)) c) (program readJson writeJson .http req)
      (before ++ .longfred d :: after) (.ok ⟨true, []⟩)
        (before ++
          .longfred ⟨(putSettings d.settings (buildSettingsPut req)).insert "programming_mode" (.bool false), false⟩ ::
            after) := by
  have hrequest : ∀ {r : HttpRequest} {s s' : LongFredFake} {response : FakeResponse} {body : List UInt8},
      r ∈ programRequests writeJson req → FactoryShape s.settings →
        s.handle readJson writeJson (.ofHttp r) = (response, s') → response.written.length ≤ c.maxBody →
          response.result = .ok body →
            Completes (fourthTry (compositeHandle (AnyFake.handle readJson writeJson)) c)
              (DriverM.request DriverM.httpError r) (before ++ .longfred s :: after) (.ok body)
                (before ++ .longfred s' :: after) := by
    intro r s s' response body hr hs hhandle hsize hbody
    have hpart := partServed_programRequests (c := c) hhost hwritten hput hwhole hkinds r hr
    have hembeds : Embeds (AnyFake.handle readJson writeJson) (LongFredFake.handle readJson writeJson) .longfred :=
      fun _ _ => rfl
    exact Completes.request (hpart.retried after hembeds AnyFake.refusesQuietly_handle (show FactoryShape s.settings from hs)
      (hfits.requests r hr) hhandle hsize hflag hfits.retries (FakeResponse.resultFor_of_result hbody c))
  have hshape' : FactoryShape (d.applyPut (buildSettingsPut req)).settings := hshape.putSettings req
  have hread : Completes (fourthTry (compositeHandle (AnyFake.handle readJson writeJson)) c) (readSettings readJson)
      (before ++ .longfred (d.applyPut (buildSettingsPut req)) :: after)
        (.ok (putSettings d.settings (buildSettingsPut req)))
        (before ++ .longfred (d.applyPut (buildSettingsPut req)) :: after) := by
    refine (hrequest (by simp [programRequests]) hshape' (handle_get _) hfits.settings rfl).bind ?_
    refine .liftExcept ?_ _
    show Except.mapError _ (readJson (writeJson (putSettings d.settings (buildSettingsPut req)))) = _
    rw [hget]
    rfl
  have hverify : verify (putSettings d.settings (buildSettingsPut req)) req = [] :=
    verify_of_holds req (holds_putSettings req hshape)
  unfold program
  refine (Completes.pure () _).bind ((Completes.step "write" _).bind ?_)
  refine (hrequest (by simp [programRequests]) hshape (handle_put hput _) hfits.taken rfl).bind ?_
  refine (Completes.step "verify" _).bind (hread.bind ?_)
  simp only [hverify, ne_eq, not_true_eq_false, if_false]
  refine (Completes.step "exit" _).bind ?_
  exact (hrequest (by simp [programRequests]) hshape' (handle_off _) hfits.ok rfl).bind (.pure _ _)

end Run

/-! ### A new device -/

private def oneTrain : ProgramRequest :=
  ⟨"pilot1", ⟨"club-wifi", none⟩, ⟨"unused.local", 12090, false⟩, [⟨some 3, some false, none, none, []⟩], none, none⟩

private def apClient : BoundedHttpClient := .new "192.168.4.1" 80

/-- What the JSON library writes for the request. -/
private def putText : List UInt8 :=
  utf8Bytes "\x7b\"roster\":[\x7b\"addr\":\"S3\"\x7d],\"wifi\":\x7b\"hostname\":\"pilot1\",\"ssid\":\"club-wifi\"\x7d\x7d"

/-- What it writes for the settings of the device after it. -/
private def settingsText : List UInt8 :=
  utf8Bytes "\x7b\"bigfred\":\x7b\"login\":\"\",\"pin_set\":false\x7d,\"programming_mode\":true," ++
    utf8Bytes "\"roster\":\x7b\"entries\":[\x7b\"addr\":\"S3\"\x7d],\"mode\":\"static\"\x7d," ++
    utf8Bytes "\"wifi\":\x7b\"hostname\":\"pilot1\",\"networks\":[\"club-wifi\"]\x7d\x7d"

/-- Only the settings have an underscore. -/
private theorem underscore_texts : 95 ∉ putText ∧ 95 ∈ settingsText := by
  have hfirst : 95 ∈ utf8Bytes "\x7b\"bigfred\":\x7b\"login\":\"\",\"pin_set\":false\x7d,\"programming_mode\":true," := by
    decide +kernel
  exact ⟨by decide +kernel, List.mem_append_left _ (List.mem_append_left _ hfirst)⟩

/-- Only the settings name the programming mode. -/
private def writeTexts (v : Json) : List UInt8 := if (v.get? "programming_mode").isSome then settingsText else putText

private def readTexts (bytes : List UInt8) : Except String Json :=
  if bytes = putText then .ok (buildSettingsPut oneTrain)
  else if bytes = settingsText then .ok (putSettings LongFredFake.new.settings (buildSettingsPut oneTrain))
  else .error "no JSON"

private theorem writeTexts_put : writeTexts (buildSettingsPut oneTrain) = putText := by
  have hnone : ((buildSettingsPut oneTrain).get? "programming_mode").isSome = false := by decide +kernel
  exact if_neg (by rw [hnone]; exact Bool.false_ne_true)

private theorem writeTexts_settings :
    writeTexts (putSettings LongFredFake.new.settings (buildSettingsPut oneTrain)) = settingsText := by
  have hsome : ((putSettings LongFredFake.new.settings (buildSettingsPut oneTrain)).get?
      "programming_mode").isSome = true := by
    decide +kernel
  exact if_pos hsome

private theorem oneTrain_written : Written writeTexts oneTrain := by
  unfold Written
  rw [writeTexts_put]
  exact ⟨by decide +kernel, by decide +kernel⟩

private theorem oneTrain_fits : Fits writeTexts apClient .new oneTrain where
  retries := by decide
  requests := by
    unfold programRequests
    simp only [BoundedHttpClient.length_requestBytes, writeTexts_put]
    decide +kernel
  ok := by
    rw [FakeResponse.length_written _ rfl]
    decide +kernel
  taken := by
    rw [FakeResponse.length_written _ rfl]
    decide +kernel
  settings := by
    rw [writeTexts_settings, FakeResponse.length_written _ rfl]
    decide +kernel

/-- A part of the text is neither of the texts. -/
private theorem readTexts_cut : ReadsWhole readTexts writeTexts oneTrain := by
  unfold ReadsWhole
  rw [writeTexts_put]
  intro j hj
  have hput : putText.take j ≠ putText := by
    intro h
    have hlength := congrArg List.length h
    rw [List.length_take] at hlength
    omega
  have hsettings : putText.take j ≠ settingsText := by
    intro h
    obtain ⟨hnone, hsome⟩ := underscore_texts
    rw [← h] at hsome
    exact hnone (List.mem_of_mem_take hsome)
  exact ⟨_, by rw [readTexts, if_neg hput, if_neg hsettings]⟩

/-- A new LongFred between the other fakes, with every request answered on its fourth attempt. -/
theorem programming_overSockets_new : ∃ tr devices,
    Prog.Run (program readTexts writeTexts .http oneTrain).run tr (.ok ⟨true, []⟩) ∧
      Prog.ServedBy (overRequests (fourthTry (compositeHandle (AnyFake.handle readTexts writeTexts)) apClient))
        AnyFake.all tr devices ∧
      devices = [.wifred .new] ++ .longfred ⟨(putSettings LongFredFake.new.settings (buildSettingsPut oneTrain)).insert
        "programming_mode" (.bool false), false⟩ :: [.rb23xx .new] := by
  have hhost : '\r' ∉ apClient.host.toList := by decide
  have hput : readTexts (writeTexts (buildSettingsPut oneTrain)) = .ok (buildSettingsPut oneTrain) := by
    rw [writeTexts_put, readTexts, if_pos rfl]
  have hget : readTexts (writeTexts (putSettings LongFredFake.new.settings (buildSettingsPut oneTrain))) =
      .ok (putSettings LongFredFake.new.settings (buildSettingsPut oneTrain)) := by
    have hne : settingsText ≠ putText := fun h => underscore_texts.1 (h ▸ underscore_texts.2)
    rw [writeTexts_settings, readTexts, if_neg hne, if_pos rfl]
  have hkinds : (([AnyFake.wifred .new] ++ AnyFake.longfred .new :: [AnyFake.rb23xx .new]).map AnyFake.driverId).Nodup := by
    decide
  have hcompletes : Completes (fourthTry (compositeHandle (AnyFake.handle readTexts writeTexts)) apClient)
      (program readTexts writeTexts .http oneTrain) ([.wifred .new] ++ .longfred .new :: [.rb23xx .new]) (.ok ⟨true, []⟩)
        ([.wifred .new] ++ .longfred ⟨(putSettings LongFredFake.new.settings (buildSettingsPut oneTrain)).insert
          "programming_mode" (.bool false), false⟩ :: [.rb23xx .new]) :=
    program_completes rfl hhost factoryShape_new oneTrain_written hput readTexts_cut hget hkinds oneTrain_fits
  obtain ⟨tr, hrun, hserved⟩ := hcompletes
  obtain ⟨-, hdevices⟩ := programming_overSockets rfl hhost factoryShape_new
    oneTrain_written hput readTexts_cut hget hkinds hrun (overSockets_fourthTry hserved)
  exact ⟨tr, _, hrun, hserved, hdevices⟩

end LongFred

end WirelessProgrammer
