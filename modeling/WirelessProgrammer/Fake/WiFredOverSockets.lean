import WirelessProgrammer.Fake.WiFredRun
import WirelessProgrammer.Fake.OverSockets

/-!
# Programming the fake WiFred over sockets

For the fake WiFred every request of a programming run counts once, however often it is made: the pages set values and
never add to them.  So a run that the client completes over connections that fail, against a composite of fakes, leaves the
WiFred as one run of direct calls leaves it, and the other fakes as they were.
-/

namespace WirelessProgrammer

open Text Effect

/-! ### Writes that are made twice -/

/-- A function that has the value keeps it. -/
theorem upsertFunction_eq_self {index value : UInt8} {fs : List FunctionEntry} (h : functionValue fs index = some value) :
    upsertFunction index value fs = fs := by
  induction fs with
  | nil => simp [functionValue] at h
  | cons f fs ih =>
    rw [upsertFunction]
    by_cases hf : f.index = index
    · have hvalue : f.value = value := by simpa [functionValue, hf] using h
      rw [if_pos hf, ← hvalue]
    · have hrest : functionValue fs index = some value := by simpa [functionValue, hf] using h
      rw [if_neg hf, ih hrest]

/-- A function map that holds all the values keeps them. -/
theorem foldl_upsertFunction_eq_self {l : List FunctionMapping} {fs : List FunctionEntry}
    (h : ∀ fm ∈ l, functionValue fs fm.index = some fm.value) :
    l.foldl (fun fs fm => upsertFunction fm.index fm.value fs) fs = fs := by
  induction l with
  | nil => rfl
  | cons fm l ih =>
    rw [List.foldl_cons, upsertFunction_eq_self (h fm (by simp)), ih fun fm hfm => h fm (by simp [hfm])]

private theorem upsertNetwork_twice (ssid : String) (key : Option String) (networks : List NetworkConfig) :
    upsertNetwork ssid key (upsertNetwork ssid key networks) = upsertNetwork ssid key networks := by
  have hkey : ∀ old : Option String, (key <|> (key <|> old)) = (key <|> old) := by
    intro old
    cases key <;> rfl
  induction networks with
  | nil => cases key <;> simp [upsertNetwork]
  | cons n networks ih =>
    by_cases hn : n.ssid = ssid
    · simp only [upsertNetwork, hn, if_true, hkey]
    · simp only [upsertNetwork, if_neg hn, ih]

namespace WifredFake

variable (d : WifredFake)

private theorem padLocos_of_lt {i : Nat} {locos : List LocoConfig} (h : i < locos.length) :
    padLocos i locos = locos := by
  have hzero : i + 1 - locos.length = 0 := by omega
  rw [padLocos, hzero, List.replicate_zero, List.append_nil]

private theorem writeSlot_twice (i : Nat) {f : LocoConfig → LocoConfig} (hf : ∀ l, f (f l) = f l) :
    (d.writeSlot i f).writeSlot i f = d.writeSlot i f := by
  have hlen : i < ((padLocos i d.cfg.locos).modify i f).length := by
    rw [List.length_modify, padLocos, List.length_append, List.length_replicate]
    omega
  have hmodify : (padLocos i ((padLocos i d.cfg.locos).modify i f)).modify i f = (padLocos i d.cfg.locos).modify i f := by
    rw [padLocos_of_lt hlen, List.modify_modify_eq]
    exact congrArg (List.modify _ i) (funext hf)
  unfold writeSlot selectLoco onActive
  simp only [hmodify]

private theorem setServer_twice (v : ThrottleServer) : (d.setServer v).setServer v = d.setServer v := by
  simp [setServer, onServer]

private theorem removeNetwork_twice (ssid : String) :
    (d.removeNetwork ssid).removeNetwork ssid = d.removeNetwork ssid := by
  simp [removeNetwork, List.filter_filter]

private theorem addNetwork_twice (ssid : String) (key : Option String) :
    (d.addNetwork ssid key).addNetwork ssid key = d.addNetwork ssid key := by
  simp only [addNetwork, upsertNetwork_twice]

end WifredFake

namespace WiFred

private theorem slotWritten_twice (e : RosterEntry) (l : LocoConfig) :
    slotWritten e (slotWritten e l) = slotWritten e l := by
  unfold slotWritten
  split <;> rfl

private theorem functionsWritten_twice {e : RosterEntry} (h : (e.functions.map (·.index)).Nodup) (l : LocoConfig) :
    functionsWritten e (functionsWritten e l) = functionsWritten e l := by
  unfold functionsWritten
  rw [foldl_upsertFunction_eq_self fun fm hfm => functionValue_fold h hfm l.functions]

/-! ### Paths -/

private theorem isWhitespace_of_isUnreserved {c : Char} (h : isUnreserved c = true) : isWhitespace c = false := by
  have hlt := isUnreserved_lt h
  have hall : ∀ n : Fin 128, isUnreserved (Char.ofNat n) = true → isWhitespace (Char.ofNat n) = false := by decide
  have hc := hall ⟨c.toNat, hlt⟩
  rw [Char.ofNat_toNat] at hc
  exact hc h

private theorem unspaced_percentEncode (s : String) : Unspaced (percentEncode s).toList := by
  intro c hc
  rcases mem_percentEncode hc with hun | rfl
  · exact isWhitespace_of_isUnreserved hun
  · decide

private theorem unspaced_toString (n : Nat) :
    Unspaced (toString n).toList := fun _ hc => isWhitespace_of_mem_toString hc

private theorem unspaced_toString_int (n : Int) : Unspaced (toString n).toList := by
  rw [← percentEncode_toString_int]
  exact unspaced_percentEncode _

/-- A page with one argument. -/
theorem unspaced_literal {first : String} (h : Unspaced first.toList) (value : String) :
    Unspaced (first ++ percentEncode value).toList := by
  rw [String.toList_append]
  exact h.append (unspaced_percentEncode value)

private theorem unspaced_locoPath (e : RosterEntry × Nat) : Unspaced (locoPath e).toList := by
  have hlong : Unspaced (if e.1.longAddress = some true then "&loco.longAddress=on" else "").toList := by
    split
    · decide
    · decide
  unfold locoPath
  simp only [String.toList_append]
  refine .append (.append (.append (.append (.append (.append (.append (.append ?_ ?_) ?_) ?_) ?_) ?_) ?_) ?_) hlong
  · decide
  · exact unspaced_toString _
  · decide
  · exact unspaced_toString_int _
  · decide
  · exact unspaced_percentEncode _
  · decide
  · exact unspaced_toString _

private theorem unspaced_functionsPath (e : RosterEntry × Nat) : Unspaced (functionsPath e).toList := by
  have hone : ∀ fm : FunctionMapping, Unspaced ("&f" ++ toString fm.index ++ "=" ++ toString fm.value).toList := by
    intro fm
    simp only [String.toList_append]
    exact .append (.append (.append (by decide) (unspaced_toString _)) (by decide)) (unspaced_toString _)
  unfold functionsPath
  rw [String.toList_append, String.toList_append, String.toList_join]
  refine .append (.append (by decide) (unspaced_toString _)) fun c hc => ?_
  obtain ⟨piece, hpiece, hc⟩ := List.mem_flatMap.1 hc
  obtain ⟨fm, -, rfl⟩ := List.mem_map.1 hpiece
  exact hone fm c hc

private theorem unspaced_serverPath (req : ProgramRequest) : Unspaced (serverPath req).toList := by
  have hauto : Unspaced (if req.server.automatic then "&loco.automatic=on" else "").toList := by
    split
    · decide
    · decide
  unfold serverPath
  simp only [String.toList_append]
  exact .append (.append (.append (.append (by decide) (unspaced_percentEncode _)) (by decide)) (unspaced_toString _)) hauto

private theorem unspaced_wifiPath (req : ProgramRequest) : Unspaced (wifiPath req).toList := by
  unfold wifiPath
  rw [String.toList_append]
  refine .append (unspaced_literal (by decide) _) ?_
  cases req.wifi.psk with
  | none => decide
  | some psk =>
    by_cases hpsk : psk = ""
    · simp only [if_pos hpsk]
      decide
    · simp only [if_neg hpsk]
      rw [String.toList_append]
      exact .append (by decide) (unspaced_percentEncode _)

/-! ### Requests that count once -/

section Pages

variable {c : BoundedHttpClient} {path : String}

/-- A page that can be asked for again. -/
def Page (c : BoundedHttpClient) (path : String) : Prop :=
  Served WifredFake.handle c (fun _ => True) (getRequest path) ∧
    ∀ d, Knows WifredFake.handle d (.ofHttp (getRequest path))

private theorem page_of_handle {f : WifredFake → WifredFake} {response : WifredFake → FakeResponse}
    (hhost : '\r' ∉ c.host.toList) (hpath : Unspaced path.toList)
    (hhandle : ∀ d, d.handle ⟨"GET", path, none⟩ = (response d, f d)) (htwice : ∀ d, f (f d) = f d)
    (hsame : ∀ d, response (f d) = response d) (hwrite : ∀ d, (response d).Writable)
    (hstatus : ∀ d, (response d).status ≠ 404) : Page c path := by
  have hne : path.toList ≠ [] := by
    intro hnil
    have hserves : ¬ WifredFake.Serves ⟨"GET", path, none⟩ := by
      rintro ⟨-, page, hpage, hpre⟩
      rw [show (FakeRequest.mk "GET" path none).path.toList = [] from hnil, List.prefix_nil] at hpre
      exact absurd hpre ((show ∀ page ∈ WifredFake.pages, page.toList ≠ [] by decide) page hpage)
    have hrefused := WifredFake.handle_of_not_serves hserves .new
    rw [hhandle] at hrefused
    exact hstatus .new (congrArg (·.1.status) hrefused)
  have hget : IsWord "GET" := by decide
  have hsend : c.Sendable (getRequest path) :=
    ⟨hget, ⟨hne, hpath⟩, hhost, fun b hb => absurd hb (by simp [getRequest]),
      fun b hb => absurd hb (by simp [getRequest])⟩
  refine ⟨.of_handle hsend (fun b hb => absurd hb (by simp [getRequest])) (fun d _ => hhandle d) (fun d _ => hwrite d)
    (fun _ _ => trivial) fun d _ => ⟨hsame d, htwice d⟩, fun d => ?_⟩
  unfold Knows
  rw [show FakeRequest.ofHttp (getRequest path) = ⟨"GET", path, none⟩ from rfl, hhandle]
  exact hstatus d

/-- A write that sets what it sets. -/
theorem page_of_write {f : WifredFake → WifredFake} (hhost : '\r' ∉ c.host.toList) (hpath : Unspaced path.toList)
    (hhandle : ∀ d, d.handle ⟨"GET", path, none⟩ = (okText "ok", f d))
    (htwice : ∀ d, f (f d) = f d) : Page c path :=
  page_of_handle hhost hpath hhandle htwice (fun _ => rfl) (fun _ => FakeResponse.writable_okText _)
    fun _ => (by decide : (200 : UInt16) ≠ 404)

/-- Every request of a programming run. -/
theorem page_of_mem_writePlan {req : ProgramRequest} (hvalid : validate req = .ok ()) (hhost : '\r' ∉ c.host.toList)
    (hpath : path ∈ writePlan req) : Page c path := by
  have hconfig : Page c CONFIG_XML_PATH :=
    page_of_handle hhost (by decide) handle_configPath (fun _ => rfl) (fun _ => rfl)
      (fun _ => FakeResponse.writable_okXml _) fun _ => (by decide : (200 : UInt16) ≠ 404)
  unfold writePlan at hpath
  simp only [List.mem_append, List.mem_cons, List.not_mem_nil, or_false, List.mem_map, List.mem_flatMap] at hpath
  rcases hpath with (((rfl | rfl) | ⟨e, he, rfl⟩) | ⟨e, he, hfun⟩) | rfl | rfl | rfl | rfl | rfl
  · exact hconfig
  · exact page_of_write hhost (unspaced_literal (by decide) _) (fun d => handle_namePath d req) fun _ => rfl
  · exact page_of_write hhost (unspaced_locoPath e) (fun d => handle_locoPath d (slot_lt_of_validate hvalid he))
      fun d => d.writeSlot_twice e.2 (slotWritten_twice e.1)
  · unfold functionWrites at hfun
    split at hfun
    · simp at hfun
    obtain rfl := List.mem_singleton.1 hfun
    have hentry := validateCommon_entry hvalid (List.fst_mem_of_mem_zipIdx he)
    exact page_of_write hhost (unspaced_functionsPath e) (fun d => handle_functionsPath d (slot_lt_of_validate hvalid he))
      fun d => d.writeSlot_twice e.2 (functionsWritten_twice hentry.nodup)
  · exact page_of_write hhost (unspaced_serverPath req) (fun d => handle_serverPath d req) fun d => d.setServer_twice _
  · exact page_of_write hhost (unspaced_literal (by decide) _) (fun d => handle_removePath d req)
      fun d => d.removeNetwork_twice _
  · exact page_of_write hhost (unspaced_wifiPath req) (fun d => handle_wifiPath d req) fun d => d.addNetwork_twice _ _
  · exact hconfig
  · exact page_of_write hhost (by decide) handle_restartPath fun _ => rfl

end Pages

/-! ### Runs -/

section Run

variable {xmlReader : List Char → XmlDocument}

private theorem readConfig_strict : Strict (readConfig xmlReader) := (Strict.get _).bind fun _ => .liftExcept _

private theorem write_strict (path : String) : Strict (write path) := (Strict.get _).bind fun _ => .pure ()

/-- Programming stops at the first request that fails. -/
theorem program_strict (t : Transport) (req : ProgramRequest) : Strict (program xmlReader t req) := by
  have hlast : Strict (do DriverM.step "restart"; write RESTART_PATH; return (⟨true, []⟩ : Outcome)) :=
    (Strict.step _).bind fun _ => (write_strict _).bind fun _ => .pure _
  have hfunctions : ∀ e : RosterEntry × Nat,
      Strict (if e.1.functions = [] then pure () else write (functionsPath e)) :=
    fun e => .ite (.pure ()) (write_strict _)
  unfold program
  refine (Strict.httpClient "wifred" t).bind fun _ => (Strict.step "read").bind fun _ => ?_
  refine readConfig_strict.bind fun before => (Strict.liftExcept _).bind fun _ => (Strict.step "identity").bind fun _ => ?_
  refine (write_strict _).bind fun _ => (Strict.step "locos").bind fun _ => ?_
  refine (Strict.forM fun e => write_strict (locoPath e)).bind fun _ => (Strict.step "functions").bind fun _ => ?_
  refine (Strict.forM hfunctions).bind fun _ => (Strict.step "server").bind fun _ => ?_
  refine (write_strict _).bind fun _ => (Strict.step "wifi").bind fun _ => ?_
  refine (write_strict _).bind fun _ => (write_strict _).bind fun _ => (Strict.step "verify").bind fun _ => ?_
  exact readConfig_strict.bind fun after => .ite ((Strict.throw _).bind fun _ => hlast) hlast

variable {readJson : List UInt8 → Except String Json} {writeJson : Json → List UInt8} {c : BoundedHttpClient}
  {d : WifredFake} {req : ProgramRequest} {before after devices : List AnyFake} {o : Outcome}
  {tr : List (Event DriverOp DriverOp.Res)}

private theorem serves_of_knows {r : FakeRequest} (h : ∀ d, Knows WifredFake.handle d r) (d : WifredFake) :
    (AnyFake.wifred d).Serves r := by
  have hknows : Knows (AnyFake.handle (fun _ => .error "no JSON") fun _ => []) (.wifred d) r := h d
  exact AnyFake.knows_iff.1 hknows

private theorem embeds_wifred : Embeds (AnyFake.handle readJson writeJson) WifredFake.handle .wifred := fun _ _ => rfl

/-- A page gets to the WiFred among fakes of different kinds, and there is no body to be cut off. -/
theorem Page.partServed {path : String} (hpage : Page c path)
    (hkinds : ((before ++ .wifred d :: after).map AnyFake.driverId).Nodup) :
    PartServed (AnyFake.handle readJson writeJson) c WifredFake.handle before (fun _ => True) (getRequest path) :=
  .of_none hpage.1 ⟨AnyFake.not_knows_before hkinds (serves_of_knows hpage.2 d), fun s _ => hpage.2 s⟩ rfl

/-- Programming over sockets that can fail, against a composite of fakes of different kinds: a run that ends well leaves the
WiFred as one run of direct calls does, and the other fakes as they were. -/
theorem program_overSockets (hflag : c.successOnResetAfterWrite = false) (hhost : '\r' ∉ c.host.toList)
    (hvalid : validate req = .ok ()) (hversion : d.cfg.structureVersion = some STRUCTURE_VERSION)
    (hbefore : Delivers xmlReader d.cfg) (hafter : Delivers xmlReader (programmed d req).cfg)
    (hkinds : ((before ++ .wifred d :: after).map AnyFake.driverId).Nodup)
    (hrun : Prog.Run (program xmlReader .http req).run tr (.ok o))
    (hserved : Prog.ServedBy (overSockets c fun r => Contact (compositeHandle (AnyFake.handle readJson writeJson)) c r)
      (before ++ .wifred d :: after) tr devices) :
    o = ⟨true, []⟩ ∧ devices = before ++ .wifred { programmed d req with restarted := true } :: after := by
  have hreq : ∀ r ∈ requestsOf tr,
      PartServed (AnyFake.handle readJson writeJson) c WifredFake.handle before (fun _ => True) r := by
    intro r hr
    have hplan := ((program_issues xmlReader .http req) _ _ hrun).1.subset hr
    obtain ⟨path, hpath, rfl⟩ := List.mem_map.1 hplan
    exact (page_of_mem_writePlan hvalid hhost hpath).partServed hkinds
  have hdirect := program_run hvalid hversion hbefore hafter
  obtain ⟨hresult, hdevices⟩ := overSockets_part embeds_wifred AnyFake.refusesQuietly_handle (J := fun _ => True)
    trivial hrun hserved hreq
    fun r answer hmem => .of_ok hflag (program_strict .http req _ _ hrun r answer hmem)
  rw [clientAnswer_eq hflag] at hresult hdevices
  unfold runAgainst at hdirect
  rw [hdirect] at hresult hdevices
  exact ⟨(Except.ok.inj hresult).symm, hdevices⟩

/-! ### A run over sockets -/

/-- What the client asks of the limits for a run to get through: short requests, and configurations within its limit. -/
structure Fits (c : BoundedHttpClient) (d : WifredFake) (req : ProgramRequest) : Prop where
  retries : c.retries = 3
  requests : ∀ path ∈ writePlan req, (c.requestBytes (getRequest path)).length ≤ 512
  ok : (okText "ok").written.length ≤ c.maxBody
  before : (okXml (utf8Bytes (serializeXml d.cfg))).written.length ≤ c.maxBody
  after : (okXml (utf8Bytes (serializeXml (programmed d req).cfg))).written.length ≤ c.maxBody

section Completes

variable (readJson writeJson) (hflag : c.successOnResetAfterWrite = false) (hhost : '\r' ∉ c.host.toList)
  (hvalid : validate req = .ok ()) (hkinds : ((before ++ .wifred d :: after).map AnyFake.driverId).Nodup)
  (hfits : Fits c d req)

include hflag hhost hvalid hkinds hfits

private theorem get_completes {path : String} {s s' : WifredFake} {response : FakeResponse} {body : List UInt8}
    (hpath : path ∈ writePlan req) (hhandle : s.handle ⟨"GET", path, none⟩ = (response, s'))
    (hsize : response.written.length ≤ c.maxBody) (hbody : response.result = .ok body) :
    Completes (fourthTry (compositeHandle (AnyFake.handle readJson writeJson)) c) (DriverM.get path)
      (before ++ .wifred s :: after) (.ok body) (before ++ .wifred s' :: after) := by
  have hpage : PartServed (AnyFake.handle readJson writeJson) c WifredFake.handle before (fun _ => True)
      (getRequest path) := (page_of_mem_writePlan hvalid hhost hpath).partServed hkinds
  exact Completes.request (hpage.retried after embeds_wifred AnyFake.refusesQuietly_handle trivial
    (hfits.requests path hpath) hhandle hsize hflag hfits.retries (FakeResponse.resultFor_of_result hbody c))

private theorem write_completes {path : String} {s s' : WifredFake} (hpath : path ∈ writePlan req)
    (hhandle : s.handle ⟨"GET", path, none⟩ = (okText "ok", s')) :
    Completes (fourthTry (compositeHandle (AnyFake.handle readJson writeJson)) c) (write path)
      (before ++ .wifred s :: after) (.ok ()) (before ++ .wifred s' :: after) :=
  (get_completes readJson writeJson hflag hhost hvalid hkinds hfits hpath hhandle hfits.ok (okText_result _)).bind
    (.pure () _)

private theorem readConfig_completes {s : WifredFake} (hdelivers : Delivers xmlReader s.cfg)
    (hsize : (okXml (utf8Bytes (serializeXml s.cfg))).written.length ≤ c.maxBody) :
    Completes (fourthTry (compositeHandle (AnyFake.handle readJson writeJson)) c) (readConfig xmlReader)
      (before ++ .wifred s :: after) (.ok (configRead s.cfg)) (before ++ .wifred s :: after) := by
  refine (get_completes readJson writeJson hflag hhost hvalid hkinds hfits (by simp [writePlan]) (handle_configPath s)
    hsize (okXml_result _)).bind ?_
  exact .liftExcept (by rw [parseConfig_serializeXml hdelivers]; rfl) _

private theorem locos_completes (s : WifredFake) :
    Completes (fourthTry (compositeHandle (AnyFake.handle readJson writeJson)) c)
      (req.roster.zipIdx.forM fun e => write (locoPath e)) (before ++ .wifred s :: after) (.ok ())
        (before ++ .wifred (req.roster.zipIdx.foldl writeLoco s) :: after) := by
  refine Completes.forM (fun s => before ++ .wifred s :: after) (fun e he s => ?_) s
  refine write_completes readJson writeJson hflag hhost hvalid hkinds hfits ?_
    (handle_locoPath s (slot_lt_of_validate hvalid he))
  simp only [writePlan, List.mem_append, List.mem_map]
  exact .inl (.inl (.inr ⟨e, he, rfl⟩))

private theorem functions_completes (s : WifredFake) :
    Completes (fourthTry (compositeHandle (AnyFake.handle readJson writeJson)) c)
      (req.roster.zipIdx.forM fun e => if e.1.functions = [] then pure () else write (functionsPath e))
        (before ++ .wifred s :: after) (.ok ()) (before ++ .wifred (req.roster.zipIdx.foldl writeFunctions s) :: after) := by
  refine Completes.forM (fun s => before ++ .wifred s :: after) (fun e he s => ?_) s
  unfold writeFunctions
  by_cases hnone : e.1.functions = []
  · simp only [if_pos hnone]
    exact .pure () _
  · simp only [if_neg hnone]
    refine write_completes readJson writeJson hflag hhost hvalid hkinds hfits ?_
      (handle_functionsPath s (slot_lt_of_validate hvalid he))
    simp only [writePlan, List.mem_append, List.mem_flatMap]
    exact .inl (.inr ⟨e, he, by simp [functionWrites, hnone]⟩)

variable {readJson writeJson}

/-- There is a run that ends well although most connections fail. -/
theorem program_completes (hversion : d.cfg.structureVersion = some STRUCTURE_VERSION)
    (hbefore : Delivers xmlReader d.cfg) (hafter : Delivers xmlReader (programmed d req).cfg) :
    Completes (fourthTry (compositeHandle (AnyFake.handle readJson writeJson)) c) (program xmlReader .http req)
      (before ++ .wifred d :: after) (.ok ⟨true, []⟩)
        (before ++ .wifred { programmed d req with restarted := true } :: after) := by
  have hwrite {path : String} {s s' : WifredFake} (hpath : path ∈ writePlan req)
      (hhandle : s.handle ⟨"GET", path, none⟩ = (okText "ok", s')) :=
    write_completes readJson writeJson hflag hhost hvalid hkinds hfits hpath hhandle
  have hread := readConfig_completes readJson writeJson hflag hhost hvalid hkinds hfits hbefore hfits.before
  have hreadAgain := readConfig_completes readJson writeJson hflag hhost hvalid hkinds hfits hafter hfits.after
  have hcheck : checkStructureVersion (configRead d.cfg) = .ok () := by
    show checkStructureVersion { d.cfg with locos := _ } = _
    simp only [checkStructureVersion, hversion, if_true]
  have hlocos := locos_completes readJson writeJson hflag hhost hvalid hkinds hfits
  have hfunctions := functions_completes readJson writeJson hflag hhost hvalid hkinds hfits
  unfold program
  refine (Completes.pure () _).bind ((Completes.step "read" _).bind (hread.bind ?_))
  refine (Completes.liftExcept hcheck _).bind ((Completes.step "identity" _).bind ?_)
  refine (hwrite (by simp [writePlan]) (handle_namePath d req)).bind ((Completes.step "locos" _).bind ?_)
  refine (hlocos _).bind ((Completes.step "functions" _).bind ((hfunctions _).bind ((Completes.step "server" _).bind ?_)))
  refine (hwrite (by simp [writePlan]) (handle_serverPath _ req)).bind ((Completes.step "wifi" _).bind ?_)
  refine (hwrite (by simp [writePlan]) (handle_removePath _ req)).bind ?_
  refine (hwrite (by simp [writePlan]) (handle_wifiPath _ req)).bind ((Completes.step "verify" _).bind ?_)
  refine hreadAgain.bind ?_
  simp only [verify_programmed d req hvalid, ne_eq, not_true_eq_false, if_false]
  refine (Completes.step "restart" _).bind ?_
  exact (hwrite (by simp [writePlan]) (handle_restartPath _)).bind (.pure _ _)

end Completes

end Run

/-! ### A new device -/

/-- There is an XML reader for two documents. -/
private theorem exists_reader {first second : DeviceConfig}
    (hne : (configLines second).flatMap (·.text) ≠ (configLines first).flatMap (·.text)) :
    ∃ xmlReader, Delivers xmlReader first ∧ Delivers xmlReader second := by
  let document (cfg : DeviceConfig) : XmlDocument := ⟨.other :: (configLines cfg).map (·.event), none⟩
  have hdocument : ∀ cfg, (document cfg).events.filter (· ≠ .other) = (configLines cfg).map (·.event) := by
    intro cfg
    show (XmlEvent.other :: (configLines cfg).map (·.event)).filter (· ≠ .other) = _
    rw [List.filter_cons_of_neg (by simp), List.filter_eq_self]
    exact fun e he => decide_eq_true (ne_other_of_mem_configLines he)
  obtain ⟨prolog, htext⟩ := toList_serializeXml
  have hother : (serializeXml second).toList ≠ (serializeXml first).toList := by
    rw [htext, htext]
    exact fun h => hne (List.append_cancel_left h)
  let read (text : List Char) : XmlDocument := document (if text = (serializeXml first).toList then first else second)
  have hfirst : read (serializeXml first).toList = document first := congrArg document (if_pos rfl)
  have hsecond : read (serializeXml second).toList = document second := congrArg document (if_neg hother)
  refine ⟨read, ⟨?_, ?_⟩, ?_, ?_⟩
  · rw [hfirst]
  · rw [hfirst, hdocument]
  · rw [hsecond]
  · rw [hsecond, hdocument]

private def oneSlot : ProgramRequest :=
  ⟨"122145", ⟨"net", some "key"⟩, ⟨"hub", 12090, true⟩, [⟨some 3, none, some "128", some 0, [⟨0, 1⟩]⟩], none, none⟩

private def apClient : BoundedHttpClient := .new "192.168.4.1" 80

private theorem oneSlot_valid : validate oneSlot = .ok () := by decide +kernel

private theorem utf8Bytes_serializeXml (cfg : DeviceConfig) :
    utf8Bytes (serializeXml cfg) =
      ("<?XML version=\"1.0\" encoding=\"UTF?8\"?>\n".toList ++ (configLines cfg).flatMap (·.text)).flatMap
        String.utf8EncodeChar := by
  have htext : (serializeXml cfg).toList =
      "<?XML version=\"1.0\" encoding=\"UTF?8\"?>\n".toList ++ (configLines cfg).flatMap (·.text) := String.toList_ofList
  rw [utf8Bytes, htext]

private theorem oneSlot_fits : Fits apClient .new oneSlot where
  retries := by decide
  requests := by
    simp only [BoundedHttpClient.length_requestBytes]
    decide +kernel
  ok := by
    rw [FakeResponse.length_written _ rfl]
    decide +kernel
  before := by
    rw [FakeResponse.length_written _ rfl, utf8Bytes_serializeXml]
    decide +kernel
  after := by
    rw [FakeResponse.length_written _ rfl, utf8Bytes_serializeXml]
    decide +kernel

private theorem oneSlot_reader :
    ∃ xmlReader, Delivers xmlReader WifredFake.new.cfg ∧ Delivers xmlReader (programmed .new oneSlot).cfg :=
  exists_reader (by decide +kernel)

/-- A new WiFred beside the other fakes, with every request answered on its fourth attempt. -/
theorem program_overSockets_new : ∃ xmlReader tr devices,
    Prog.Run (program xmlReader .http oneSlot).run tr (.ok ⟨true, []⟩) ∧
      Prog.ServedBy (overRequests (fourthTry
        (compositeHandle (AnyFake.handle (fun _ => .error "no JSON") fun _ => [])) apClient)) AnyFake.all tr devices ∧
      devices = .wifred { programmed .new oneSlot with restarted := true } ::
        [.longfred .new, .rb23xx .new] := by
  obtain ⟨xmlReader, hbefore, hafter⟩ := oneSlot_reader
  have hhost : '\r' ∉ apClient.host.toList := by decide
  have hkinds : (([] ++ AnyFake.wifred .new :: [AnyFake.longfred .new, AnyFake.rb23xx .new]).map AnyFake.driverId).Nodup := by
    decide
  have hcompletes : Completes
      (fourthTry (compositeHandle (AnyFake.handle (fun _ => .error "no JSON") fun _ => [])) apClient)
      (program xmlReader .http oneSlot) ([] ++ .wifred .new :: [.longfred .new, .rb23xx .new]) (.ok ⟨true, []⟩)
        ([] ++ .wifred { programmed .new oneSlot with restarted := true } :: [.longfred .new, .rb23xx .new]) :=
    program_completes rfl hhost oneSlot_valid hkinds oneSlot_fits rfl hbefore hafter
  obtain ⟨tr, hrun, hserved⟩ := hcompletes
  obtain ⟨-, hdevices⟩ := program_overSockets rfl hhost oneSlot_valid rfl hbefore hafter hkinds
    hrun (overSockets_fourthTry hserved)
  exact ⟨xmlReader, tr, _, hrun, hserved, hdevices⟩

end WiFred

end WirelessProgrammer
