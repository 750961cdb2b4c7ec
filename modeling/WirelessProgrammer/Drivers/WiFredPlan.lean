import WirelessProgrammer.Drivers.WiFredSlots

/-!
# The order of a WiFred run

A restart makes the device leave its access point, so nothing can be asked of it afterwards.  The protocol below keeps the
requests of a run with their answers: after a restart no request is allowed, and a restart is allowed only when the
device has answered everything, started as the supported version and read back as requested.
-/

namespace WirelessProgrammer

open Effect

/-- A request with its answer. -/
abbrev Exchange := HttpRequest × Except IoError (List UInt8)

/-- The requests of a run with their answers. -/
def exchangesOf (tr : List (Event DriverOp DriverOp.Res)) : List Exchange :=
  tr.filterMap fun e => match e with
    | ⟨.request r, answer⟩ => some (r, answer)
    | _ => none

private theorem map_fst_exchangesOf (tr : List (Event DriverOp DriverOp.Res)) :
    (exchangesOf tr).map Prod.fst = requestsOf tr := by
  unfold exchangesOf requestsOf
  rw [List.map_filterMap]
  refine congrArg (List.filterMap · tr) (funext fun e => ?_)
  obtain ⟨o, answer⟩ := e
  cases o <;> rfl

private theorem mem_exchangesOf {tr : List (Event DriverOp DriverOp.Res)} {r : HttpRequest}
    {answer : Except IoError (List UInt8)} :
    (r, answer) ∈ exchangesOf tr ↔ (⟨.request r, answer⟩ : Event DriverOp DriverOp.Res) ∈ tr := by
  unfold exchangesOf
  rw [List.mem_filterMap]
  constructor
  · rintro ⟨⟨o, answer'⟩, hmem, h⟩
    cases o <;> cases h
    exact hmem
  · exact fun h => ⟨_, h, rfl⟩

namespace WiFred

/-! ### The protocol -/

def restartRequest : HttpRequest := getRequest RESTART_PATH

section Protocol

variable (xmlReader : List Char → XmlDocument) (req : ProgramRequest)

/-- Every request so far was answered; the first one read a configuration of the supported version, and the last one a
configuration in which verification finds nothing. -/
structure ReadyToRestart (g : List Exchange) : Prop where
  answered : ∀ x ∈ g, ∃ body, x.2 = .ok body
  version : ∃ body rest cfg, g = (getRequest CONFIG_XML_PATH, .ok body) :: rest ∧
    parseConfig xmlReader body = .ok cfg ∧ cfg.structureVersion = some STRUCTURE_VERSION
  verified : ∃ body before cfg, g = before ++ [(getRequest CONFIG_XML_PATH, .ok body)] ∧
    parseConfig xmlReader body = .ok cfg ∧ verify cfg req = []

/-- What a run may request, given what it has requested. -/
def restartProtocol : Protocol DriverOp DriverOp.Res (List Exchange) where
  allowed g o := match o with
    | .request r => restartRequest ∉ g.map Prod.fst ∧ (r = restartRequest → ReadyToRestart xmlReader req g)
    | _ => True
  answers _ _ _ := True
  next g o := match o with
    | .request r => fun answer => g ++ [(r, answer)]
    | _ => fun _ => g

private theorem after_exchangesOf (g : List Exchange) (tr : List (Event DriverOp DriverOp.Res)) :
    (restartProtocol xmlReader req).after g tr = g ++ exchangesOf tr := by
  induction tr generalizing g with
  | nil => exact (List.append_nil g).symm
  | cons e tr ih =>
    obtain ⟨o, answer⟩ := e
    rw [Protocol.after_cons, ih]
    cases o with
    | request r => exact List.append_assoc ..
    | _ => rfl

/-- Between the first read and the restart. -/
structure Writing (g : List Exchange) : Prop where
  answered : ∀ x ∈ g, ∃ body, x.2 = .ok body
  running : restartRequest ∉ g.map Prod.fst
  version : ∃ body rest cfg, g = (getRequest CONFIG_XML_PATH, .ok body) :: rest ∧
    parseConfig xmlReader body = .ok cfg ∧ cfg.structureVersion = some STRUCTURE_VERSION

/-- No restart was answered. -/
def NotRestarted (g : List Exchange) : Prop := ∀ body, (restartRequest, .ok body) ∉ g

private theorem notRestarted_of_not_mem {g : List Exchange} (h : restartRequest ∉ g.map Prod.fst) : NotRestarted g :=
  fun _ hmem => h (List.mem_map_of_mem hmem)

/-! ### Paths -/

/-- A path of the device's configuration page. -/
def IndexPath (path : String) : Prop := "/index.html?".toList <+: path.toList

private theorem IndexPath.ne_restart {path : String} (h : IndexPath path) : getRequest path ≠ restartRequest := by
  intro heq
  have hpath : path = RESTART_PATH := congrArg HttpRequest.path heq
  rw [hpath] at h
  exact absurd (show "/index.html?".toList <+: RESTART_PATH.toList from h) (by decide)

private theorem prefix_literal {literal : String} (h : "/index.html?".toList <+: literal.toList) (rest : List Char) :
    "/index.html?".toList <+: literal.toList ++ rest := h.trans (List.prefix_append ..)

private theorem indexPath_namePath : IndexPath (namePath req) := by
  unfold IndexPath namePath
  rw [String.toList_append]
  exact prefix_literal (by decide) _

private theorem indexPath_locoPath (e : RosterEntry × Nat) : IndexPath (locoPath e) := by
  unfold IndexPath locoPath
  simp only [String.toList_append, List.append_assoc]
  exact prefix_literal (by decide) _

private theorem indexPath_functionsPath (e : RosterEntry × Nat) : IndexPath (functionsPath e) := by
  unfold IndexPath functionsPath
  simp only [String.toList_append, List.append_assoc]
  exact prefix_literal (by decide) _

private theorem indexPath_serverPath : IndexPath (serverPath req) := by
  unfold IndexPath serverPath
  simp only [String.toList_append, List.append_assoc]
  exact prefix_literal (by decide) _

private theorem indexPath_removePath : IndexPath (removePath req) := by
  unfold IndexPath removePath
  rw [String.toList_append]
  exact prefix_literal (by decide) _

private theorem indexPath_wifiPath : IndexPath (wifiPath req) := by
  unfold IndexPath wifiPath
  simp only [String.toList_append, List.append_assoc]
  exact prefix_literal (by decide) _

private theorem config_ne_restart : getRequest CONFIG_XML_PATH ≠ restartRequest := by decide

/-! ### Further requests -/

/-- A request that is no restart leaves the device running. -/
theorem running_append {g : List Exchange} (hg : restartRequest ∉ g.map Prod.fst) {r : HttpRequest}
    (hr : r ≠ restartRequest) (answer : Except IoError (List UInt8)) :
    restartRequest ∉ (g ++ [(r, answer)]).map Prod.fst := by
  rw [List.map_append, List.mem_append, not_or]
  exact ⟨hg, fun hmem => hr (List.mem_singleton.1 hmem).symm⟩

private theorem answered_append {g : List Exchange} (hg : ∀ x ∈ g, ∃ body, x.2 = .ok body) (r : HttpRequest)
    (body : List UInt8) : ∀ x ∈ g ++ [(r, .ok body)], ∃ body, x.2 = .ok body := by
  intro x hx
  rcases List.mem_append.1 hx with hx | hx
  · exact hg x hx
  · obtain rfl := List.mem_singleton.1 hx
    exact ⟨body, rfl⟩

/-! ### Triples -/

/-- What a part of the run ensures: if it stops, no restart was answered. -/
abbrev Ensures {α : Type} (I : List Exchange → Prop) (x : DriverM α) (Q : α → List Exchange → Prop) : Prop :=
  Prog.Triple (restartProtocol xmlReader req) (fun _ => NotRestarted) I x Q

section Rules

variable {I : List Exchange → Prop}

private theorem step_ensures (s : String) : Ensures xmlReader req I (DriverM.step s) fun _ => I :=
  fun _ hg => ⟨trivial, fun _ _ => hg⟩

private theorem get_ensures {path : String} {Q : List UInt8 → List Exchange → Prop}
    (hallowed : ∀ g, I g → restartRequest ∉ g.map Prod.fst ∧
      (getRequest path = restartRequest → ReadyToRestart xmlReader req g))
    (hok : ∀ g body, I g → Q body (g ++ [(getRequest path, .ok body)])) :
    Ensures xmlReader req I (DriverM.get path) Q := by
  intro g hg
  refine ⟨hallowed g hg, fun answer _ => ?_⟩
  cases answer with
  | ok body => exact hok g body hg
  | error e =>
    intro body hmem
    rcases List.mem_append.1 hmem with hmem | hmem
    · exact notRestarted_of_not_mem (hallowed g hg).1 body hmem
    · simp at hmem

private theorem write_ensures {path : String} (hpath : IndexPath path) :
    Ensures xmlReader req (Writing xmlReader) (write path) fun _ => Writing xmlReader := by
  refine (get_ensures xmlReader req (fun g hg => ⟨hg.running, fun h => absurd h hpath.ne_restart⟩)
    (Q := fun _ => Writing xmlReader) fun g body hg => ?_).bind fun _ => .pure fun _ hg => hg
  obtain ⟨first, rest, cfg, rfl, hcfg⟩ := hg.version
  exact ⟨answered_append hg.answered _ body, running_append hg.running hpath.ne_restart _, first, _, cfg,
    List.cons_append .., hcfg⟩

/-- A read of the configuration comes before the restart. -/
theorem readConfig_ensures (hI : ∀ g, I g → restartRequest ∉ g.map Prod.fst) :
    Ensures xmlReader req I (readConfig xmlReader) fun cfg g =>
      ∃ before body, I before ∧ g = before ++ [(getRequest CONFIG_XML_PATH, .ok body)] ∧
        parseConfig xmlReader body = .ok cfg := by
  refine (get_ensures xmlReader req (fun g hg => ⟨hI g hg, fun h => absurd h config_ne_restart⟩)
    (Q := fun body g => ∃ before, I before ∧ g = before ++ [(getRequest CONFIG_XML_PATH, .ok body)])
    fun g body hg => ⟨g, hg, rfl⟩).bind fun body g hg => ?_
  obtain ⟨before, hbefore, rfl⟩ := hg
  cases hparse : parseConfig xmlReader body with
  | ok cfg => exact ⟨before, body, hbefore, rfl, hparse⟩
  | error e => exact notRestarted_of_not_mem (running_append (hI before hbefore) config_ne_restart _)

end Rules

/-- The first read. -/
theorem checkStructureVersion_ensures (cfg : DeviceConfig) :
    Ensures xmlReader req
      (fun g => ∃ before body, before = [] ∧ g = before ++ [(getRequest CONFIG_XML_PATH, .ok body)] ∧
        parseConfig xmlReader body = .ok cfg)
      (DriverM.liftExcept (checkStructureVersion cfg)) fun _ => Writing xmlReader := by
  rintro g ⟨before, body, rfl, rfl, hparse⟩
  have hrunning := @running_append [] List.not_mem_nil _ config_ne_restart (.ok body)
  cases hcheck : checkStructureVersion cfg with
  | error e => exact notRestarted_of_not_mem hrunning
  | ok u =>
    have hversion : cfg.structureVersion = some STRUCTURE_VERSION := by
      unfold checkStructureVersion at hcheck
      cases hv : cfg.structureVersion with
      | none =>
        rw [hv] at hcheck
        cases hcheck
      | some v =>
        simp only [hv] at hcheck
        split at hcheck
        · rw [‹v = STRUCTURE_VERSION›]
        · cases hcheck
    exact ⟨answered_append (fun _ h => absurd h List.not_mem_nil) _ body, hrunning, body, [], cfg, rfl, hparse, hversion⟩

/-- The second read. -/
theorem readyToRestart {g before : List Exchange} {body : List UInt8} {cfg : DeviceConfig}
    (hbefore : Writing xmlReader before) (hg : g = before ++ [(getRequest CONFIG_XML_PATH, .ok body)])
    (hparse : parseConfig xmlReader body = .ok cfg) (hverify : verify cfg req = []) :
    restartRequest ∉ g.map Prod.fst ∧ ReadyToRestart xmlReader req g := by
  subst hg
  obtain ⟨first, rest, cfg₁, rfl, hcfg₁⟩ := hbefore.version
  exact ⟨running_append hbefore.running config_ne_restart _, answered_append hbefore.answered _ body,
    ⟨first, _, cfg₁, List.cons_append .., hcfg₁⟩, body, _, cfg, rfl, hparse, hverify⟩

/-- The restart. -/
theorem restart_ensures :
    Ensures xmlReader req (fun g => restartRequest ∉ g.map Prod.fst ∧ ReadyToRestart xmlReader req g) (write RESTART_PATH)
      fun _ g => ∃ body, (restartRequest, .ok body) ∈ g := by
  refine (get_ensures xmlReader req (fun g hg => ⟨hg.1, fun _ => hg.2⟩)
    (Q := fun _ g => ∃ body, (restartRequest, .ok body) ∈ g) fun g body _ => ⟨body, ?_⟩).bind fun _ => .pure fun _ hg => hg
  exact List.mem_append_right _ (List.mem_singleton_self _)

private theorem program_ensures (t : Transport) :
    Ensures xmlReader req (· = []) (program xmlReader t req) fun _ g => ∃ body, (restartRequest, .ok body) ∈ g := by
  have hclient : Ensures xmlReader req (· = []) (DriverM.httpClient "wifred" t) fun _ => (· = []) := by
    cases t with
    | http => exact .pure fun _ hg => hg
    | bytes =>
      refine .throw fun g hg => ?_
      subst hg
      exact notRestarted_of_not_mem List.not_mem_nil
  have hempty : ∀ g : List Exchange, g = [] → restartRequest ∉ g.map Prod.fst := by
    rintro g rfl
    exact List.not_mem_nil
  have hfunctions : ∀ e : RosterEntry × Nat, Ensures xmlReader req (Writing xmlReader)
      (if e.1.functions = [] then pure () else write (functionsPath e)) fun _ => Writing xmlReader :=
    fun e => .ite (fun _ => .pure fun _ hg => hg) fun _ => write_ensures xmlReader req (indexPath_functionsPath e)
  refine hclient.bind fun _ => (step_ensures xmlReader req "read").bind fun _ => ?_
  refine (readConfig_ensures xmlReader req hempty).bind fun before => ?_
  refine (checkStructureVersion_ensures xmlReader req before).bind fun _ => ?_
  refine (step_ensures xmlReader req "identity").bind fun _ => ?_
  refine (write_ensures xmlReader req (indexPath_namePath req)).bind fun _ => ?_
  refine (step_ensures xmlReader req "locos").bind fun _ => ?_
  refine (Prog.Triple.forM fun e _ => write_ensures xmlReader req (indexPath_locoPath e)).bind fun _ => ?_
  refine (step_ensures xmlReader req "functions").bind fun _ => ?_
  refine (Prog.Triple.forM fun e _ => hfunctions e).bind fun _ => ?_
  refine (step_ensures xmlReader req "server").bind fun _ => ?_
  refine (write_ensures xmlReader req (indexPath_serverPath req)).bind fun _ => ?_
  refine (step_ensures xmlReader req "wifi").bind fun _ => ?_
  refine (write_ensures xmlReader req (indexPath_removePath req)).bind fun _ => ?_
  refine (write_ensures xmlReader req (indexPath_wifiPath req)).bind fun _ => ?_
  refine (step_ensures xmlReader req "verify").bind fun _ => ?_
  refine (readConfig_ensures xmlReader req fun g hg => hg.running).bind fun after => ?_
  have hrestart : ∀ I, (∀ g, I g → restartRequest ∉ g.map Prod.fst ∧ ReadyToRestart xmlReader req g) →
      Ensures xmlReader req I (do DriverM.step "restart"; write RESTART_PATH; return (⟨true, []⟩ : Outcome))
        fun _ g => ∃ body, (restartRequest, .ok body) ∈ g := by
    intro I hI
    refine (step_ensures xmlReader req "restart").bind fun _ g hg => ?_
    exact (restart_ensures xmlReader req).bind (fun _ => .pure fun _ hg => hg) g (hI g hg)
  by_cases hverify : verify after req = []
  · rw [if_neg (not_not.2 hverify)]
    refine hrestart _ fun g hg => ?_
    obtain ⟨before', body, hbefore, heq, hparse⟩ := hg
    exact readyToRestart xmlReader req hbefore heq hparse hverify
  · rw [if_pos hverify]
    refine Prog.Triple.bind (Q := fun _ _ => False) (.throw fun g hg => ?_) fun _ g hg => hg.elim
    obtain ⟨before', body, hbefore, rfl, -⟩ := hg
    exact notRestarted_of_not_mem (running_append hbefore.running config_ne_restart _)

/-! ### Runs -/

/-- The restart is the last request of the plan, and only the last one. -/
theorem writePlan_eq : ∃ writes, writePlan req = writes ++ [RESTART_PATH] ∧
    restartRequest ∉ writes.map getRequest := by
  refine ⟨[CONFIG_XML_PATH, namePath req] ++ req.roster.zipIdx.map locoPath ++
    req.roster.zipIdx.flatMap functionWrites ++ [serverPath req, removePath req, wifiPath req, CONFIG_XML_PATH],
    by simp [writePlan], fun hmem => ?_⟩
  obtain ⟨path, hpath, heq⟩ := List.mem_map.1 hmem
  simp only [List.mem_append, List.mem_cons, List.mem_map, List.mem_flatMap, List.not_mem_nil, or_false] at hpath
  rcases hpath with (((rfl | rfl) | ⟨e, -, rfl⟩) | ⟨e, -, hf⟩) | rfl | rfl | rfl | rfl
  · exact config_ne_restart heq
  · exact (indexPath_namePath req).ne_restart heq
  · exact (indexPath_locoPath e).ne_restart heq
  · unfold functionWrites at hf
    split at hf
    · exact List.not_mem_nil hf
    · obtain rfl := List.mem_singleton.1 hf
      exact (indexPath_functionsPath e).ne_restart heq
  · exact (indexPath_serverPath req).ne_restart heq
  · exact (indexPath_removePath req).ne_restart heq
  · exact (indexPath_wifiPath req).ne_restart heq
  · exact config_ne_restart heq

/-- A prefix of the plan that ends with the restart is the whole plan. -/
theorem eq_writePlan {reqs : List HttpRequest} (h : reqs ++ [restartRequest] <+: (writePlan req).map getRequest) :
    reqs ++ [restartRequest] = (writePlan req).map getRequest := by
  obtain ⟨writes, hplan, hlast⟩ := writePlan_eq req
  obtain ⟨rest, h⟩ := h
  rw [← h]
  rcases List.eq_nil_or_concat rest with rfl | ⟨rest, r, rfl⟩
  · rw [List.append_nil]
  · rw [hplan, List.map_append, List.concat_eq_append, ← List.append_assoc] at h
    obtain ⟨hwrites, -⟩ := List.append_inj' h rfl
    rw [← hwrites] at hlast
    exact absurd (by simp) hlast

/-- For every request, transport and reader, and whatever the device answers: a run issues a prefix of the plan; a
restart comes after the whole rest of the plan, with nothing behind it, and only after every request was answered, the
first read showed version 1 and the second one passed verification; the run succeeds exactly if a restart was answered. -/
theorem program_restarts_last (t : Transport) (tr : List (Event DriverOp DriverOp.Res)) (r : Except DriverError Outcome)
    (hrun : Prog.Run (program xmlReader t req).run tr r) :
    requestsOf tr <+: (writePlan req).map getRequest ∧
      (∀ pre answer post, tr = pre ++ ⟨.request restartRequest, answer⟩ :: post →
        requestsOf post = [] ∧ requestsOf tr = (writePlan req).map getRequest ∧
          ReadyToRestart xmlReader req (exchangesOf pre)) ∧
      ((∃ o, r = .ok o) ↔ ∃ body, (⟨.request restartRequest, .ok body⟩ : Event DriverOp DriverOp.Res) ∈ tr) := by
  have hpre := (program_issues xmlReader t req tr r hrun).1
  have hanswered : (restartProtocol xmlReader req).Answered [] tr :=
    Protocol.answered_of_forall (fun _ _ _ => trivial) [] tr
  obtain ⟨hrespected, hend⟩ := (program_ensures xmlReader req t [] rfl).run hrun hanswered
  rw [after_exchangesOf, List.nil_append] at hend
  refine ⟨hpre, ?_, ?_⟩
  · rintro pre answer post rfl
    have hready : ReadyToRestart xmlReader req (exchangesOf pre) := by
      have hallowed := hrespected.allowed
      rw [after_exchangesOf, List.nil_append] at hallowed
      exact hallowed.2 rfl
    have hpost : requestsOf post = [] := by
      refine List.eq_nil_iff_forall_not_mem.2 fun q hq => ?_
      rw [← map_fst_exchangesOf] at hq
      obtain ⟨⟨q, answer'⟩, hmem, rfl⟩ := List.mem_map.1 hq
      obtain ⟨between, after, rfl⟩ := List.append_of_mem (mem_exchangesOf.1 hmem)
      -- a request behind the restart has it among those before
      rw [← List.cons_append, ← List.append_assoc] at hrespected
      have hallowed := hrespected.allowed.1
      rw [after_exchangesOf, List.nil_append] at hallowed
      exact hallowed (List.mem_map_of_mem (mem_exchangesOf.2 (List.mem_append_right pre List.mem_cons_self)))
    have hreqs : requestsOf (pre ++ ⟨.request restartRequest, answer⟩ :: post) = requestsOf pre ++ [restartRequest] := by
      rw [requestsOf_append, ← List.singleton_append, requestsOf_append, hpost]
      rfl
    rw [hreqs] at hpre ⊢
    exact ⟨hpost, eq_writePlan req hpre, hready⟩
  · cases r with
    | ok o =>
      obtain ⟨body, hmem⟩ := hend
      exact iff_of_true ⟨o, rfl⟩ ⟨body, mem_exchangesOf.1 hmem⟩
    | error e =>
      refine iff_of_false (fun ⟨_, h⟩ => nomatch h) ?_
      rintro ⟨body, hmem⟩
      exact hend body (mem_exchangesOf.2 hmem)

end Protocol

/-- A request for four unused slots that the device takes ends with an answered restart. -/
theorem program_restarts_unused :
    ∃ tr body, Prog.Run (program documentReader .http (unusedSlots 4)).run tr (.ok ⟨true, []⟩) ∧
      (⟨.request restartRequest, .ok body⟩ : Event DriverOp DriverOp.Res) ∈ tr := by
  obtain ⟨tr, hrun⟩ := run_device (n := 4) (by decide +kernel)
  obtain ⟨body, hmem⟩ := (program_restarts_last documentReader (unusedSlots 4) .http tr _ hrun).2.2.1 ⟨_, rfl⟩
  exact ⟨tr, body, hrun, hmem⟩

end WiFred

end WirelessProgrammer
