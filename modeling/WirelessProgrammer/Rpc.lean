import WirelessProgrammer.Daemon.System
import WirelessProgrammer.Lib.Serve
import WirelessProgrammer.Proto.RequestCodec
import WirelessProgrammer.RustClient

/-!
# Calls of the Rust client

A method of `Client` writes its request as JSON, a `Command` of the daemon reads it, dispatches it and writes the response,
and the method reads that.  `Call.rpc_run_iff` says that nothing is lost on the way: what the method returns is what
`dispatch` has answered to the request, and the daemon answers every request with a result of its kind or an error.
-/

namespace WirelessProgrammer

open Effect

variable {cfg : Config} {text : Serde.DeError → String} {bodies : Bodies}

/-! ### The daemon's side -/

section

variable (cfg text)

/-- `Command::execute` of the commands with one response: the body is read as a request; if it is none, the error is the
text of the deserialiser. -/
def execute (body : Json) : DaemonM (Except String Response) :=
  match Request.fromJson body with
  | .error e => return .error (text e)
  | .ok req => do
    let resp ← dispatch cfg req
    return .ok resp

end

/-- What is written to the connection; `WpHooks::error` answers for a command that fails. -/
def replied : Except String Response → Response
  | .ok resp => resp
  | .error e => errResponse .hello "internal" e

/-- The two spellings of absent parameters are the same to the daemon. -/
theorem dispatch_canonical (r : Request) : dispatch cfg r.canonical = dispatch cfg r := by
  obtain ⟨kind, params⟩ := r
  cases params with
  | none => rfl
  | some p =>
    by_cases hp : p = .none
    · subst hp
      cases kind <;> rfl
    · have hcanonical : Request.canonical ⟨kind, some p⟩ = ⟨kind, some p⟩ := by
        rw [Request.canonical, Option.filter_some, if_pos (by simpa using hp)]
      rw [hcanonical]

namespace RustClient

/-! ### The calls -/

/-- The methods of `Client` that wait for one response, with their arguments. -/
inductive Call
  | hello
  | scanMode (mode : ReachMode)
  | updateFirmware (p : UpdateFirmwareParams)
  | probe (candidate : CandidateRef)
  | program (candidate : CandidateRef) (request : ProgramRequestWire)
  | jobGet (jobId : String)
  | jobCancel (jobId : String)
  | identify (candidate : CandidateRef) (count : Option UInt32)
  | linkStatus

namespace Call

/-- What a method returns. -/
abbrev Result : Call → Type
  | hello => HelloResult
  | scanMode _ => List CandidateWire
  | updateFirmware _ => ProgramResult
  | probe _ => DeviceInfoWire
  | program .. => ProgramResult
  | jobGet _ => JobSnapshotWire
  | jobCancel _ => JobSnapshotWire
  | identify .. => Unit
  | linkStatus => LinkStatusWire

def request : Call → Request
  | hello => ⟨.hello, some .none⟩
  | scanMode mode => ⟨.scan, some (if mode = .ap then .none else .scan mode)⟩
  | updateFirmware p => ⟨.updateFirmware, some (.updateFirmware p)⟩
  | probe candidate => ⟨.probe, some (.probe candidate)⟩
  | program candidate request => ⟨.program, some (.program candidate request)⟩
  | jobGet jobId => ⟨.jobGet, some (.job jobId)⟩
  | jobCancel jobId => ⟨.jobCancel, some (.job jobId)⟩
  | identify candidate count => ⟨.identify, some (.identify candidate count)⟩
  | linkStatus => ⟨.linkStatus, some .none⟩

/-- What a method makes of the frame that it reads. -/
def decode (bodies : Bodies) : (c : Call) → Json → Except ClientError c.Result
  | hello => RustClient.hello bodies
  | scanMode _ => RustClient.scanMode bodies
  | updateFirmware _ => RustClient.updateFirmware bodies
  | probe _ => RustClient.probe bodies
  | program .. => RustClient.program bodies
  | jobGet _ => RustClient.jobGet bodies
  | jobCancel _ => RustClient.jobCancel bodies
  | identify .. => RustClient.identify bodies
  | linkStatus => RustClient.linkStatus bodies

/-- The body that a result comes in. -/
def body : (c : Call) → c.Result → ResultBody
  | hello, h => .hello h
  | scanMode _, found => .scan found
  | updateFirmware _, p => .updateFirmware p
  | probe _, d => .probe d
  | program .., p => .program p
  | jobGet _, j => .job j
  | jobCancel _, j => .jobCancelled j
  | identify .., () => .identify
  | linkStatus, s => .linkStatus s

/-- A call, once it is connected: the request goes to the daemon, and the response comes back. -/
def rpc (bodies : Bodies) (cfg : Config) (text : Serde.DeError → String) (c : Call) :
    DaemonM (Except ClientError c.Result) := do
  let resp ← execute cfg text c.request.toJson
  return c.decode bodies (replied resp).toJson

/-- A response to a call, and what the call returns for it. -/
inductive Yields (c : Call) : Response → Except ClientError c.Result → Prop
  | ok (a : c.Result) : Yields c (okResponse c.request.kind (c.body a)) (.ok a)
  | error (code message : String) :
    Yields c (errResponse c.request.kind code message) (.error (.fromErrorBody ⟨code, message⟩))

variable {c : Call}

/-! ### The request arrives -/

private theorem belongs (c : Call) : ∀ p ∈ c.request.params, p.BelongsTo c.request.kind := by
  intro p hp
  cases c with
  | hello | linkStatus =>
    obtain rfl := Option.mem_some.1 hp
    trivial
  | scanMode mode =>
    obtain rfl := Option.mem_some.1 hp
    by_cases hap : mode = .ap
    · rw [if_pos hap]
      trivial
    · rw [if_neg hap]
      rfl
  | jobGet =>
    obtain rfl := Option.mem_some.1 hp
    exact .inl rfl
  | jobCancel =>
    obtain rfl := Option.mem_some.1 hp
    exact .inr (.inr rfl)
  | updateFirmware | probe | program | identify =>
    obtain rfl := Option.mem_some.1 hp
    rfl

private theorem execute_request (c : Call) :
    execute cfg text c.request.toJson = dispatch cfg c.request >>= fun resp => return .ok resp := by
  rw [execute, Request.fromJson_toJson c.belongs, ← dispatch_canonical]

/-! ### The daemon answers -/

/-- A response that the call can read. -/
def Answers (c : Call) (resp : Response) : Prop := ∃ r, c.Yields resp r

private theorem Answers.ok (a : c.Result) : c.Answers (okResponse c.request.kind (c.body a)) := ⟨_, .ok a⟩

private theorem Answers.error (code message : String) : c.Answers (errResponse c.request.kind code message) :=
  ⟨_, .error code message⟩

private theorem runScan_answers (mode : ReachMode) : (runScan mode).Returns (scanMode mode).Answers := by
  refine .bind_any fun found => ?_
  cases found with
  | ok found => exact .pure (Answers.ok (c := scanMode mode) _)
  | error e => exact .pure (.error ..)

private theorem scan_answers (mode : ReachMode) :
    (dispatchScan (scanMode mode).request.params).Returns (scanMode mode).Answers := by
  have hmode : scanModeOf (scanMode mode).request.params = mode := by
    cases mode <;> rfl
  rw [dispatchScan, hmode]
  split
  · refine .bind_any fun held => ?_
    split
    · exact .pure (.error ..)
    · exact runScan_answers mode
  · exact runScan_answers mode

private theorem probe_answers (candidate : CandidateRef) :
    (dispatchProbe cfg candidate).Returns (probe candidate).Answers := by
  refine .bind_any fun held => ?_
  split
  · exact .pure (.error ..)
  · split
    · exact .pure (.error ..)
    · refine .bind_any fun info => ?_
      split
      · exact .pure (Answers.ok (c := probe candidate) _)
      · exact .pure (.error ..)

private theorem program_answers (candidate : CandidateRef) (request : ProgramRequestWire) :
    (dispatchProgram candidate request).Returns (program candidate request).Answers := by
  unfold dispatchProgram
  split
  · exact .pure (.error ..)
  · refine .bind_any fun submitted => ?_
    split
    · exact .pure (Answers.ok (c := program candidate request) _)
    · exact .pure (.error ..)

private theorem jobGet_answers (jobId : String) : (dispatchJobGet jobId).Returns (jobGet jobId).Answers := by
  refine .bind_any fun found => ?_
  split
  · exact .pure (Answers.ok (c := jobGet jobId) _)
  · exact .pure (.error ..)

private theorem jobCancel_answers (jobId : String) : (dispatchJobCancel jobId).Returns (jobCancel jobId).Answers := by
  refine .bind_any fun _ => .bind_any fun found => ?_
  split
  · exact .pure (Answers.ok (c := jobCancel jobId) _)
  · exact .pure (.error ..)

private theorem identify_answers (candidate : CandidateRef) (count : Option UInt32) :
    (dispatchIdentify cfg candidate count).Returns (identify candidate count).Answers := by
  refine .bind_any fun held => ?_
  split
  · exact .pure (.error ..)
  · split
    · exact .pure (.error ..)
    · refine .bind_any fun blinked => ?_
      split
      · exact .pure (Answers.ok (c := identify candidate count) ())
      · exact .pure (.error ..)

private theorem linkStatus_answers : (dispatchLinkStatus cfg).Returns linkStatus.Answers := by
  refine .bind_any fun blocked => .bind_any fun busy => ?_
  split
  · exact .pure (Answers.ok (c := linkStatus) _)
  · split
    · exact .pure (Answers.ok (c := linkStatus) _)
    · exact .bind_any fun i => .pure (Answers.ok (c := linkStatus) _)

/-- A key that is not found is an error of the request. -/
theorem firmwareKey_answers (p : UpdateFirmwareParams) (mode : ReachMode) (key : String) :
    (firmwareKey mode key).Returns fun found => ∀ resp, found = .error resp → (updateFirmware p).Answers resp := by
  have herror : ∀ code message resp,
      (Except.error (errResponse .updateFirmware code message) : Except Response String) = .error resp →
      (updateFirmware p).Answers resp := by
    intro code message resp hresp
    obtain rfl := Except.error.inj hresp
    exact .error code message
  have hok : ∀ key resp, (Except.ok key : Except Response String) = .error resp → (updateFirmware p).Answers resp := by
    intro key resp hresp
    cases hresp
  unfold firmwareKey
  split
  · refine .bind_any fun found => ?_
    split
    · exact .pure (hok _)
    · exact .pure (herror _ _)
    · exact .pure (herror _ _)
    · exact .pure (herror _ _)
  · exact .pure (hok _)

private theorem submitUpdate_answers (p : UpdateFirmwareParams) (key : String) :
    (submitUpdate p key).Returns (updateFirmware p).Answers := by
  unfold submitUpdate
  split
  · exact .pure (.error ..)
  · refine .bind_any fun submitted => ?_
    split
    · exact .pure (Answers.ok (c := updateFirmware p) _)
    · exact .pure (.error ..)

private theorem updateFirmware_answers (p : UpdateFirmwareParams) :
    (dispatchUpdateFirmware p).Returns (updateFirmware p).Answers := by
  unfold dispatchUpdateFirmware
  split
  · exact .pure (.error ..)
  · refine .bind_any fun _ => (firmwareKey_answers p p.mode p.key).bind fun found hfound => ?_
    split
    · exact .pure (hfound _ rfl)
    · exact .bind_any fun _ => submitUpdate_answers p _

/-- The daemon answers every call with a result of its kind or an error. -/
theorem dispatch_answers (c : Call) : (dispatch cfg c.request).Returns c.Answers := by
  cases c with
  | hello => exact .pure (Answers.ok (c := hello) _)
  | scanMode mode => exact scan_answers mode
  | updateFirmware p => exact updateFirmware_answers p
  | probe candidate => exact probe_answers candidate
  | program candidate request => exact program_answers candidate request
  | jobGet jobId => exact jobGet_answers jobId
  | jobCancel jobId => exact jobCancel_answers jobId
  | identify candidate count => exact identify_answers candidate count
  | linkStatus => exact linkStatus_answers

/-! ### The response arrives -/

private theorem expecting_okResponse {α : Type} (hb : bodies.ReadBack) {take : ResultBody → Option α}
    (body : ResultBody) {a : α} (htake : take body = some a) :
    expecting bodies body.kind take (okResponse body.kind body).toJson = .ok a := by
  have hbuilt : Response.Built (okResponse body.kind body) := .ok body
  have hread : roundTrip bodies (okResponse body.kind body).toJson = .ok (okResponse body.kind body) := by
    rw [roundTrip, Response.fromJson_toJson hb hbuilt]
    cases body <;> rfl
  have hresult : expectResult (okResponse body.kind body) body.kind = .ok body := by
    simp [expectResult, okResponse]
  have hselect : expecting bodies body.kind take (okResponse body.kind body).toJson = (do
      let body ← expectResult (okResponse body.kind body) body.kind
      (take body).elim (.error .unexpectedResponse) .ok) := by
    rw [expecting, hread]
    rfl
  have hbound : ((Except.ok body : Except ClientError ResultBody) >>= fun body =>
      (take body).elim (.error .unexpectedResponse) .ok) = (take body).elim (.error .unexpectedResponse) .ok := rfl
  rw [hselect, hresult, hbound, htake]
  rfl

private theorem decode_ok (hb : bodies.ReadBack) (c : Call) (a : c.Result) :
    c.decode bodies (okResponse c.request.kind (c.body a)).toJson = .ok a := by
  cases c with
  | hello => exact expecting_okResponse hb (.hello a) rfl
  | scanMode mode => exact expecting_okResponse hb (.scan a) rfl
  | updateFirmware p => exact expecting_okResponse hb (.updateFirmware a) rfl
  | probe candidate => exact expecting_okResponse hb (.probe a) rfl
  | program candidate request => exact expecting_okResponse hb (.program a) rfl
  | jobGet jobId => exact expecting_okResponse hb (.job a) rfl
  | jobCancel jobId => exact expecting_okResponse hb (.jobCancelled a) rfl
  | identify candidate count => exact expecting_okResponse hb .identify rfl
  | linkStatus => exact expecting_okResponse hb (.linkStatus a) rfl

private theorem decode_error (hb : bodies.ReadBack) (c : Call) (kind : RequestKind) (code message : String) :
    c.decode bodies (errResponse kind code message).toJson = .error (.fromErrorBody ⟨code, message⟩) := by
  cases c <;> exact expecting_errResponse hb ..

private theorem Yields.decode_eq (hb : bodies.ReadBack) {resp : Response} {r : Except ClientError c.Result}
    (h : c.Yields resp r) : c.decode bodies resp.toJson = r := by
  cases h with
  | ok a => exact decode_ok hb c a
  | error code message => exact decode_error hb c _ code message

/-! ### A whole call -/

variable {tr : List (Event Op Op.Res)}

private theorem execute_run_iff {reply : Except String Response} :
    Prog.Run (execute cfg text c.request.toJson) tr reply ↔
      ∃ resp, Prog.Run (dispatch cfg c.request) tr resp ∧ reply = .ok resp := by
  rw [execute_request]
  exact Prog.run_bind_pure

/-- Whatever happens in the daemon meanwhile, a call returns what the daemon has answered to its request: the result that the
response carries, or the error by its code.  It never fails for a response that it does not understand. -/
theorem rpc_run_iff (hb : bodies.ReadBack) (c : Call) {r : Except ClientError c.Result} :
    Prog.Run (c.rpc bodies cfg text) tr r ↔
      ∃ resp, Prog.Run (dispatch cfg c.request) tr resp ∧ c.Yields resp r := by
  have hrpc : Prog.Run (c.rpc bodies cfg text) tr r ↔
      ∃ reply, Prog.Run (execute cfg text c.request.toJson) tr reply ∧ r = c.decode bodies (replied reply).toJson :=
    Prog.run_bind_pure
  rw [hrpc]
  constructor
  · rintro ⟨reply, hexecute, rfl⟩
    obtain ⟨resp, hdispatch, rfl⟩ := execute_run_iff.1 hexecute
    obtain ⟨r, hyields⟩ := (dispatch_answers c).run hdispatch
    have hdecode : c.decode bodies (replied (.ok resp)).toJson = r := hyields.decode_eq hb
    rw [hdecode]
    exact ⟨resp, hdispatch, hyields⟩
  · rintro ⟨resp, hdispatch, hyields⟩
    exact ⟨.ok resp, execute_run_iff.2 ⟨resp, hdispatch, rfl⟩, (hyields.decode_eq hb).symm⟩

/-- A job that the daemon does not know. -/
theorem rpc_run_unknown : Prog.Run ((jobGet "job-9").rpc .derived .plain (fun _ => "")) [⟨.jobs (.snapshot "job-9"), none⟩]
    (.error (.server "not_found" "no such job")) := by
  have hrun : Prog.Run (dispatch .plain (jobGet "job-9").request) [⟨.jobs (.snapshot "job-9"), none⟩]
    (errResponse .jobGet "not_found" "no such job") := .op (.ret _)
  have hcode : ClientError.fromErrorBody ⟨"not_found", "no such job"⟩ = .server "not_found" "no such job" := by decide
  rw [← hcode]
  exact (rpc_run_iff Bodies.derived_readBack (jobGet "job-9")).2 ⟨_, hrun, .error ..⟩

end Call

end RustClient

end WirelessProgrammer
