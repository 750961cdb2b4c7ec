import WirelessProgrammer.Daemon.JobWatch
import WirelessProgrammer.GoClient
import WirelessProgrammer.RustClient

/-!
# Requests about jobs that do not exist

The three requests about a job, from the daemon's registry to the errors of both clients.  The daemon's code for a job it
does not have is `not_found`, and both clients look for `notFound`.
-/

namespace WirelessProgrammer

open Effect

/-! ### The daemon's answer -/

/-- The daemon, in the given state, answers a request about a job with the given response. -/
inductive JobReply (cfg : Config) (s : Shared) (id : String) : RequestKind → Response → Prop
  | get {n : Nat} {tr : List (Event Op Op.Res)} {resp : Response} {s' : Shared}
      (h : RunsFrom (Sem n) (dispatch cfg ⟨.jobGet, some (.job id)⟩) s tr resp s') : JobReply cfg s id .jobGet resp
  | cancel {n : Nat} {tr : List (Event Op Op.Res)} {resp : Response} {s' : Shared}
      (h : RunsFrom (Sem n) (dispatch cfg ⟨.jobCancel, some (.job id)⟩) s tr resp s') : JobReply cfg s id .jobCancel resp
  | watch {passes : Nat} {evs : List (Event WatchOp WatchOp.Res)} {out : Except String Watched} {resp : Response}
      (h : Prog.Run (streamJobWatch passes ⟨.jobWatch, some (.job id)⟩).run evs out)
      (hanswers : ∀ e ∈ evs, WatchOp.Answers s e.1 e.2) (hresp : ⟨.reply resp, .ok ()⟩ ∈ evs) :
      JobReply cfg s id .jobWatch resp

/-- The requests that name a job. -/
def RequestKind.NamesJob (kind : RequestKind) : Prop := kind = .jobGet ∨ kind = .jobCancel ∨ kind = .jobWatch

section Daemon

variable {cfg : Config} {s s' : Shared} {id : String} {kind : RequestKind} {resp : Response} {n : Nat}
  {tr : List (Event Op Op.Res)}

private theorem snapshot_unknown (hid : s.jobs.lookup id = none) : s.jobs.snapshot id = none := by
  rw [JobRegistry.snapshot, hid]
  rfl

private theorem dispatchJobGet_unknown (hid : s.jobs.lookup id = none)
    (h : RunsFrom (Sem n) (dispatchJobGet id) s tr resp s') : resp = errResponse .jobGet "not_found" "no such job" := by
  obtain ⟨found, s₁, t₁, rfl, ⟨-, hfound, -⟩, hret⟩ := runsFrom_perform.1 h
  obtain rfl : found = none := hfound.trans (snapshot_unknown hid)
  exact (runsFrom_ret.1 hret).2.1

private theorem cancel_unknown (hid : s.jobs.lookup id = none) : s.jobs.cancel id = s.jobs := by
  rw [JobRegistry.cancel, hid]

private theorem dispatchJobCancel_unknown (hid : s.jobs.lookup id = none)
    (h : RunsFrom (Sem n) (dispatchJobCancel id) s tr resp s') :
    resp = errResponse .jobCancel "not_found" "no such job" := by
  obtain ⟨-, s₁, t₁, rfl, ⟨-, -, hcancel⟩, hrest⟩ := runsFrom_perform.1 h
  obtain ⟨found, s₂, t₂, rfl, ⟨-, hfound, -⟩, hret⟩ := runsFrom_perform.1 hrest
  have hjobs : s₁.jobs = s.jobs := (congrArg Shared.jobs hcancel).trans (cancel_unknown hid)
  obtain rfl : found = none := hfound.trans (snapshot_unknown (hjobs ▸ hid))
  exact (runsFrom_ret.1 hret).2.1

private theorem streamJobWatch_unknown {passes : Nat} {evs : List (Event WatchOp WatchOp.Res)}
    {out : Except String Watched} (hid : s.jobs.lookup id = none)
    (h : Prog.Run (streamJobWatch passes ⟨.jobWatch, some (.job id)⟩).run evs out)
    (hanswers : ∀ e ∈ evs, WatchOp.Answers s e.1 e.2) :
    ∃ sent : Except String Unit,
      evs = [⟨.snapshot id, none⟩, ⟨.reply (errResponse .jobWatch "not_found" "no such job"), sent⟩] := by
  obtain ⟨found, t₁, rfl, hrest⟩ := Prog.run_op.1 h
  have hfound : found = s.jobs.snapshot id := hanswers ⟨.snapshot id, found⟩ (by simp)
  obtain rfl : found = none := hfound.trans (snapshot_unknown hid)
  obtain ⟨sent, t₂, rfl, hret⟩ := Prog.run_op.1 hrest
  refine ⟨sent, ?_⟩
  cases sent with
  | ok => obtain ⟨rfl, -⟩ := Prog.run_ret.1 hret; rfl
  | error e => obtain ⟨rfl, -⟩ := Prog.run_ret.1 hret; rfl

/-- The answer to a request about a job that the registry does not have. -/
theorem jobReply_unknown (hid : s.jobs.lookup id = none) :
    JobReply cfg s id kind resp ↔ kind.NamesJob ∧ resp = errResponse kind "not_found" "no such job" := by
  constructor
  · intro h
    cases h with
    | get h => exact ⟨.inl rfl, dispatchJobGet_unknown hid h⟩
    | cancel h => exact ⟨.inr (.inl rfl), dispatchJobCancel_unknown hid h⟩
    | watch h hanswers hresp =>
      obtain ⟨sent, rfl⟩ := streamJobWatch_unknown hid h hanswers
      rcases List.mem_cons.1 hresp with heq | heq
      · cases heq
      · cases List.mem_singleton.1 heq
        exact ⟨.inr (.inr rfl), rfl⟩
  · have hget : Sem 0 s (.jobs (.snapshot id)) none s := ⟨trivial, (snapshot_unknown hid).symm, rfl⟩
    have hcancel : Sem 0 s (.jobs (.cancel id)) () s :=
      ⟨trivial, rfl, congrArg (fun jobs => { s with jobs := jobs }) (cancel_unknown hid).symm⟩
    rintro ⟨rfl | rfl | rfl, rfl⟩
    · exact .get (.op hget (.ret _ _))
    · exact .cancel (.op hcancel (.op hget (.ret _ _)))
    · have hwatch : Prog.Run (streamJobWatch 0 ⟨.jobWatch, some (.job id)⟩).run
          [⟨.snapshot id, none⟩, ⟨.reply (errResponse .jobWatch "not_found" "no such job"), .ok ()⟩] (.ok .closed) :=
        .op (.op (.ret _))
      refine .watch hwatch ?_ (by simp)
      intro e he
      rcases List.mem_cons.1 he with rfl | he
      · exact (snapshot_unknown hid).symm
      · cases List.mem_singleton.1 he
        trivial

end Daemon

/-! ### The clients -/

/-- The error that a method of the Rust client makes of the frame that answers it. -/
inductive RustReports (bodies : Bodies) (frame : Json) : RequestKind → ClientError → Prop
  | get {e : ClientError} (h : RustClient.jobGet bodies frame = .error e) : RustReports bodies frame .jobGet e
  | cancel {e : ClientError} (h : RustClient.jobCancel bodies frame = .error e) : RustReports bodies frame .jobCancel e
  | watch {e : ClientError} (h : WatchStream.nextFrame bodies (.payload frame) = .error e) :
    RustReports bodies frame .jobWatch e

/-- The Rust client reports the job as not found. -/
def RustNotFound (bodies : Bodies) (kind : RequestKind) (resp : Response) : Prop :=
  ∃ message, RustReports bodies resp.toJson kind (.notFound message)

/-- The Go client decodes the frame, and maps the error in it to one that matches `ErrNotFound`. -/
def GoNotFound (resp : Response) : Prop :=
  ∃ r, GoClient.roundTrip resp.toJson = .ok r ∧ (GoClient.responseError r).is .errNotFound = true

section Clients

variable {bodies : Bodies} {kind : RequestKind} {code message : String}

private theorem fromErrorBody_notFound {m : String} :
    ClientError.fromErrorBody ⟨code, message⟩ = .notFound m ↔
      (code = "notFound" ∨ code = "candidateNotFound") ∧ message = m := by
  unfold ClientError.fromErrorBody
  by_cases hbusy : code = "busy"
  · subst hbusy
    simp
  · rw [if_neg hbusy]
    by_cases hcode : code = "notFound" ∨ code = "candidateNotFound"
    · rw [if_pos hcode, ClientError.notFound.injEq]
      exact (and_iff_right hcode).symm
    · rw [if_neg hcode]
      refine iff_of_false ?_ fun h => hcode h.1
      intro h
      split at h <;> cases h

private theorem rustReports_errResponse (hb : bodies.ReadBack) {e : ClientError} :
    RustReports bodies (errResponse kind code message).toJson kind e ↔
      kind.NamesJob ∧ ClientError.fromErrorBody ⟨code, message⟩ = e := by
  have hget : RustClient.jobGet bodies (errResponse .jobGet code message).toJson = _ :=
    RustClient.expecting_errResponse hb .jobGet .jobGet _ code message
  have hcancel : RustClient.jobCancel bodies (errResponse .jobCancel code message).toJson = _ :=
    RustClient.expecting_errResponse hb .jobCancel .jobCancel _ code message
  have hwatch := WatchStream.nextFrame_errResponse hb code message
  constructor
  · intro h
    cases h with
    | get h => exact ⟨.inl rfl, Except.error.inj (hget.symm.trans h)⟩
    | cancel h => exact ⟨.inr (.inl rfl), Except.error.inj (hcancel.symm.trans h)⟩
    | watch h => exact ⟨.inr (.inr rfl), Except.error.inj (hwatch.symm.trans h)⟩
  · rintro ⟨rfl | rfl | rfl, rfl⟩
    · exact .get hget
    · exact .cancel hcancel
    · exact .watch hwatch

/-- The Rust client knows two codes of what is not found. -/
theorem rustNotFound_errResponse (hb : bodies.ReadBack) :
    RustNotFound bodies kind (errResponse kind code message) ↔
      kind.NamesJob ∧ (code = "notFound" ∨ code = "candidateNotFound") := by
  simp only [RustNotFound, rustReports_errResponse hb, fromErrorBody_notFound]
  constructor
  · rintro ⟨_, hkind, hcode, -⟩
    exact ⟨hkind, hcode⟩
  · rintro ⟨hkind, hcode⟩
    exact ⟨message, hkind, hcode, rfl⟩

/-- And so does the Go client. -/
theorem goNotFound_errResponse :
    GoNotFound (errResponse kind code message) ↔ code = "notFound" ∨ code = "candidateNotFound" := by
  rw [GoNotFound, GoClient.roundTrip_errResponse]
  simp only [Except.ok.injEq, exists_eq_left', GoClient.responseError]
  by_cases hbusy : code = "busy"
  · subst hbusy
    simp [GoClient.GoError.is]
  · rw [if_neg hbusy]
    by_cases hcode : code = "notFound" ∨ code = "candidateNotFound"
    · rw [if_pos hcode]
      exact iff_of_true rfl hcode
    · rw [if_neg hcode]
      refine iff_of_false ?_ hcode
      intro h
      split at h <;> cases h

end Clients

/-- For every registry and every job that it does not have: the requests about it are answered, and neither client reports
any of the answers as not found. -/
theorem unknown_job_unreported {bodies : Bodies} (hb : bodies.ReadBack) {cfg : Config} {s : Shared} {id : String}
    (hid : s.jobs.lookup id = none) {kind : RequestKind} (hkind : kind.NamesJob) :
    (∃ resp, JobReply cfg s id kind resp) ∧
      ∀ resp, JobReply cfg s id kind resp → ¬ RustNotFound bodies kind resp ∧ ¬ GoNotFound resp := by
  refine ⟨⟨_, (jobReply_unknown hid).2 ⟨hkind, rfl⟩⟩, fun resp hresp => ?_⟩
  obtain ⟨-, rfl⟩ := (jobReply_unknown hid).1 hresp
  rw [rustNotFound_errResponse hb, goNotFound_errResponse]
  simp

/-- A daemon that has just started has no job, and says so. -/
theorem first_job_unreported : (∃ resp, JobReply .plain (.init 0) "job-1" .jobWatch resp) ∧
    ∀ resp, JobReply .plain (.init 0) "job-1" .jobWatch resp →
      ¬ RustNotFound .derived .jobWatch resp ∧ ¬ GoNotFound resp :=
  unknown_job_unreported Bodies.derived_readBack rfl (.inr (.inr rfl))

theorem unknown_job_not_found_fails : ¬ ∀ (cfg : Config) (s : Shared) (id : String), s.jobs.lookup id = none →
    ∀ kind, kind.NamesJob → ∀ resp, JobReply cfg s id kind resp → RustNotFound .derived kind resp ∧ GoNotFound resp := by
  intro h
  have hnone : (Shared.init 0).jobs.lookup "job-1" = none := rfl
  have hreply : JobReply .plain (.init 0) "job-1" .jobGet (errResponse .jobGet "not_found" "no such job") :=
    (jobReply_unknown hnone).2 ⟨.inl rfl, rfl⟩
  have hfound := (h .plain (.init 0) "job-1" hnone .jobGet (.inl rfl) _ hreply).1
  rw [rustNotFound_errResponse Bodies.derived_readBack] at hfound
  exact absurd hfound.2 (by simp)

end WirelessProgrammer
