import WirelessProgrammer.Lib.Beside
import WirelessProgrammer.WatchStream
import WirelessProgrammer.Daemon.JobRecords

/-!
# Watching a job

`stream_job_watch` of `ipc.rs` beside the daemon: a watcher reads the registry at any moments, the frames and the snapshot
each on its own, and replies with what it has read.  It follows the protocol of a cursor: what it has sent is one snapshot
at most, and then the frames it has read.
-/

namespace WirelessProgrammer

open Effect

/-! ### The handler -/

/-- The registry is read, and the connection written to. -/
inductive WatchOp
  | snapshot (id : String)
  | framesSince (id : String) (since : Nat)
  | reply (resp : Response)

abbrev WatchOp.Res : WatchOp → Type
  | snapshot _ => Option JobSnapshot
  | framesSince .. => Option (List JobFrame)
  | reply _ => Except String Unit

/-- A read is answered by the registry as it is then, and a reply may fail. -/
def WatchOp.Answers (s : Shared) : (o : WatchOp) → o.Res → Prop
  | snapshot id, r => r = s.jobs.snapshot id
  | framesSince id since, r => r = s.jobs.framesSince id since
  | reply _, _ => True

/-- The handler returns at the first reply that fails. -/
abbrev WatchM := ExceptT String (Prog WatchOp WatchOp.Res)

/-- How far a watch has come: it has been closed, or it goes on. -/
inductive Watched
  | closed
  | watching
  deriving DecidableEq, Repr

namespace WatchM

def read (o : WatchOp) : WatchM o.Res := ExceptT.mk (.ok <$> Prog.perform o)

def reply (resp : Response) : WatchM Unit := ExceptT.mk (Prog.perform (WatchOp.reply resp))

end WatchM

def snapshotToFrame (s : JobSnapshot) : JobFrame := ⟨s.id, s.state, none, none, s.detail⟩

/-- Send the frames; the result is whether the last one is terminal. -/
def sendFrames (terminal : Bool) : List JobFrame → WatchM Bool
  | [] => return terminal
  | f :: fs => do
    WatchM.reply (frameResponse f)
    sendFrames f.state.isTerminal fs

/-- One pass of the loop: `none` when the handler returns, else the cursor and whether the snapshot has been sent. -/
def watchPass (id : String) (since : Nat) (sentSnapshot : Bool) : WatchM (Option (Nat × Bool)) := do
  match ← WatchM.read (.framesSince id since) with
  | none => do
    WatchM.reply (errResponse .jobWatch "not_found" "no such job")
    return none
  | some frames => do
    let terminal ← sendFrames false frames
    let since := since + frames.length
    if terminal then return none
    else if since = 0 ∧ sentSnapshot = false then do
      match ← WatchM.read (.snapshot id) with
      | none => return some (since, false)
      | some s => do
        let wire := snapshotToFrame s
        WatchM.reply (frameResponse wire)
        if wire.state.isTerminal then return none else return some (since, true)
    else return some (since, sentSnapshot)

/-- The loop, for as many passes. -/
def watchLoop (id : String) : Nat → Nat → Bool → WatchM Watched
  | 0, _, _ => return .watching
  | passes + 1, since, sentSnapshot => do
    match ← watchPass id since sentSnapshot with
    | none => return .closed
    | some (since, sentSnapshot) => watchLoop id passes since sentSnapshot

/-- `stream_job_watch`, up to its given number of passes. -/
def streamJobWatch (passes : Nat) (req : Request) : WatchM Watched :=
  match req.params with
  | some (.job id) => do
    match ← WatchM.read (.snapshot id) with
    | none => do
      WatchM.reply (errResponse .jobWatch "not_found" "no such job")
      return .closed
    | some _ => watchLoop id passes 0 false
  | _ => do
    WatchM.reply (errResponse .jobWatch "bad_params" "missing params")
    return .closed

/-! ### Its protocol -/

/-- What a watcher has read and sent. -/
structure WatchState where
  /-- It has read the frames. -/
  polled : Bool
  /-- The frames of the job when it has last read them. -/
  recorded : List JobFrame
  replies : List Response

/-- The watcher reads the frames from a place that it has come to, and finds a job in order. -/
def watchProtocol (id : String) : Protocol WatchOp WatchOp.Res WatchState where
  allowed g
    | .snapshot i => i = id
    | .framesSince i since => i = id ∧ since = g.recorded.length
    | .reply _ => True
  answers g
    | .snapshot _, r => ∃ s, r = some s
    | .framesSince _ since, r => ∃ rec : JobRecord, rec.WellFramed ∧ g.recorded <+: rec.frames ∧
        r = some (rec.frames.drop since)
    | .reply _, _ => True
  next g
    | .framesSince .., some fs => { g with polled := true, recorded := g.recorded ++ fs }
    | .reply resp, .ok _ => { g with replies := g.replies ++ [resp] }
    | _, _ => g

namespace WatchState

/-- Before the first pass. -/
def start : WatchState := ⟨false, [], []⟩

end WatchState

section Protocol

variable {β : Type} {id : String} {g : WatchState} {since : Nat} {sentSnapshot : Bool} {Q : Except String β → WatchState → Prop}

end Protocol

/-! ### Beside the daemon -/

/-- The responses that have been sent. -/
def sent (evs : List (Event WatchOp WatchOp.Res)) : List Response :=
  evs.filterMap fun
    | ⟨.reply resp, .ok _⟩ => some resp
    | _ => none

/-- The watcher finds its job gone. -/
def FindsGone : Event WatchOp WatchOp.Res → Prop
  | ⟨.snapshot _, r⟩ => r = none
  | ⟨.framesSince .., r⟩ => r = none
  | ⟨.reply _, _⟩ => False

variable {cfg : Config} {now : Nat} {tr tr' : List (Label Op Op.Res Tag)} {c c' : Effect.Config Op Op.Res Shared} {id : String}

/-- What a step of the daemon does to the record of a job. -/
theorem step_recordStep (h : Runs (daemon cfg) (.init (.init now)) tr c) {l : Label Op Op.Res Tag}
    (hs : Step (daemon cfg) c l c') (id : String) :
    RecordStep id (c.shared.jobs.lookup id) (c'.shared.jobs.lookup id) := by
  obtain ⟨hS, hT⟩ := reachable_slotInv h
  cases hs with
  | spawn hn hsp =>
    show RecordStep id _ ((_ : Shared).jobs.lookup id)
    rw [spawn_jobs hsp]
    exact .same _
  | @act s s' pool n o r k hn hsem =>
    have hop : Tracked jobProtocol .idle (some (.op o k)) (jobUse n tr) := hn ▸ hT n
    exact act_recordStep hS hop.allowed.1 hsem id
  | env he =>
    show RecordStep id _ ((_ : Shared).jobs.lookup id)
    rw [env_lookup he]
    exact .same _

/-- The frames of a job that is still there are those it had, and more. -/
theorem runs_frames (h : Runs (daemon cfg) (.init (.init now)) tr c) (h' : Runs (daemon cfg) c tr' c') {rec rec' : JobRecord}
    (hrec : c.shared.jobs.lookup id = some rec) (hrec' : c'.shared.jobs.lookup id = some rec') :
    rec.frames <+: rec'.frames := by
  obtain ⟨k, hk, rfl⟩ := (reachable_slotInv h).1.disciplined.known hrec
  induction h' generalizing rec' with
  | refl =>
    cases hrec.symm.trans hrec'
    exact List.prefix_rfl
  | @snoc t c₁ c₂ l hbefore _ hs ih =>
    have hrun := h.trans hbefore
    rcases hmid : c₁.shared.jobs.lookup (jobName k) with _ | mid
    · -- a job that is gone does not come back
      have hgone := (step_later hrun hs).gone (hk.trans (runs_later h hbefore).seq_le) hmid
      exact absurd (hgone.symm.trans hrec') nofun
    · have hstep := step_recordStep hrun hs (jobName k)
      rw [hmid, hrec'] at hstep
      exact (ih hmid).trans hstep.frames

/-- What the watcher knows about its job is what the registry had recorded at some moment since it has started from `c`. -/
structure WatchKnows (cfg : Config) (c : Effect.Config Op Op.Res Shared) (id : String)
    (c' : Effect.Config Op Op.Res Shared) (g : WatchState) : Prop where
  run : ∃ t, Runs (daemon cfg) c t c'
  polled (h : g.polled = true) : ∃ c₀ rec, (∃ t, Runs (daemon cfg) c t c₀) ∧ (∃ t, Runs (daemon cfg) c₀ t c') ∧
    c₀.shared.jobs.lookup id = some rec ∧ rec.frames = g.recorded
  unpolled (h : g.polled = false) : g.recorded = []

namespace WatchKnows

variable {g : WatchState} {c₁ : Effect.Config Op Op.Res Shared}

/-- The daemon goes on. -/
theorem daemon (h : WatchKnows cfg c id c' g) (hrun : Runs (daemon cfg) c' tr c₁) : WatchKnows cfg c id c₁ g := by
  refine ⟨?_, fun hp => ?_, h.unpolled⟩
  · obtain ⟨t, ht⟩ := h.run
    exact ⟨t ++ tr, ht.trans hrun⟩
  · obtain ⟨c₀, rec, hc₀, ⟨t, ht⟩, hrec⟩ := h.polled hp
    exact ⟨c₀, rec, hc₀, ⟨t ++ tr, ht.trans hrun⟩, hrec⟩

/-- The frames that the watcher has read are the first ones of the record. -/
theorem recorded (hc : Runs (WirelessProgrammer.daemon cfg) (.init (.init now)) tr c) (h : WatchKnows cfg c id c' g)
    {rec : JobRecord} (hrec : c'.shared.jobs.lookup id = some rec) : g.recorded <+: rec.frames := by
  rcases hp : g.polled with _ | _
  · rw [h.unpolled hp]
    exact List.nil_prefix
  · obtain ⟨c₀, rec₀, ⟨t₀, hc₀⟩, ⟨t, ht⟩, hrec₀, hframes⟩ := h.polled hp
    rw [← hframes]
    exact runs_frames (hc.trans hc₀) ht hrec₀ hrec

/-- One event of the watcher: it is answered as its protocol says. -/
theorem step (hc : Runs (WirelessProgrammer.daemon cfg) (.init (.init now)) tr c) (h : WatchKnows cfg c id c' g)
    {o : WatchOp} {r : o.Res} (ho : (watchProtocol id).allowed g o) (hr : o.Answers c'.shared r)
    (hthere : ¬ FindsGone ⟨o, r⟩) :
    (watchProtocol id).answers g o r ∧ WatchKnows cfg c id c' ((watchProtocol id).next g o r) := by
  cases o with
  | snapshot i => exact ⟨Option.ne_none_iff_exists'.1 hthere, h⟩
  | framesSince i since =>
    obtain ⟨rfl, hsince⟩ := ho
    obtain ⟨t, ht⟩ := h.run
    rcases hrec : c'.shared.jobs.lookup i with _ | rec
    · refine absurd ?_ hthere
      rw [show r = (c'.shared.jobs.lookup i).map fun rec => rec.frames.drop since from hr, hrec]
      rfl
    · have hread : r = some (rec.frames.drop since) := by
        rw [show r = (c'.shared.jobs.lookup i).map fun rec => rec.frames.drop since from hr, hrec]
        rfl
      have hknown := h.recorded hc hrec
      subst hread
      refine ⟨⟨rec, reachable_wellFramed (hc.trans ht) hrec, hknown, rfl⟩, h.run, fun _ => ?_, nofun⟩
      refine ⟨c', rec, h.run, ⟨[], .refl⟩, hrec, ?_⟩
      obtain ⟨rest, hrest⟩ := hknown
      show rec.frames = g.recorded ++ rec.frames.drop since
      rw [← hrest, hsince, List.drop_left]
  | reply resp =>
    refine ⟨trivial, ?_⟩
    cases r with
    | error => exact h
    | ok => exact ⟨h.run, h.polled, h.unpolled⟩

end WatchKnows

end WirelessProgrammer
