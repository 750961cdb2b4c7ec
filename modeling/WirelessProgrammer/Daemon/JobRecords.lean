import WirelessProgrammer.Daemon.SlotDiscipline

/-!
# The records of the jobs

What one step of the daemon can do to the record of a job, and what follows for its frames and its cancel flag.
-/

namespace WirelessProgrammer

open Effect

/-- What one step can do to the record of job `id`: it is created, moved to another state while it runs, marked as
cancelled, or evicted. -/
inductive RecordStep (id : String) : Option JobRecord → Option JobRecord → Prop
  | same (rec : Option JobRecord) : RecordStep id rec rec
  | submitted (now : Nat) (driver key : String) (payload : Option JobPayload) :
      RecordStep id none (some (JobRegistry.queuedRecord now driver key payload id))
  | taken (rec : JobRecord) : RecordStep id (some rec) (some { rec with payload := none })
  | pushed (rec : JobRecord) (h : rec.snapshot.state.isTerminal = false) (state : JobState) (step : Option String)
      (progress : Option UInt8) (detail : Option String) :
      RecordStep id (some rec) (some (rec.push id state step progress detail))
  | cancelled (rec : JobRecord) : RecordStep id (some rec) (some (rec.requestCancel id))
  | evicted (rec : JobRecord) : RecordStep id (some rec) none

namespace JobRegistry

variable {r : JobRegistry} {id : String} {rec : JobRecord}

/-- The records of other jobs are as they were. -/
theorem recordStep_put (h : RecordStep id (r.lookup id) (some rec)) (i : String) :
    RecordStep i (r.lookup i) ((r.put id rec).lookup i) := by
  by_cases hi : i = id
  · subst hi
    rwa [lookup_put_self]
  · rw [lookup_put_ne hi]
    exact .same _

private theorem recordStep_submit (hd : r.Disciplined) (now : Nat) (driver key : String) (payload : Option JobPayload)
    (i : String) : RecordStep i (r.lookup i) ((r.submit now driver key payload).2.lookup i) := by
  rcases hactive : r.active with _ | active
  · rw [submit_free hactive]
    have hnew : RecordStep (jobName (r.seq + 1)) (r.lookup (jobName (r.seq + 1)))
        (some (queuedRecord now driver key payload (jobName (r.seq + 1)))) := by
      rw [hd.fresh]
      exact .submitted ..
    exact recordStep_put hnew i
  · rw [submit_busy hactive]
    exact .same _

private theorem recordStep_takePayload (r : JobRegistry) (id i : String) :
    RecordStep i (r.lookup i) ((r.takePayload id).2.lookup i) := by
  unfold takePayload
  split
  · next rec hrec =>
    refine recordStep_put ?_ i
    rw [hrec]
    exact .taken rec
  · exact .same _

private theorem recordStep_cancel (r : JobRegistry) (id i : String) :
    RecordStep i (r.lookup i) ((r.cancel id).lookup i) := by
  unfold cancel
  split
  · exact .same _
  · next rec hrec =>
    refine recordStep_put ?_ i
    rw [hrec]
    exact .cancelled rec

private theorem recordStep_transition (hd : r.Disciplined) (ha : r.active = some id) (state : JobState)
    (step : Option String) (progress : Option UInt8) (detail : Option String) (i : String) :
    RecordStep i (r.lookup i) ((r.transition id state step progress detail).lookup i) := by
  obtain ⟨rec, hrec, ht⟩ := (hd.active_iff id).1 ha
  have hput : RecordStep i (r.lookup i) ((r.put id (rec.push id state step progress detail)).lookup i) := by
    refine recordStep_put ?_ i
    rw [hrec]
    exact .pushed rec ht ..
  rcases hs : state.isTerminal with _ | _
  · rwa [transition_running hrec hs]
  · rw [transition_ended hrec hs]
    rcases evicted_evictOldJobs { r.put id (rec.push id state step progress detail) with active := none } i with
      hsame | ⟨hgone, rec', hrec', -⟩
    · rw [hsame]
      exact hput
    · -- the job itself may be among those that are evicted
      rw [hgone]
      by_cases hi : i = id
      · subst hi
        rw [hrec]
        exact .evicted rec
      · rw [← lookup_put_ne hi (r := r)]
        rw [show (r.put id (rec.push id state step progress detail)).lookup i = some rec' from hrec']
        exact .evicted rec'

end JobRegistry

/-- A step of an operation, as seen by one job. -/
theorem act_recordStep {s s' : Shared} {gs : Nat → Slot} {n : Nat} (h : SlotInv s gs) {o : Op} {r : o.Res}
    (ho : slotProtocol.allowed (gs n) o) (hsem : Sem n s o r s') (id : String) :
    RecordStep id (s.jobs.lookup id) (s'.jobs.lookup id) := by
  cases o with
  | jobs o =>
    obtain ⟨-, rfl, rfl⟩ := hsem
    cases o with
    | submit => exact JobRegistry.recordStep_submit h.disciplined ..
    | takePayload => exact JobRegistry.recordStep_takePayload ..
    | transition => exact JobRegistry.recordStep_transition h.disciplined (h.owned ho) ..
    | cancel => exact JobRegistry.recordStep_cancel ..
    | _ => exact .same _
  | send =>
    cases r with
    | ok => exact hsem.2 ▸ .same _
    | error => exact hsem ▸ .same _
  | cached | radioHeld | lock | unlock => exact hsem.2 ▸ .same _
  | store | recv | setHeld | radio | world => exact hsem ▸ .same _

theorem spawn_jobs {cfg : Config} {s s' : Shared} {t : Tag} {p : DaemonM Unit} (h : Spawn cfg s t p s') :
    s'.jobs = s.jobs := by
  cases t with
  | request req => exact h.2 ▸ rfl
  | job id =>
    obtain ⟨-, -, queue, -, rfl⟩ := h
    rfl

theorem env_lookup {s s' : Shared} (h : Env s s') (id : String) : s'.jobs.lookup id = s.jobs.lookup id := by
  obtain ⟨now, jobs, -, hperm, rfl⟩ := h
  exact JobRegistry.lookup_perm hperm _ _ id

/-! ### Frames -/

/-- Only a job that has ended has a terminal frame, and that is its last one. -/
structure JobRecord.WellFramed (rec : JobRecord) : Prop where
  running (h : rec.snapshot.state.isTerminal = false) {f : JobFrame} (hf : f ∈ rec.frames) :
    f.state.isTerminal = false
  ended (h : rec.snapshot.state.isTerminal = true) :
    ∃ fs f, rec.frames = fs ++ [f] ∧ f.state = rec.snapshot.state ∧ ∀ f' ∈ fs, f'.state.isTerminal = false

namespace JobRecord.WellFramed

variable {rec rec' : JobRecord} {id : String}

/-- Nothing changes in the frames and the state. -/
theorem frame (h : rec.WellFramed) (hs : rec'.snapshot.state = rec.snapshot.state) (hf : rec'.frames = rec.frames) :
    rec'.WellFramed where
  running ht _ hmem := h.running (hs ▸ ht) (hf ▸ hmem)
  ended ht := by
    rw [hs, hf]
    exact h.ended (hs ▸ ht)

/-- A job that runs is pushed to another state. -/
theorem push (h : rec.WellFramed) (hrun : rec.snapshot.state.isTerminal = false) (state : JobState)
    (step : Option String) (progress : Option UInt8) (detail : Option String) :
    (rec.push id state step progress detail).WellFramed where
  running ht f hf := by
    rcases List.mem_append.1 hf with hf | hf
    · exact h.running hrun hf
    · rw [List.mem_singleton.1 hf]
      exact ht
  ended _ := ⟨rec.frames, _, rfl, rfl, fun _ hf => h.running hrun hf⟩

private theorem requestCancel (h : rec.WellFramed) : (rec.requestCancel id).WellFramed := by
  rcases hs : rec.snapshot.state.isTerminal with _ | _
  · have hcancel : rec.requestCancel id = { rec with
        cancel := true
        snapshot := { rec.snapshot with detail := some "cancel requested" }
        frames := rec.frames ++ [⟨id, rec.snapshot.state, none, none, some "cancel requested"⟩] } :=
      if_neg (by simp [hs])
    rw [hcancel]
    refine ⟨fun _ f hf => ?_, fun ht => ?_⟩
    · rcases List.mem_append.1 hf with hf | hf
      · exact h.running hs hf
      · rw [List.mem_singleton.1 hf]
        exact hs
    · exact absurd (hs.symm.trans ht) nofun
  · exact h.frame (JobRegistry.requestCancel_state rec id) (JobRegistry.requestCancel_frames hs)

end JobRecord.WellFramed

namespace RecordStep

variable {id : String} {rec rec' : JobRecord} {before after : Option JobRecord}

private theorem wellFramed (h : RecordStep id before after) (hw : ∀ rec ∈ before, rec.WellFramed) :
    ∀ rec ∈ after, rec.WellFramed := by
  cases h with
  | same => exact hw
  | submitted => rintro _ ⟨⟩; exact ⟨fun _ _ => nofun, nofun⟩
  | taken rec => rintro _ ⟨⟩; exact (hw rec rfl).frame rfl rfl
  | pushed rec hrun => rintro _ ⟨⟩; exact (hw rec rfl).push hrun ..
  | cancelled rec => rintro _ ⟨⟩; exact (hw rec rfl).requestCancel
  | evicted => rintro _ ⟨⟩

/-- Frames are only ever added. -/
theorem frames (h : RecordStep id (some rec) (some rec')) : rec.frames <+: rec'.frames := by
  cases h with
  | same => exact List.prefix_rfl
  | taken => exact List.prefix_rfl
  | pushed => exact List.prefix_append ..
  | cancelled =>
    unfold JobRecord.requestCancel
    split
    · exact List.prefix_rfl
    · exact List.prefix_append ..

/-- A cancel request is never taken back. -/
theorem cancel (h : RecordStep id (some rec) (some rec')) (hc : rec.cancel = true) : rec'.cancel = true := by
  cases h with
  | same | taken | pushed => exact hc
  | cancelled =>
    unfold JobRecord.requestCancel
    split <;> rfl

end RecordStep

variable {cfg : Config} {now : Nat} {tr : List (Label Op Op.Res Tag)} {c : Effect.Config Op Op.Res Shared}

/-- The frames of all jobs are in order in every state that can be reached. -/
theorem reachable_wellFramed (h : Runs (daemon cfg) (.init (.init now)) tr c) {id : String} {rec : JobRecord}
    (hrec : c.shared.jobs.lookup id = some rec) : rec.WellFramed := by
  refine daemon_invariant (C := fun _ _ => True) (fun _ s => ∀ id, ∀ rec ∈ s.jobs.lookup id, rec.WellFramed)
    ?_ ?_ ?_ ?_ h id rec hrec
  · intro tr c n t p s' _ hI _ hsp
    rwa [spawn_jobs hsp]
  · intro tr c n o r s' hrun hI ho _ hsem id
    exact (act_recordStep (reachable_slotInv hrun).1 ho.1 hsem id).wellFramed (hI id)
  · intro tr s s' hI he id
    rw [env_lookup he]
    exact hI id
  · intro id rec hrec
    simp [Shared.init, JobRegistry.new, JobRegistry.lookup] at hrec

end WirelessProgrammer
