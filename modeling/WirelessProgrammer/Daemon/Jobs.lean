import Mathlib.Data.List.AList
import WirelessProgrammer.Proto.Wire

/-!
# The job registry

`jobs.rs`.  Every definition is one acquisition of the registry's lock.  The hash map of jobs is an association list
without double keys; it is iterated in its order, which the daemon's environment may change at any time.
-/

namespace WirelessProgrammer

/-! ### Jobs -/

/-- Firmware job parameters; the image stays on disk. -/
structure FirmwareJob where
  mode : ReachMode
  path : String
  host : Option String
  port : Option String
  partitionTable : Option String
  deriving DecidableEq, Repr

/-- Payload stored for the worker. -/
inductive JobPayload
  | program (request : ProgramRequestWire)
  | firmware (job : FirmwareJob)
  deriving DecidableEq, Repr

/-- A point-in-time snapshot of a job. -/
structure JobSnapshot where
  id : String
  state : JobState
  driver : String
  key : String
  detail : Option String
  createdAt : Nat
  deriving DecidableEq, Repr

/-- Internal job record. -/
structure JobRecord where
  snapshot : JobSnapshot
  frames : List JobFrame
  cancel : Bool
  payload : Option JobPayload
  deriving DecidableEq, Repr

/-- Errors raised by the registry and the requests that submit jobs. -/
inductive JobError
  | busy (active : String)
  | notFound
  | unknownDriver
  | validation (e : ValidationError)
  | driver (e : DriverError)
  | firmwareUnsupported
  deriving DecidableEq, Repr

def JobError.text : JobError → String
  | busy active => s!"radio busy with job {active}"
  | notFound => "no such job"
  | unknownDriver => "unknown driver"
  | validation e => s!"validation: {e.text}"
  | driver e => s!"driver: {e.text}"
  | firmwareUnsupported => "firmware update is not supported"

/-- Keep at most this many terminal jobs in the registry. -/
def MAX_JOB_HISTORY : Nat := 32

structure JobRegistry where
  active : Option String
  jobs : AList fun _ : String => JobRecord
  seq : Nat

/-- The id of job number `n`. -/
def jobName (n : Nat) : String := "job-" ++ toString n

theorem jobName_injective {m n : Nat} (h : jobName m = jobName n) : m = n := by
  have hdigits : Nat.toDigits 10 m = Nat.toDigits 10 n := by
    have := congrArg String.toList h
    simpa [jobName, String.toList_append] using this
  simpa using congrArg (fun l => Nat.ofDigitChars 10 l 0) hdigits

namespace JobRegistry

/-- An empty registry. -/
def new : JobRegistry := ⟨none, ∅, 0⟩

def lookup (r : JobRegistry) (id : String) : Option JobRecord := r.jobs.lookup id

/-- Store a job's record. -/
def put (r : JobRegistry) (id : String) (rec : JobRecord) : JobRegistry := { r with jobs := r.jobs.insert id rec }

/-! ### Operations -/

/-- The record of a job that has just been submitted. -/
def queuedRecord (now : Nat) (driver key : String) (payload : Option JobPayload) (id : String) : JobRecord :=
  ⟨⟨id, .queued, driver, key, none, now⟩, [], false, payload⟩

/-- Start a job and store the payload for the worker. -/
def submit (now : Nat) (driver key : String) (payload : Option JobPayload) (r : JobRegistry) :
    Except JobError String × JobRegistry :=
  match r.active with
  | some active => (.error (.busy active), r)
  | none =>
    let id := jobName (r.seq + 1)
    (.ok id, { r.put id (queuedRecord now driver key payload id) with active := some id, seq := r.seq + 1 })

/-- Take the stored payload. -/
def takePayload (id : String) (r : JobRegistry) : Option JobPayload × JobRegistry :=
  match r.lookup id with
  | some rec => (rec.payload, r.put id { rec with payload := none })
  | none => (none, r)

/-- Whether a non-terminal job currently holds the radio. -/
def isBusy (r : JobRegistry) : Bool := r.active.isSome

/-- The entries that may be evicted, oldest first. -/
def evictable (r : JobRegistry) : List (String × Nat) :=
  ((r.jobs.entries.filter fun e => e.2.snapshot.state.isTerminal && r.active ≠ some e.1).map
    fun e => (e.1, e.2.snapshot.createdAt)).mergeSort fun a b => a.2 ≤ b.2

/-- How many jobs there are too many. -/
def excess (r : JobRegistry) : Nat := r.jobs.entries.length - MAX_JOB_HISTORY

def evictOldJobs (r : JobRegistry) : JobRegistry :=
  if r.excess = 0 then r
  else { r with jobs := (r.evictable.take r.excess).foldl (fun jobs e => jobs.erase e.1) r.jobs }

end JobRegistry

/-- A record after a state transition, with its frame. -/
def JobRecord.push (rec : JobRecord) (id : String) (state : JobState) (step : Option String) (progress : Option UInt8)
    (detail : Option String) : JobRecord :=
  { rec with
    snapshot := { rec.snapshot with state := state, detail := detail.or rec.snapshot.detail }
    frames := rec.frames ++ [⟨id, state, step, progress, detail⟩] }

/-- A record after a cancel request. -/
def JobRecord.requestCancel (rec : JobRecord) (id : String) : JobRecord :=
  if rec.snapshot.state.isTerminal then { rec with cancel := true }
  else
    { rec with
      cancel := true
      snapshot := { rec.snapshot with detail := some "cancel requested" }
      frames := rec.frames ++ [⟨id, rec.snapshot.state, none, none, some "cancel requested"⟩] }

namespace JobRegistry

/-- Push a state transition and its frame; a terminal state frees the slot. -/
def transition (id : String) (state : JobState) (step : Option String) (progress : Option UInt8)
    (detail : Option String) (r : JobRegistry) : JobRegistry :=
  match r.lookup id with
  | none => r
  | some rec =>
    let r := r.put id (rec.push id state step progress detail)
    if state.isTerminal then evictOldJobs { r with active := none } else r

/-- Mark a job cancelled. -/
def cancel (id : String) (r : JobRegistry) : JobRegistry :=
  match r.lookup id with
  | none => r
  | some rec => r.put id (rec.requestCancel id)

/-- Whether cancellation was requested for a job. -/
def isCancelled (id : String) (r : JobRegistry) : Bool := ((r.lookup id).map (·.cancel)).getD false

def snapshot (id : String) (r : JobRegistry) : Option JobSnapshot := (r.lookup id).map (·.snapshot)

/-- The frames of a job from the given index on. -/
def framesSince (id : String) (since : Nat) (r : JobRegistry) : Option (List JobFrame) :=
  (r.lookup id).map fun rec => rec.frames.drop since

/-! ### Lookups -/

section Lookups

variable {r : JobRegistry} {id id' : String}

@[simp] theorem put_active (rec : JobRecord) : (r.put id rec).active = r.active := rfl

@[simp] theorem lookup_put_self (rec : JobRecord) : (r.put id rec).lookup id = some rec := AList.lookup_insert _

theorem lookup_put_ne (h : id' ≠ id) (rec : JobRecord) : (r.put id rec).lookup id' = r.lookup id' :=
  AList.lookup_insert_ne h

theorem submit_busy {active : String} (h : r.active = some active) (now : Nat) (driver key : String)
    (payload : Option JobPayload) : r.submit now driver key payload = (.error (.busy active), r) := by
  rw [submit, h]

theorem submit_free (h : r.active = none) (now : Nat) (driver key : String) (payload : Option JobPayload) :
    r.submit now driver key payload =
      (.ok (jobName (r.seq + 1)),
        { r.put (jobName (r.seq + 1)) (queuedRecord now driver key payload (jobName (r.seq + 1))) with
          active := some (jobName (r.seq + 1)), seq := r.seq + 1 }) := by
  rw [submit, h]

private theorem mem_evictable {e : String × Nat} (h : e ∈ r.evictable) :
    ∃ rec, r.lookup e.1 = some rec ∧ rec.snapshot.state.isTerminal = true ∧ r.active ≠ some e.1 := by
  obtain ⟨entry, hentry, rfl⟩ := List.mem_map.1 (List.mem_mergeSort.1 h)
  obtain ⟨hmem, hcond⟩ := List.mem_filter.1 hentry
  simp only [Bool.and_eq_true, decide_eq_true_eq] at hcond
  exact ⟨entry.2, AList.mem_lookup_iff.2 hmem, hcond⟩

private theorem lookup_foldl_erase (l : List (String × Nat)) (jobs : AList fun _ : String => JobRecord) (id : String) :
    (l.foldl (fun jobs e => jobs.erase e.1) jobs).lookup id =
      if id ∈ l.map Prod.fst then none else jobs.lookup id := by
  induction l generalizing jobs with
  | nil => rfl
  | cons e l ih =>
    rw [List.foldl_cons, ih, List.map_cons]
    by_cases hl : id ∈ l.map Prod.fst
    · rw [if_pos hl, if_pos (List.mem_cons_of_mem _ hl)]
    · by_cases he : id = e.1
      · subst he
        rw [if_neg hl, if_pos (List.mem_cons_self ..), AList.lookup_erase]
      · rw [if_neg hl, if_neg (by simp [he, hl]), AList.lookup_erase_ne he]

theorem lookup_evictOldJobs (r : JobRegistry) (id : String) :
    r.evictOldJobs.lookup id = if id ∈ (r.evictable.take r.excess).map Prod.fst then none else r.lookup id := by
  unfold evictOldJobs
  split
  · next h => rw [h, List.take_zero, List.map_nil, if_neg List.not_mem_nil]
  · exact lookup_foldl_erase _ r.jobs id

/-- A registry with some terminal jobs removed, none of them the active one. -/
def Evicted (r r' : JobRegistry) : Prop :=
  ∀ id, r'.lookup id = r.lookup id ∨
    r'.lookup id = none ∧ ∃ rec, r.lookup id = some rec ∧ rec.snapshot.state.isTerminal = true ∧ r.active ≠ some id

private theorem evicted_foldl (l : List (String × Nat)) (hl : ∀ e ∈ l, e ∈ r.evictable) :
    Evicted r { r with jobs := l.foldl (fun jobs e => jobs.erase e.1) r.jobs } := by
  intro id
  by_cases hid : id ∈ l.map Prod.fst
  · obtain ⟨e, he, rfl⟩ := List.mem_map.1 hid
    exact .inr ⟨(lookup_foldl_erase l r.jobs e.1).trans (if_pos hid), mem_evictable (hl e he)⟩
  · exact .inl ((lookup_foldl_erase l r.jobs id).trans (if_neg hid))

theorem evicted_evictOldJobs (r : JobRegistry) : Evicted r r.evictOldJobs := by
  unfold evictOldJobs
  split
  · exact fun _ => .inl rfl
  · exact evicted_foldl _ fun e he => List.mem_of_mem_take he

@[simp] theorem evictOldJobs_active (r : JobRegistry) : r.evictOldJobs.active = r.active := by
  unfold evictOldJobs
  split <;> rfl

@[simp] theorem evictOldJobs_seq (r : JobRegistry) : r.evictOldJobs.seq = r.seq := by
  unfold evictOldJobs
  split <;> rfl

end Lookups

end JobRegistry

end WirelessProgrammer
