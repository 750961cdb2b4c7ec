import WirelessProgrammer.Daemon.ManualEntries
import WirelessProgrammer.Daemon.JobEnds

/-!
# Requests that are refused

What a `program` or `updateFirmware` request that is answered with an error leaves behind: the cache entries that it has
stored on its way to the error, and, when the worker's channel has refused its job, the record of that job.
-/

namespace WirelessProgrammer

open Effect

/-! ### A job that the channel refuses -/

namespace JobRegistry

variable {r : JobRegistry} {now : Nat} {driver key : String} {payload : Option JobPayload} {detail : Option String}

/-- The registry after a job has been submitted and has failed at once. -/
def submitFailed (now : Nat) (driver key : String) (payload : Option JobPayload) (detail : Option String)
    (r : JobRegistry) : JobRegistry :=
  (r.submit now driver key payload).2.transition (jobName (r.seq + 1)) .failed none none detail

/-- The history is full, and no job in it is older than the given time. -/
def FullOfNew (now : Nat) (r : JobRegistry) : Prop :=
  r.size = MAX_JOB_HISTORY ∧ ∀ id rec, r.lookup id = some rec → now ≤ rec.snapshot.createdAt

/-- The failed job is among the others, before old jobs are evicted. -/
private def withFailed (now : Nat) (driver key : String) (payload : Option JobPayload) (detail : Option String)
    (r : JobRegistry) : JobRegistry :=
  let id := jobName (r.seq + 1)
  ⟨none, r.jobs.insert id ((queuedRecord now driver key payload id).push id .failed none none detail), r.seq + 1⟩

private theorem submitFailed_eq (ha : r.active = none) :
    r.submitFailed now driver key payload detail = (r.withFailed now driver key payload detail).evictOldJobs := by
  have hjobs : (r.jobs.insert (jobName (r.seq + 1)) (queuedRecord now driver key payload (jobName (r.seq + 1)))).insert
      (jobName (r.seq + 1)) ((queuedRecord now driver key payload (jobName (r.seq + 1))).push (jobName (r.seq + 1))
        .failed none none detail) = (r.withFailed now driver key payload detail).jobs := AList.insert_insert r.jobs
  have hqueued : JobRegistry.lookup
      ⟨some (jobName (r.seq + 1)), r.jobs.insert (jobName (r.seq + 1)) (queuedRecord now driver key payload
        (jobName (r.seq + 1))), r.seq + 1⟩ (jobName (r.seq + 1)) =
        some (queuedRecord now driver key payload (jobName (r.seq + 1))) := AList.lookup_insert _
  rw [submitFailed, submit_free ha]
  exact (transition_ended hqueued (by rfl : JobState.failed.isTerminal = true) none none detail).trans
    (congrArg (fun jobs => evictOldJobs ⟨none, jobs, r.seq + 1⟩) hjobs)

private theorem submitFailed_active (ha : r.active = none) :
    (r.submitFailed now driver key payload detail).active = r.active := by
  rw [submitFailed_eq ha, evictOldJobs_active, ha]
  rfl

/-- The failed job among those that may be evicted: what is before it is older. -/
private theorem evictable_withFailed (hd : r.Disciplined) (ha : r.active = none) (now : Nat) (driver key : String)
    (payload : Option JobPayload) (detail : Option String) :
    ∃ older newer, (r.withFailed now driver key payload detail).evictable =
        older ++ (jobName (r.seq + 1), now) :: newer ∧
      (older ++ newer).Perm (r.jobs.entries.map fun e => (e.1, e.2.snapshot.createdAt)) ∧
      (∀ e ∈ older, e.2 < now) ∧ ∀ e ∈ newer, now ≤ e.2 := by
  have hended : ∀ e ∈ r.jobs.entries, e.2.snapshot.state.isTerminal = true := by
    intro e he
    by_contra ht
    have hactive := (hd.active_iff e.1).2 ⟨e.2, AList.mem_lookup_iff.2 he, by simpa using ht⟩
    rw [ha] at hactive
    cases hactive
  have hevictable : (r.withFailed now driver key payload detail).evictable =
      List.mergeSort ((jobName (r.seq + 1), now) :: r.jobs.entries.map fun e => (e.1, e.2.snapshot.createdAt))
        fun a b => a.2 ≤ b.2 := by
    rw [evictable, withFailed, AList.entries_insert_of_notMem (AList.lookup_eq_none.1 hd.fresh),
      List.filter_eq_self.2]
    · rfl
    · intro e he
      rcases List.mem_cons.1 he with rfl | he
      · rfl
      · simp [hended e he]
  have htrans : ∀ a b c : String × Nat, decide (a.2 ≤ b.2) → decide (b.2 ≤ c.2) → decide (a.2 ≤ c.2) := by
    intro a b c hab hbc
    exact decide_eq_true ((of_decide_eq_true hab).trans (of_decide_eq_true hbc))
  have htotal : ∀ a b : String × Nat, (decide (a.2 ≤ b.2) || decide (b.2 ≤ a.2)) = true := by
    intro a b
    rcases le_total a.2 b.2 with h | h <;> simp [h]
  obtain ⟨older, newer, hsort, hrest, holder⟩ := List.mergeSort_cons htrans htotal (jobName (r.seq + 1), now)
    (r.jobs.entries.map fun e => (e.1, e.2.snapshot.createdAt))
  refine ⟨older, newer, hevictable.trans hsort, hrest ▸ List.mergeSort_perm _ _, ?_, ?_⟩
  · intro e he
    simpa using holder e he
  · have hsorted := List.pairwise_mergeSort htrans htotal
      ((jobName (r.seq + 1), now) :: r.jobs.entries.map fun e => (e.1, e.2.snapshot.createdAt))
    rw [hsort] at hsorted
    intro e he
    exact of_decide_eq_true (List.rel_of_pairwise_cons (List.pairwise_append.1 hsorted).2.1 he)

/-- A job that fails before the worker sees it leaves no trace only if it is the one that is evicted at once. -/
theorem lookup_submitFailed_iff (hd : r.Disciplined) (ha : r.active = none) :
    (∀ id, (r.submitFailed now driver key payload detail).lookup id = r.lookup id) ↔ r.FullOfNew now := by
  obtain ⟨older, newer, hevictable, hperm, holder, hnewer⟩ :=
    evictable_withFailed hd ha now driver key payload detail
  have hothers : ∀ e ∈ older ++ newer, ∃ rec, r.lookup e.1 = some rec ∧ e.2 = rec.snapshot.createdAt := by
    intro e he
    obtain ⟨entry, hentry, rfl⟩ := List.mem_map.1 (hperm.mem_iff.1 he)
    exact ⟨entry.2, AList.mem_lookup_iff.2 hentry, rfl⟩
  have hsize : older.length + newer.length = r.size := by
    rw [← List.length_append, hperm.length_eq, List.length_map]
    exact (List.length_map ..).symm
  have hexcess : (r.withFailed now driver key payload detail).excess = r.size + 1 - MAX_JOB_HISTORY := by
    rw [excess, withFailed, AList.entries_insert_of_notMem (AList.lookup_eq_none.1 hd.fresh), List.length_cons]
    exact congrArg (· + 1 - MAX_JOB_HISTORY) (List.length_map ..).symm
  have hfailed : (r.withFailed now driver key payload detail).lookup (jobName (r.seq + 1)) ≠ none := by
    rw [lookup, withFailed, AList.lookup_insert]
    exact Option.some_ne_none _
  simp only [submitFailed_eq ha, lookup_evictOldJobs, hevictable, hexcess]
  constructor
  · intro h
    have hkept : ∀ e ∈ older ++ newer,
        e ∉ (older ++ (jobName (r.seq + 1), now) :: newer).take (r.size + 1 - MAX_JOB_HISTORY) := by
      intro e he htake
      obtain ⟨rec, hrec, -⟩ := hothers e he
      have := h e.1
      rw [if_pos (List.mem_map_of_mem htake), hrec] at this
      cases this
    have hfull : MAX_JOB_HISTORY ≤ r.size := by
      by_contra hlt
      have := h (jobName (r.seq + 1))
      rw [show r.size + 1 - MAX_JOB_HISTORY = 0 by omega, List.take_zero, List.map_nil, if_neg List.not_mem_nil,
        hd.fresh] at this
      exact hfailed this
    obtain ⟨k, hk⟩ : ∃ k, r.size + 1 - MAX_JOB_HISTORY = k + 1 := ⟨r.size - MAX_JOB_HISTORY, by omega⟩
    rw [hk] at hkept
    -- an older job would be evicted instead, and the next one with it
    cases older with
    | cons e older => exact absurd (List.mem_cons_self ..) (hkept e (by simp))
    | nil =>
      cases k with
      | zero =>
        refine ⟨by omega, fun id rec hrec => ?_⟩
        exact hnewer (id, rec.snapshot.createdAt)
          (hperm.mem_iff.2 (List.mem_map.2 ⟨⟨id, rec⟩, AList.mem_lookup_iff.1 hrec, rfl⟩))
      | succ k =>
        cases newer with
        | nil =>
          have : MAX_JOB_HISTORY = 32 := rfl
          simp at hsize
          omega
        | cons e newer => exact absurd (by simp) (hkept e (by simp))
  · rintro ⟨hfull, hnew⟩ id
    obtain rfl : older = [] := by
      refine List.eq_nil_iff_forall_not_mem.2 fun e he => ?_
      obtain ⟨rec, hrec, htime⟩ := hothers e (List.mem_append_left _ he)
      have := holder e he
      have := hnew e.1 rec hrec
      omega
    rw [hfull, Nat.add_sub_cancel_left]
    by_cases hid : id = jobName (r.seq + 1)
    · rw [if_pos (by simp [hid]), hid, hd.fresh]
    · rw [if_neg (by simp [hid]), lookup, withFailed, AList.lookup_insert_ne hid]
      rfl

end JobRegistry

/-! ### What a request stores -/

/-- The entry for the Z21 of a FRED, when there is none. -/
def Driver.z21Stored (d : Driver) (cache : Cache) (key : String) : List CachedCandidate :=
  if d = .fred ∧ cache.lookup (d.idStr, key) = none then [wiredCandidate .fred .z21 true key key] else []

namespace UpdateFirmwareParams

/-- The driver that the request names. -/
def driver (p : UpdateFirmwareParams) : Option Driver := Driver.fromId ((p.candidate.map (·.driver)).getD "longfred")

/-- The ports that a USB request without a target finds. -/
def listed (p : UpdateFirmwareParams) (ports : Except String (List UsbPort)) : List UsbPort :=
  if p.key = "" ∧ p.mode = .usb then ports.toOption.getD [] else []

/-- The key of the target, if there is one. -/
def target (p : UpdateFirmwareParams) (ports : Except String (List UsbPort)) : Option String :=
  if p.key = "" then
    match p.listed ports with
    | [x] => some x.path
    | _ => none
  else some p.key

/-- The cache entries that the request stores, one after the other. -/
def stores (p : UpdateFirmwareParams) (ports : Except String (List UsbPort)) : List CachedCandidate :=
  match p.mode with
  | .lan => (if p.key = "" then none else p.host).toList.map fun host => wiredCandidate .longFred .lan true host host
  | .usb =>
    (p.listed ports).map (fun x => wiredCandidate .longFred .usb false x.path x.label) ++
      (p.target ports).toList.map fun key => wiredCandidate .longFred .usb true key key
  | .ap => []
  | .z21 => []

end UpdateFirmwareParams

namespace Request

/-- The cache entries that a request stores; `program` stores one only for a valid request to a FRED. -/
def stores (ports : Except String (List UsbPort)) (cache : Cache) : Request → List CachedCandidate
  | ⟨.program, some (.program candidate request)⟩ =>
    match Driver.fromId candidate.driver with
    | none => []
    | some d => if (d.validate request.toRequest).isOk then d.z21Stored cache candidate.key else []
  | ⟨.updateFirmware, some (.updateFirmware p)⟩ => p.stores ports
  | _ => []

/-- The request gets as far as the slot: its driver is known and takes it. -/
def Admissible (ports : Except String (List UsbPort)) : Request → Prop
  | ⟨.program, some (.program candidate request)⟩ =>
    ∃ d, Driver.fromId candidate.driver = some d ∧ (d.validate request.toRequest).isOk
  | ⟨.updateFirmware, some (.updateFirmware p)⟩ =>
    p.target ports ≠ none ∧ ∃ d, p.driver = some d ∧ d.supportsFirmwareUpdate
  | _ => False

end Request

/-! ### What a refusal leaves -/

section Refusals

variable {n : Nat} {s s' : Shared} {tr : List (Event Op Op.Res)}

/-- The state after entries have been stored. -/
def Shared.store (s : Shared) (stored : List CachedCandidate) : Shared :=
  { s with cache := stored.foldl CacheWrite.insert s.cache }

/-- What a refused request leaves behind: the entries that it has stored, and a failed job when the slot was free. -/
structure Leaves (stored : List CachedCandidate) (admissible : Prop) (s s' : Shared) : Prop where
  cache : s'.cache = stored.foldl CacheWrite.insert s.cache
  jobs : s'.jobs = s.jobs ∧ (admissible → s.jobs.active ≠ none) ∨
    s.jobs.active = none ∧ admissible ∧ ∃ driver key payload detail,
      s'.jobs = s.jobs.submitFailed s.now driver key payload detail

private theorem Leaves.nothing {admissible : Prop} (h : ¬ admissible) : Leaves [] admissible s s :=
  ⟨rfl, .inl ⟨rfl, fun ha => absurd ha h⟩⟩

/-- What has been stored before. -/
theorem Leaves.after {stored : List CachedCandidate} {admissible : Prop} {first : List CachedCandidate}
    (h : Leaves stored admissible (s.store first) s') :
    Leaves (first ++ stored) admissible s s' :=
  ⟨by rw [h.cache, List.foldl_append]; rfl, h.jobs⟩

private theorem store_manual {driver : Driver} {mode : ReachMode} {key : String} {u : Unit}
    (h : RunsFrom (Sem n) (cacheManual driver mode key none) s tr u s') :
    s' = s.store [wiredCandidate driver mode true key key] := by
  cases h with
  | op hsem hret =>
    obtain ⟨-, -, rfl⟩ := runsFrom_ret.1 hret
    exact hsem

private theorem scanned_usb (found : List CachedCandidate) (cache : Cache) :
    (CacheWrite.scanned .usb found).apply cache = found.foldl CacheWrite.insert cache := by
  have hretain : CacheWrite.retain (fun v => !CacheWrite.clears .usb v) cache = cache :=
    AList.ext (List.filter_eq_self.2 fun _ _ => rfl)
  exact congrArg (found.foldl CacheWrite.insert) hretain

private theorem storeScanned_usb {found : List CachedCandidate} {answer : Except DriverError (List CachedCandidate)}
    (h : RunsFrom (Sem n) (storeScanned .usb found) s tr answer s') : answer = .ok found ∧ s' = s.store found := by
  obtain ⟨_, s₁, t₁, rfl, hsem, hret⟩ := runsFrom_perform.1 h
  obtain ⟨-, rfl, rfl⟩ := runsFrom_ret.1 hret
  exact ⟨rfl, hsem.trans (congrArg (fun cache => { s with cache := cache }) (scanned_usb found s.cache))⟩

private theorem submitJob_error {driver : Driver} {key : String} {payload : JobPayload} {e : JobError}
    {admissible : Prop} (hadm : admissible) (h : RunsFrom (Sem n) (submitJob driver key payload) s tr (.error e) s') :
    Leaves [] admissible s s' := by
  obtain ⟨res, s₁, t₁, rfl, ⟨-, hres, rfl⟩, hsent⟩ := runsFrom_perform.1 h
  have hrun : JobOp.run s.now s.jobs (.submit driver.idStr key (some payload)) =
      s.jobs.submit s.now driver.idStr key (some payload) := rfl
  rw [hrun] at hres hsent
  rcases ha : s.jobs.active with _ | active
  · have hsubmit := JobRegistry.submit_free ha s.now driver.idStr key (some payload)
    rw [hsubmit] at hres
    subst hres
    obtain ⟨answer, s₂, t₂, rfl, hsem, hrest⟩ := runsFrom_perform.1 hsent
    cases answer with
    | ok u =>
      obtain ⟨-, hok, -⟩ := runsFrom_ret.1 hrest
      cases hok
    | error text =>
      obtain rfl : s₂ = _ := hsem
      obtain ⟨_, s₃, t₃, rfl, ⟨-, -, rfl⟩, hret⟩ := runsFrom_perform.1 hrest
      obtain ⟨-, -, rfl⟩ := runsFrom_ret.1 hret
      exact ⟨rfl, .inr ⟨ha, hadm, driver.idStr, key, some payload, _, rfl⟩⟩
  · have hsubmit := JobRegistry.submit_busy ha s.now driver.idStr key (some payload)
    rw [hsubmit] at hres hsent
    subst hres
    obtain ⟨-, -, rfl⟩ := runsFrom_ret.1 hsent
    exact ⟨rfl, .inl ⟨rfl, fun _ => by rw [ha]; exact Option.some_ne_none _⟩⟩

private theorem rememberZ21_stores {driver : Driver} {key : String} {u : Unit}
    (h : RunsFrom (Sem n) (rememberZ21 driver key) s tr u s') :
    s' = s.store (driver.z21Stored s.cache key) := by
  unfold rememberZ21 at h
  by_cases hfred : driver = .fred
  · rw [if_pos hfred] at h
    obtain ⟨known, s₁, t₁, rfl, ⟨rfl, rfl⟩, hrest⟩ := runsFrom_perform.1 h
    rcases hlookup : s₁.cache.lookup (driver.idStr, key) with _ | c
    · rw [hlookup] at hrest
      rw [Driver.z21Stored, if_pos ⟨hfred, hlookup⟩]
      exact store_manual hrest
    · rw [hlookup] at hrest
      rw [Driver.z21Stored, if_neg (by simp [hlookup])]
      exact (runsFrom_ret.1 hrest).2.2
  · rw [if_neg hfred] at h
    rw [Driver.z21Stored, if_neg (by simp [hfred])]
    exact (runsFrom_ret.1 h).2.2

private theorem submitProgram_error {driver : Driver} {key : String} {request : ProgramRequestWire} {e : JobError}
    (h : RunsFrom (Sem n) (submitProgram driver key request) s tr (.error e) s') :
    Leaves (if (driver.validate request.toRequest).isOk then driver.z21Stored s.cache key else [])
      (driver.validate request.toRequest).isOk s s' := by
  unfold submitProgram at h
  rcases hvalid : driver.validate request.toRequest with invalid | _
  · rw [hvalid] at h
    obtain ⟨-, -, rfl⟩ := runsFrom_ret.1 h
    exact .nothing nofun
  · rw [hvalid] at h
    obtain ⟨t₁, t₂, u, s₁, rfl, hz21, hsubmit⟩ := runsFrom_bind.1 h
    obtain rfl := rememberZ21_stores hz21
    have hok : (Except.ok () : Except ValidationError Unit).isOk = true := rfl
    rw [if_pos hok, ← List.append_nil (driver.z21Stored _ _)]
    exact (submitJob_error hok hsubmit).after

private theorem dispatchProgram_error {candidate : CandidateRef} {request : ProgramRequestWire} {resp : Response}
    (h : RunsFrom (Sem n) (dispatchProgram candidate request) s tr resp s') (herror : resp.error ≠ none)
    (ports : Except String (List UsbPort)) :
    Leaves (Request.stores ports s.cache ⟨.program, some (.program candidate request)⟩)
      (Request.Admissible ports ⟨.program, some (.program candidate request)⟩) s s' := by
  unfold dispatchProgram at h
  rcases hdriver : Driver.fromId candidate.driver with _ | d
  · rw [hdriver] at h
    obtain ⟨-, -, rfl⟩ := runsFrom_ret.1 h
    simp only [Request.stores, Request.Admissible, hdriver]
    exact .nothing (by simp)
  · rw [hdriver] at h
    obtain ⟨t₁, t₂, answer, s₁, rfl, hsubmit, hret⟩ := runsFrom_bind.1 h
    simp only [Request.stores, Request.Admissible, hdriver, Option.some.injEq, exists_eq_left']
    cases answer with
    | ok id =>
      obtain ⟨-, rfl, -⟩ := runsFrom_ret.1 hret
      exact absurd rfl herror
    | error e =>
      obtain ⟨-, -, rfl⟩ := runsFrom_ret.1 hret
      exact submitProgram_error hsubmit

private theorem submitUpdate_error {p : UpdateFirmwareParams} {key : String} {resp : Response}
    (h : RunsFrom (Sem n) (submitUpdate p key) s tr resp s') (herror : resp.error ≠ none) :
    Leaves [] (∃ d, p.driver = some d ∧ d.supportsFirmwareUpdate) s s' := by
  unfold submitUpdate at h
  rcases hdriver : p.driver with _ | d
  · rw [UpdateFirmwareParams.driver] at hdriver
    rw [hdriver] at h
    obtain ⟨-, -, rfl⟩ := runsFrom_ret.1 h
    exact .nothing (by simp)
  · rw [UpdateFirmwareParams.driver] at hdriver
    rw [hdriver] at h
    simp only [Option.some.injEq, exists_eq_left']
    obtain ⟨t₁, t₂, answer, s₁, rfl, hsubmit, hret⟩ := runsFrom_bind.1 h
    cases answer with
    | ok id =>
      obtain ⟨-, rfl, -⟩ := runsFrom_ret.1 hret
      exact absurd rfl herror
    | error e =>
      obtain ⟨-, -, rfl⟩ := runsFrom_ret.1 hret
      unfold submitFirmware at hsubmit
      by_cases hfw : d.supportsFirmwareUpdate = true
      · rw [if_pos hfw] at hsubmit
        exact submitJob_error hfw hsubmit
      · rw [if_neg hfw] at hsubmit
        obtain ⟨-, -, rfl⟩ := runsFrom_ret.1 hsubmit
        exact .nothing hfw

section Key

variable {p : UpdateFirmwareParams} {ports : Except String (List UsbPort)}

private theorem rememberLanHost_stores {u : Unit} (h : RunsFrom (Sem n) (rememberLanHost p) s tr u s') :
    s' = s.store ((if p.mode = .lan then p.host else none).toList.map fun host =>
      wiredCandidate .longFred .lan true host host) := by
  unfold rememberLanHost at h
  by_cases hlan : p.mode = .lan
  · rw [if_pos hlan]
    rcases hhost : p.host with _ | host
    · rw [hlan, hhost] at h
      exact (runsFrom_ret.1 h).2.2
    · rw [hlan, hhost] at h
      exact store_manual h
  · rw [if_neg hlan]
    rcases hmode : p.mode <;> rw [hmode] at h hlan <;> first | exact absurd rfl hlan | exact (runsFrom_ret.1 h).2.2

/-- The key of the target, or the refusal when there is none; the ports that are found are stored. -/
theorem firmwareKey_spec {answer : Except Response String} (h : RunsFrom (Sem n) (firmwareKey p.mode p.key) s tr answer s')
    (hports : ∀ r, (⟨.world .listUsbPorts, r⟩ : Event Op Op.Res) ∈ tr → r = ports) (htarget : p.key ≠ "" ∨ p.mode = .usb) :
    answer.toOption = p.target ports ∧
      s' = s.store ((p.listed ports).map fun x => wiredCandidate .longFred .usb false x.path x.label) := by
  unfold firmwareKey at h
  by_cases hkey : p.key = "" ∧ p.mode = .usb
  · rw [if_pos hkey] at h
    obtain ⟨t₁, t₂, found, s₁, rfl, hscan, hret⟩ := runsFrom_bind.1 h
    obtain ⟨r, s₂, t₃, rfl, rfl, hfound⟩ := runsFrom_perform.1 hscan
    obtain rfl := hports r (by simp)
    rw [UpdateFirmwareParams.target, if_pos hkey.1, UpdateFirmwareParams.listed, if_pos hkey]
    cases r with
    | error e =>
      obtain ⟨-, rfl, rfl⟩ := runsFrom_ret.1 hfound
      obtain ⟨-, rfl, rfl⟩ := runsFrom_ret.1 hret
      exact ⟨rfl, rfl⟩
    | ok listed =>
      obtain ⟨rfl, rfl⟩ := storeScanned_usb hfound
      match listed, hret with
      | [], hret =>
        obtain ⟨-, rfl, rfl⟩ := runsFrom_ret.1 hret
        exact ⟨rfl, rfl⟩
      | [x], hret =>
        obtain ⟨-, rfl, rfl⟩ := runsFrom_ret.1 hret
        exact ⟨rfl, rfl⟩
      | x :: y :: rest, hret =>
        obtain ⟨-, rfl, rfl⟩ := runsFrom_ret.1 hret
        exact ⟨rfl, rfl⟩
  · have hkey' : p.key ≠ "" := by
      rcases htarget with h | h
      · exact h
      · exact fun hempty => hkey ⟨hempty, h⟩
    rw [if_neg hkey] at h
    obtain ⟨-, rfl, rfl⟩ := runsFrom_ret.1 h
    rw [UpdateFirmwareParams.target, if_neg hkey', UpdateFirmwareParams.listed, if_neg hkey]
    exact ⟨rfl, rfl⟩

private theorem rememberUsbPort_stores {key : String} {u : Unit}
    (h : RunsFrom (Sem n) (rememberUsbPort p.mode key) s tr u s') :
    s' = s.store (if p.mode = .usb then [wiredCandidate .longFred .usb true key key] else []) := by
  unfold rememberUsbPort at h
  by_cases husb : p.mode = .usb
  · rw [if_pos husb] at h ⊢
    exact store_manual h
  · rw [if_neg husb] at h ⊢
    exact (runsFrom_ret.1 h).2.2

private theorem stores_of_targeted (h : ¬ (p.key = "" ∧ p.mode ≠ .usb)) :
    p.stores ports = ((if p.mode = .lan then p.host else none).toList.map fun host =>
        wiredCandidate .longFred .lan true host host) ++
      (((p.listed ports).map fun x => wiredCandidate .longFred .usb false x.path x.label) ++
        ((p.target ports).elim [] fun key =>
          if p.mode = .usb then [wiredCandidate .longFred .usb true key key] else [])) := by
  have hlisted (hmode : p.mode ≠ .usb) : p.listed ports = [] := if_neg fun husb => hmode husb.2
  have htarget (hmode : p.mode ≠ .usb) : p.target ports = some p.key := if_neg fun hempty => h ⟨hempty, hmode⟩
  unfold UpdateFirmwareParams.stores
  rcases hmode : p.mode
  · rw [hlisted (by simp [hmode]), htarget (by simp [hmode])]
    rfl
  · have hne : p.mode ≠ .usb := by simp [hmode]
    have hkey : p.key ≠ "" := fun hempty => h ⟨hempty, hne⟩
    rw [hlisted hne, htarget hne, if_pos rfl]
    simp [hkey]
  · rcases p.target ports <;> simp
  · rw [hlisted (by simp [hmode]), htarget (by simp [hmode])]
    rfl

private theorem dispatchUpdateFirmware_error {resp : Response}
    (h : RunsFrom (Sem n) (dispatchUpdateFirmware p) s tr resp s')
    (hports : ∀ r, (⟨.world .listUsbPorts, r⟩ : Event Op Op.Res) ∈ tr → r = ports) (herror : resp.error ≠ none) :
    Leaves (p.stores ports) (p.target ports ≠ none ∧ ∃ d, p.driver = some d ∧ d.supportsFirmwareUpdate) s s' := by
  unfold dispatchUpdateFirmware at h
  by_cases hnone : p.key = "" ∧ p.mode ≠ .usb
  · rw [if_pos hnone] at h
    obtain ⟨-, -, rfl⟩ := runsFrom_ret.1 h
    obtain ⟨hkey, hmode⟩ := hnone
    have hstores : p.stores ports = [] := by
      unfold UpdateFirmwareParams.stores
      rcases hm : p.mode
      · rfl
      · simp [hkey]
      · exact absurd hm hmode
      · rfl
    have htarget : p.target ports = none := by
      rw [UpdateFirmwareParams.target, if_pos hkey, UpdateFirmwareParams.listed, if_neg fun h => hmode h.2]
    rw [hstores, htarget]
    exact .nothing (by simp)
  · rw [if_neg hnone] at h
    obtain ⟨t₁, t₂, _, s₁, rfl, hlan, hrest⟩ := runsFrom_bind.1 h
    obtain rfl := rememberLanHost_stores hlan
    obtain ⟨t₃, t₄, answer, s₂, rfl, hkey, hrest⟩ := runsFrom_bind.1 hrest
    obtain ⟨htarget, rfl⟩ := firmwareKey_spec hkey (fun r hr => hports r (by simp [hr])) (by tauto)
    rw [stores_of_targeted hnone]
    refine .after (.after ?_)
    cases answer with
    | error refusal =>
      obtain ⟨-, -, rfl⟩ := runsFrom_ret.1 hrest
      rw [← htarget]
      exact .nothing fun hadm => hadm.1 rfl
    | ok key =>
      obtain ⟨t₅, t₆, _, s₃, rfl, husb, hsubmit⟩ := runsFrom_bind.1 hrest
      obtain rfl := rememberUsbPort_stores husb
      have hreached : (p.target ports ≠ none ∧ ∃ d, p.driver = some d ∧ d.supportsFirmwareUpdate) =
          ∃ d, p.driver = some d ∧ d.supportsFirmwareUpdate := by
        rw [← htarget]
        exact propext (and_iff_right (Option.some_ne_none key))
      rw [hreached, ← htarget, ← List.append_nil (Option.elim _ _ _)]
      exact .after (submitUpdate_error hsubmit herror)

end Key

private theorem dispatch_error {cfg : Config} {req : Request} {resp : Response} {ports : Except String (List UsbPort)}
    (hkind : req.kind = .program ∨ req.kind = .updateFirmware) (h : RunsFrom (Sem n) (dispatch cfg req) s tr resp s')
    (hports : ∀ r, (⟨.world .listUsbPorts, r⟩ : Event Op Op.Res) ∈ tr → r = ports) (herror : resp.error ≠ none) :
    Leaves (req.stores ports s.cache) (req.Admissible ports) s s' := by
  obtain ⟨kind, params⟩ := req
  -- a request with the parameters of another kind is refused at once
  rcases hkind with rfl | rfl
  · rcases params with _ | params
    · obtain ⟨-, -, rfl⟩ := runsFrom_ret.1 h
      exact .nothing id
    · cases params with
      | program candidate request => exact dispatchProgram_error h herror ports
      | _ =>
        obtain ⟨-, -, rfl⟩ := runsFrom_ret.1 h
        exact .nothing id
  · rcases params with _ | params
    · obtain ⟨-, -, rfl⟩ := runsFrom_ret.1 h
      exact .nothing id
    · cases params with
      | updateFirmware p => exact dispatchUpdateFirmware_error h hports herror
      | _ =>
        obtain ⟨-, -, rfl⟩ := runsFrom_ret.1 h
        exact .nothing id

/-! ### No trace -/

/-- The candidate cache, the slot and the jobs are as they were. -/
def Untouched (s s' : Shared) : Prop :=
  (∀ k, s'.cache.lookup k = s.cache.lookup k) ∧ s'.jobs.active = s.jobs.active ∧
    ∀ id, s'.jobs.lookup id = s.jobs.lookup id

/-- What a request stores is in the cache already, the last entry under each key; and if the request gets as far as the
slot, then the slot is taken, or the history is full of jobs that are not older than the request. -/
structure Anticipated (s : Shared) (stored : List CachedCandidate) (admissible : Prop) : Prop where
  cached (k : String × String) (c : CachedCandidate)
    (h : (stored.filter fun c => (c.driver, c.key) = k).getLast? = some c) : s.cache.lookup k = some c
  taken (h : admissible) : s.jobs.active ≠ none ∨ s.jobs.FullOfNew s.now

private theorem Leaves.untouched_iff {stored : List CachedCandidate} {admissible : Prop} (hd : s.jobs.Disciplined)
    (h : Leaves stored admissible s s') : Untouched s s' ↔ Anticipated s stored admissible := by
  have hcache : (∀ k, s'.cache.lookup k = s.cache.lookup k) ↔
      ∀ k c, (stored.filter fun c => (c.driver, c.key) = k).getLast? = some c → s.cache.lookup k = some c := by
    refine forall_congr' fun k => ?_
    rw [h.cache, CacheWrite.lookup_foldl_insert]
    generalize (stored.filter fun c => (c.driver, c.key) = k).getLast? = last
    cases last with
    | none => exact iff_of_true rfl nofun
    | some c =>
      constructor
      · rintro hsame _ ⟨⟩
        exact hsame.symm
      · exact fun hsame => (hsame c rfl).symm
  rcases h.jobs with ⟨hjobs, hadm⟩ | ⟨ha, hadm, driver, key, payload, detail, hjobs⟩
  · constructor
    · rintro ⟨hsame, -, -⟩
      exact ⟨hcache.1 hsame, fun h => .inl (hadm h)⟩
    · intro hant
      exact ⟨hcache.2 hant.cached, by rw [hjobs], fun id => by rw [hjobs]⟩
  · have hiff : (∀ id, (s.jobs.submitFailed s.now driver key payload detail).lookup id = s.jobs.lookup id) ↔
        s.jobs.FullOfNew s.now := JobRegistry.lookup_submitFailed_iff hd ha
    constructor
    · rintro ⟨hsame, -, hlookup⟩
      exact ⟨hcache.1 hsame, fun _ => .inr (hiff.1 fun id => by rw [← hjobs]; exact hlookup id)⟩
    · intro hant
      have hfull := (hant.taken hadm).resolve_left fun hne => hne ha
      refine ⟨hcache.2 hant.cached, ?_, fun id => by rw [hjobs]; exact hiff.2 hfull id⟩
      rw [hjobs, JobRegistry.submitFailed_active ha]

end Refusals

section Daemon

variable {cfg : Config} {now : Nat} {tr : List (Label Op Op.Res Tag)} {c c' : Effect.Config Op Op.Res Shared}
  {req : Request} {ports : Except String (List UsbPort)}

/-- From `c` to `c'` the daemon serves a request that starts a job, with no other step in between, and answers it with an
error; `ports` are the serial ports that it finds if it looks for them. -/
structure Refusal (cfg : Config) (req : Request) (ports : Except String (List UsbPort))
    (c c' : Effect.Config Op Op.Res Shared) : Prop where
  kind : req.kind = .program ∨ req.kind = .updateFirmware
  served : ∃ n events resp, Prog.Run (dispatch cfg req) events resp ∧ resp.error ≠ none ∧
    (∀ r, (⟨.world .listUsbPorts, r⟩ : Event Op Op.Res) ∈ events → r = ports) ∧
    Runs (daemon cfg) c (.spawn n (.request req) :: events.map (.act n)) c'

/-- In every reachable state, a refused request leaves no trace if and only if the cache has what it stores already, and
the slot is taken when it gets there. -/
theorem refusal_untouched_iff (h : Runs (daemon cfg) (.init (.init now)) tr c) (hr : Refusal cfg req ports c c') :
    Untouched c.shared c'.shared ↔
      Anticipated c.shared (req.stores ports c.shared.cache) (req.Admissible ports) := by
  obtain ⟨n, events, resp, hrun, herror, hports, hserved⟩ := hr.served
  obtain ⟨c₁, hspawn, hacts⟩ := runs_cons.1 hserved
  cases hspawn with
  | spawn hn hstart =>
    obtain ⟨-, rfl⟩ := hstart
    have hleaves := dispatch_error hr.kind (hacts.runsFrom hrun) hports herror
    exact hleaves.untouched_iff (reachable_slotInv h).1.disciplined

/-- A firmware update that names a WiFred at an address in the layout's network: WiFreds take no firmware. -/
private def wifredLan (mode : ReachMode) : Request :=
  ⟨.updateFirmware, some (.updateFirmware ⟨mode, some ⟨"wifred", "192.168.1.50"⟩, "wifred.bin", some "192.168.1.50", none,
    none⟩)⟩

private def wifredRefused : Response := errResponse .updateFirmware "driverError" JobError.firmwareUnsupported.text

private theorem wifredLan_inadmissible (mode : ReachMode) : ¬ (wifredLan mode).Admissible (.ok []) := by
  rintro ⟨-, d, hd, hfirmware⟩
  obtain rfl : d = .wiFred := (Option.some.inj hd).symm
  cases hfirmware

/-- What the request stores over the layout's network. -/
private def lanEntry : CachedCandidate := wiredCandidate .longFred .lan true "192.168.1.50" "192.168.1.50"

private theorem lan_refused (s : Shared) {pool : Nat → Option (DaemonM Unit)} {n : Nat} (hn : pool n = none) :
    Refusal .plain (wifredLan .lan) (.ok []) ⟨s, pool⟩ ⟨{ s with cache := CacheWrite.insert s.cache lanEntry },
      Function.update pool n (some (.ret ()))⟩ := by
  have hstored := Step.act (Function.update_self n (some (serve .plain (wifredLan .lan))) pool)
    (show (daemon .plain).sem n s (.store (.manual lanEntry)) () { s with cache := CacheWrite.insert s.cache lanEntry }
      from rfl)
  rw [Function.update_idem] at hstored
  exact ⟨.inr rfl, n, [⟨.store (.manual lanEntry), ()⟩], wifredRefused, .op (.ret _), Option.some_ne_none _, by simp,
    .cons (.spawn hn ⟨rfl, rfl⟩) (.cons hstored .refl)⟩

/-- Over the radio the request stores nothing; over the layout's network it leaves no trace the second time. -/
theorem wifred_untouched :
    (∃ c', Refusal .plain (wifredLan .ap) (.ok []) (.init (.init 0)) c' ∧ Untouched (.init 0) c'.shared) ∧
    ∃ tr c c', Runs (daemon .plain) (.init (.init 0)) tr c ∧ Refusal .plain (wifredLan .lan) (.ok []) c c' ∧
      c.shared.cache.lookup ("longfred", "192.168.1.50") ≠ none ∧ Untouched c.shared c'.shared := by
  constructor
  · have hr : Refusal .plain (wifredLan .ap) (.ok []) (.init (.init 0)) _ :=
      ⟨.inr rfl, 0, [], wifredRefused, .ret _, Option.some_ne_none _, nofun, .cons (.spawn rfl ⟨rfl, rfl⟩) .refl⟩
    exact ⟨_, hr, (refusal_untouched_iff .refl hr).2 ⟨nofun, fun h => absurd h (wifredLan_inadmissible .ap)⟩⟩
  · have hfirst : Refusal .plain (wifredLan .lan) (.ok []) (.init (.init 0)) _ := lan_refused (.init 0) (n := 0) rfl
    obtain ⟨n, events, resp, -, -, -, hrun⟩ := hfirst.served
    have hagain : Refusal .plain (wifredLan .lan) (.ok []) _ _ :=
      lan_refused { Shared.init 0 with cache := CacheWrite.insert ∅ lanEntry } (n := 1)
        (Function.update_of_ne Nat.one_ne_zero (some (.ret ())) fun _ => none)
    have hlookup : (CacheWrite.insert ∅ lanEntry).lookup ("longfred", "192.168.1.50") = some lanEntry :=
      AList.lookup_insert _
    refine ⟨_, _, _, hrun, hagain, Option.ne_none_iff_exists'.2 ⟨lanEntry, hlookup⟩,
      (refusal_untouched_iff hrun hagain).2 ⟨?_, ?_⟩⟩
    · intro k c hlast
      have hstored : ([lanEntry].filter fun c => (c.driver, c.key) = k).getLast? = some c := hlast
      obtain ⟨hc, hk⟩ := List.mem_filter.1 (List.mem_of_getLast? hstored)
      obtain rfl := List.mem_singleton.1 hc
      rw [← of_decide_eq_true hk]
      exact hlookup
    · exact fun h => absurd h (wifredLan_inadmissible .lan)

/-- Over the layout's network it leaves an entry for a LongFred behind. -/
theorem wifredLan_remembered : ¬ ∀ (cfg : Config) now tr c req ports c', Runs (daemon cfg) (.init (.init now)) tr c →
    Refusal cfg req ports c c' → Untouched c.shared c'.shared := by
  intro h
  have hr : Refusal .plain (wifredLan .lan) (.ok []) (.init (.init 0)) _ := lan_refused (.init 0) (n := 0) rfl
  have hsame := (h .plain 0 [] _ _ _ _ .refl hr).1 (Driver.longFred.idStr, "192.168.1.50")
  have hstored : (AList.insert (Driver.longFred.idStr, "192.168.1.50")
      (wiredCandidate .longFred .lan true "192.168.1.50" "192.168.1.50") (∅ : Cache)).lookup
        (Driver.longFred.idStr, "192.168.1.50") = none := hsame
  rw [AList.lookup_insert] at hstored
  cases hstored

end Daemon

end WirelessProgrammer
