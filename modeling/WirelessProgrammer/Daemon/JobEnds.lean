import WirelessProgrammer.Daemon.JobRecords

/-!
# Every accepted job ends

When `run_job` returns, its job has ended with one terminal frame, and the slot is free unless another job has been
accepted since.
-/

namespace WirelessProgrammer

open Effect

/-! ### The history of the registry -/

namespace JobRegistry

variable {r : JobRegistry} {id : String}

/-- How many jobs the registry remembers. -/
def size (r : JobRegistry) : Nat := r.jobs.keys.length

/-- A job is forgotten only by a registry that remembers enough others. -/
def Remembers (r : JobRegistry) (id : String) : Prop := r.lookup id = none → MAX_JOB_HISTORY ≤ r.size

private theorem size_le_put (r : JobRegistry) (id : String) (rec : JobRecord) : r.size ≤ (r.put id rec).size := by
  show r.jobs.keys.length ≤ (r.jobs.insert id rec).keys.length
  have := List.le_length_erase (l := r.jobs.keys) (a := id)
  rw [AList.keys_insert, List.length_cons]
  omega

private theorem size_foldl (l : List (String × Nat)) (jobs : AList fun _ : String => JobRecord) :
    jobs.keys.length ≤ (l.foldl (fun jobs e => jobs.erase e.1) jobs).keys.length + l.length := by
  induction l generalizing jobs with
  | nil => simp
  | cons e l ih =>
    have herase : jobs.keys.length ≤ (jobs.erase e.1).keys.length + 1 := by
      rw [AList.keys_erase]
      have := List.le_length_erase (l := jobs.keys) (a := e.1)
      omega
    have := ih (jobs.erase e.1)
    rw [List.foldl_cons, List.length_cons]
    omega

/-- Eviction leaves the registry alone, or with its full history. -/
theorem evictOldJobs_size (r : JobRegistry) : r.evictOldJobs = r ∨ MAX_JOB_HISTORY ≤ r.evictOldJobs.size := by
  unfold evictOldJobs
  split
  · exact .inl rfl
  · next hover =>
    right
    have hfold := size_foldl (r.evictable.take r.excess) r.jobs
    have htake : (r.evictable.take r.excess).length ≤ r.excess := List.length_take_le ..
    have hkeys : r.jobs.keys.length = r.jobs.entries.length := List.length_map ..
    have : r.excess = r.jobs.entries.length - MAX_JOB_HISTORY := rfl
    show MAX_JOB_HISTORY ≤ (List.foldl _ r.jobs _).keys.length
    omega

private theorem Remembers.put (h : r.Remembers id) (i : String) (rec : JobRecord) : (r.put i rec).Remembers id := by
  intro hnone
  have hne : id ≠ i := by
    rintro rfl
    rw [lookup_put_self] at hnone
    cases hnone
  rw [lookup_put_ne hne] at hnone
  exact (h hnone).trans (size_le_put r i rec)

private theorem Remembers.evict (h : r.Remembers id) : r.evictOldJobs.Remembers id := by
  rcases evictOldJobs_size r with heq | hsize
  · rwa [heq]
  · exact fun _ => hsize

private theorem Remembers.run (h : r.Remembers id) (now : Nat) (o : JobOp) : (o.run now r).2.Remembers id := by
  cases o with
  | submit driver key payload =>
    rcases ha : r.active with _ | active
    · show (r.submit now driver key payload).2.Remembers id
      rw [submit_free ha]
      exact h.put _ _
    · show (r.submit now driver key payload).2.Remembers id
      rwa [submit_busy ha]
  | takePayload i =>
    show (r.takePayload i).2.Remembers id
    unfold takePayload
    split
    · exact h.put _ _
    · exact h
  | transition i state =>
    show (r.transition i state _ _ _).Remembers id
    unfold transition
    split
    · exact h
    · split
      · refine Remembers.evict ?_
        exact h.put _ _
      · exact h.put _ _
  | cancel i =>
    show (r.cancel i).Remembers id
    unfold cancel
    split
    · exact h
    · exact h.put _ _
  | isBusy | isCancelled | snapshot => exact h

end JobRegistry

/-! ### Accepted jobs -/

/-- A job is accepted. -/
def Accepts : Event Op Op.Res → Prop
  | ⟨.jobs (.submit ..), .ok _⟩ => True
  | _ => False

/-- The job is moved to a terminal state. -/
def endsJob (id : String) : Event Op Op.Res → Bool
  | ⟨.jobs (.transition i state ..), _⟩ => i = id && state.isTerminal
  | _ => false

variable {s s' : Shared} {n : Nat} {id : String} {o : Op} {r : o.Res}

theorem act_accepts (h : Sem n s o r s') (ha : Accepts ⟨o, r⟩) :
    s'.jobs.seq = s.jobs.seq + 1 ∧ s'.jobs.active = some (jobName (s.jobs.seq + 1)) := by
  cases o with
  | jobs o =>
    cases o with
    | submit driver key payload =>
      obtain ⟨-, rfl, rfl⟩ := h
      show (s.jobs.submit s.now driver key payload).2.seq = _ ∧ (s.jobs.submit s.now driver key payload).2.active = _
      rcases hactive : s.jobs.active with _ | active
      · rw [JobRegistry.submit_free hactive]
        exact ⟨rfl, rfl⟩
      · have hbusy := JobRegistry.submit_busy hactive s.now driver key payload
        replace ha : Accepts ⟨.jobs (.submit driver key payload), (s.jobs.submit s.now driver key payload).1⟩ := ha
        rw [hbusy] at ha
        exact ha.elim
    | _ => exact ha.elim
  | _ => exact ha.elim

/-- Otherwise the slot can only be freed. -/
theorem act_slot (h : Sem n s o r s') (ha : ¬ Accepts ⟨o, r⟩) :
    s'.jobs.seq = s.jobs.seq ∧ (s'.jobs.active = s.jobs.active ∨ s'.jobs.active = none) := by
  cases o with
  | jobs o =>
    obtain ⟨-, rfl, rfl⟩ := h
    cases o with
    | submit driver key payload =>
      show (s.jobs.submit s.now driver key payload).2.seq = _ ∧ ((s.jobs.submit s.now driver key payload).2.active = _ ∨ _)
      rcases hactive : s.jobs.active with _ | active
      · have hfree := JobRegistry.submit_free hactive s.now driver key payload
        replace ha : ¬ Accepts ⟨.jobs (.submit driver key payload), (s.jobs.submit s.now driver key payload).1⟩ := ha
        rw [hfree] at ha
        exact absurd trivial ha
      · rw [JobRegistry.submit_busy hactive]
        exact ⟨rfl, .inl hactive⟩
    | takePayload => exact ⟨by show (s.jobs.takePayload _).2.seq = _; unfold JobRegistry.takePayload; split <;> rfl,
        .inl (JobRegistry.takePayload_active _ _)⟩
    | transition i state =>
      show (s.jobs.transition i state _ _ _).seq = _ ∧
        ((s.jobs.transition i state _ _ _).active = _ ∨ (s.jobs.transition i state _ _ _).active = none)
      unfold JobRegistry.transition
      split
      · exact ⟨rfl, .inl rfl⟩
      · split
        · exact ⟨JobRegistry.evictOldJobs_seq _, .inr (JobRegistry.evictOldJobs_active _)⟩
        · exact ⟨rfl, .inl rfl⟩
    | cancel => exact ⟨by show (s.jobs.cancel _).seq = _; unfold JobRegistry.cancel; split <;> rfl,
        .inl (JobRegistry.cancel_active _ _)⟩
    | isBusy | isCancelled | snapshot => exact ⟨rfl, .inl rfl⟩
  | send =>
    cases r with
    | ok => exact h.2 ▸ ⟨rfl, .inl rfl⟩
    | error => exact h ▸ ⟨rfl, .inl rfl⟩
  | cached | radioHeld | lock | unlock => exact h.2 ▸ ⟨rfl, .inl rfl⟩
  | store | recv | setHeld | radio | world => exact h ▸ ⟨rfl, .inl rfl⟩

/-! ### Rounds -/

section Next

variable {g : JobUse}

@[simp] theorem next_worker (g : JobUse) (o : Op) (r : o.Res) : (jobProtocol.next g o r).worker = g.worker := by
  cases o with
  | jobs o =>
    cases o with
    | takePayload => rcases r with _ | (_ | _) <;> rfl
    | _ => rfl
  | radio o => cases o <;> first | rfl | (cases r <;> rfl)
  | world o =>
    cases o with
    | spawnBlocking w => cases w <;> rfl
    | _ => rfl
  | _ => rfl

/-- The round owns its job until it ends it. -/
theorem next_owner (hw : g.worker = true) (hg : g.slot = .owner id) (ho : jobProtocol.allowed g o) :
    (jobProtocol.next g o r).slot = if endsJob id ⟨o, r⟩ then .ended id else .owner id := by
  cases o with
  | jobs o =>
    cases o with
    | submit => exact absurd (hg.symm.trans ho.1) nofun
    | transition i state =>
      obtain rfl : id = i := Slot.owner.inj (hg.symm.trans ho.1)
      show (if state.isTerminal then .ended id else g.slot) = if (decide (id = id) && state.isTerminal) = true then _ else _
      rw [decide_eq_true rfl, Bool.true_and, hg]
    | _ => exact hg
  | send => exact absurd (hw.symm.trans ho.2) nofun
  | _ => exact hg

theorem next_ended (hg : g.slot = .ended id) (ho : jobProtocol.allowed g o) :
    (jobProtocol.next g o r).slot = .ended id ∧ endsJob id ⟨o, r⟩ = false := by
  cases o with
  | jobs o =>
    cases o with
    | submit => exact absurd (hg.symm.trans ho.1) nofun
    | transition => exact absurd (hg.symm.trans ho.1) nofun
    | _ => exact ⟨hg, rfl⟩
  | send => exact absurd (hg.symm.trans ho.1) nofun
  | _ => exact ⟨hg, rfl⟩

end Next

/-- What is known of operation `n` since it has started as a round for job `id`; `since` are the steps since then. -/
structure Round (n : Nat) (id : String) (tr since : List (Label Op Op.Res Tag)) (s : Shared) : Prop where
  worker : (jobUse n tr).worker = true
  phase : (jobUse n tr).slot = .owner id ∧ (eventsOf n since).countP (endsJob id) = 0 ∨
    (jobUse n tr).slot = .ended id ∧ (eventsOf n since).countP (endsJob id) = 1
  returned (h : .act n ⟨.recv, ()⟩ ∈ since) : (jobUse n tr).slot = .ended id
  inactive (h : (jobUse n tr).slot = .ended id) : s.jobs.active ≠ some id
  known : ∃ k ≤ s.jobs.seq, id = jobName k
  remembered : s.jobs.Remembers id
  newest (h : ∀ m e, .act m e ∈ since → ¬ Accepts e) : id = jobName s.jobs.seq

/-- The job in the slot is the one accepted last, and every round of the worker is in order. -/
structure RoundsInv (tr : List (Label Op Op.Res Tag)) (s : Shared) : Prop where
  newest {id : String} (h : s.jobs.active = some id) : id = jobName s.jobs.seq
  round {n : Nat} {id : String} {t₁ t₂ : List (Label Op Op.Res Tag)} (h : tr = t₁ ++ .spawn n (.job id) :: t₂) :
    Round n id tr t₂ s

variable {tr since : List (Label Op Op.Res Tag)} {m : Nat}

namespace Round

private theorem remembered_act (h : s.jobs.Remembers id) (hsem : Sem n s o r s') : s'.jobs.Remembers id := by
  cases o with
  | jobs o => exact hsem.2.2 ▸ h.run s.now o
  | send =>
    cases r with
    | ok => exact hsem.2 ▸ h
    | error => exact hsem ▸ h
  | cached | radioHeld | lock | unlock => exact hsem.2 ▸ h
  | store | recv | setHeld | radio | world => exact hsem ▸ h

/-- What a step does to the slot as far as a job that has ended is concerned. -/
theorem inactive_act (hk : ∃ k ≤ s.jobs.seq, id = jobName k) (hne : s.jobs.active ≠ some id) (hsem : Sem n s o r s') :
    s'.jobs.active ≠ some id := by
  by_cases ha : Accepts ⟨o, r⟩
  · obtain ⟨k, hk, rfl⟩ := hk
    rw [(act_accepts hsem ha).2]
    intro heq
    have := jobName_injective (Option.some.inj heq)
    omega
  · rcases (act_slot hsem ha).2 with hsame | hnone
    · rwa [hsame]
    · rw [hnone]
      exact nofun

theorem known_act (hk : ∃ k ≤ s.jobs.seq, id = jobName k) (hsem : Sem n s o r s') :
    ∃ k ≤ s'.jobs.seq, id = jobName k := by
  obtain ⟨k, hk, rfl⟩ := hk
  refine ⟨k, hk.trans ?_, rfl⟩
  by_cases ha : Accepts ⟨o, r⟩
  · rw [(act_accepts hsem ha).1]
    exact Nat.le_succ _
  · exact (act_slot hsem ha).1.ge

private theorem newest_act (h : Round n id tr since s) (hsem : Sem m s o r s')
    (hall : ∀ m' e, .act m' e ∈ since ++ [.act m ⟨o, r⟩] → ¬ Accepts e) : id = jobName s'.jobs.seq := by
  rw [(act_slot hsem (hall m ⟨o, r⟩ (by simp))).1]
  exact h.newest fun m' e he => hall m' e (by simp [he])

/-- A step of another operation. -/
theorem other (h : Round n id tr since s) (hm : m ≠ n) (hsem : Sem m s o r s') :
    Round n id (tr ++ [.act m ⟨o, r⟩]) (since ++ [.act m ⟨o, r⟩]) s' := by
  have huse := jobUse_act_of_ne hm ⟨o, r⟩ tr
  refine ⟨huse ▸ h.worker, ?_, fun hret => ?_, fun hended => ?_, known_act h.known hsem, remembered_act h.remembered hsem,
    h.newest_act hsem⟩
  · rw [huse, eventsOf_act_of_ne hm]
    exact h.phase
  · rw [huse]
    refine h.returned ?_
    rcases List.mem_append.1 hret with hret | hret
    · exact hret
    · cases List.mem_singleton.1 hret
      exact absurd rfl hm
  · rw [huse] at hended
    exact inactive_act h.known (h.inactive hended) hsem

/-- The owner that ends its job frees the slot. -/
theorem act_ends {gs : Nat → Slot} (hS : SlotInv s gs) (hn : gs n = .owner id) (he : endsJob id ⟨o, r⟩ = true)
    (hsem : Sem n s o r s') : s'.jobs.active = none := by
  cases o with
  | jobs o =>
    cases o with
    | transition i state step progress detail =>
      obtain ⟨rfl, ht⟩ : i = id ∧ state.isTerminal = true := by simpa [endsJob] using he
      obtain ⟨-, -, rfl⟩ := hsem
      exact (JobRegistry.transition_active hS.disciplined (hS.owned hn) ..).trans (if_pos ht)
    | _ => cases he
  | _ => cases he

/-- A step of the round itself. -/
theorem self (h : Round n id tr since s) (hS : SlotInv s fun m => (jobUse m tr).slot)
    (ho : jobProtocol.allowed (jobUse n tr) o) (hsem : Sem n s o r s') :
    Round n id (tr ++ [.act n ⟨o, r⟩]) (since ++ [.act n ⟨o, r⟩]) s' := by
  have hcount : (eventsOf n (since ++ [.act n ⟨o, r⟩])).countP (endsJob id) =
      (eventsOf n since).countP (endsJob id) + if endsJob id ⟨o, r⟩ then 1 else 0 := by
    rw [eventsOf_act_self, List.countP_append, List.countP_singleton]
  have hended (hslot : (jobUse n tr).slot = .ended id) : (jobUse n (tr ++ [.act n ⟨o, r⟩])).slot = .ended id := by
    rw [jobUse_act_self]
    exact (next_ended hslot ho).1
  refine ⟨?_, ?_, fun hret => hended ?_, fun hslot' => ?_, known_act h.known hsem, remembered_act h.remembered hsem,
    h.newest_act hsem⟩
  · rw [jobUse_act_self, next_worker]
    exact h.worker
  · rw [hcount]
    rcases h.phase with ⟨hslot, hzero⟩ | ⟨hslot, hone⟩
    · have hnext := next_owner (r := r) h.worker hslot ho
      rw [jobUse_act_self, hnext, hzero]
      rcases endsJob id ⟨o, r⟩ with _ | _
      · exact .inl ⟨rfl, rfl⟩
      · exact .inr ⟨rfl, rfl⟩
    · rw [(next_ended (r := r) hslot ho).2, hone]
      exact .inr ⟨hended hslot, rfl⟩
  · rcases List.mem_append.1 hret with hret | hret
    · exact h.returned hret
    · -- the worker goes back to its channel only when the job has ended
      obtain rfl : o = .recv := by cases List.mem_singleton.1 hret; rfl
      rcases h.phase with ⟨hslot, -⟩ | ⟨hslot, -⟩
      · obtain ⟨id', hid'⟩ := ho.1
        exact absurd (hslot.symm.trans hid') nofun
      · exact hslot
  · rcases h.phase with ⟨hslot, -⟩ | ⟨hslot, -⟩
    · have hnext := next_owner (r := r) h.worker hslot ho
      rw [jobUse_act_self, hnext] at hslot'
      have hends : endsJob id ⟨o, r⟩ = true := by
        by_contra hends
        rw [if_neg hends] at hslot'
        cases hslot'
      rw [act_ends hS hslot hends hsem]
      exact nofun
    · exact inactive_act h.known (h.inactive hslot) hsem

end Round

private theorem RoundsInv.act (h : RoundsInv tr s) (hS : SlotInv s fun m => (jobUse m tr).slot)
    (ho : jobProtocol.allowed (jobUse n tr) o) (hsem : Sem n s o r s') : RoundsInv (tr ++ [.act n ⟨o, r⟩]) s' where
  newest {id} hactive := by
    by_cases ha : Accepts ⟨o, r⟩
    · rw [(act_accepts hsem ha).2] at hactive
      rw [(act_accepts hsem ha).1]
      exact (Option.some.inj hactive).symm
    · rw [(act_slot hsem ha).1]
      rcases (act_slot hsem ha).2 with hsame | hnone
      · exact h.newest (hsame ▸ hactive)
      · rw [hnone] at hactive
        cases hactive
  round {k id t₁ t₂} htr := by
    rcases concat_eq_append_cons.1 htr with ⟨-, heq, -⟩ | ⟨t₃, rfl, hbefore⟩
    · cases heq
    · by_cases hk : n = k
      · subst hk
        exact (h.round hbefore).self hS ho hsem
      · exact (h.round hbefore).other hk hsem

private theorem RoundsInv.spawn (h : RoundsInv tr s) (hS : SlotInv s fun m => (jobUse m tr).slot)
    (hn : jobUse n tr = .idle) {cfg : Config} {t : Tag} {p : DaemonM Unit} (hsp : Spawn cfg s t p s') :
    RoundsInv (tr ++ [.spawn n t]) s' := by
  have hjobs := spawn_jobs hsp
  refine ⟨fun hactive => ?_, fun {k id t₁ t₂} htr => ?_⟩
  · rw [hjobs] at hactive ⊢
    exact h.newest hactive
  rcases concat_eq_append_cons.1 htr with ⟨rfl, heq, rfl⟩ | ⟨t₃, rfl, hbefore⟩
  · -- the round begins: its job is the one in the slot
    cases heq
    obtain ⟨-, -, queue, hq, rfl⟩ := hsp
    have hactive : s.jobs.active = some id := hS.queued (by simp [hq])
    obtain ⟨rec, hrec, -⟩ := (hS.disciplined.active_iff id).1 hactive
    refine ⟨?_, .inl ⟨?_, rfl⟩, nofun, fun hslot => ?_, hS.disciplined.known hrec, fun hnone => ?_,
      fun _ => h.newest hactive⟩
    · rw [jobUse_spawn_self]
      rfl
    · rw [jobUse_spawn_self]
      rfl
    · rw [jobUse_spawn_self] at hslot
      cases hslot
    · exact absurd (hrec.symm.trans hnone) nofun
  · have hround := h.round hbefore
    have hne : n ≠ k := by
      rintro rfl
      have hworker := hround.worker
      rw [hn] at hworker
      cases hworker
    have huse := jobUse_spawn_of_ne hne t tr
    obtain ⟨hworker, hphase, hret, hinactive, hknown, hremembered, hnewest⟩ := hround
    refine ⟨huse ▸ hworker, ?_, fun hr => ?_, ?_, hjobs ▸ hknown, hjobs ▸ hremembered, fun hall => ?_⟩
    · rwa [huse, eventsOf_spawn]
    · rw [huse]
      exact hret (by simpa using hr)
    · rwa [huse, hjobs]
    · rw [hjobs]
      exact hnewest fun m e he => hall m e (by simp [he])

private theorem RoundsInv.env (h : RoundsInv tr s) (he : Env s s') : RoundsInv (tr ++ [.env]) s' := by
  obtain ⟨now, jobs, -, hperm, rfl⟩ := he
  refine ⟨h.newest, fun {k id t₁ t₂} htr => ?_⟩
  rcases concat_eq_append_cons.1 htr with ⟨-, heq, -⟩ | ⟨t₃, rfl, hbefore⟩
  · cases heq
  · obtain ⟨hworker, hphase, hret, hinactive, hknown, hremembered, hnewest⟩ := h.round hbefore
    have huse := jobUse_env k tr
    refine ⟨huse ▸ hworker, ?_, fun hr => ?_, ?_, hknown, fun hnone => ?_, fun hall => ?_⟩
    · rwa [huse, eventsOf_env]
    · rw [huse]
      exact hret (by simpa using hr)
    · rwa [huse]
    · rw [JobRegistry.lookup_perm hperm] at hnone
      have hsize : jobs.keys.length = s.jobs.jobs.keys.length := by
        simpa [AList.keys, List.keys] using hperm.length_eq
      have := hremembered hnone
      show MAX_JOB_HISTORY ≤ jobs.keys.length
      rwa [hsize]
    · exact hnewest fun m e he => hall m e (by simp [he])

/-! ### Runs -/

variable {cfg : Config} {now : Nat} {c : Effect.Config Op Op.Res Shared}

/-- An operation that has not started has done nothing for a job. -/
theorem unstarted_idle (h : Runs (daemon cfg) (.init (.init now)) tr c) (hn : c.pool n = none) :
    jobUse n tr = .idle := by
  have htracked := (reachable_slotInv h).2 n
  rwa [hn] at htracked

theorem reachable_roundsInv (h : Runs (daemon cfg) (.init (.init now)) tr c) : RoundsInv tr c.shared :=
  daemon_invariant RoundsInv
    (fun _ _ n _ _ _ hrun hI hn hsp => hI.spawn (reachable_slotInv hrun).1 (unstarted_idle hrun hn) hsp)
    (fun _ _ _ _ _ _ hrun hI ho _ hsem => hI.act (reachable_slotInv hrun).1 ho hsem) (fun _ _ _ hI he => hI.env he)
    ⟨nofun, fun htr => by simp at htr⟩ h

/-- Whatever an accepted job is, whatever it meets and whenever it is cancelled: when `run_job` has returned, the job does
not hold the slot, and the slot is free unless another job has been accepted since; the round has moved its job to a
terminal state once; the job's record is in that state with one terminal frame, its last, and it is still there unless the
registry remembers as many other jobs as it may. -/
theorem accepted_job_ends {t₁ t₂ : List (Label Op Op.Res Tag)}
    (h : Runs (daemon cfg) (.init (.init now)) (t₁ ++ .spawn n (.job id) :: t₂) c) (hret : .act n ⟨.recv, ()⟩ ∈ t₂) :
    c.shared.jobs.active ≠ some id ∧
    ((∀ m e, .act m e ∈ t₂ → ¬ Accepts e) → c.shared.jobs.active = none) ∧
    (eventsOf n t₂).countP (endsJob id) = 1 ∧
    (∀ rec, c.shared.jobs.lookup id = some rec → rec.snapshot.state.isTerminal = true ∧
      ∃ fs f, rec.frames = fs ++ [f] ∧ f.state = rec.snapshot.state ∧ ∀ f' ∈ fs, f'.state.isTerminal = false) ∧
    (c.shared.jobs.lookup id = none → MAX_JOB_HISTORY ≤ c.shared.jobs.size) := by
  have hI := reachable_roundsInv h
  obtain ⟨hS, -⟩ := reachable_slotInv h
  have hround := hI.round rfl
  have hslot := hround.returned hret
  have hinactive := hround.inactive hslot
  refine ⟨hinactive, fun hall => ?_, ?_, fun rec hrec => ?_, hround.remembered⟩
  · rcases hactive : c.shared.jobs.active with _ | active
    · rfl
    · have heq : active = id := (hI.newest hactive).trans (hround.newest hall).symm
      exact absurd (hactive.trans (congrArg some heq)) hinactive
  · rcases hround.phase with ⟨howner, -⟩ | ⟨-, hone⟩
    · exact absurd (hslot.symm.trans howner) nofun
    · exact hone
  · have ht : rec.snapshot.state.isTerminal = true := by
      by_contra ht
      exact hinactive ((hS.disciplined.active_iff id).2 ⟨rec, hrec, Bool.not_eq_true _ ▸ ht⟩)
    exact ⟨ht, (reachable_wellFramed h hrec).ended ht⟩

/-- A job is accepted, handed to the worker, and cancelled before the worker takes it. -/
private def cancelledBeforeStart : List (Label Op Op.Res Tag) :=
  [.spawn 0 (.request (usbRequest "ttyUSB0")),
    .act 0 ⟨.store (.manual (wiredCandidate .longFred .usb true "ttyUSB0" "ttyUSB0")), ()⟩,
    .act 0 ⟨.jobs (.submit "longfred" "ttyUSB0" (some (.firmware ⟨.usb, "longfred.elf", none, some "ttyUSB0", none⟩))),
      .ok "job-1"⟩,
    .act 0 ⟨.send "job-1", .ok ()⟩, .spawn 1 (.request ⟨.jobCancel, some (.job "job-1")⟩),
    .act 1 ⟨.jobs (.cancel "job-1"), ()⟩]

/-- The worker reports it as cancelled. -/
private def cancelledRound : List (Label Op Op.Res Tag) :=
  [.act 2 ⟨.jobs (.isCancelled "job-1"), true⟩,
    .act 2 ⟨.jobs (.snapshot "job-1"), some ⟨"job-1", .queued, "longfred", "ttyUSB0", some "cancel requested", 0⟩⟩,
    .act 2 ⟨.jobs (.transition "job-1" .cancelled none none (some "cancelled")), ()⟩, .act 2 ⟨.recv, ()⟩]

theorem cancelled_job_ends : ∃ c, Runs (daemon .plain) (.init (.init 0))
    (cancelledBeforeStart ++ .spawn 2 (.job "job-1") :: cancelledRound) c ∧ c.shared.jobs.active = none ∧
    (eventsOf 2 cancelledRound).countP (endsJob "job-1") = 1 := by
  have hrun : ∃ c, Runs (daemon .plain) (.init (.init 0))
      (cancelledBeforeStart ++ .spawn 2 (.job "job-1") :: cancelledRound) c := by
    refine ⟨_, .cons (.spawn rfl ⟨rfl, rfl⟩) <| .cons (.act rfl rfl) <| .cons (.act rfl ⟨?_, rfl, rfl⟩) <|
      .cons (.act rfl ⟨?_, rfl⟩) <| .cons (.spawn rfl ⟨rfl, rfl⟩) <| .cons (.act rfl ⟨trivial, rfl, rfl⟩) <|
      .cons (.spawn rfl ⟨rfl, rfl, _, rfl, rfl⟩) <| .cons (.act rfl ⟨trivial, rfl, rfl⟩) <|
      .cons (.act rfl ⟨trivial, rfl, rfl⟩) <| .cons (.act rfl ⟨trivial, rfl, rfl⟩) <| .cons (.act rfl rfl) .refl⟩
    · show 0 + 1 < 2 ^ 64
      omega
    · decide
  obtain ⟨c, hrun⟩ := hrun
  obtain ⟨-, hfree, hone, -⟩ := accepted_job_ends hrun (by simp [cancelledRound])
  refine ⟨c, hrun, hfree fun m e he ha => ?_, hone⟩
  simp only [cancelledRound, List.mem_cons, List.not_mem_nil, or_false] at he
  rcases he with heq | heq | heq | heq <;> cases heq <;> exact ha

end WirelessProgrammer
