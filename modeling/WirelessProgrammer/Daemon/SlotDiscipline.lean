import WirelessProgrammer.Daemon.JobDiscipline
import WirelessProgrammer.Daemon.SlotRequests
import WirelessProgrammer.Daemon.WorkerRounds

/-!
# The job slot over whole runs

The registry's discipline holds in every state the daemon can reach.  The invariant adds who owns the job in the slot: one
operation at most, and none while the job waits in the worker's channel.
-/

namespace WirelessProgrammer

open Effect

/-- The registry, the channel, and what the operations own. -/
structure SlotInv (s : Shared) (gs : Nat → Slot) : Prop where
  disciplined : s.jobs.Disciplined
  owned {n : Nat} {id : String} (h : gs n = .owner id) : s.jobs.active = some id
  unique {m n : Nat} {id id' : String} (hm : gs m = .owner id) (hn : gs n = .owner id') : m = n
  queued {id : String} (h : id ∈ s.queue) : s.jobs.active = some id
  queue_length : s.queue.length ≤ 1
  owner_queue {n : Nat} {id : String} (h : gs n = .owner id) : s.queue = []

namespace SlotInv

variable {s s' : Shared} {gs : Nat → Slot} {n : Nat} {id : String}

private theorem init (now : Nat) : SlotInv (.init now) fun _ => .free where
  disciplined := .new
  owned := nofun
  unique := nofun
  queued := nofun
  queue_length := Nat.zero_le _
  owner_queue := nofun

/-- Nothing changes but records of jobs. -/
theorem frame (h : SlotInv s gs) (hd : s'.jobs.Disciplined) (ha : s'.jobs.active = s.jobs.active)
    (hq : s'.queue = s.queue) : SlotInv s' gs where
  disciplined := hd
  owned hn := ha ▸ h.owned hn
  unique := h.unique
  queued hid := ha ▸ h.queued (hq ▸ hid)
  queue_length := hq ▸ h.queue_length
  owner_queue hn := hq ▸ h.owner_queue hn

/-- An operation gives its job away, or has never had one. -/
theorem update_free (h : SlotInv s gs) {g : Slot} (hg : ∀ id, g ≠ .owner id) : SlotInv s (Function.update gs n g) := by
  have hold : ∀ {m id}, Function.update gs n g m = .owner id → gs m = .owner id := by
    intro m id hm
    by_cases hmn : m = n
    · subst hmn
      rw [Function.update_self] at hm
      exact absurd hm (hg id)
    · rwa [Function.update_of_ne hmn] at hm
  exact ⟨h.disciplined, fun hm => h.owned (hold hm), fun hm hm' => h.unique (hold hm) (hold hm'), h.queued,
    h.queue_length, fun hm => h.owner_queue (hold hm)⟩

/-- An operation becomes the owner of the job in the slot when nobody has it. -/
theorem update_owner (h : SlotInv s gs) (hnone : ∀ m id, gs m ≠ .owner id) (ha : s.jobs.active = some id)
    (hq : s.queue = []) : SlotInv s (Function.update gs n (.owner id)) := by
  have honly : ∀ {m id'}, Function.update gs n (.owner id) m = .owner id' → m = n ∧ id' = id := by
    intro m id' hm
    by_cases hmn : m = n
    · subst hmn
      rw [Function.update_self] at hm
      exact ⟨rfl, (Slot.owner.inj hm).symm⟩
    · rw [Function.update_of_ne hmn] at hm
      exact absurd hm (hnone m id')
  refine ⟨h.disciplined, fun hm => ?_, fun hm hm' => (honly hm).1.trans (honly hm').1.symm, h.queued, h.queue_length,
    fun _ => hq⟩
  rw [(honly hm).2, ha]

/-- While the slot is free nobody owns a job and none is queued. -/
theorem of_inactive (h : SlotInv s gs) (ha : s.jobs.active = none) :
    (∀ m id, gs m ≠ .owner id) ∧ s.queue = [] := by
  refine ⟨fun m id hm => ?_, List.eq_nil_iff_forall_not_mem.2 fun id hid => ?_⟩
  · have := h.owned hm
    rw [ha] at this
    cases this
  · have := h.queued hid
    rw [ha] at this
    cases this

/-- When the owner gives its job away, nobody owns one. -/
theorem no_owner (h : SlotInv s gs) (hn : gs n = .owner id) {g : Slot} (hg : ∀ id, g ≠ .owner id) (m : Nat)
    (id' : String) : Function.update gs n g m ≠ .owner id' := by
  intro hm
  by_cases hmn : m = n
  · subst hmn
    rw [Function.update_self] at hm
    exact hg id' hm
  · rw [Function.update_of_ne hmn] at hm
    exact hmn (h.unique hm hn)

/-- The owner sees its job, and the job has not ended. -/
theorem snapshot (h : SlotInv s gs) (hn : gs n = .owner id) :
    ∃ snap, s.jobs.snapshot id = some snap ∧ snap.state.isTerminal = false := by
  obtain ⟨rec, hrec, ht⟩ := (h.disciplined.active_iff id).1 (h.owned hn)
  exact ⟨rec.snapshot, by rw [JobRegistry.snapshot, hrec, Option.map_some], ht⟩

/-! ### Steps -/

/-- A job enters the slot. -/
theorem submit (h : SlotInv s gs) (hn : gs n = .free) (driver key : String) (payload : Option JobPayload) :
    SlotInv { s with jobs := (s.jobs.submit s.now driver key payload).2 } (Function.update gs n
      (slotProtocol.next (gs n) (.jobs (.submit driver key payload)) (s.jobs.submit s.now driver key payload).1)) := by
  have hd := h.disciplined.submit s.now driver key payload
  rcases ha : s.jobs.active with _ | active
  · obtain ⟨hnone, hq⟩ := h.of_inactive ha
    rw [JobRegistry.submit_free ha] at hd ⊢
    have hs : SlotInv { s with jobs := { s.jobs.put (jobName (s.jobs.seq + 1))
        (JobRegistry.queuedRecord s.now driver key payload (jobName (s.jobs.seq + 1))) with
          active := some (jobName (s.jobs.seq + 1)), seq := s.jobs.seq + 1 } } gs :=
      ⟨hd, fun hm => absurd hm (hnone _ _), fun hm => absurd hm (hnone _ _), fun hid => by simp [hq] at hid,
        h.queue_length, fun _ => hq⟩
    exact hs.update_owner hnone rfl hq
  · rw [JobRegistry.submit_busy ha]
    exact h.update_free (hn ▸ nofun)

/-- The owner moves its job to another state. -/
theorem transition (h : SlotInv s gs) (hn : gs n = .owner id) (state : JobState) (step : Option String)
    (progress : Option UInt8) (detail : Option String) :
    SlotInv { s with jobs := s.jobs.transition id state step progress detail } (Function.update gs n
      (slotProtocol.next (gs n) (.jobs (.transition id state step progress detail)) ())) := by
  have hd := h.disciplined.transition (h.owned hn) state step progress detail
  have ha := JobRegistry.transition_active h.disciplined (h.owned hn) state step progress detail
  show SlotInv _ (Function.update gs n (if state.isTerminal then .ended id else gs n))
  rcases hs : state.isTerminal with _ | _
  · rw [if_neg (by simp), Function.update_eq_self]
    rw [if_neg (by simp [hs])] at ha
    exact h.frame hd ha rfl
  · -- the owner was the only one, and the channel is empty as long as there is one
    rw [if_pos rfl]
    rw [if_pos hs] at ha
    have hothers := h.no_owner hn (g := .ended id) nofun
    exact ⟨hd, fun hm => absurd hm (hothers _ _), fun hm => absurd hm (hothers _ _),
      fun hid => by simp [h.owner_queue hn] at hid, h.queue_length, fun _ => h.owner_queue hn⟩

/-- The owner hands its job to the worker. -/
theorem send (h : SlotInv s gs) (hn : gs n = .owner id) :
    SlotInv { s with queue := s.queue ++ [id] } (Function.update gs n .free) := by
  have hq := h.owner_queue hn
  have hothers := h.no_owner hn (g := .free) nofun
  refine ⟨h.disciplined, fun hm => absurd hm (hothers _ _), fun hm => absurd hm (hothers _ _), fun {i} hi => ?_, ?_,
    fun hm => absurd hm (hothers _ _)⟩
  · have : i = id := by simpa [hq] using hi
    rw [this]
    exact h.owned hn
  · simp [hq]

/-- The worker takes the job from its channel. -/
theorem take {queue : List String} (h : SlotInv s gs) (hq : s.queue = id :: queue) :
    SlotInv { s with queue := queue, working := true } (Function.update gs n (.owner id)) := by
  have hempty : queue = [] := by
    have := h.queue_length
    rw [hq] at this
    exact List.eq_nil_of_length_eq_zero (by simpa using this)
  have hnone : ∀ m id', gs m ≠ .owner id' := fun m id' hm => by simp [h.owner_queue hm] at hq
  have hs : SlotInv { s with queue := queue, working := true } gs :=
    ⟨h.disciplined, h.owned, h.unique, fun hid => by simp [hempty] at hid, by simp [hempty], fun _ => hempty⟩
  exact hs.update_owner hnone (h.queued (by simp [hq])) hempty

/-- A step of the registry that keeps the slot. -/
theorem jobs (h : SlotInv s gs) {r : JobRegistry} (hd : r.Disciplined) (ha : r.active = s.jobs.active) :
    SlotInv { s with jobs := r } (Function.update gs n (gs n)) := by
  rw [Function.update_eq_self]
  exact h.frame hd ha rfl

/-- A step that has nothing to do with the slot. -/
theorem other (h : SlotInv s gs) (hj : s'.jobs = s.jobs) (hq : s'.queue = s.queue) :
    SlotInv s' (Function.update gs n (gs n)) := by
  rw [Function.update_eq_self]
  exact h.frame (hj ▸ h.disciplined) (hj ▸ rfl) hq

/-- What one operation performs, the others unchanged. -/
theorem act (h : SlotInv s gs) {o : Op} {r : o.Res} (ho : slotProtocol.allowed (gs n) o) (hsem : Sem n s o r s') :
    slotProtocol.answers (gs n) o r ∧ SlotInv s' (Function.update gs n (slotProtocol.next (gs n) o r)) := by
  cases o with
  | jobs o =>
    obtain ⟨-, rfl, rfl⟩ := hsem
    cases o with
    | submit => exact ⟨trivial, h.submit ho ..⟩
    | takePayload => exact ⟨trivial, h.jobs (h.disciplined.takePayload _) (JobRegistry.takePayload_active _ _)⟩
    | isBusy => exact ⟨trivial, h.jobs h.disciplined rfl⟩
    | transition => exact ⟨trivial, h.transition ho ..⟩
    | cancel => exact ⟨trivial, h.jobs (h.disciplined.cancel _) (JobRegistry.cancel_active _ _)⟩
    | isCancelled => exact ⟨trivial, h.jobs h.disciplined rfl⟩
    | snapshot => exact ⟨fun hn => h.snapshot hn, h.jobs h.disciplined rfl⟩
  | cached => exact ⟨trivial, h.other (hsem.2 ▸ rfl) (hsem.2 ▸ rfl)⟩
  | store => exact ⟨trivial, h.other (hsem ▸ rfl) (hsem ▸ rfl)⟩
  | send id =>
    cases r with
    | ok => exact ⟨trivial, hsem.2 ▸ h.send ho⟩
    | error => exact ⟨trivial, h.other (hsem ▸ rfl) (hsem ▸ rfl)⟩
  | recv => exact ⟨trivial, h.other (hsem ▸ rfl) (hsem ▸ rfl)⟩
  | radioHeld => exact ⟨trivial, h.other (hsem.2 ▸ rfl) (hsem.2 ▸ rfl)⟩
  | setHeld => exact ⟨trivial, h.other (hsem ▸ rfl) (hsem ▸ rfl)⟩
  | lock => exact ⟨trivial, h.other (hsem.2 ▸ rfl) (hsem.2 ▸ rfl)⟩
  | unlock => exact ⟨trivial, h.other (hsem.2 ▸ rfl) (hsem.2 ▸ rfl)⟩
  | radio => exact ⟨trivial, h.other (hsem ▸ rfl) (hsem ▸ rfl)⟩
  | world => exact ⟨trivial, h.other (hsem ▸ rfl) (hsem ▸ rfl)⟩

private theorem spawn (h : SlotInv s gs) {cfg : Config} {t : Tag} {p : DaemonM Unit} (hsp : Spawn cfg s t p s') :
    SlotInv s' (Function.update gs n (JobUse.start t).slot) := by
  cases t with
  | request req =>
    obtain ⟨-, rfl⟩ := hsp
    exact h.update_free nofun
  | job id =>
    obtain ⟨-, -, queue, hq, rfl⟩ := hsp
    exact h.take hq

private theorem env (h : SlotInv s gs) (he : Env s s') : SlotInv s' gs := by
  obtain ⟨now, jobs, -, hperm, rfl⟩ := he
  have hlookup := JobRegistry.lookup_perm hperm s.jobs.active s.jobs.seq
  exact h.frame (h.disciplined.of_lookup rfl rfl hlookup) rfl rfl

end SlotInv

/-! ### Runs -/

/-- What operation `n` has done for its job so far. -/
def jobUse (n : Nat) (tr : List (Label Op Op.Res Tag)) : JobUse := stateOf jobProtocol .idle .start n tr

private theorem spawn_follows {cfg : Config} {s s' : Shared} {t : Tag} {p : DaemonM Unit} (h : Spawn cfg s t p s') :
    p.Follows jobProtocol (fun _ _ => True) (.start t) := by
  cases t with
  | request req => exact h.1 ▸ serve_follows cfg ⟨rfl, rfl⟩ req
  | job id => exact h.2.1 ▸ workerRound_follows cfg id

variable {cfg : Config} {now : Nat} {tr : List (Label Op Op.Res Tag)} {c : Effect.Config Op Op.Res Shared}

@[simp] theorem jobUse_act_self (n : Nat) (e : Event Op Op.Res) (tr : List (Label Op Op.Res Tag)) :
    jobUse n (tr ++ [.act n e]) = jobProtocol.next (jobUse n tr) e.1 e.2 := by
  rw [jobUse, stateOf_act_self]; rfl

theorem jobUse_act_of_ne {m n : Nat} (h : m ≠ n) (e : Event Op Op.Res) (tr : List (Label Op Op.Res Tag)) :
    jobUse n (tr ++ [.act m e]) = jobUse n tr := by
  rw [jobUse, stateOf_act_of_ne h]; rfl

@[simp] theorem jobUse_spawn_self (n : Nat) (t : Tag) (tr : List (Label Op Op.Res Tag)) :
    jobUse n (tr ++ [.spawn n t]) = .start t := by
  rw [jobUse, stateOf_spawn_self]

theorem jobUse_spawn_of_ne {m n : Nat} (h : m ≠ n) (t : Tag) (tr : List (Label Op Op.Res Tag)) :
    jobUse n (tr ++ [.spawn m t]) = jobUse n tr := by
  rw [jobUse, stateOf_spawn_of_ne h]; rfl

@[simp] theorem jobUse_env (n : Nat) (tr : List (Label Op Op.Res Tag)) :
    jobUse n (tr ++ [.env]) = jobUse n tr := by
  rw [jobUse, stateOf_env]; rfl

/-- What the operations have to do with the slot after a step of operation `n`. -/
theorem slots_update {n : Nat} {tr : List (Label Op Op.Res Tag)} {l : Label Op Op.Res Tag} {g : Slot}
    (hn : (jobUse n (tr ++ [l])).slot = g) (hother : ∀ m, n ≠ m → jobUse m (tr ++ [l]) = jobUse m tr) :
    (fun m => (jobUse m (tr ++ [l])).slot) = Function.update (fun m => (jobUse m tr).slot) n g := by
  funext m
  by_cases hm : n = m
  · subst hm
    rw [Function.update_self, hn]
  · rw [Function.update_of_ne (Ne.symm hm), hother m hm]

/-- The slot is in order in every reachable state, and every operation follows the protocol of its job. -/
theorem reachable_slotInv (h : Runs (daemon cfg) (.init (.init now)) tr c) :
    SlotInv c.shared (fun m => (jobUse m tr).slot) ∧ ∀ n, Tracked jobProtocol .idle (c.pool n) (jobUse n tr) := by
  refine h.invariant_stateOf jobProtocol .idle JobUse.start (fun tr s => SlotInv s fun m => (jobUse m tr).slot)
    ?_ ?_ ?_ (.init now)
  · rintro tr s n t p s' hS - - hsp
    refine ⟨?_, spawn_follows hsp⟩
    rw [slots_update (n := n) (by rw [jobUse_spawn_self]) fun m hm => jobUse_spawn_of_ne hm t tr]
    exact hS.spawn hsp
  · intro tr s n o r s' hS ho _ hsem
    obtain ⟨ha, hS'⟩ := hS.act ho.1 hsem
    refine ⟨ha, ?_⟩
    rw [slots_update (n := n) (by rw [jobUse_act_self]) fun m hm => jobUse_act_of_ne hm ⟨o, r⟩ tr]
    exact hS'
  · intro tr s s' hS he
    simp only [jobUse_env]
    exact hS.env he

/-- The invariant rule of the daemon: a step is taken in a state that can be reached, and an operation performs only what
the protocol of its job allows. -/
theorem daemon_invariant {C : List (Label Op Op.Res Tag) → Label Op Op.Res Tag → Prop}
    (I : List (Label Op Op.Res Tag) → Shared → Prop)
    (hspawn : ∀ tr c n t p s', Runs (daemon cfg) (.init (.init now)) tr c → I tr c.shared → c.pool n = none →
      Spawn cfg c.shared t p s' → I (tr ++ [.spawn n t]) s')
    (hact : ∀ tr c n o r s', Runs (daemon cfg) (.init (.init now)) tr c → I tr c.shared →
      jobProtocol.allowed (jobUse n tr) o → C tr (.act n ⟨o, r⟩) → Sem n c.shared o r s' →
      I (tr ++ [.act n ⟨o, r⟩]) s')
    (henv : ∀ tr s s', I tr s → Env s s' → I (tr ++ [.env]) s') (h₀ : I [] (.init now))
    (h : Steps (daemon cfg) C (.init (.init now)) tr c) : I tr c.shared := by
  induction h with
  | refl => exact h₀
  | @snoc tr c c' l hbefore hC hs ih =>
    have hrun : Runs (daemon cfg) (.init (.init now)) tr c := hbefore.mono fun _ _ _ => trivial
    cases hs with
    | spawn hn hsp => exact hspawn _ _ _ _ _ _ hrun ih hn hsp
    | @act s s' pool n o r k hn hsem =>
      have hop : Tracked jobProtocol .idle (some (.op o k)) (jobUse n tr) := hn ▸ (reachable_slotInv hrun).2 n
      exact hact _ _ _ _ _ _ hrun ih hop.allowed hC hsem
    | env he => exact henv _ _ _ ih he

/-- What an operation does to the registry leaves the jobs that have ended alone. -/
theorem act_later {s s' : Shared} {gs : Nat → Slot} {n : Nat} (h : SlotInv s gs) {o : Op} {r : o.Res}
    (ho : slotProtocol.allowed (gs n) o) (hsem : Sem n s o r s') : s.jobs.Later s'.jobs := by
  cases o with
  | jobs o =>
    obtain ⟨-, rfl, rfl⟩ := hsem
    cases o with
    | submit => exact .submit h.disciplined ..
    | takePayload => exact .takePayload ..
    | transition => exact .transition h.disciplined (h.owned ho) ..
    | cancel => exact .cancel ..
    | _ => exact .refl _
  | send id =>
    cases r with
    | ok => exact hsem.2 ▸ .refl _
    | error => exact hsem ▸ .refl _
  | cached | radioHeld | lock | unlock => exact hsem.2 ▸ .refl _
  | store | recv | setHeld | radio | world => exact hsem ▸ .refl _

theorem step_later (h : Runs (daemon cfg) (.init (.init now)) tr c) {l : Label Op Op.Res Tag}
    {c' : Effect.Config Op Op.Res Shared} (hs : Step (daemon cfg) c l c') : c.shared.jobs.Later c'.shared.jobs := by
  obtain ⟨hI, hT⟩ := reachable_slotInv h
  cases hs with
  | @spawn s s' pool n t p hn hsp =>
    cases t with
    | request req => exact hsp.2 ▸ .refl _
    | job id =>
      obtain ⟨-, -, queue, -, rfl⟩ := hsp
      exact .refl _
  | @act s s' pool n o r k hn hsem =>
    have hop : Tracked jobProtocol .idle (some (.op o k)) (jobUse n tr) := hn ▸ hT n
    exact act_later hI hop.allowed.1 hsem
  | env he =>
    obtain ⟨now, jobs, -, hperm, rfl⟩ := he
    exact .of_lookup rfl (JobRegistry.lookup_perm hperm _ _)

theorem runs_later (h : Runs (daemon cfg) (.init (.init now)) tr c) {tr' : List (Label Op Op.Res Tag)}
    {c' : Effect.Config Op Op.Res Shared} (h' : Runs (daemon cfg) c tr' c') :
    c.shared.jobs.Later c'.shared.jobs := by
  obtain ⟨hI, -⟩ := reachable_slotInv h
  induction h' with
  | refl => exact .refl _
  | snoc hbefore _ hs ih => exact ih.trans hI.disciplined (step_later (h.trans hbefore) hs)

/-- In every state the daemon can reach at most one job has not ended, and it is the one in the slot; a job that has ended
is evicted at some time or stays as it is; a cancel request changes neither a job's state nor the slot. -/
theorem slot_discipline (h : Runs (daemon cfg) (.init (.init now)) tr c) :
    (∀ id id' rec rec', c.shared.jobs.lookup id = some rec → rec.snapshot.state.isTerminal = false →
      c.shared.jobs.lookup id' = some rec' → rec'.snapshot.state.isTerminal = false → id = id') ∧
    (∀ id, c.shared.jobs.active = some id ↔
      ∃ rec, c.shared.jobs.lookup id = some rec ∧ rec.snapshot.state.isTerminal = false) ∧
    (∀ tr' c', Runs (daemon cfg) c tr' c' → ∀ id rec, c.shared.jobs.lookup id = some rec →
      rec.snapshot.state.isTerminal = true → c'.shared.jobs.lookup id = none ∨
        ∃ rec', c'.shared.jobs.lookup id = some rec' ∧ rec'.snapshot.state = rec.snapshot.state ∧
          rec'.frames = rec.frames) ∧
    (∀ n id r c', Step (daemon cfg) c (.act n ⟨.jobs (.cancel id), r⟩) c' →
      c'.shared.jobs.active = c.shared.jobs.active ∧ ∀ id', (c'.shared.jobs.lookup id').map (·.snapshot.state) =
        (c.shared.jobs.lookup id').map (·.snapshot.state)) := by
  obtain ⟨hI, -⟩ := reachable_slotInv h
  refine ⟨fun id id' rec rec' hrec ht hrec' ht' => hI.disciplined.unique hrec ht hrec' ht', hI.disciplined.active_iff,
    fun tr' c' h' id rec hrec ht => (runs_later h h').ended hrec ht, fun n id r c' hs => ?_⟩
  cases hs with
  | act hn hsem =>
    obtain ⟨-, -, rfl⟩ := hsem
    exact ⟨JobRegistry.cancel_active _ _, JobRegistry.cancel_state _ _⟩

/-- A request to flash the port `p` over USB. -/
def usbRequest (p : String) : Request :=
  ⟨.updateFirmware, some (.updateFirmware ⟨.usb, none, "longfred.elf", none, some p, none⟩)⟩

/-- The request of a client that has just been given the slot. -/
theorem submitted_run : ∃ c, Runs (daemon .plain) (.init (.init 0))
    [.spawn 0 (.request (usbRequest "ttyUSB0")),
      .act 0 ⟨.store (.manual (wiredCandidate .longFred .usb true "ttyUSB0" "ttyUSB0")), ()⟩,
      .act 0 ⟨.jobs (.submit "longfred" "ttyUSB0" (some (.firmware ⟨.usb, "longfred.elf", none, some "ttyUSB0", none⟩))),
        .ok "job-1"⟩] c ∧ c.shared.jobs.active = some "job-1" ∧ c.shared.jobs.jobs.keys = ["job-1"] := by
  refine ⟨_, .cons (.spawn rfl ⟨rfl, rfl⟩) (.cons (.act rfl rfl) (.cons (.act rfl ⟨?_, rfl, rfl⟩) .refl)), rfl, rfl⟩
  show 0 + 1 < 2 ^ 64
  omega

theorem submitted_disciplined : ∃ (c : Effect.Config Op Op.Res Shared) (rec : JobRecord),
    c.shared.jobs.active = some "job-1" ∧ c.shared.jobs.lookup "job-1" = some rec ∧
      rec.snapshot.state.isTerminal = false := by
  obtain ⟨c, hrun, hactive, -⟩ := submitted_run
  obtain ⟨rec, hrec, ht⟩ := ((slot_discipline hrun).2.1 "job-1").1 hactive
  exact ⟨c, rec, hactive, hrec, ht⟩

end WirelessProgrammer
