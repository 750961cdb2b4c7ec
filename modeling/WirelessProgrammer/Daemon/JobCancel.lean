import WirelessProgrammer.Daemon.JobTeardown

/-!
# Cancelling a job

A cancel request sets a flag that only the worker's next look at it finds.  What follows from a request depends on whether
there is such a look before the worker writes to the device, and before it reports success.
-/

namespace WirelessProgrammer

open Effect

/-! ### Requests to cancel -/

/-- Job `id` has been accepted. -/
def Accepted (id : String) (tr : List (Label Op Op.Res Tag)) : Prop :=
  ∃ m driver key payload, .act m ⟨.jobs (.submit driver key payload), .ok id⟩ ∈ tr

/-- `job.cancel` has been called for job `id` after the job was accepted. -/
def CancelRequested (id : String) (tr : List (Label Op Op.Res Tag)) : Prop :=
  ∃ t₁ m t₂, tr = t₁ ++ .act m ⟨.jobs (.cancel id), ()⟩ :: t₂ ∧ Accepted id t₁

variable {tr t₁ t₂ : List (Label Op Op.Res Tag)} {l : Label Op Op.Res Tag} {id : String} {n : Nat}

private theorem accepted_concat : Accepted id (tr ++ [l]) ↔
    Accepted id tr ∨ ∃ m driver key payload, l = .act m ⟨.jobs (.submit driver key payload), .ok id⟩ := by
  simp only [Accepted, List.mem_append, List.mem_singleton, exists_or, eq_comm]

private theorem cancelRequested_concat : CancelRequested id (tr ++ [l]) ↔
    CancelRequested id tr ∨ Accepted id tr ∧ ∃ m, l = .act m ⟨.jobs (.cancel id), ()⟩ := by
  constructor
  · rintro ⟨t₁, m, t₂, htr, hacc⟩
    rcases concat_eq_append_cons.1 htr with ⟨rfl, rfl, rfl⟩ | ⟨t₃, rfl, rfl⟩
    · exact .inr ⟨hacc, m, rfl⟩
    · exact .inl ⟨t₁, m, t₃, rfl, hacc⟩
  · rintro (⟨t₁, m, t₂, rfl, hacc⟩ | ⟨hacc, m, rfl⟩)
    · exact ⟨t₁, m, t₂ ++ [l], by simp, hacc⟩
    · exact ⟨tr, m, [], rfl, hacc⟩

private theorem CancelRequested.accepted (h : CancelRequested id tr) : Accepted id tr := by
  obtain ⟨t₁, m, t₂, rfl, m', driver, key, payload, hmem⟩ := h
  exact ⟨m', driver, key, payload, List.mem_append_left _ hmem⟩

theorem CancelRequested.append (h : CancelRequested id t₁) (t₂ : List (Label Op Op.Res Tag)) :
    CancelRequested id (t₁ ++ t₂) := by
  obtain ⟨t, m, t', rfl, hacc⟩ := h
  exact ⟨t, m, t' ++ t₂, by simp, hacc⟩

/-- A request is in the first part of a trace or in the second. -/
theorem cancelRequested_append (hacc : Accepted id t₁) : CancelRequested id (t₁ ++ t₂) ↔
    CancelRequested id t₁ ∨ ∃ m, .act m ⟨.jobs (.cancel id), ()⟩ ∈ t₂ := by
  induction t₂ using List.reverseRecOn with
  | nil => simp
  | append_singleton t₂ l ih =>
    have haccepted : Accepted id (t₁ ++ t₂) := by
      obtain ⟨m, driver, key, payload, hmem⟩ := hacc
      exact ⟨m, driver, key, payload, List.mem_append_left _ hmem⟩
    rw [← List.append_assoc, cancelRequested_concat, ih]
    simp only [haccepted, true_and, List.mem_append, List.mem_singleton, exists_or, or_assoc, eq_comm]

namespace JobRegistry

private theorem lookup_cancel_self (r : JobRegistry) (id : String) :
    (r.cancel id).lookup id = (r.lookup id).map (·.requestCancel id) := by
  unfold cancel
  split
  · next h => rw [h]; rfl
  · next rec h => rw [lookup_put_self, h]; rfl

end JobRegistry

private theorem requestCancel_cancel (rec : JobRecord) (id : String) : (rec.requestCancel id).cancel = true := by
  unfold JobRecord.requestCancel
  split <;> rfl

/-- An accepted job gets the next number. -/
theorem sem_accepted {s s' : Shared} {driver key : String} {payload : Option JobPayload}
    (h : Sem n s (.jobs (.submit driver key payload)) (.ok id) s') :
    id = jobName (s.jobs.seq + 1) ∧ s'.jobs.seq = s.jobs.seq + 1 := by
  refine ⟨?_, (act_accepts h trivial).1⟩
  obtain ⟨-, hr, -⟩ := h
  replace hr : .ok id = (s.jobs.submit s.now driver key payload).1 := hr
  rcases ha : s.jobs.active with _ | active
  · rw [JobRegistry.submit_free ha] at hr
    exact Except.ok.inj hr
  · rw [JobRegistry.submit_busy ha] at hr
    cases hr

/-- A job that is to be cancelled has its flag set. -/
structure CancelInv (tr : List (Label Op Op.Res Tag)) (s : Shared) : Prop where
  known {id : String} (h : Accepted id tr) : ∃ k ≤ s.jobs.seq, id = jobName k
  active {id : String} (h : s.jobs.active = some id) : Accepted id tr
  flagged {id : String} (h : CancelRequested id tr) {rec : JobRecord} (hrec : s.jobs.lookup id = some rec) :
    rec.cancel = true

namespace CancelInv

variable {cfg : Config} {now : Nat} {c : Effect.Config Op Op.Res Shared} {s s' : Shared}

/-- A step that is not one of the registry. -/
theorem frame (h : CancelInv tr s) (hacc : ∀ m d k p id, l ≠ .act m ⟨.jobs (.submit d k p), .ok id⟩)
    (hcancel : ∀ m id, l ≠ .act m ⟨.jobs (.cancel id), ()⟩) (hseq : s'.jobs.seq = s.jobs.seq)
    (hactive : s'.jobs.active = s.jobs.active) (hlookup : ∀ id, s'.jobs.lookup id = s.jobs.lookup id) :
    CancelInv (tr ++ [l]) s' where
  known {id} h' := by
    rw [hseq]
    exact h.known ((accepted_concat.1 h').resolve_right fun ⟨m, d, k, p, hl⟩ => hacc m d k p id hl)
  active h' := accepted_concat.2 (.inl (h.active (hactive ▸ h')))
  flagged {id} h' rec hrec := by
    rw [hlookup] at hrec
    exact h.flagged ((cancelRequested_concat.1 h').resolve_right fun ⟨_, m, hl⟩ => hcancel m id hl) hrec

private theorem act (h : CancelInv tr c.shared) (hrun : Runs (daemon cfg) (.init (.init now)) tr c) {o : Op} {r : o.Res}
    (ho : jobProtocol.allowed (jobUse n tr) o) (hsem : Sem n c.shared o r s') :
    CancelInv (tr ++ [.act n ⟨o, r⟩]) s' where
  known {id} hacc := by
    rcases accepted_concat.1 hacc with hacc | ⟨m, driver, key, payload, heq⟩
    · exact Round.known_act (h.known hacc) hsem
    · cases heq
      obtain ⟨hid, hseq⟩ := sem_accepted hsem
      exact ⟨_, hseq.ge, hid⟩
  active {id} hactive := by
    by_cases ha : Accepts ⟨o, r⟩
    · cases o with
      | jobs o =>
        cases o with
        | submit driver key payload =>
          cases r with
          | error e => exact ha.elim
          | ok id' =>
            rw [(act_accepts hsem ha).2, ← (sem_accepted hsem).1] at hactive
            cases hactive
            exact accepted_concat.2 (.inr ⟨n, driver, key, payload, rfl⟩)
        | _ => exact ha.elim
      | _ => exact ha.elim
    · rcases (act_slot hsem ha).2 with hsame | hnone
      · exact accepted_concat.2 (.inl (h.active (hsame ▸ hactive)))
      · rw [hnone] at hactive
        cases hactive
  flagged {id} hreq rec' hrec' := by
    obtain ⟨hS, -⟩ := reachable_slotInv hrun
    have hacc : Accepted id tr := by
      rcases cancelRequested_concat.1 hreq with hreq | ⟨hacc, -⟩
      · exact hreq.accepted
      · exact hacc
    have hstep := act_recordStep hS ho.1 hsem id
    rw [hrec'] at hstep
    rcases hrec : c.shared.jobs.lookup id with _ | rec
    · -- no id is used again
      obtain ⟨k, hk, rfl⟩ := h.known hacc
      have hgone := (act_later hS ho.1 hsem).gone hk hrec
      exact absurd (hgone.symm.trans hrec') nofun
    · rw [hrec] at hstep
      rcases cancelRequested_concat.1 hreq with hreq | ⟨-, m, heq⟩
      · exact hstep.cancel (h.flagged hreq hrec)
      · cases heq
        obtain ⟨-, -, rfl⟩ := hsem
        have hlookup := JobRegistry.lookup_cancel_self c.shared.jobs id
        rw [hrec] at hlookup
        cases hrec'.symm.trans hlookup
        exact requestCancel_cancel rec id

end CancelInv

variable {cfg : Config} {now : Nat} {c : Effect.Config Op Op.Res Shared}

private theorem reachable_cancelInv (h : Runs (daemon cfg) (.init (.init now)) tr c) : CancelInv tr c.shared := by
  refine daemon_invariant CancelInv ?_ ?_ ?_ ?_ h
  · intro tr c n t p s' _ hI _ hsp
    have hjobs := spawn_jobs hsp
    exact hI.frame (by rintro _ _ _ _ _ ⟨⟩) (by rintro _ _ ⟨⟩) (by rw [hjobs]) (by rw [hjobs]) (fun id => by rw [hjobs])
  · exact fun tr c n o r s' hrun hI ho _ hsem => hI.act hrun ho hsem
  · rintro tr s s' hI ⟨now, jobs, hnow, hperm, rfl⟩
    exact hI.frame (by rintro _ _ _ _ _ ⟨⟩) (by rintro _ _ ⟨⟩) rfl rfl fun id => JobRegistry.lookup_perm hperm _ _ id
  · refine ⟨?_, nofun, ?_⟩
    · rintro id ⟨m, d, k, p, hmem⟩
      cases hmem
    · rintro id ⟨t₁, m, t₂, htr, -⟩
      simp at htr

/-- A look at the flag that finds it clear: the job has not been cancelled. -/
theorem not_cancelRequested (h : Runs (daemon cfg) (.init (.init now)) tr c) {s' : Shared}
    (hslot : (jobUse n tr).slot = .owner id) (hsem : Sem n c.shared (.jobs (.isCancelled id)) false s') :
    ¬ CancelRequested id tr := by
  intro hreq
  obtain ⟨hS, -⟩ := reachable_slotInv h
  obtain ⟨rec, hrec, -⟩ := (hS.disciplined.active_iff id).1 (hS.owned hslot)
  obtain ⟨-, hclear, -⟩ := hsem
  replace hclear : false = ((c.shared.jobs.lookup id).map (·.cancel)).getD false := hclear
  rw [hrec] at hclear
  have := (reachable_cancelInv h).flagged hreq hrec
  exact absurd (hclear.trans this) nofun

/-- Only the rounds of the worker work for a job. -/
theorem worker_spawned (h : Runs (daemon cfg) (.init (.init now)) tr c) (hw : (jobUse n tr).worker = true) :
    ∃ id, .spawn n (.job id) ∈ tr := by
  refine daemon_invariant (C := fun _ _ => True)
    (fun tr _ => ∀ n, (jobUse n tr).worker = true → ∃ id, .spawn n (.job id) ∈ tr) ?_ ?_ ?_ nofun h n hw
  · intro tr c n t p s' _ hI _ _ m hw
    by_cases hm : n = m
    · subst hm
      rw [jobUse_spawn_self] at hw
      cases t with
      | request => cases hw
      | job id => exact ⟨id, by simp⟩
    · rw [jobUse_spawn_of_ne hm] at hw
      exact (hI m hw).imp fun _ hmem => List.mem_append_left _ hmem
  · intro tr c n o r s' _ hI _ _ _ m hw
    have hold : (jobUse m tr).worker = true := by
      by_cases hm : n = m
      · subst hm
        rwa [jobUse_act_self, next_worker] at hw
      · rwa [jobUse_act_of_ne hm] at hw
    exact (hI m hold).imp fun _ hmem => List.mem_append_left _ hmem
  · intro tr s s' hI _ m hw
    rw [jobUse_env] at hw
    exact (hI m hw).imp fun _ hmem => List.mem_append_left _ hmem

/-- A round that owns a job owns the job it has started for. -/
theorem round_owner (h : Runs (daemon cfg) (.init (.init now)) tr c) {id' : String} (hn : .spawn n (.job id) ∈ tr)
    (ho : (jobUse n tr).slot = .owner id') : id' = id := by
  rcases (round_phase h hn).2 with hs | hs
  · exact Slot.owner.inj (ho.symm.trans hs)
  · exact absurd (ho.symm.trans hs) nofun

/-! ### Success after a cancel request -/

/-- A cancel request has come after the last look of operation `n` at the flag. -/
def CancelledUnseen (n : Nat) (id : String) (tr : List (Label Op Op.Res Tag)) : Prop :=
  ∃ t₁ r t₂, tr = t₁ ++ .act n ⟨.jobs (.isCancelled id), r⟩ :: t₂ ∧
    (∀ r', .act n ⟨.jobs (.isCancelled id), r'⟩ ∉ t₂) ∧ ∃ m, .act m ⟨.jobs (.cancel id), ()⟩ ∈ t₂

/-- The job whose success an event reports. -/
def doneJob? : Event Op Op.Res → Option String
  | ⟨.jobs (.transition id .done ..), _⟩ => some id
  | _ => none

/-- If the step reports success, its job has not been cancelled. -/
def DoneUncancelled (tr : List (Label Op Op.Res Tag)) : Label Op Op.Res Tag → Prop
  | .act _ e => ∀ id, doneJob? e = some id → ¬ CancelRequested id tr
  | _ => True

/-- If the step reports success, its job has not been cancelled since the last look at the flag. -/
def DoneAfterLook (tr : List (Label Op Op.Res Tag)) : Label Op Op.Res Tag → Prop
  | .act n e => ∀ id, doneJob? e = some id → ¬ CancelledUnseen n id tr
  | _ => True

private theorem next_checked {g : JobUse} {o : Op} {r : o.Res} (h : (jobProtocol.next g o r).checked = true) :
    (∃ id, (⟨o, r⟩ : Event Op Op.Res) = ⟨.jobs (.isCancelled id), false⟩) ∨
      g.checked = true ∧ ∀ id r', (⟨o, r⟩ : Event Op Op.Res) ≠ ⟨.jobs (.isCancelled id), r'⟩ := by
  cases o with
  | jobs o =>
    cases o with
    | isCancelled id =>
      cases r with
      | false => exact .inl ⟨id, rfl⟩
      | true => cases h
    | takePayload => rcases r with _ | (_ | _) <;> exact .inr ⟨h, nofun⟩
    | _ => exact .inr ⟨h, nofun⟩
  | radio o =>
    cases o with
    | connected => cases r <;> cases h
    | connectOpen | connectPsk | release => exact .inr ⟨h, nofun⟩
    | _ => cases r <;> exact .inr ⟨h, nofun⟩
  | world o =>
    cases o with
    | spawnBlocking w => cases w <;> exact .inr ⟨h, nofun⟩
    | _ => exact .inr ⟨h, nofun⟩
  | _ => exact .inr ⟨h, nofun⟩

/-- A round that has found the flag clear has looked before any request. -/
def LookInv (tr : List (Label Op Op.Res Tag)) : Prop :=
  ∀ n id, .spawn n (.job id) ∈ tr → (jobUse n tr).slot = .owner id → (jobUse n tr).checked = true →
    ∃ t₁ r t₂, tr = t₁ ++ .act n ⟨.jobs (.isCancelled id), r⟩ :: t₂ ∧
      (∀ r', .act n ⟨.jobs (.isCancelled id), r'⟩ ∉ t₂) ∧ Accepted id t₁ ∧ ¬ CancelRequested id t₁

/-- A step that is not a look of the round. -/
theorem LookInv.extend (h : LookInv tr) (hmem : .spawn n (.job id) ∈ tr) (hs : (jobUse n tr).slot = .owner id)
    (hc : (jobUse n tr).checked = true) (hl : ∀ r, l ≠ .act n ⟨.jobs (.isCancelled id), r⟩) :
    ∃ t₁ r t₂, tr ++ [l] = t₁ ++ .act n ⟨.jobs (.isCancelled id), r⟩ :: t₂ ∧
      (∀ r', .act n ⟨.jobs (.isCancelled id), r'⟩ ∉ t₂) ∧ Accepted id t₁ ∧ ¬ CancelRequested id t₁ := by
  obtain ⟨t₁, r, t₂, rfl, hlast, hacc, hreq⟩ := h n id hmem hs hc
  refine ⟨t₁, r, t₂ ++ [l], by simp, fun r' hr' => ?_, hacc, hreq⟩
  rcases List.mem_append.1 hr' with hr' | hr'
  · exact hlast r' hr'
  · exact hl r' (List.mem_singleton.1 hr').symm

private theorem reachable_lookInv (h : Runs (daemon cfg) (.init (.init now)) tr c) : LookInv tr := by
  refine daemon_invariant (C := fun _ _ => True) (fun tr _ => LookInv tr) ?_ ?_ ?_ nofun h
  · intro tr c n t p s' hrun hI hn _ m id hmem hs hc
    by_cases hm : n = m
    · subst hm
      rw [jobUse_spawn_self] at hc
      cases t <;> cases hc
    · rw [jobUse_spawn_of_ne hm] at hs hc
      have hold : .spawn m (.job id) ∈ tr := (spawn_mem_spawn.1 hmem).resolve_right fun hlast => hm hlast.1.symm
      exact hI.extend hold hs hc nofun
  · intro tr c n o r s' hrun hI ho _ hsem m id hmem hs hc
    have hold : .spawn m (.job id) ∈ tr := spawn_mem_act.1 hmem
    by_cases hm : n = m
    · subst hm
      rw [jobUse_act_self] at hs hc
      obtain ⟨hw, howner | hended⟩ := round_phase hrun hold
      · rcases next_checked hc with ⟨id', heq⟩ | ⟨hc, hlook⟩
        · cases heq
          obtain rfl : id' = id := Slot.owner.inj ((ho.2 hw).symm.trans howner)
          have hactive := (reachable_slotInv hrun).1.owned howner
          exact ⟨tr, false, [], rfl, nofun, (reachable_cancelInv hrun).active hactive,
            not_cancelRequested hrun howner hsem⟩
        · refine hI.extend hold howner hc fun r' heq => hlook id r' ?_
          injection heq
      · exact absurd ((next_ended hended ho).1.symm.trans hs) nofun
    · rw [jobUse_act_of_ne hm] at hs hc
      refine hI.extend hold hs hc fun r' heq => hm ?_
      injection heq
  · intro tr s s' hI _ m id hmem hs hc
    rw [jobUse_env] at hs hc
    exact hI.extend (spawn_mem_env.1 hmem) hs hc nofun

/-- Where success is reported, a cancel request is one that has come after the last look. -/
theorem cancelRequested_iff_unseen (h : Runs (daemon cfg) (.init (.init now)) tr c) {step : Option String}
    {progress : Option UInt8} {detail : Option String}
    (ho : jobProtocol.allowed (jobUse n tr) (.jobs (.transition id .done step progress detail))) :
    CancelRequested id tr ↔ CancelledUnseen n id tr := by
  obtain ⟨hw, hchecked, -⟩ := ho.2.2 rfl
  obtain ⟨id', hmem⟩ := worker_spawned h hw
  obtain rfl := round_owner h hmem ho.1
  obtain ⟨t₁, r, t₂, htr, hlast, hacc, hreq⟩ := reachable_lookInv h n id hmem ho.1 hchecked
  have hiff : CancelRequested id tr ↔ ∃ m, .act m ⟨.jobs (.cancel id), ()⟩ ∈ t₂ := by
    rw [htr, cancelRequested_append hacc]
    simp [hreq]
  rw [hiff]
  constructor
  · exact fun hcancel => ⟨t₁, r, t₂, htr, hlast, hcancel⟩
  · rintro ⟨u₁, r', u₂, htr', hlast', hcancel⟩
    have hsame := last_split_unique (p := fun l => ∃ r, l = .act n ⟨.jobs (.isCancelled id), r⟩) (htr.symm.trans htr')
      ⟨r, rfl⟩ ⟨r', rfl⟩ (fun l hl ⟨r, heq⟩ => hlast r (heq ▸ hl)) (fun l hl ⟨r, heq⟩ => hlast' r (heq ▸ hl))
    rw [hsame.2]
    exact hcancel

/-- In every run, no job that has been cancelled is reported as a success exactly when no job is cancelled between the
worker's last look at its flag and the report of its success. -/
theorem done_uncancelled (h : Runs (daemon cfg) (.init (.init now)) tr c) :
    Along DoneUncancelled tr ↔ Along DoneAfterLook tr := by
  refine forall_congr' fun t₁ => forall_congr' fun l => forall_congr' fun t₂ => imp_congr_right fun htr => ?_
  subst htr
  obtain ⟨c₁, c₂, h₁, hs, -⟩ := h.split_at
  cases hs with
  | spawn | env => exact Iff.rfl
  | @act s s' pool n o r k hn hsem =>
    refine forall_congr' fun id => imp_congr_right fun hdone => not_congr ?_
    have hop : Tracked jobProtocol .idle (some (.op o k)) (jobUse n t₁) := hn ▸ (reachable_slotInv h₁).2 n
    cases o with
    | jobs o =>
      cases o with
      | transition id' state step progress detail =>
        cases state with
        | done =>
          obtain rfl : id' = id := Option.some.inj hdone
          exact cancelRequested_iff_unseen h₁ hop.allowed
        | _ => cases hdone
      | _ => cases hdone
    | _ => cases hdone

/-- A request to dispatch locomotive 3 to a FRED. -/
private def fredRequest : ProgramRequestWire :=
  ⟨"", ⟨"", none⟩, ⟨"", 0, none⟩, [⟨some 3, none, none, none, []⟩], none, none⟩

private def z21 : CachedCandidate := wiredCandidate .fred .z21 true "10.0.0.5:21105" "10.0.0.5:21105"

/-- A job for a FRED up to the worker's last look at the cancel flag. -/
private def fredDispatched : List (Label Op Op.Res Tag) :=
  [.spawn 0 (.request ⟨.program, some (.program ⟨"fred", "10.0.0.5:21105"⟩ fredRequest)⟩),
    .act 0 ⟨.cached "fred" "10.0.0.5:21105", none⟩, .act 0 ⟨.store (.manual z21), ()⟩,
    .act 0 ⟨.jobs (.submit "fred" "10.0.0.5:21105" (some (.program fredRequest))), .ok "job-1"⟩,
    .act 0 ⟨.send "job-1", .ok ()⟩, .spawn 1 (.job "job-1"), .act 1 ⟨.jobs (.isCancelled "job-1"), false⟩,
    .act 1 ⟨.jobs (.takePayload "job-1"), some (.program fredRequest)⟩,
    .act 1 ⟨.jobs (.snapshot "job-1"), some ⟨"job-1", .queued, "fred", "10.0.0.5:21105", none, 0⟩⟩,
    .act 1 ⟨.cached "fred" "10.0.0.5:21105", some z21⟩,
    .act 1 ⟨.world (.lookupHost (Z21Host.normalizeKey "10.0.0.5:21105")), .ok (some "10.0.0.5:21105")⟩,
    .act 1 ⟨.jobs (.isCancelled "job-1"), false⟩,
    .act 1 ⟨.jobs (.transition "job-1" .writing (some "write") (some 10) none), ()⟩, .act 1 ⟨.world .bindUdp, .ok ()⟩,
    .act 1 ⟨.world (.dispatchAddr "10.0.0.5:21105" 3), .ok (.ok .noAck)⟩,
    .act 1 ⟨.jobs (.isCancelled "job-1"), false⟩]

private def fredDone : Label Op Op.Res Tag :=
  .act 1 ⟨.jobs (.transition "job-1" .done (some "done") (some 100) (some "noAck")), ()⟩

theorem fred_done_uncancelled : ∃ c, Runs (daemon .plain) (.init (.init 0)) (fredDispatched ++ [fredDone]) c ∧
    Along DoneUncancelled (fredDispatched ++ [fredDone]) := by
  have hrun : ∃ c, Runs (daemon .plain) (.init (.init 0)) (fredDispatched ++ [fredDone]) c := by
    refine ⟨_, .cons (.spawn rfl ⟨rfl, rfl⟩) <| .cons (.act rfl ⟨rfl, rfl⟩) <| .cons (.act rfl rfl) <|
      .cons (.act rfl ⟨?_, rfl, rfl⟩) <| .cons (.act rfl ⟨?_, rfl⟩) <| .cons (.spawn rfl ⟨rfl, rfl, _, rfl, rfl⟩) <|
      .cons (.act rfl ⟨trivial, rfl, rfl⟩) <| .cons (.act rfl ⟨trivial, rfl, rfl⟩) <|
      .cons (.act rfl ⟨trivial, rfl, rfl⟩) <| .cons (.act rfl ⟨rfl, rfl⟩) <| .cons (.act rfl rfl) <|
      .cons (.act rfl ⟨trivial, rfl, rfl⟩) <| .cons (.act rfl ⟨trivial, rfl, rfl⟩) <| .cons (.act rfl rfl) <|
      .cons (.act rfl rfl) <| .cons (.act rfl ⟨trivial, rfl, rfl⟩) <| .cons (.act rfl ⟨trivial, rfl, rfl⟩) .refl⟩
    · show 0 + 1 < 2 ^ 64
      omega
    · decide
  obtain ⟨c, hrun⟩ := hrun
  refine ⟨c, hrun, (done_uncancelled hrun).2 ?_⟩
  rintro t₁ (⟨n, t⟩ | ⟨n, e⟩ | _) t₂ htr
  · trivial
  · -- nobody cancels the job
    rintro id - ⟨u₁, r, u₂, rfl, -, m, hcancel⟩
    have hmem : .act m ⟨.jobs (.cancel id), ()⟩ ∈ fredDispatched ++ [fredDone] := by
      rw [htr]
      simp [hcancel]
    simp [fredDispatched, fredDone] at hmem
  · trivial

/-- The same job, cancelled after the last look. -/
theorem done_cancelled : ∃ tr c, Runs (daemon .plain) (.init (.init 0)) tr c ∧ CancelRequested "job-1" tr ∧
    (c.shared.jobs.lookup "job-1").map (·.snapshot.state) = some .done ∧ ¬ Along DoneUncancelled tr := by
  refine ⟨fredDispatched ++ [.spawn 2 (.request ⟨.jobCancel, some (.job "job-1")⟩),
      .act 2 ⟨.jobs (.cancel "job-1"), ()⟩, fredDone], _,
    .cons (.spawn rfl ⟨rfl, rfl⟩) <| .cons (.act rfl ⟨rfl, rfl⟩) <| .cons (.act rfl rfl) <|
      .cons (.act rfl ⟨?_, rfl, rfl⟩) <| .cons (.act rfl ⟨?_, rfl⟩) <| .cons (.spawn rfl ⟨rfl, rfl, _, rfl, rfl⟩) <|
      .cons (.act rfl ⟨trivial, rfl, rfl⟩) <| .cons (.act rfl ⟨trivial, rfl, rfl⟩) <|
      .cons (.act rfl ⟨trivial, rfl, rfl⟩) <| .cons (.act rfl ⟨rfl, rfl⟩) <| .cons (.act rfl rfl) <|
      .cons (.act rfl ⟨trivial, rfl, rfl⟩) <| .cons (.act rfl ⟨trivial, rfl, rfl⟩) <| .cons (.act rfl rfl) <|
      .cons (.act rfl rfl) <| .cons (.act rfl ⟨trivial, rfl, rfl⟩) <| .cons (.spawn rfl ⟨rfl, rfl⟩) <|
      .cons (.act rfl ⟨trivial, rfl, rfl⟩) <| .cons (.act rfl ⟨trivial, rfl, rfl⟩) .refl, ?_, rfl, fun h => ?_⟩
  · show 0 + 1 < 2 ^ 64
    omega
  · decide
  · exact ⟨fredDispatched ++ [.spawn 2 (.request ⟨.jobCancel, some (.job "job-1")⟩)], 2, [fredDone], rfl,
      0, "fred", "10.0.0.5:21105", some (.program fredRequest), by simp [fredDispatched]⟩
  · refine h (fredDispatched ++ [.spawn 2 (.request ⟨.jobCancel, some (.job "job-1")⟩),
      .act 2 ⟨.jobs (.cancel "job-1"), ()⟩]) fredDone [] rfl "job-1" rfl ?_
    exact ⟨fredDispatched ++ [.spawn 2 (.request ⟨.jobCancel, some (.job "job-1")⟩)], 2, [], rfl,
      0, "fred", "10.0.0.5:21105", some (.program fredRequest), by simp [fredDispatched]⟩

end WirelessProgrammer
