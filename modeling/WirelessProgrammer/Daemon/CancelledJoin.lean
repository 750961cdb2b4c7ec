import WirelessProgrammer.Daemon.JobCancel

/-!
# A job that is cancelled before its association ends

A programming job looks at the cancel flag once it has joined the device, and a job that was cancelled before writes
nothing.  A firmware job does not look: once the link is ready it starts its upload.
-/

namespace WirelessProgrammer

open Effect

/-- Job `id`, in round `n`, has been cancelled before its `radio_join` has returned. -/
def CancelledBeforeJoin (n : Nat) (id : String) (tr : List (Label Op Op.Res Tag)) : Prop :=
  ∃ t₁ r t₂, tr = t₁ ++ .act n ⟨.radio .connected, r⟩ :: t₂ ∧ CancelRequested id t₁

/-- The event sends requests to the device. -/
def WritesDevice : Event Op Op.Res → Prop
  | ⟨.world (.request ..), _⟩ => True
  | ⟨.world (.spawnBlocking (.firmwareHttp ..)), _⟩ => True
  | _ => False

/-- Round `n` works on a firmware job. -/
def TookFirmware (n : Nat) (tr : List (Label Op Op.Res Tag)) : Prop :=
  ∃ id job, .act n ⟨.jobs (.takePayload id), some (.firmware job)⟩ ∈ tr

/-- If the step is the last one of a firmware job's join, the job has not been cancelled before its association ended. -/
def PreparesUncancelled (tr : List (Label Op Op.Res Tag)) : Label Op Op.Res Tag → Prop
  | .act n ⟨.radio (.prepareSoftap ..), .ok _⟩ =>
    ∀ id, .spawn n (.job id) ∈ tr → TookFirmware n tr → ¬ CancelledBeforeJoin n id tr
  | _ => True

variable {tr : List (Label Op Op.Res Tag)} {l : Label Op Op.Res Tag} {id : String} {n : Nat}

private theorem cancelledBeforeJoin_concat : CancelledBeforeJoin n id (tr ++ [l]) ↔
    CancelledBeforeJoin n id tr ∨ CancelRequested id tr ∧ ∃ r, l = .act n ⟨.radio .connected, r⟩ := by
  constructor
  · rintro ⟨t₁, r, t₂, htr, hreq⟩
    rcases concat_eq_append_cons.1 htr with ⟨rfl, rfl, rfl⟩ | ⟨t₃, rfl, rfl⟩
    · exact .inr ⟨hreq, r, rfl⟩
    · exact .inl ⟨t₁, r, t₃, rfl, hreq⟩
  · rintro (⟨t₁, r, t₂, rfl, hreq⟩ | ⟨hreq, r, rfl⟩)
    · exact ⟨t₁, r, t₂ ++ [l], by simp, hreq⟩
    · exact ⟨tr, r, [], rfl, hreq⟩

private theorem CancelledBeforeJoin.requested (h : CancelledBeforeJoin n id tr) : CancelRequested id tr := by
  obtain ⟨t₁, r, t₂, rfl, hreq⟩ := h
  exact hreq.append _

/-! ### What a step makes of the permission to write -/

section Next

variable {g : JobUse} {o : Op} {r : o.Res}

/-- The permission to write is there from the start, or comes from a look at the flag or from the end of the join. -/
theorem next_mayWrite (hw : g.worker = true) (ho : jobProtocol.allowed g o) (h : (jobProtocol.next g o r).MayWrite) :
    (∃ id, (⟨o, r⟩ : Event Op Op.Res) = ⟨.jobs (.isCancelled id), false⟩) ∨
      (g.firmware = true ∧ ∃ source host, (⟨o, r⟩ : Event Op Op.Res) = ⟨.radio (.prepareSoftap source host), .ok ()⟩) ∨
      g.MayWrite ∧ ∀ r', (⟨o, r⟩ : Event Op Op.Res) ≠ ⟨.radio .connected, r'⟩ := by
  cases o with
  | jobs o =>
    cases o with
    | isCancelled id =>
      cases r with
      | false => exact .inl ⟨id, rfl⟩
      | true =>
        refine .inr (.inr ⟨fun hjoined => ?_, fun _ h => nomatch h⟩)
        refine (h hjoined).imp_left fun hc => ?_
        rwa [← Bool.or_false g.clear]
    | takePayload id =>
      refine .inr (.inr ⟨fun hjoined => ?_, fun _ h => nomatch h⟩)
      exact absurd ((ho.2 hw).2.symm.trans hjoined) Bool.false_ne_true
    | _ => exact .inr (.inr ⟨h, fun _ h => nomatch h⟩)
  | radio o =>
    cases o with
    | connected =>
      -- after the association a job has to look again
      have hdenied : ¬ (jobProtocol.next g (.radio .connected) r).MayWrite := by
        intro h
        cases r <;> rcases h rfl with hclear | ⟨-, hprepared⟩ <;> contradiction
      exact absurd h hdenied
    | prepareSoftap source host =>
      cases r with
      | error e => exact .inr (.inr ⟨h, fun _ h => nomatch h⟩)
      | ok =>
        by_cases hf : g.firmware = true
        · exact .inr (.inl ⟨hf, source, host, rfl⟩)
        · refine .inr (.inr ⟨fun hjoined => (h hjoined).imp_right fun hp => absurd hp.1 hf, fun _ h => nomatch h⟩)
    | connectOpen | connectPsk | release => exact .inr (.inr ⟨h, fun _ h => nomatch h⟩)
    | _ => cases r <;> exact .inr (.inr ⟨h, fun _ h => nomatch h⟩)
  | world o =>
    cases o with
    | spawnBlocking w => cases w <;> exact .inr (.inr ⟨h, fun _ h => nomatch h⟩)
    | _ => exact .inr (.inr ⟨h, fun _ h => nomatch h⟩)
  | _ => exact .inr (.inr ⟨h, fun _ h => nomatch h⟩)

private theorem next_firmware (h : (jobProtocol.next g o r).firmware = true) : g.firmware = true ∨
    ∃ id job, (⟨o, r⟩ : Event Op Op.Res) = ⟨.jobs (.takePayload id), some (.firmware job)⟩ := by
  cases o with
  | jobs o =>
    cases o with
    | takePayload id =>
      rcases r with _ | (_ | job)
      · exact .inl h
      · exact .inl h
      · exact .inr ⟨id, job, rfl⟩
    | _ => exact .inl h
  | radio o =>
    cases o with
    | connectOpen | connectPsk | release => exact .inl h
    | _ => cases r <;> exact .inl h
  | world o =>
    cases o with
    | spawnBlocking w => cases w <;> exact .inl h
    | _ => exact .inl h
  | _ => exact .inl h

private theorem next_wrote (h : (jobProtocol.next g o r).wrote = false) : g.wrote = false ∧ ¬ WritesDevice ⟨o, r⟩ := by
  cases o with
  | jobs o =>
    cases o with
    | takePayload => rcases r with _ | (_ | _) <;> exact ⟨h, fun h => h⟩
    | _ => exact ⟨h, fun h => h⟩
  | radio o =>
    cases o with
    | connectOpen | connectPsk | release => exact ⟨h, fun h => h⟩
    | _ => cases r <;> exact ⟨h, fun h => h⟩
  | world o =>
    cases o with
    | request => cases h
    | spawnBlocking w =>
      cases w with
      | firmwareHttp => cases h
      | flashUsb => exact ⟨h, fun h => h⟩
    | _ => exact ⟨h, fun h => h⟩
  | _ => exact ⟨h, fun h => h⟩

/-- A round of the worker writes where it may. -/
theorem mayWrite_of_writes (hw : g.worker = true) (ho : jobProtocol.allowed g o) (h : WritesDevice ⟨o, r⟩) :
    g.MayWrite ∧ ∃ id, g.slot = .owner id := by
  cases o with
  | world o =>
    cases o with
    | request => exact ⟨(ho.2 hw).2, (ho.2 hw).1⟩
    | spawnBlocking w =>
      cases w with
      | firmwareHttp => exact ⟨ho.2.2.2, ho.2.2.1⟩
      | flashUsb => exact h.elim
    | _ => exact h.elim
  | _ => exact h.elim

/-- Success is reported by the worker, which has found the flag clear. -/
theorem mayWrite_of_done (ho : jobProtocol.allowed g o) (h : doneJob? ⟨o, r⟩ = some id) :
    g.MayWrite ∧ g.slot = .owner id ∧ g.worker = true := by
  cases o with
  | jobs o =>
    cases o with
    | transition i state step progress detail =>
      cases state with
      | done =>
        obtain rfl : i = id := Option.some.inj h
        obtain ⟨hw, -, hclear⟩ := ho.2.2 rfl
        exact ⟨fun _ => .inl hclear, ho.1, hw⟩
      | _ => cases h
    | _ => cases h
  | _ => cases h

private theorem endsJob_of_done {e : Event Op Op.Res} (h : doneJob? e = some id) : endsJob id e = true := by
  rcases e with ⟨o, r⟩
  cases o with
  | jobs o =>
    cases o with
    | transition i state step progress detail =>
      cases state with
      | done =>
        obtain rfl : i = id := Option.some.inj h
        simp [endsJob, JobState.isTerminal]
      | _ => cases h
    | _ => cases h
  | _ => cases h

end Next

/-! ### What holds in every run -/

variable {cfg : Config} {now : Nat} {c : Effect.Config Op Op.Res Shared}

/-- An operation that has not started has no events. -/
theorem unstarted_act (h : Runs (daemon cfg) (.init (.init now)) tr c) (hn : c.pool n = none) (e : Event Op Op.Res) :
    .act n e ∉ tr := by
  rw [← mem_eventsOf, h.eventsOf_unstarted hn]
  exact List.not_mem_nil

/-- The worker's rounds are the operations that have started as such. -/
theorem unstarted_spawn (h : Runs (daemon cfg) (.init (.init now)) tr c) (hn : c.pool n = none) : .spawn n (.job id) ∉ tr := by
  intro hmem
  have hworker := (round_phase h hmem).1
  rw [unstarted_idle h hn] at hworker
  exact absurd hworker Bool.false_ne_true

private theorem reachable_tookFirmware (h : Runs (daemon cfg) (.init (.init now)) tr c) (n : Nat)
    (hf : (jobUse n tr).firmware = true) : TookFirmware n tr := by
  refine daemon_invariant (C := fun _ _ => True)
    (fun tr _ => ∀ n, (jobUse n tr).firmware = true → TookFirmware n tr) ?_ ?_ ?_ nofun h n hf
  · intro tr c n t p s' _ hI _ _ m hf
    by_cases hm : n = m
    · subst hm
      rw [jobUse_spawn_self] at hf
      cases t <;> cases hf
    · rw [jobUse_spawn_of_ne hm] at hf
      exact (hI m hf).imp fun _ => .imp fun _ hmem => act_mem_spawn.2 hmem
  · intro tr c n o r s' _ hI _ _ _ m hf
    by_cases hm : n = m
    · subst hm
      rw [jobUse_act_self] at hf
      rcases next_firmware hf with hf | ⟨id, job, heq⟩
      · exact (hI n hf).imp fun _ => .imp fun _ hmem => List.mem_append_left _ hmem
      · exact ⟨id, job, act_mem_act.2 (.inr ⟨rfl, heq.symm⟩)⟩
    · rw [jobUse_act_of_ne hm] at hf
      exact (hI m hf).imp fun _ => .imp fun _ hmem => List.mem_append_left _ hmem
  · intro tr s s' hI _ m hf
    rw [jobUse_env] at hf
    exact (hI m hf).imp fun _ => .imp fun _ hmem => act_mem_env.2 hmem

private theorem reachable_unwritten (h : Runs (daemon cfg) (.init (.init now)) tr c) (n : Nat)
    (hw : (jobUse n tr).wrote = false) : ∀ e, .act n e ∈ tr → ¬ WritesDevice e := by
  refine daemon_invariant (C := fun _ _ => True)
    (fun tr _ => ∀ n, (jobUse n tr).wrote = false → ∀ e, .act n e ∈ tr → ¬ WritesDevice e) ?_ ?_ ?_
    (fun _ _ _ h => absurd h List.not_mem_nil) h n hw
  · intro tr c n t p s' hrun hI hn _ m hw e he
    rw [act_mem_spawn] at he
    by_cases hm : n = m
    · subst hm
      exact absurd he (unstarted_act hrun hn e)
    · rw [jobUse_spawn_of_ne hm] at hw
      exact hI m hw e he
  · intro tr c n o r s' _ hI _ _ _ m hw e he
    rw [act_mem_act] at he
    by_cases hm : n = m
    · subst hm
      rw [jobUse_act_self] at hw
      obtain ⟨hw, hquiet⟩ := next_wrote hw
      rcases he with he | ⟨-, rfl⟩
      · exact hI n hw e he
      · exact hquiet
    · rw [jobUse_act_of_ne hm] at hw
      exact hI m hw e (he.resolve_right fun h => hm h.1.symm)
  · intro tr s s' hI _ m hw e he
    rw [jobUse_env] at hw
    exact hI m hw e (act_mem_env.1 he)

/-- A job that has been reported as a success is no longer the one in the slot. -/
theorem reachable_done (h : Runs (daemon cfg) (.init (.init now)) tr c) {m : Nat} {e : Event Op Op.Res}
    (he : .act m e ∈ tr) (hd : doneJob? e = some id) :
    (∃ k ≤ c.shared.jobs.seq, id = jobName k) ∧ c.shared.jobs.active ≠ some id := by
  refine daemon_invariant (C := fun _ _ => True) (fun tr s => ∀ m e id, .act m e ∈ tr → doneJob? e = some id →
    (∃ k ≤ s.jobs.seq, id = jobName k) ∧ s.jobs.active ≠ some id) ?_ ?_ ?_
    (fun _ _ _ h => absurd h List.not_mem_nil) h m e id he hd
  · intro tr c n t p s' _ hI _ hsp m e id he hd
    rw [spawn_jobs hsp]
    exact hI m e id (act_mem_spawn.1 he) hd
  · intro tr c n o r s' hrun hI ho _ hsem m e id he hd
    rcases act_mem_act.1 he with he | ⟨rfl, rfl⟩
    · obtain ⟨hknown, hne⟩ := hI m e id he hd
      exact ⟨Round.known_act hknown hsem, Round.inactive_act hknown hne hsem⟩
    · obtain ⟨hS, -⟩ := reachable_slotInv hrun
      obtain ⟨-, howner, -⟩ := mayWrite_of_done ho hd
      obtain ⟨rec, hrec, -⟩ := (hS.disciplined.active_iff id).1 (hS.owned howner)
      refine ⟨Round.known_act (hS.disciplined.known hrec) hsem, ?_⟩
      rw [Round.act_ends hS howner (endsJob_of_done hd) hsem]
      exact Option.some_ne_none id |>.symm
  · rintro tr s s' hI ⟨now, jobs, -, -, rfl⟩ m e id he hd
    exact hI m e id (act_mem_env.1 he) hd

/-- Only one round of the worker owns a job. -/
theorem owner_round (h : Runs (daemon cfg) (.init (.init now)) tr c) {m : Nat} (hn : .spawn n (.job id) ∈ tr)
    (ho : (jobUse m tr).slot = .owner id) : m = n := by
  obtain ⟨hS, -⟩ := reachable_slotInv h
  rcases (round_phase h hn).2 with hs | hs
  · exact hS.unique ho hs
  · obtain ⟨t₁, t₂, htr⟩ := List.append_of_mem hn
    exact absurd (hS.owned ho) (((reachable_roundsInv h).round htr).inactive hs)

/-- A round that may write has not been cancelled before the end of its association, and one that has been writes nothing
and is no success. -/
structure CancelledJoinInv (tr : List (Label Op Op.Res Tag)) : Prop where
  permitted {n : Nat} {id : String} (h : .spawn n (.job id) ∈ tr) (hs : (jobUse n tr).slot = .owner id)
    (hw : (jobUse n tr).MayWrite) : ¬ CancelledBeforeJoin n id tr
  respected {n : Nat} {id : String} (h : .spawn n (.job id) ∈ tr) (hc : CancelledBeforeJoin n id tr) :
    (∀ e, .act n e ∈ tr → ¬ WritesDevice e) ∧ ∀ m e, .act m e ∈ tr → doneJob? e ≠ some id

namespace CancelledJoinInv

/-- A step that is not one of an operation. -/
theorem frame (h : CancelledJoinInv tr) (hact : ∀ m e, .act m e ∈ tr ++ [l] ↔ .act m e ∈ tr)
    (hspawn : ∀ n id, .spawn n (.job id) ∈ tr ++ [l] → .spawn n (.job id) ∈ tr ∧ jobUse n (tr ++ [l]) = jobUse n tr ∨
      ∀ e, .act n e ∉ tr) (hl : ∀ m e, l ≠ .act m e) : CancelledJoinInv (tr ++ [l]) := by
  have hcancelled : ∀ {n id}, CancelledBeforeJoin n id (tr ++ [l]) → CancelledBeforeJoin n id tr := fun hc =>
    (cancelledBeforeJoin_concat.1 hc).resolve_right fun ⟨_, r, heq⟩ => hl _ _ heq
  have hjoined : ∀ {n id}, CancelledBeforeJoin n id tr → ¬ ∀ e, .act n e ∉ tr := by
    rintro n id ⟨t₁, r, t₂, rfl, -⟩ hnone
    exact hnone ⟨.radio .connected, r⟩ (by simp)
  refine ⟨fun {n id} hmem hs hw hc => ?_, fun {n id} hmem hc => ?_⟩
  · rcases hspawn n id hmem with ⟨hmem, huse⟩ | hnone
    · rw [huse] at hs hw
      exact h.permitted hmem hs hw (hcancelled hc)
    · exact hjoined (hcancelled hc) hnone
  · rcases hspawn n id hmem with ⟨hmem, -⟩ | hnone
    · simp only [hact]
      exact h.respected hmem (hcancelled hc)
    · exact absurd hnone (hjoined (hcancelled hc))

private theorem act (h : CancelledJoinInv tr) (hrun : Runs (daemon cfg) (.init (.init now)) tr c) {o : Op} {r : o.Res}
    {s' : Shared} (ho : jobProtocol.allowed (jobUse n tr) o) (hC : PreparesUncancelled tr (.act n ⟨o, r⟩))
    (hsem : Sem n c.shared o r s') : CancelledJoinInv (tr ++ [.act n ⟨o, r⟩]) where
  permitted {m id} hmem hs hw hc := by
    rw [spawn_mem_act] at hmem
    by_cases hm : n = m
    · subst hm
      rw [jobUse_act_self] at hs hw
      obtain ⟨hworker, howner | hended⟩ := round_phase hrun hmem
      · rcases next_mayWrite hworker ho hw with ⟨id', heq⟩ | ⟨hf, source, host, heq⟩ | ⟨hw, hne⟩
        · -- a look at the flag
          cases heq
          obtain rfl : id' = id := Slot.owner.inj ((ho.2 hworker).symm.trans howner)
          have hreq := not_cancelRequested hrun howner hsem
          exact hreq ((cancelledBeforeJoin_concat.1 hc).elim (·.requested) (·.1))
        · cases heq
          refine hC id hmem (reachable_tookFirmware hrun n hf) ?_
          exact (cancelledBeforeJoin_concat.1 hc).resolve_right fun ⟨_, _, heq⟩ => nomatch heq
        · refine h.permitted hmem howner hw ((cancelledBeforeJoin_concat.1 hc).resolve_right ?_)
          rintro ⟨-, r', heq⟩
          exact hne r' (Label.act.inj heq).2
      · exact absurd ((next_ended hended ho).1.symm.trans hs) nofun
    · rw [jobUse_act_of_ne hm] at hs hw
      refine h.permitted hmem hs hw ((cancelledBeforeJoin_concat.1 hc).resolve_right ?_)
      rintro ⟨-, r', heq⟩
      exact hm (Label.act.inj heq).1
  respected {m id} hmem hc := by
    rw [spawn_mem_act] at hmem
    rcases cancelledBeforeJoin_concat.1 hc with hbefore | ⟨-, r', heq⟩
    · obtain ⟨hquiet, hdone⟩ := h.respected hmem hbefore
      refine ⟨fun e he hwrites => ?_, fun m' e he hd => ?_⟩
      · rcases act_mem_act.1 he with he | ⟨rfl, rfl⟩
        · exact hquiet e he hwrites
        · obtain ⟨hw, id', howner⟩ := mayWrite_of_writes (round_phase hrun hmem).1 ho hwrites
          obtain rfl := round_owner hrun hmem howner
          exact h.permitted hmem howner hw hbefore
      · rcases act_mem_act.1 he with he | ⟨rfl, rfl⟩
        · exact hdone m' e he hd
        · obtain ⟨hw, howner, -⟩ := mayWrite_of_done ho hd
          obtain rfl := owner_round hrun hmem howner
          exact h.permitted hmem howner hw hbefore
    · -- the association ends: nothing has been written before
      cases heq
      obtain ⟨⟨id', howner⟩, hwrote⟩ := ho.2 (round_phase hrun hmem).1
      obtain rfl := round_owner hrun hmem howner
      have hactive := (reachable_slotInv hrun).1.owned howner
      refine ⟨fun e he => ?_, fun m' e he hd => ?_⟩
      · rcases act_mem_act.1 he with he | ⟨-, rfl⟩
        · exact reachable_unwritten hrun n hwrote e he
        · exact fun h => h
      · rcases act_mem_act.1 he with he | ⟨-, rfl⟩
        · exact (reachable_done hrun he hd).2 hactive
        · cases hd

end CancelledJoinInv

/-- In every run in which no firmware job completes its join after it has been cancelled before the end of its
association: a job that is cancelled before its association has ended sends nothing to the device and is no success. -/
theorem cancelled_join_unwritten (h : Steps (daemon cfg) PreparesUncancelled (.init (.init now)) tr c)
    (hn : .spawn n (.job id) ∈ tr) (hc : CancelledBeforeJoin n id tr) :
    (∀ e, .act n e ∈ tr → ¬ WritesDevice e) ∧ ∀ m e, .act m e ∈ tr → doneJob? e ≠ some id := by
  have hI : CancelledJoinInv tr := by
    refine daemon_invariant (fun tr _ => CancelledJoinInv tr) ?_ ?_ ?_ ?_ h
    · intro tr c n t p s' hrun hI hn _
      refine hI.frame (fun _ _ => act_mem_spawn) (fun m id hmem => ?_) fun _ _ => nofun
      rcases spawn_mem_spawn.1 hmem with hmem | ⟨rfl, -⟩
      · refine .inl ⟨hmem, jobUse_spawn_of_ne ?_ t tr⟩
        rintro rfl
        exact unstarted_spawn hrun hn hmem
      · exact .inr (unstarted_act hrun hn)
    · exact fun tr c n o r s' hrun hI ho hC hsem => hI.act hrun ho hC hsem
    · exact fun tr s s' hI _ => hI.frame (fun _ _ => act_mem_env)
        (fun n id hmem => .inl ⟨spawn_mem_env.1 hmem, jobUse_env n tr⟩) fun _ _ => nofun
    · exact ⟨fun h => absurd h List.not_mem_nil, fun h => absurd h List.not_mem_nil⟩
  exact hI.respected hn hc

/-- The device is joined, but the job has been cancelled in the meantime. -/
private def throttleCancelledEarly : List (Label Op Op.Res Tag) :=
  [.spawn 3 (.request ⟨.jobCancel, some (.job "job-1")⟩), .act 3 ⟨.jobs (.cancel "job-1"), ()⟩,
    .act 2 ⟨.radio .connected, .ok ()⟩, .act 2 ⟨.radio (.setAddress "192.168.4.2" 24), .ok ()⟩,
    .act 2 ⟨.radio .linkUp, .ok ()⟩, .act 2 ⟨.radio (.prepareSoftap "192.168.4.2" "192.168.4.1"), .ok ()⟩,
    .act 2 ⟨.jobs (.isCancelled "job-1"), true⟩]

private theorem run_throttleCancelledEarly : ∃ c, Runs (daemon .plain) (.init (.init 0))
    (throttleJoining ++ throttleCancelledEarly) c := by
  refine ⟨_, .cons (.spawn rfl ⟨rfl, rfl⟩) <| .cons (.act rfl ⟨rfl, rfl⟩) <| .cons (.act rfl ⟨rfl, rfl⟩) <|
    .cons (.act rfl rfl) <| .cons (.act rfl ⟨rfl, rfl⟩) <| .cons (.act rfl rfl) <| .cons (.spawn rfl ⟨rfl, rfl⟩) <|
    .cons (.act rfl ⟨?_, rfl, rfl⟩) <| .cons (.act rfl ⟨?_, rfl⟩) <| .cons (.spawn rfl ⟨rfl, rfl, _, rfl, rfl⟩) <|
    .cons (.act rfl ⟨trivial, rfl, rfl⟩) <| .cons (.act rfl ⟨trivial, rfl, rfl⟩) <|
    .cons (.act rfl ⟨trivial, rfl, rfl⟩) <| .cons (.act rfl ⟨?_, rfl⟩) <| .cons (.act rfl ⟨trivial, rfl, rfl⟩) <|
    .cons (.act rfl ⟨trivial, rfl, rfl⟩) <| .cons (.act rfl rfl) <| .cons (.act rfl ⟨rfl, rfl⟩) <|
    .cons (.act rfl rfl) <| .cons (.spawn rfl ⟨rfl, rfl⟩) <| .cons (.act rfl ⟨trivial, rfl, rfl⟩) <|
    .cons (.act rfl rfl) <| .cons (.act rfl rfl) <| .cons (.act rfl rfl) <| .cons (.act rfl rfl) <|
    .cons (.act rfl ⟨trivial, rfl, rfl⟩) .refl⟩
  · show 0 + 1 < 2 ^ 64
    omega
  · decide
  · rfl

theorem early_cancel_unwritten : CancelledBeforeJoin 2 "job-1" (throttleJoining ++ throttleCancelledEarly) ∧
    ∀ e, .act 2 e ∈ throttleJoining ++ throttleCancelledEarly → ¬ WritesDevice e := by
  obtain ⟨c, hrun⟩ := run_throttleCancelledEarly
  have hfirmware : ¬ TookFirmware 2 (throttleJoining ++ throttleCancelledEarly) := by
    rintro ⟨id, job, hmem⟩
    simp [throttleJoining, throttleCancelledEarly] at hmem
  have hC : Along PreparesUncancelled (throttleJoining ++ throttleCancelledEarly) := by
    intro t₁ l t₂ htr
    have hl : l ∈ throttleJoining ++ throttleCancelledEarly := by simp [htr]
    simp only [throttleJoining, throttleCancelledEarly, List.cons_append, List.nil_append, List.mem_cons,
      List.not_mem_nil, or_false] at hl
    rcases hl with rfl | rfl | rfl | rfl | rfl | rfl | rfl | rfl | rfl | rfl | rfl | rfl | rfl | rfl | rfl | rfl | rfl |
      rfl | rfl | rfl | rfl | rfl | rfl | rfl | rfl | rfl <;> try trivial
    rintro id - ⟨id', job, hmem⟩
    exact absurd ⟨id', job, htr ▸ List.mem_append_left _ hmem⟩ hfirmware
  have hcancelled : CancelledBeforeJoin 2 "job-1" (throttleJoining ++ throttleCancelledEarly) :=
    ⟨throttleJoining ++ throttleCancelledEarly.take 2, _, throttleCancelledEarly.drop 3, rfl,
      throttleJoining ++ throttleCancelledEarly.take 1, 3, [], rfl, 1, "wifred", "wiFred-config12",
      some (.program throttle), by simp [throttleJoining]⟩
  exact ⟨hcancelled, (cancelled_join_unwritten (hrun.of_along hC) (by simp [throttleJoining]) hcancelled).1⟩

/-! ### A firmware job that is cancelled before its association ends -/

private def fredAp : List ScanResult := [⟨some "longfred_prog", none, none⟩]

private def fredApEntry : CachedCandidate :=
  ⟨"longfred_prog", none, "longfred", "longfred_prog", "longfred_prog", none, .ap, false⟩

/-- An image of one byte. -/
private def apImage : FirmwareJob := ⟨.ap, "longfred.app.bin", none, none, none⟩

private def updateOverAp : Request :=
  ⟨.updateFirmware, some (.updateFirmware ⟨.ap, some ⟨"longfred", "longfred_prog"⟩, "longfred.app.bin", none, none, none⟩)⟩

/-- The device is found, an image for it is accepted, and the worker calls for the association. -/
private def uploadJoining : List (Label Op Op.Res Tag) :=
  [.spawn 0 (.request apScan), .act 0 ⟨.radioHeld, false⟩, .act 0 ⟨.lock, ()⟩, .act 0 ⟨.radio (.scan 64), .ok fredAp⟩,
    .act 0 ⟨.unlock, ()⟩, .act 0 ⟨.store (.scanned .ap (fredAp.filterMap claimScanned)), ()⟩,
    .spawn 1 (.request updateOverAp),
    .act 1 ⟨.jobs (.submit "longfred" "longfred_prog" (some (.firmware apImage))), .ok "job-1"⟩,
    .act 1 ⟨.send "job-1", .ok ()⟩, .spawn 2 (.job "job-1"), .act 2 ⟨.jobs (.isCancelled "job-1"), false⟩,
    .act 2 ⟨.jobs (.takePayload "job-1"), some (.firmware apImage)⟩,
    .act 2 ⟨.jobs (.snapshot "job-1"), some ⟨"job-1", .queued, "longfred", "longfred_prog", none, 0⟩⟩,
    .act 2 ⟨.world (.fileSize "longfred.app.bin"), some 1⟩,
    .act 2 ⟨.world (.readFile "longfred.app.bin"), .ok [0xE9]⟩,
    .act 2 ⟨.jobs (.transition "job-1" .writing (some "write") (some 0) none), ()⟩,
    .act 2 ⟨.cached "longfred" "longfred_prog", some fredApEntry⟩,
    .act 2 ⟨.jobs (.transition "job-1" .joining (some "join") none none), ()⟩, .act 2 ⟨.setHeld true, ()⟩,
    .act 2 ⟨.lock, ()⟩, .act 2 ⟨.radio (.connectOpen "longfred_prog" none), ()⟩, .act 2 ⟨.world .heartbeats, []⟩]

/-- The job is cancelled, the device is joined, and the image is uploaded to it. -/
private def uploadCancelled : List (Label Op Op.Res Tag) :=
  [.spawn 3 (.request ⟨.jobCancel, some (.job "job-1")⟩), .act 3 ⟨.jobs (.cancel "job-1"), ()⟩,
    .act 2 ⟨.radio .connected, .ok ()⟩, .act 2 ⟨.radio (.setAddress "192.168.4.2" 24), .ok ()⟩,
    .act 2 ⟨.radio .linkUp, .ok ()⟩, .act 2 ⟨.radio (.prepareSoftap "192.168.4.2" "192.168.4.1"), .ok ()⟩,
    .act 2 ⟨.unlock, ()⟩, .act 2 ⟨.jobs (.transition "job-1" .writing (some "write") none none), ()⟩,
    .act 2 ⟨.jobs (.transition "job-1" .writing (some "write") none none), ()⟩,
    .act 2 ⟨.jobs (.snapshot "job-1"),
      some ⟨"job-1", .writing, "longfred", "longfred_prog", some "cancel requested", 0⟩⟩,
    .act 2 ⟨.jobs (.transition "job-1" .writing none none (some "1 bytes")), ()⟩,
    .act 2 ⟨.world (.spawnBlocking (.firmwareHttp .longFred [0xE9] "longfred.app.bin" "192.168.4.1" 80
      (some "192.168.4.2:0") none)), ()⟩,
    .act 2 ⟨.world .heartbeats, []⟩, .act 2 ⟨.world .joinBlocking, .ok (.ok ⟨true, []⟩)⟩]

/-- The upload of a job that was cancelled before the device was joined runs to its end. -/
theorem cancelled_join_written : ∃ tr c, Runs (daemon .plain) (.init (.init 0)) tr c ∧ .spawn 2 (.job "job-1") ∈ tr ∧
    CancelledBeforeJoin 2 "job-1" tr ∧ ∃ e, .act 2 e ∈ tr ∧ WritesDevice e := by
  refine ⟨uploadJoining ++ uploadCancelled, _,
    .cons (.spawn rfl ⟨rfl, rfl⟩) <| .cons (.act rfl ⟨rfl, rfl⟩) <| .cons (.act rfl ⟨rfl, rfl⟩) <|
    .cons (.act rfl rfl) <| .cons (.act rfl ⟨rfl, rfl⟩) <| .cons (.act rfl rfl) <| .cons (.spawn rfl ⟨rfl, rfl⟩) <|
    .cons (.act rfl ⟨?_, rfl, rfl⟩) <| .cons (.act rfl ⟨?_, rfl⟩) <| .cons (.spawn rfl ⟨rfl, rfl, _, rfl, rfl⟩) <|
    .cons (.act rfl ⟨trivial, rfl, rfl⟩) <| .cons (.act rfl ⟨trivial, rfl, rfl⟩) <|
    .cons (.act rfl ⟨trivial, rfl, rfl⟩) <| .cons (.act rfl rfl) <| .cons (.act rfl rfl) <|
    .cons (.act rfl ⟨trivial, rfl, rfl⟩) <| .cons (.act rfl ⟨?_, rfl⟩) <| .cons (.act rfl ⟨trivial, rfl, rfl⟩) <|
    .cons (.act rfl rfl) <| .cons (.act rfl ⟨rfl, rfl⟩) <| .cons (.act rfl rfl) <| .cons (.act rfl rfl) <|
    .cons (.spawn rfl ⟨rfl, rfl⟩) <| .cons (.act rfl ⟨trivial, rfl, rfl⟩) <| .cons (.act rfl rfl) <|
    .cons (.act rfl rfl) <| .cons (.act rfl rfl) <| .cons (.act rfl rfl) <| .cons (.act rfl ⟨rfl, rfl⟩) <|
    .cons (.act rfl ⟨trivial, rfl, rfl⟩) <| .cons (.act rfl ⟨trivial, rfl, rfl⟩) <|
    .cons (.act rfl ⟨trivial, rfl, rfl⟩) <| .cons (.act rfl ⟨trivial, rfl, rfl⟩) <| .cons (.act rfl rfl) <|
    .cons (.act rfl rfl) <| .cons (.act rfl rfl) .refl, by simp [uploadJoining], ?_, ?_⟩
  · show 0 + 1 < 2 ^ 64
    omega
  · decide
  · rfl
  · exact ⟨uploadJoining ++ uploadCancelled.take 2, _, uploadCancelled.drop 3, rfl,
      uploadJoining ++ uploadCancelled.take 1, 3, [], rfl, 1, "longfred", "longfred_prog", some (.firmware apImage),
      by simp [uploadJoining]⟩
  · exact ⟨⟨.world (.spawnBlocking (.firmwareHttp .longFred [0xE9] "longfred.app.bin" "192.168.4.1" 80
      (some "192.168.4.2:0") none)), ()⟩, by simp [uploadCancelled], trivial⟩

end WirelessProgrammer
