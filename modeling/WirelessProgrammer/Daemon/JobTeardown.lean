import WirelessProgrammer.Daemon.JobEnds
import WirelessProgrammer.Daemon.RadioExclusion

/-!
# The slot is freed after the teardown

A job that has joined a Soft-AP releases the radio before it ends, except when a step of the join fails: then it ends
first, and the slot is free while the radio is still to be released.
-/

namespace WirelessProgrammer

open Effect

/-- If the step is one of the worker's, it is not a failing step of a join. -/
def JoinsSucceed (tr : List (Label Op Op.Res Tag)) : Label Op Op.Res Tag → Prop
  | .act n e => (∃ id, .spawn n (.job id) ∈ tr) → ¬ (Refused e ∨ PrepareFailed e)
  | _ => True

/-- If the step is the worker's and ends its job, the worker has released the radio. -/
def EndsReleased (tr : List (Label Op Op.Res Tag)) : Label Op Op.Res Tag → Prop
  | .act n e => ∀ id, .spawn n (.job id) ∈ tr → endsJob id e = true → Released (eventsOf n tr)
  | _ => True

section Next

variable {g : JobUse} {o : Op} {r : o.Res} {id : String}

/-- What there is to release is the same in both protocols. -/
theorem next_joining_eq {u : RadioUse} (h : g.joining = u.joining) (o : Op) (r : o.Res) :
    (jobProtocol.next g o r).joining = (radioProtocol.next u o r).joining := by
  cases o with
  | jobs o =>
    cases o with
    | takePayload => rcases r with _ | (_ | _) <;> exact h
    | _ => exact h
  | radio o =>
    cases o with
    | connectOpen | connectPsk | release => rfl
    | _ => cases r <;> exact h
  | world o =>
    cases o with
    | spawnBlocking w => cases w <;> exact h
    | _ => exact h
  | _ => exact h

private theorem next_failed_eq (h : ¬ (Refused ⟨o, r⟩ ∨ PrepareFailed ⟨o, r⟩)) :
    (jobProtocol.next g o r).failed = g.failed := by
  cases o with
  | jobs o =>
    cases o with
    | takePayload => rcases r with _ | (_ | _) <;> rfl
    | _ => rfl
  | radio o =>
    cases o with
    | connectOpen | connectPsk | release => rfl
    | connected =>
      cases r with
      | ok => rfl
      | error => exact absurd (.inl trivial) h
    | setAddress | linkUp | prepareSoftap =>
      cases r with
      | ok => rfl
      | error => exact absurd (.inr trivial) h
    | scan => cases r <;> rfl
  | world o =>
    cases o with
    | spawnBlocking w => cases w <;> rfl
    | _ => rfl
  | _ => rfl

/-- A round that has ended its job does not call for another association. -/
theorem next_joining_ended (hw : g.worker = true) (hg : g.slot = .ended id) (ho : jobProtocol.allowed g o)
    (hj : g.joining = false) : (jobProtocol.next g o r).joining = false := by
  have howner {p : Prop} (h : ∃ id', g.slot = .owner id') : p := by
    obtain ⟨id', hid'⟩ := h
    exact absurd (hg.symm.trans hid') nofun
  cases o with
  | jobs o =>
    cases o with
    | takePayload => rcases r with _ | (_ | _) <;> exact hj
    | _ => exact hj
  | radio o =>
    cases o with
    | connectOpen | connectPsk => exact howner (ho.2 hw)
    | release => rfl
    | _ => cases r <;> exact hj
  | world o =>
    cases o with
    | spawnBlocking w => cases w <;> exact hj
    | _ => exact hj
  | _ => exact hj

/-- The job is ended with nothing left to release, unless a step of the join has failed. -/
theorem joining_of_endsJob (hw : g.worker = true) (hf : g.failed = false) (ho : jobProtocol.allowed g o)
    (he : endsJob id ⟨o, r⟩ = true) : g.joining = false ∧ (jobProtocol.next g o r).joining = g.joining := by
  cases o with
  | jobs o =>
    cases o with
    | transition i state step progress detail =>
      refine ⟨?_, rfl⟩
      obtain ⟨-, ht⟩ : i = id ∧ state.isTerminal = true := by simpa [endsJob] using he
      by_contra hj
      have := ho.2.1 hw ht (Bool.not_eq_false _ ▸ hj)
      exact absurd (hf.symm.trans this) Bool.false_ne_true
    | _ => cases he
  | _ => cases he

end Next

/-- No round of the worker has anything to release once it has ended its job. -/
structure TeardownInv (tr : List (Label Op Op.Res Tag)) : Prop where
  joining {n : Nat} {id : String} (h : .spawn n (.job id) ∈ tr) : (jobUse n tr).joining = (useOf n tr).joining
  failed {n : Nat} {id : String} (h : .spawn n (.job id) ∈ tr) : (jobUse n tr).failed = false
  ended {n : Nat} {id : String} (h : .spawn n (.job id) ∈ tr) (hs : (jobUse n tr).slot = .ended id) :
    (jobUse n tr).joining = false
  along : Along EndsReleased tr

variable {cfg : Config} {now : Nat} {tr : List (Label Op Op.Res Tag)} {c : Effect.Config Op Op.Res Shared}

/-- A round of the worker is at work on its job or has ended it. -/
theorem round_phase (h : Runs (daemon cfg) (.init (.init now)) tr c) {n : Nat} {id : String}
    (hn : .spawn n (.job id) ∈ tr) : (jobUse n tr).worker = true ∧
      ((jobUse n tr).slot = .owner id ∨ (jobUse n tr).slot = .ended id) := by
  obtain ⟨t₁, t₂, htr⟩ := List.append_of_mem hn
  have hround := (reachable_roundsInv h).round htr
  exact ⟨hround.worker, hround.phase.imp And.left And.left⟩

namespace TeardownInv

variable {n : Nat}

private theorem frame (h : TeardownInv tr) {l : Label Op Op.Res Tag} (huse : ∀ n, jobUse n (tr ++ [l]) = jobUse n tr)
    (hradio : ∀ n, useOf n (tr ++ [l]) = useOf n tr) (hn : ∀ n id, l ≠ .spawn n (.job id)) (hl : EndsReleased tr l) :
    TeardownInv (tr ++ [l]) := by
  have hold : ∀ {n id}, .spawn n (.job id) ∈ tr ++ [l] → .spawn n (.job id) ∈ tr := fun hmem =>
    (List.mem_append.1 hmem).resolve_right fun h => hn _ _ (List.mem_singleton.1 h).symm
  refine ⟨fun hmem => ?_, fun hmem => ?_, fun hmem hs => ?_, along_concat.2 ⟨h.along, hl⟩⟩
  · rw [huse, hradio]
    exact h.joining (hold hmem)
  · rw [huse]
    exact h.failed (hold hmem)
  · rw [huse] at hs ⊢
    exact h.ended (hold hmem) hs

private theorem spawn (h : TeardownInv tr) (hrun : Runs (daemon cfg) (.init (.init now)) tr c) (hn : c.pool n = none)
    (t : Tag) : TeardownInv (tr ++ [.spawn n t]) := by
  have hold : ∀ {m id}, .spawn m (.job id) ∈ tr ++ [.spawn n t] →
      (m = n ∧ t = .job id) ∨ m ≠ n ∧ .spawn m (.job id) ∈ tr := by
    intro m id hmem
    rcases List.mem_append.1 hmem with hbefore | hlast
    · refine .inr ⟨?_, hbefore⟩
      rintro rfl
      have hworker := (round_phase hrun hbefore).1
      rw [unstarted_idle hrun hn] at hworker
      cases hworker
    · cases List.mem_singleton.1 hlast
      exact .inl ⟨rfl, rfl⟩
  refine ⟨fun {m id} hmem => ?_, fun {m id} hmem => ?_, fun {m id} hmem hs => ?_, along_concat.2 ⟨h.along, trivial⟩⟩
  · rcases hold hmem with ⟨rfl, rfl⟩ | ⟨hne, hmem⟩
    · rw [jobUse_spawn_self, useOf_spawn, useOf, hrun.eventsOf_unstarted hn]
      rfl
    · rw [jobUse_spawn_of_ne (Ne.symm hne), useOf_spawn]
      exact h.joining hmem
  · rcases hold hmem with ⟨rfl, rfl⟩ | ⟨hne, hmem⟩
    · rw [jobUse_spawn_self]
      rfl
    · rw [jobUse_spawn_of_ne (Ne.symm hne)]
      exact h.failed hmem
  · rcases hold hmem with ⟨rfl, rfl⟩ | ⟨hne, hmem⟩
    · rw [jobUse_spawn_self] at hs
      cases hs
    · rw [jobUse_spawn_of_ne (Ne.symm hne)] at hs ⊢
      exact h.ended hmem hs

private theorem act (h : TeardownInv tr) (hrun : Runs (daemon cfg) (.init (.init now)) tr c) {o : Op} {r : o.Res}
    (ho : jobProtocol.allowed (jobUse n tr) o) (hC : JoinsSucceed tr (.act n ⟨o, r⟩)) :
    TeardownInv (tr ++ [.act n ⟨o, r⟩]) := by
  have hold {m : Nat} {id : String} (hmem : .spawn m (.job id) ∈ tr ++ [.act n ⟨o, r⟩]) : .spawn m (.job id) ∈ tr :=
    spawn_mem_act.1 hmem
  refine ⟨fun {m id} hmem => ?_, fun {m id} hmem => ?_, fun {m id} hmem hs => ?_, along_concat.2 ⟨h.along, ?_⟩⟩
  · have hmem := hold hmem
    by_cases hm : n = m
    · subst hm
      rw [jobUse_act_self, useOf_act_self]
      exact next_joining_eq (h.joining hmem) o r
    · rw [jobUse_act_of_ne hm, useOf_act_of_ne hm]
      exact h.joining hmem
  · have hmem := hold hmem
    by_cases hm : n = m
    · subst hm
      rw [jobUse_act_self, next_failed_eq (hC ⟨id, hmem⟩)]
      exact h.failed hmem
    · rw [jobUse_act_of_ne hm]
      exact h.failed hmem
  · have hmem := hold hmem
    by_cases hm : n = m
    · subst hm
      rw [jobUse_act_self] at hs ⊢
      obtain ⟨hw, howner | hended⟩ := round_phase hrun hmem
      · -- the job is ended by this step
        rw [next_owner hw howner ho] at hs
        have he : endsJob id ⟨o, r⟩ = true := by
          by_contra he
          rw [if_neg he] at hs
          cases hs
        obtain ⟨hj, hsame⟩ := joining_of_endsJob hw (h.failed hmem) ho he
        exact hsame.trans hj
      · exact next_joining_ended hw hended ho (h.ended hmem hended)
    · rw [jobUse_act_of_ne hm] at hs ⊢
      exact h.ended hmem hs
  · intro id hmem he
    obtain ⟨hj, -⟩ := joining_of_endsJob (round_phase hrun hmem).1 (h.failed hmem) ho he
    exact released_iff.2 ((h.joining hmem).symm.trans hj)

end TeardownInv

/-- In every run in which no step of a job's join fails, the worker has nothing to release whenever the slot is free, and it
has released the radio before it ends a job. -/
theorem slot_freed_released (h : Steps (daemon cfg) JoinsSucceed (.init (.init now)) tr c) :
    (c.shared.jobs.active = none → ∀ n id, .spawn n (.job id) ∈ tr → Released (eventsOf n tr)) ∧
      Along EndsReleased tr := by
  have hrun : Runs (daemon cfg) (.init (.init now)) tr c := h.mono fun _ _ _ => trivial
  have hI : TeardownInv tr := by
    refine daemon_invariant (fun tr _ => TeardownInv tr) ?_ ?_ ?_ ?_ h
    · exact fun tr c n t p s' hrun hI hn _ => hI.spawn hrun hn t
    · exact fun tr c n o r s' hrun hI ho hC _ => hI.act hrun ho hC
    · exact fun tr s s' hI _ => hI.frame (fun n => jobUse_env n tr) (fun n => useOf_env n tr) nofun trivial
    · exact ⟨nofun, nofun, nofun, along_nil _⟩
  refine ⟨fun hfree n id hmem => ?_, hI.along⟩
  rcases (round_phase hrun hmem).2 with howner | hended
  · have hactive := (reachable_slotInv hrun).1.owned howner
    exact absurd (hfree.symm.trans hactive) nofun
  · exact released_iff.2 ((hI.joining hmem).symm.trans (hI.ended hmem hended))

/-! ### A job that is cancelled after its join, and one whose join fails -/

/-- The device is found, a job for it is accepted, and the worker calls for the association. -/
def throttleJoining : List (Label Op Op.Res Tag) :=
  [.spawn 0 (.request apScan), .act 0 ⟨.radioHeld, false⟩, .act 0 ⟨.lock, ()⟩, .act 0 ⟨.radio (.scan 64), .ok seen⟩,
    .act 0 ⟨.unlock, ()⟩, .act 0 ⟨.store (.scanned .ap (seen.filterMap claimScanned)), ()⟩,
    .spawn 1 (.request programThrottle),
    .act 1 ⟨.jobs (.submit "wifred" "wiFred-config12" (some (.program throttle))), .ok "job-1"⟩,
    .act 1 ⟨.send "job-1", .ok ()⟩, .spawn 2 (.job "job-1"), .act 2 ⟨.jobs (.isCancelled "job-1"), false⟩,
    .act 2 ⟨.jobs (.takePayload "job-1"), some (.program throttle)⟩,
    .act 2 ⟨.jobs (.snapshot "job-1"), some ⟨"job-1", .queued, "wifred", "wiFred-config12", none, 0⟩⟩,
    .act 2 ⟨.cached "wifred" "wiFred-config12", some seenEntry⟩,
    .act 2 ⟨.jobs (.transition "job-1" .joining (some "join") none none), ()⟩,
    .act 2 ⟨.jobs (.isCancelled "job-1"), false⟩, .act 2 ⟨.setHeld true, ()⟩, .act 2 ⟨.lock, ()⟩,
    .act 2 ⟨.radio (.connectOpen "wiFred-config12" none), ()⟩]

/-- The device is joined, and the job is cancelled before the worker looks again. -/
private def throttleCancelled : List (Label Op Op.Res Tag) :=
  [.act 2 ⟨.radio .connected, .ok ()⟩, .act 2 ⟨.radio (.setAddress "192.168.4.2" 24), .ok ()⟩,
    .act 2 ⟨.radio .linkUp, .ok ()⟩, .act 2 ⟨.radio (.prepareSoftap "192.168.4.2" "192.168.4.1"), .ok ()⟩,
    .spawn 3 (.request ⟨.jobCancel, some (.job "job-1")⟩), .act 3 ⟨.jobs (.cancel "job-1"), ()⟩,
    .act 2 ⟨.jobs (.isCancelled "job-1"), true⟩, .act 2 ⟨.radio .release, .ok ()⟩,
    .act 2 ⟨.jobs (.transition "job-1" .cancelled none none (some "cancelled")), ()⟩]

private theorem run_throttleCancelled : ∃ c, Runs (daemon .plain) (.init (.init 0))
    (throttleJoining ++ throttleCancelled) c ∧ c.shared.jobs.active = none := by
  refine ⟨_, .cons (.spawn rfl ⟨rfl, rfl⟩) <| .cons (.act rfl ⟨rfl, rfl⟩) <| .cons (.act rfl ⟨rfl, rfl⟩) <|
    .cons (.act rfl rfl) <| .cons (.act rfl ⟨rfl, rfl⟩) <| .cons (.act rfl rfl) <| .cons (.spawn rfl ⟨rfl, rfl⟩) <|
    .cons (.act rfl ⟨?_, rfl, rfl⟩) <| .cons (.act rfl ⟨?_, rfl⟩) <| .cons (.spawn rfl ⟨rfl, rfl, _, rfl, rfl⟩) <|
    .cons (.act rfl ⟨trivial, rfl, rfl⟩) <| .cons (.act rfl ⟨trivial, rfl, rfl⟩) <|
    .cons (.act rfl ⟨trivial, rfl, rfl⟩) <| .cons (.act rfl ⟨?_, rfl⟩) <| .cons (.act rfl ⟨trivial, rfl, rfl⟩) <|
    .cons (.act rfl ⟨trivial, rfl, rfl⟩) <| .cons (.act rfl rfl) <| .cons (.act rfl ⟨rfl, rfl⟩) <|
    .cons (.act rfl rfl) <| .cons (.act rfl rfl) <| .cons (.act rfl rfl) <| .cons (.act rfl rfl) <|
    .cons (.act rfl rfl) <| .cons (.spawn rfl ⟨rfl, rfl⟩) <| .cons (.act rfl ⟨trivial, rfl, rfl⟩) <|
    .cons (.act rfl ⟨trivial, rfl, rfl⟩) <| .cons (.act rfl rfl) <| .cons (.act rfl ⟨trivial, rfl, rfl⟩) .refl, rfl⟩
  · show 0 + 1 < 2 ^ 64
    omega
  · decide
  · rfl

theorem cancelled_join_released : ∃ c, Runs (daemon .plain) (.init (.init 0)) (throttleJoining ++ throttleCancelled) c ∧
    c.shared.jobs.active = none ∧ Released (eventsOf 2 (throttleJoining ++ throttleCancelled)) := by
  obtain ⟨c, hrun, hfree⟩ := run_throttleCancelled
  have hC : Along JoinsSucceed (throttleJoining ++ throttleCancelled) := by
    intro t₁ l t₂ htr
    have hl : l ∈ throttleJoining ++ throttleCancelled := by simp [htr]
    simp only [throttleJoining, throttleCancelled, List.cons_append, List.nil_append, List.mem_cons, List.not_mem_nil,
      or_false] at hl
    rcases hl with rfl | rfl | rfl | rfl | rfl | rfl | rfl | rfl | rfl | rfl | rfl | rfl | rfl | rfl | rfl | rfl | rfl |
      rfl | rfl | rfl | rfl | rfl | rfl | rfl | rfl | rfl | rfl | rfl <;> first | trivial | exact fun _ h => h.elim id id
  exact ⟨c, hrun, hfree, (slot_freed_released (hrun.of_along hC)).1 hfree 2 "job-1" (by simp [throttleJoining])⟩

private theorem run_unaddressed_job : ∃ c, Runs (daemon .plain) (.init (.init 0))
    (throttleJoining ++ [.act 2 ⟨.radio .connected, .ok ()⟩,
      .act 2 ⟨.radio (.setAddress "192.168.4.2" 24), .error (.other "netlink")⟩,
      .act 2 ⟨.jobs (.transition "job-1" .failed (some "join") none (some "netlink")), ()⟩]) c ∧
    c.shared.jobs.active = none := by
  refine ⟨_, .cons (.spawn rfl ⟨rfl, rfl⟩) <| .cons (.act rfl ⟨rfl, rfl⟩) <| .cons (.act rfl ⟨rfl, rfl⟩) <|
    .cons (.act rfl rfl) <| .cons (.act rfl ⟨rfl, rfl⟩) <| .cons (.act rfl rfl) <| .cons (.spawn rfl ⟨rfl, rfl⟩) <|
    .cons (.act rfl ⟨?_, rfl, rfl⟩) <| .cons (.act rfl ⟨?_, rfl⟩) <| .cons (.spawn rfl ⟨rfl, rfl, _, rfl, rfl⟩) <|
    .cons (.act rfl ⟨trivial, rfl, rfl⟩) <| .cons (.act rfl ⟨trivial, rfl, rfl⟩) <|
    .cons (.act rfl ⟨trivial, rfl, rfl⟩) <| .cons (.act rfl ⟨?_, rfl⟩) <| .cons (.act rfl ⟨trivial, rfl, rfl⟩) <|
    .cons (.act rfl ⟨trivial, rfl, rfl⟩) <| .cons (.act rfl rfl) <| .cons (.act rfl ⟨rfl, rfl⟩) <|
    .cons (.act rfl rfl) <| .cons (.act rfl rfl) <| .cons (.act rfl rfl) <|
    .cons (.act rfl ⟨trivial, rfl, rfl⟩) .refl, rfl⟩
  · show 0 + 1 < 2 ^ 64
    omega
  · decide
  · rfl

/-- A job that can give the device no address frees the slot before it releases the radio. -/
theorem slot_freed_unreleased : ∃ tr c, Runs (daemon .plain) (.init (.init 0)) tr c ∧ c.shared.jobs.active = none ∧
    .spawn 2 (.job "job-1") ∈ tr ∧ ¬ Released (eventsOf 2 tr) := by
  obtain ⟨c, hrun, hfree⟩ := run_unaddressed_job
  refine ⟨_, c, hrun, hfree, by simp [throttleJoining], fun h => ?_⟩
  have hjoining := released_iff.1 h
  cases hjoining

end WirelessProgrammer
