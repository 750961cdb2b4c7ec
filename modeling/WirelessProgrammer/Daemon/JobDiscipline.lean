import WirelessProgrammer.Daemon.Jobs

/-!
# The discipline of the job registry

`JobRegistry.Disciplined` ties the slot to the states of the jobs, and `JobRegistry.Later` compares the registry with what
it becomes.  Every operation keeps the one and leads to the other; for `transition` this asks that the job is the one in
the slot, since `transition` itself frees the slot for any id.
-/

namespace WirelessProgrammer

namespace JobRegistry

/-- The slot holds the job that has not ended, and ids come from the counter. -/
structure Disciplined (r : JobRegistry) : Prop where
  active_iff (id : String) :
    r.active = some id ↔ ∃ rec, r.lookup id = some rec ∧ rec.snapshot.state.isTerminal = false
  known {id : String} {rec : JobRecord} (h : r.lookup id = some rec) : ∃ k ≤ r.seq, id = jobName k

/-- What is left of the jobs of `r` in `r'`: a job that had ended is as it was or evicted, and no id is used again. -/
structure Later (r r' : JobRegistry) : Prop where
  seq_le : r.seq ≤ r'.seq
  gone {k : Nat} (hk : k ≤ r.seq) (h : r.lookup (jobName k) = none) : r'.lookup (jobName k) = none
  ended {id : String} {rec : JobRecord} (h : r.lookup id = some rec) (ht : rec.snapshot.state.isTerminal = true) :
    r'.lookup id = none ∨
      ∃ rec', r'.lookup id = some rec' ∧ rec'.snapshot.state = rec.snapshot.state ∧ rec'.frames = rec.frames

variable {r r' r'' : JobRegistry} {id id' : String} {rec rec' : JobRecord}

namespace Later

theorem refl (r : JobRegistry) : Later r r := ⟨le_rfl, fun _ h => h, fun h _ => .inr ⟨_, h, rfl, rfl⟩⟩

theorem trans (hd : Disciplined r) (h : Later r r') (h' : Later r' r'') : Later r r'' := by
  refine ⟨h.seq_le.trans h'.seq_le, fun hk hgone => h'.gone (hk.trans h.seq_le) (h.gone hk hgone), fun hrec ht => ?_⟩
  obtain ⟨k, hk, rfl⟩ := hd.known hrec
  rcases h.ended hrec ht with hgone | ⟨rec₁, hrec₁, hstate, hframes⟩
  · exact .inl (h'.gone (hk.trans h.seq_le) hgone)
  · rcases h'.ended hrec₁ (hstate ▸ ht) with hgone | ⟨rec₂, hrec₂, hstate₂, hframes₂⟩
    · exact .inl hgone
    · exact .inr ⟨rec₂, hrec₂, hstate₂.trans hstate, hframes₂.trans hframes⟩

end Later

namespace Disciplined

theorem new : Disciplined new where
  active_iff id := by simp [JobRegistry.new, lookup]
  known h := by simp [JobRegistry.new, lookup] at h

/-- At most one job has not ended. -/
theorem unique (hd : Disciplined r) (h : r.lookup id = some rec) (ht : rec.snapshot.state.isTerminal = false)
    (h' : r.lookup id' = some rec') (ht' : rec'.snapshot.state.isTerminal = false) : id = id' := by
  have hactive := (hd.active_iff id).2 ⟨rec, h, ht⟩
  have hactive' := (hd.active_iff id').2 ⟨rec', h', ht'⟩
  exact Option.some.inj (hactive.symm.trans hactive')

/-- The next id is fresh. -/
theorem fresh (hd : Disciplined r) : r.lookup (jobName (r.seq + 1)) = none := by
  rcases hrec : r.lookup (jobName (r.seq + 1)) with _ | rec
  · rfl
  · obtain ⟨k, hk, hname⟩ := hd.known hrec
    have := jobName_injective hname
    omega

/-! ### Changes that keep a job's state -/

/-- A record is replaced by one with the same state. -/
theorem put_sameState (hd : Disciplined r) (h : r.lookup id = some rec)
    (hs : rec'.snapshot.state = rec.snapshot.state) : Disciplined (r.put id rec') where
  active_iff i := by
    rw [put_active, hd.active_iff i]
    by_cases hi : i = id
    · subst hi
      rw [lookup_put_self, h]
      simp [hs]
    · rw [lookup_put_ne hi]
  known {i _} hrec := by
    by_cases hi : i = id
    · subst hi
      exact hd.known h
    · rw [lookup_put_ne hi] at hrec
      exact hd.known hrec

end Disciplined

private theorem Later.put_sameState (h : r.lookup id = some rec) (hs : rec'.snapshot.state = rec.snapshot.state)
    (hf : rec.snapshot.state.isTerminal = true → rec'.frames = rec.frames) : Later r (r.put id rec') where
  seq_le := le_rfl
  gone {k} _ hgone := by
    have hne : jobName k ≠ id := by
      rintro rfl
      rw [h] at hgone
      cases hgone
    rw [lookup_put_ne hne, hgone]
  ended {i rec₀} hrec ht := by
    by_cases hi : i = id
    · subst hi
      obtain rfl := Option.some.inj (h.symm.trans hrec)
      exact .inr ⟨rec', lookup_put_self _, hs, hf ht⟩
    · exact .inr ⟨rec₀, by rw [lookup_put_ne hi, hrec], rfl, rfl⟩

@[simp] theorem requestCancel_state (rec : JobRecord) (id : String) :
    (rec.requestCancel id).snapshot.state = rec.snapshot.state := by
  unfold JobRecord.requestCancel
  split <;> rfl

theorem requestCancel_frames (h : rec.snapshot.state.isTerminal = true) : (rec.requestCancel id).frames = rec.frames := by
  rw [JobRecord.requestCancel, if_pos h]

theorem Disciplined.cancel (hd : Disciplined r) (id : String) : Disciplined (r.cancel id) := by
  unfold JobRegistry.cancel
  split
  · exact hd
  · next rec hrec => exact hd.put_sameState hrec (requestCancel_state rec id)

theorem Later.cancel (r : JobRegistry) (id : String) : Later r (r.cancel id) := by
  unfold JobRegistry.cancel
  split
  · exact .refl r
  · next rec hrec => exact .put_sameState hrec (requestCancel_state rec id) requestCancel_frames

@[simp] theorem cancel_active (r : JobRegistry) (id : String) : (r.cancel id).active = r.active := by
  unfold JobRegistry.cancel
  split <;> rfl

/-- A cancel request moves no job to another state. -/
theorem cancel_state (r : JobRegistry) (id id' : String) :
    ((r.cancel id).lookup id').map (·.snapshot.state) = (r.lookup id').map (·.snapshot.state) := by
  unfold JobRegistry.cancel
  split
  · rfl
  · next rec hrec =>
    by_cases hid : id' = id
    · subst hid
      simp [hrec]
    · rw [lookup_put_ne hid]

theorem Disciplined.takePayload (hd : Disciplined r) (id : String) : Disciplined (r.takePayload id).2 := by
  unfold JobRegistry.takePayload
  split
  · next rec hrec => exact hd.put_sameState hrec rfl
  · exact hd

theorem Later.takePayload (r : JobRegistry) (id : String) : Later r (r.takePayload id).2 := by
  unfold JobRegistry.takePayload
  split
  · next rec hrec => exact .put_sameState hrec rfl fun _ => rfl
  · exact .refl r

@[simp] theorem takePayload_active (r : JobRegistry) (id : String) : (r.takePayload id).2.active = r.active := by
  unfold JobRegistry.takePayload
  split <;> rfl

/-! ### Submitting a job -/

theorem Disciplined.submit (hd : Disciplined r) (now : Nat) (driver key : String) (payload : Option JobPayload) :
    Disciplined (r.submit now driver key payload).2 := by
  rcases hactive : r.active with _ | active
  · rw [submit_free hactive]
    refine ⟨fun i => ?_, fun {i rec} hrec => ?_⟩
    · by_cases hi : i = jobName (r.seq + 1)
      · subst hi
        exact ⟨fun _ => ⟨_, lookup_put_self _, rfl⟩, fun _ => rfl⟩
      · -- the jobs that were there have all ended
        have hended : ¬∃ rec, r.lookup i = some rec ∧ rec.snapshot.state.isTerminal = false := by
          rw [← hd.active_iff i, hactive]
          exact nofun
        constructor
        · intro h
          exact absurd (Option.some.inj h).symm hi
        · rintro ⟨rec, hrec, ht⟩
          exact absurd ⟨rec, (lookup_put_ne hi _).symm.trans hrec, ht⟩ hended
    · by_cases hi : i = jobName (r.seq + 1)
      · exact ⟨r.seq + 1, le_rfl, hi⟩
      · obtain ⟨k, hk, hname⟩ := hd.known ((lookup_put_ne hi _).symm.trans hrec)
        exact ⟨k, hk.trans (Nat.le_succ _), hname⟩
  · rw [submit_busy hactive]
    exact hd

theorem Later.submit (hd : Disciplined r) (now : Nat) (driver key : String) (payload : Option JobPayload) :
    Later r (r.submit now driver key payload).2 := by
  rcases hactive : r.active with _ | active
  · rw [submit_free hactive]
    refine ⟨Nat.le_succ _, fun {k} hk hgone => ?_, fun {i rec} hrec _ => ?_⟩
    · have hne : jobName k ≠ jobName (r.seq + 1) := fun h => by
        have := jobName_injective h
        omega
      exact (lookup_put_ne hne _).trans hgone
    · have hne : i ≠ jobName (r.seq + 1) := by
        rintro rfl
        rw [hd.fresh] at hrec
        cases hrec
      exact .inr ⟨rec, (lookup_put_ne hne _).trans hrec, rfl, rfl⟩
  · rw [submit_busy hactive]
    exact .refl r

/-! ### Transitions -/

/-- A transition of a job to a state that is not terminal. -/
theorem transition_running (h : r.lookup id = some rec) {state : JobState} (hs : state.isTerminal = false)
    (step : Option String) (progress : Option UInt8) (detail : Option String) :
    r.transition id state step progress detail = r.put id (rec.push id state step progress detail) := by
  rw [transition, h]
  exact if_neg (by simp [hs])

/-- A transition of a job to a terminal state. -/
theorem transition_ended (h : r.lookup id = some rec) {state : JobState} (hs : state.isTerminal = true)
    (step : Option String) (progress : Option UInt8) (detail : Option String) :
    r.transition id state step progress detail =
      evictOldJobs { r.put id (rec.push id state step progress detail) with active := none } := by
  rw [transition, h]
  exact if_pos hs

private theorem Disciplined.evicted (hd : Disciplined r) (he : Evicted r r') (ha : r'.active = r.active)
    (hseq : r'.seq = r.seq) : Disciplined r' where
  active_iff i := by
    rw [ha, hd.active_iff i]
    rcases he i with h | ⟨h, rec, hrec, ht, -⟩
    · rw [h]
    · simp [h, hrec, ht]
  known {i rec} hrec := by
    rw [hseq]
    rcases he i with h | ⟨h, -⟩
    · exact hd.known (h ▸ hrec)
    · rw [h] at hrec
      cases hrec

private theorem Later.evicted (he : Evicted r r') (hseq : r'.seq = r.seq) : Later r r' where
  seq_le := hseq.ge
  gone {k} _ hgone := by
    rcases he (jobName k) with h | ⟨h, -⟩
    · rw [h, hgone]
    · exact h
  ended {i rec} hrec _ := by
    rcases he i with h | ⟨h, -⟩
    · exact .inr ⟨rec, by rw [h, hrec], rfl, rfl⟩
    · exact .inl h

/-- The job in the slot is pushed to a terminal state, and the slot is freed. -/
theorem Disciplined.put_ended (hd : Disciplined r) (ha : r.active = some id)
    (ht : rec'.snapshot.state.isTerminal = true) : Disciplined { r.put id rec' with active := none } := by
  obtain ⟨rec, hrec, -⟩ := (hd.active_iff id).1 ha
  refine ⟨fun i => ⟨nofun, ?_⟩, fun {i rec₀} h => ?_⟩
  · rintro ⟨rec₀, hrec₀, ht₀⟩
    by_cases hi : i = id
    · subst hi
      obtain rfl := Option.some.inj ((lookup_put_self rec').symm.trans hrec₀)
      rw [ht] at ht₀
      cases ht₀
    · have hactive := (hd.active_iff i).2 ⟨rec₀, (lookup_put_ne hi _).symm.trans hrec₀, ht₀⟩
      exact absurd (Option.some.inj (hactive.symm.trans ha)) hi
  · by_cases hi : i = id
    · subst hi
      exact hd.known hrec
    · exact hd.known ((lookup_put_ne hi _).symm.trans h)

/-- The job in the slot has not ended, so its record may change in any way. -/
theorem Later.put_active (hd : Disciplined r) (ha : r.active = some id) (active : Option String) (rec' : JobRecord) :
    Later r { r.put id rec' with active := active } := by
  obtain ⟨rec, hrec, ht⟩ := (hd.active_iff id).1 ha
  refine ⟨le_rfl, fun {k} _ hgone => ?_, fun {i rec₀} hrec₀ ht₀ => ?_⟩
  · have hne : jobName k ≠ id := by
      rintro rfl
      rw [hrec] at hgone
      cases hgone
    exact (lookup_put_ne hne _).trans hgone
  · have hne : i ≠ id := by
      rintro rfl
      obtain rfl := Option.some.inj (hrec.symm.trans hrec₀)
      rw [ht] at ht₀
      cases ht₀
    exact .inr ⟨rec₀, (lookup_put_ne hne _).trans hrec₀, rfl, rfl⟩

section Transition

variable (hd : Disciplined r) (ha : r.active = some id) (state : JobState) (step : Option String)
  (progress : Option UInt8) (detail : Option String)

include hd ha

/-- A transition of the job in the slot. -/
theorem Disciplined.transition : Disciplined (r.transition id state step progress detail) := by
  obtain ⟨rec, hrec, ht⟩ := (hd.active_iff id).1 ha
  rcases hs : state.isTerminal with _ | _
  · rw [transition_running hrec hs]
    refine ⟨fun i => ?_, fun {i _} h => ?_⟩
    · rw [JobRegistry.put_active]
      by_cases hi : i = id
      · subst hi
        exact ⟨fun _ => ⟨_, lookup_put_self _, hs⟩, fun _ => ha⟩
      · rw [lookup_put_ne hi, hd.active_iff i]
    · by_cases hi : i = id
      · subst hi
        exact hd.known hrec
      · rw [lookup_put_ne hi] at h
        exact hd.known h
  · rw [transition_ended hrec hs]
    exact (hd.put_ended ha hs).evicted (evicted_evictOldJobs _) (evictOldJobs_active _) (evictOldJobs_seq _)

theorem Later.transition : Later r (r.transition id state step progress detail) := by
  obtain ⟨rec, hrec, ht⟩ := (hd.active_iff id).1 ha
  rcases hs : state.isTerminal with _ | _
  · rw [transition_running hrec hs]
    exact Later.put_active hd ha r.active _
  · rw [transition_ended hrec hs]
    exact (Later.put_active hd ha none _).trans hd (.evicted (evicted_evictOldJobs _) (evictOldJobs_seq _))

theorem transition_active :
    (r.transition id state step progress detail).active = if state.isTerminal then none else r.active := by
  obtain ⟨rec, hrec, ht⟩ := (hd.active_iff id).1 ha
  rcases hs : state.isTerminal with _ | _
  · rw [transition_running hrec hs]
    rfl
  · rw [transition_ended hrec hs, evictOldJobs_active]
    rfl

end Transition

/-! ### The order of the hash map -/

theorem Disciplined.of_lookup (hd : Disciplined r) (ha : r'.active = r.active) (hseq : r'.seq = r.seq)
    (h : ∀ id, r'.lookup id = r.lookup id) : Disciplined r' :=
  hd.evicted (fun id => .inl (h id)) ha hseq

theorem Later.of_lookup (hseq : r'.seq = r.seq) (h : ∀ id, r'.lookup id = r.lookup id) : Later r r' :=
  .evicted (fun id => .inl (h id)) hseq

theorem lookup_perm {jobs jobs' : AList fun _ : String => JobRecord} (h : jobs'.entries.Perm jobs.entries)
    (active : Option String) (seq : Nat) (id : String) :
    (JobRegistry.mk active jobs' seq).lookup id = (JobRegistry.mk active jobs seq).lookup id := AList.perm_lookup h

end JobRegistry

end WirelessProgrammer
