import WirelessProgrammer.Daemon.JobEnds

/-!
# The history of jobs

Eviction runs inside the transition that ends a job.  `history_bounded` says how many jobs the daemon remembers, and which
ones it forgets.
-/

namespace WirelessProgrammer

open Effect

namespace JobRegistry

variable {r : JobRegistry} {id : String} {rec : JobRecord}

/-! ### Sizes -/

private theorem mem_keys_iff : id ∈ r.jobs.keys ↔ r.lookup id ≠ none := by
  rw [← AList.mem_keys, Ne, lookup, AList.lookup_eq_none, not_not]

private theorem size_put_known (h : r.lookup id ≠ none) (rec : JobRecord) : (r.put id rec).size = r.size := by
  have hmem : id ∈ r.jobs.keys := mem_keys_iff.2 h
  have hpos : 0 < r.jobs.keys.length := List.length_pos_of_mem hmem
  show (r.jobs.insert id rec).keys.length = r.jobs.keys.length
  rw [AList.keys_insert, List.length_cons, List.length_erase_of_mem hmem]
  omega

private theorem size_put_fresh (h : r.lookup id = none) (rec : JobRecord) : (r.put id rec).size = r.size + 1 := by
  have hmem : id ∉ r.jobs.keys := fun hmem => mem_keys_iff.1 hmem h
  show (r.jobs.insert id rec).keys.length = r.jobs.keys.length + 1
  rw [AList.keys_insert, List.length_cons, List.erase_of_not_mem hmem]

/-- Every job has ended, and the slot is free. -/
structure AllEnded (r : JobRegistry) : Prop where
  free : r.active = none
  ended : ∀ id rec, r.lookup id = some rec → rec.snapshot.state.isTerminal = true

/-- All jobs, oldest first. -/
theorem evictable_perm (h : AllEnded r) :
    r.evictable.Perm (r.jobs.entries.map fun e => (e.1, e.2.snapshot.createdAt)) := by
  unfold evictable
  rw [List.filter_eq_self.2]
  · exact List.mergeSort_perm ..
  · intro e he
    simp [h.ended e.1 e.2 (AList.mem_lookup_iff.2 he), h.free]

private theorem mem_evictable_iff (h : AllEnded r) {e : String × Nat} :
    e ∈ r.evictable ↔ ∃ rec, r.lookup e.1 = some rec ∧ rec.snapshot.createdAt = e.2 := by
  rw [(evictable_perm h).mem_iff, List.mem_map]
  constructor
  · rintro ⟨entry, hentry, rfl⟩
    exact ⟨entry.2, AList.mem_lookup_iff.2 hentry, rfl⟩
  · rintro ⟨rec, hrec, htime⟩
    exact ⟨⟨e.1, rec⟩, AList.mem_lookup_iff.1 hrec, Prod.ext rfl htime⟩

private theorem nodup_evictable (h : AllEnded r) : (r.evictable.map Prod.fst).Nodup := by
  have hperm := (evictable_perm h).map Prod.fst
  rw [hperm.nodup_iff, List.map_map]
  exact r.jobs.keys_nodup

private theorem length_evictable (h : AllEnded r) : r.evictable.length = r.size := by
  rw [(evictable_perm h).length_eq, List.length_map]
  exact (List.length_map ..).symm

private theorem excess_eq (r : JobRegistry) : r.excess = r.size - MAX_JOB_HISTORY :=
  congrArg (· - MAX_JOB_HISTORY) (List.length_map ..).symm

/-- Erasing known jobs, each of them once. -/
theorem size_foldl_erase {l : List (String × Nat)} (hl : (l.map Prod.fst).Nodup)
    {jobs : AList fun _ : String => JobRecord} (hmem : ∀ e ∈ l, e.1 ∈ jobs.keys) :
    (l.foldl (fun jobs e => jobs.erase e.1) jobs).keys.length + l.length = jobs.keys.length := by
  induction l generalizing jobs with
  | nil => rfl
  | cons e l ih =>
    obtain ⟨hnot, hl⟩ := List.nodup_cons.1 hl
    obtain ⟨he, hmem⟩ := List.forall_mem_cons.1 hmem
    have hrest : ∀ x ∈ l, x.1 ∈ (jobs.erase e.1).keys := by
      intro x hx
      have hne : x.1 ≠ e.1 := by
        intro heq
        apply hnot
        rw [← heq]
        exact List.mem_map_of_mem hx
      rw [AList.keys_erase]
      exact (List.mem_erase_of_ne hne).2 (hmem x hx)
    have hlen : (jobs.erase e.1).keys.length = jobs.keys.length - 1 := by
      rw [AList.keys_erase, List.length_erase_of_mem he]
    have hpos : 0 < jobs.keys.length := List.length_pos_of_mem he
    have ih := ih hl hrest
    rw [List.foldl_cons, List.length_cons]
    omega

private theorem mem_keys_of_evictable (h : AllEnded r) {e : String × Nat} (he : e ∈ r.evictable) :
    e.1 ∈ r.jobs.keys := by
  obtain ⟨rec, hrec, -⟩ := (mem_evictable_iff h).1 he
  rw [mem_keys_iff, hrec]
  exact Option.some_ne_none rec

/-- Eviction leaves the history full at most. -/
theorem size_evictOldJobs (h : AllEnded r) : r.evictOldJobs.size = min r.size MAX_JOB_HISTORY := by
  have hexcess := excess_eq r
  unfold evictOldJobs
  split
  · rename_i hzero
    omega
  · rename_i hover
    have hnodup : ((r.evictable.take r.excess).map Prod.fst).Nodup := by
      rw [List.map_take]
      exact (nodup_evictable h).sublist (List.take_sublist _ _)
    have hmem : ∀ e ∈ r.evictable.take r.excess, e.1 ∈ r.jobs.keys :=
      fun e he => mem_keys_of_evictable h (List.mem_of_mem_take he)
    have hfold := size_foldl_erase hnodup hmem
    have hle : r.excess ≤ r.evictable.length := by
      rw [length_evictable h]
      omega
    rw [List.length_take_of_le hle] at hfold
    have hsize : r.jobs.keys.length = r.size := rfl
    show (List.foldl _ r.jobs _).keys.length = _
    omega

/-! ### What is evicted -/

/-- The jobs were created one after the other, in the order of their numbers. -/
def Increasing (r : JobRegistry) : Prop :=
  ∀ k l rec rec', k < l → r.lookup (jobName k) = some rec → r.lookup (jobName l) = some rec' →
    rec.snapshot.createdAt < rec'.snapshot.createdAt

/-- An evicted job has ended and is older than every job that stays. -/
def EvictsOldest (r r' : JobRegistry) : Prop :=
  ∀ i rec, r.lookup i = some rec → r'.lookup i = none → rec.snapshot.state.isTerminal = true ∧
    ∀ j rec', r.lookup j = some rec' → r'.lookup j ≠ none → rec.snapshot.createdAt < rec'.snapshot.createdAt

private theorem sorted_evictable (r : JobRegistry) : r.evictable.Pairwise fun a b => a.2 ≤ b.2 := by
  have hsorted := @List.pairwise_mergeSort _ (fun a b : String × Nat => decide (a.2 ≤ b.2))
    (by intro a b c hab hbc; exact decide_eq_true ((of_decide_eq_true hab).trans (of_decide_eq_true hbc)))
    (by intro a b; rcases le_total a.2 b.2 with h | h <;> simp [h])
    ((r.jobs.entries.filter fun e => e.2.snapshot.state.isTerminal && r.active ≠ some e.1).map
      fun e => (e.1, e.2.snapshot.createdAt))
  exact hsorted.imp of_decide_eq_true

/-- An evicted job is not younger than one that stays. -/
theorem evicted_le (h : AllEnded r) {i j : String} {rec rec' : JobRecord} (hi : r.lookup i = some rec)
    (hgone : r.evictOldJobs.lookup i = none) (hj : r.lookup j = some rec') (hstays : r.evictOldJobs.lookup j ≠ none) :
    rec.snapshot.createdAt ≤ rec'.snapshot.createdAt := by
  rw [lookup_evictOldJobs] at hgone hstays
  have htaken : i ∈ (r.evictable.take r.excess).map Prod.fst := by
    by_contra hnot
    rw [if_neg hnot, hi] at hgone
    cases hgone
  have hkept : j ∉ (r.evictable.take r.excess).map Prod.fst := by
    intro hmem
    exact hstays (if_pos hmem)
  obtain ⟨e, he, rfl⟩ := List.mem_map.1 htaken
  obtain ⟨rec₀, hrec₀, htime⟩ := (mem_evictable_iff h).1 (List.mem_of_mem_take he)
  obtain rfl : rec₀ = rec := Option.some.inj (hrec₀.symm.trans hi)
  have hjmem : (j, rec'.snapshot.createdAt) ∈ r.evictable := (mem_evictable_iff h).2 ⟨rec', hj, rfl⟩
  have hdrop : (j, rec'.snapshot.createdAt) ∈ r.evictable.drop r.excess := by
    rw [← List.take_append_drop r.excess r.evictable] at hjmem
    rcases List.mem_append.1 hjmem with htake | hdrop
    · exact absurd (List.mem_map_of_mem htake) hkept
    · exact hdrop
  have hsorted := sorted_evictable r
  rw [← List.take_append_drop r.excess r.evictable] at hsorted
  have hle := (List.pairwise_append.1 hsorted).2.2 e he _ hdrop
  rw [htime]
  exact hle

private theorem Increasing.ne (h : Increasing r) (hd : r.Disciplined) {i j : String} {rec rec' : JobRecord}
    (hi : r.lookup i = some rec) (hj : r.lookup j = some rec') (hij : i ≠ j) :
    rec.snapshot.createdAt ≠ rec'.snapshot.createdAt := by
  obtain ⟨k, -, rfl⟩ := hd.known hi
  obtain ⟨l, -, rfl⟩ := hd.known hj
  rcases Nat.lt_trichotomy k l with hlt | heq | hgt
  · exact Nat.ne_of_lt (h k l _ _ hlt hi hj)
  · exact absurd (congrArg jobName heq) hij
  · exact Nat.ne_of_gt (h l k _ _ hgt hj hi)

/-- A registry with the end of a job, before old jobs are evicted. -/
def ended (r : JobRegistry) (id : String) (rec : JobRecord) : JobRegistry := { r.put id rec with active := none }

section End

variable {state : JobState} {step : Option String} {progress : Option UInt8} {detail : Option String}
  (hd : r.Disciplined) (ha : r.active = some id)

include hd ha

private theorem allEnded_ended {rec' : JobRecord} (hend : rec'.snapshot.state.isTerminal = true) :
    AllEnded (r.ended id rec') where
  free := rfl
  ended := by
    intro i rec₀ hrec₀
    have hended := hd.put_ended ha hend
    by_contra hrunning
    have hactive := (hended.active_iff i).2 ⟨rec₀, hrec₀, by simpa using hrunning⟩
    cases hactive

private theorem lookup_active : ∃ rec, r.lookup id = some rec := by
  obtain ⟨rec, hrec, -⟩ := (hd.active_iff id).1 ha
  exact ⟨rec, hrec⟩

variable (step progress detail) in
/-- The registry after the end of the job in the slot. -/
theorem transition_end (hs : state.isTerminal = true) (hrec : r.lookup id = some rec) :
    r.transition id state step progress detail = (r.ended id (rec.push id state step progress detail)).evictOldJobs ∧
      AllEnded (r.ended id (rec.push id state step progress detail)) :=
  ⟨transition_ended hrec hs step progress detail, allEnded_ended hd ha hs⟩

private theorem size_transition_end (hs : state.isTerminal = true) :
    (r.transition id state step progress detail).size = min r.size MAX_JOB_HISTORY := by
  obtain ⟨rec, hrec⟩ := lookup_active hd ha
  obtain ⟨heq, hended⟩ := transition_end step progress detail hd ha hs hrec
  have hknown : r.lookup id ≠ none := by
    rw [hrec]
    exact Option.some_ne_none rec
  have hsize : (r.ended id (rec.push id state step progress detail)).size = r.size := size_put_known hknown _
  rw [heq, size_evictOldJobs hended, hsize]

omit ha in
/-- A job that the end of another one evicts is older than one that stays. -/
theorem evicted_lt (hinc : Increasing r) {i j : String} {rec₁ rec₂ : JobRecord} (hi : r.lookup i = some rec₁)
    (hj : r.lookup j = some rec₂) (hrec : r.lookup id = some rec)
    (hended : AllEnded (r.ended id (rec.push id state step progress detail)))
    (hgone : (r.ended id (rec.push id state step progress detail)).evictOldJobs.lookup i = none)
    (hstays : (r.ended id (rec.push id state step progress detail)).evictOldJobs.lookup j ≠ none) :
    rec₁.snapshot.createdAt < rec₂.snapshot.createdAt := by
  -- the record that has been pushed was created when it was
  have hcreated : ∀ {x : String} {old : JobRecord}, r.lookup x = some old → ∃ new,
      (r.ended id (rec.push id state step progress detail)).lookup x = some new ∧
        new.snapshot.createdAt = old.snapshot.createdAt := by
    intro x old hx
    by_cases hxid : x = id
    · subst hxid
      obtain rfl := Option.some.inj (hrec.symm.trans hx)
      exact ⟨_, lookup_put_self _, rfl⟩
    · exact ⟨old, (lookup_put_ne hxid _).trans hx, rfl⟩
  obtain ⟨new₁, hnew₁, htime₁⟩ := hcreated hi
  obtain ⟨new₂, hnew₂, htime₂⟩ := hcreated hj
  have hle := evicted_le hended hnew₁ hgone hnew₂ hstays
  rw [htime₁, htime₂] at hle
  have hij : i ≠ j := by
    intro heq
    rw [heq] at hgone
    exact hstays hgone
  exact Nat.lt_of_le_of_ne hle (hinc.ne hd hi hj hij)

omit hd ha in
private theorem exists_of_size_pos (h : 0 < r.size) : ∃ j, r.lookup j ≠ none := by
  obtain ⟨j, hj⟩ := List.exists_mem_of_length_pos h
  exact ⟨j, mem_keys_iff.1 hj⟩

omit hd ha in
private theorem lookup_of_evicted {j : String} (h : r.evictOldJobs.lookup j ≠ none) : r.lookup j ≠ none := by
  rcases evicted_evictOldJobs r j with hsame | ⟨hnone, -⟩
  · rwa [← hsame]
  · exact absurd hnone h

variable (step progress detail) in
/-- The job that has just ended is the newest one, and stays. -/
theorem lookup_transition_end (hs : state.isTerminal = true) (hinc : Increasing r) (hnew : id = jobName r.seq) :
    (r.transition id state step progress detail).lookup id ≠ none := by
  intro hgone
  obtain ⟨rec, hrec⟩ := lookup_active hd ha
  obtain ⟨heq, hended⟩ := transition_end step progress detail hd ha hs hrec
  -- something stays, and it would have to be newer
  have hpos : 0 < (r.transition id state step progress detail).size := by
    have hsome : 0 < r.size := by
      have hmem : id ∈ r.jobs.keys := mem_keys_iff.2 (by rw [hrec]; exact Option.some_ne_none rec)
      exact List.length_pos_of_mem hmem
    rw [size_transition_end hd ha hs]
    exact Nat.lt_min.2 ⟨hsome, Nat.zero_lt_succ 31⟩
  obtain ⟨j, hstays⟩ := exists_of_size_pos hpos
  have hne : j ≠ id := by
    intro hj
    rw [hj] at hstays
    exact hstays hgone
  rw [heq] at hgone hstays
  obtain ⟨rec', hrec'⟩ : ∃ rec', r.lookup j = some rec' := by
    have hput : (r.ended id (rec.push id state step progress detail)).lookup j = r.lookup j := lookup_put_ne hne _
    have hkept := lookup_of_evicted hstays
    rw [hput] at hkept
    exact Option.ne_none_iff_exists'.1 hkept
  have hlt := evicted_lt hd hinc hrec hrec' hrec hended hgone hstays
  obtain ⟨l, hl, rfl⟩ := hd.known hrec'
  have hold : l < r.seq := by
    apply Nat.lt_of_le_of_ne hl
    intro heq
    apply hne
    rw [heq, hnew]
  rw [hnew] at hrec
  have hgt := hinc l r.seq _ _ hold hrec' hrec
  omega

private theorem evictsOldest_transition_end (hs : state.isTerminal = true) (hinc : Increasing r)
    (hnew : id = jobName r.seq) : EvictsOldest r (r.transition id state step progress detail) := by
  intro i rec₁ hi hgone
  have hstays := lookup_transition_end step progress detail hd ha hs hinc hnew
  obtain ⟨rec, hrec⟩ := lookup_active hd ha
  obtain ⟨heq, hended⟩ := transition_end step progress detail hd ha hs hrec
  have hne : i ≠ id := by
    rintro rfl
    exact hstays hgone
  constructor
  · exact hended.ended i rec₁ ((lookup_put_ne hne _).trans hi)
  · intro j rec₂ hj hstays
    rw [heq] at hgone hstays
    exact evicted_lt hd hinc hi hj hrec hended hgone hstays

end End

/-! ### The other operations -/

/-- The bound of the history, and the number of the job in the slot. -/
structure Bounded (r : JobRegistry) : Prop where
  size_le : r.size ≤ MAX_JOB_HISTORY + 1
  free (h : r.active = none) : r.size ≤ MAX_JOB_HISTORY
  newest {id : String} (h : r.active = some id) : id = jobName r.seq

private theorem Bounded.new : Bounded new where
  size_le := Nat.zero_le _
  free := fun _ => Nat.zero_le _
  newest := by
    intro id h
    cases h

/-- No job is removed. -/
def Keeps (r r' : JobRegistry) : Prop := ∀ i, r.lookup i ≠ none → r'.lookup i ≠ none

private theorem keeps_put (r : JobRegistry) (id : String) (rec : JobRecord) : Keeps r (r.put id rec) := by
  intro i hi
  by_cases h : i = id
  · rw [h, lookup_put_self]
    exact Option.some_ne_none rec
  · rwa [lookup_put_ne h]

private theorem Keeps.evictsOldest {r' : JobRegistry} (h : Keeps r r') : EvictsOldest r r' := by
  intro i rec hi hgone
  refine absurd hgone (h i ?_)
  rw [hi]
  exact Option.some_ne_none rec

/-- What an operation does that does not end a job. -/
theorem bounded_run (h : Bounded r) (hd : r.Disciplined) (now : Nat) {o : JobOp}
    (ho : ∀ id state step progress detail, o = .transition id state step progress detail →
      r.active = some id ∧ state.isTerminal = false) : Bounded (o.run now r).2 ∧ Keeps r (o.run now r).2 := by
  have hsame : Bounded r ∧ Keeps r r := ⟨h, fun _ hi => hi⟩
  have hput : ∀ {id : String} {rec : JobRecord} (rec' : JobRecord), r.lookup id = some rec →
      Bounded (r.put id rec') ∧ Keeps r (r.put id rec') := by
    intro id rec rec' hrec
    have hsize : (r.put id rec').size = r.size := by
      apply size_put_known
      rw [hrec]
      exact Option.some_ne_none rec
    refine ⟨⟨?_, ?_, h.newest⟩, keeps_put r id rec'⟩
    · rw [hsize]
      exact h.size_le
    · intro hfree
      rw [hsize]
      exact h.free hfree
  cases o with
  | submit driver key payload =>
    show Bounded (r.submit now driver key payload).2 ∧ Keeps r (r.submit now driver key payload).2
    cases hactive : r.active with
    | some active =>
      rw [submit_busy hactive]
      exact hsame
    | none =>
      rw [submit_free hactive]
      have hsize := size_put_fresh hd.fresh (queuedRecord now driver key payload (jobName (r.seq + 1)))
      have hfree := h.free hactive
      refine ⟨⟨?_, ?_, ?_⟩, keeps_put r _ _⟩
      · exact (Nat.le_of_eq hsize).trans (Nat.succ_le_succ hfree)
      · intro hnone
        cases hnone
      · intro id hid
        exact (Option.some.inj hid).symm
  | takePayload id =>
    show Bounded (r.takePayload id).2 ∧ Keeps r (r.takePayload id).2
    cases hrec : r.lookup id with
    | none =>
      rw [takePayload, hrec]
      exact hsame
    | some rec =>
      rw [takePayload, hrec]
      exact hput _ hrec
  | transition id state step progress detail =>
    obtain ⟨hactive, hs⟩ := ho _ _ _ _ _ rfl
    obtain ⟨rec, hrec⟩ := lookup_active hd hactive
    show Bounded (r.transition id state step progress detail) ∧ Keeps r (r.transition id state step progress detail)
    rw [transition_running hrec hs]
    exact hput _ hrec
  | cancel id =>
    show Bounded (r.cancel id) ∧ Keeps r (r.cancel id)
    cases hrec : r.lookup id with
    | none =>
      rw [cancel, hrec]
      exact hsame
    | some rec =>
      rw [cancel, hrec]
      exact hput _ hrec
  | isBusy | isCancelled | snapshot => exact hsame

end JobRegistry

/-! ### Runs of the daemon -/

open JobRegistry

/-- The end of this job is reported. -/
def ReportsEnd (id : String) : Label Op Op.Res Tag → Prop
  | .act _ ⟨.jobs (.transition id' state ..), _⟩ => id' = id ∧ state.isTerminal = true
  | _ => False

/-- The end of a job is reported. -/
def EndsAJob (l : Label Op Op.Res Tag) : Prop := ∃ id, ReportsEnd id l

/-- A step, which ends the job `ended` or none, by what it does to the history. -/
structure HistoryStep (ended : String → Prop) (r r' : JobRegistry) : Prop where
  bounded : Bounded r'
  owned (id : String) : ended id → r.active = some id
  full : (∃ id, ended id) → r'.size = min r.size MAX_JOB_HISTORY
  keeps : (¬ ∃ id, ended id) → Keeps r r'
  stays : Increasing r → ∀ id, r.active = some id → r'.lookup id ≠ none
  oldest : Increasing r → EvictsOldest r r'

section Steps

variable {cfg : Config} {now : Nat} {tr : List (Label Op Op.Res Tag)} {c c' : Effect.Config Op Op.Res Shared}
  {l : Label Op Op.Res Tag} {r r' : JobRegistry}

private theorem HistoryStep.of_keeps {ended : String → Prop} (hd : r.Disciplined) (hb : Bounded r') (hk : Keeps r r')
    (hends : ∀ id, ¬ ended id) : HistoryStep ended r r' where
  bounded := hb
  owned := fun id h => absurd h (hends id)
  full := fun ⟨id, h⟩ => absurd h (hends id)
  keeps := fun _ => hk
  stays := by
    intro _ id ha
    obtain ⟨rec, hrec⟩ := lookup_active hd ha
    apply hk
    rw [hrec]
    exact Option.some_ne_none rec
  oldest := fun _ => hk.evictsOldest

/-- The end of the job in the slot. -/
theorem HistoryStep.of_end {ended : String → Prop} {id : String} {state : JobState} (hends : ∀ i, ended i ↔ id = i)
    (hd : r.Disciplined) (hb : Bounded r) (ha : r.active = some id) (hs : state.isTerminal = true) (step : Option String)
    (progress : Option UInt8) (detail : Option String) :
    HistoryStep ended r (r.transition id state step progress detail) := by
  have hsize : (r.transition id state step progress detail).size = min r.size MAX_JOB_HISTORY :=
    size_transition_end hd ha hs
  have hle : (r.transition id state step progress detail).size ≤ MAX_JOB_HISTORY := by
    rw [hsize]
    exact Nat.min_le_right ..
  constructor
  · constructor
    · exact Nat.le_succ_of_le hle
    · exact fun _ => hle
    · intro id' hid'
      rw [transition_active hd ha, if_pos hs] at hid'
      cases hid'
  · intro i hi
    rw [ha, (hends i).1 hi]
  · exact fun _ => hsize
  · exact fun hnot => absurd ⟨id, (hends id).2 rfl⟩ hnot
  · intro hinc id' hid'
    obtain rfl := Option.some.inj (ha.symm.trans hid')
    exact lookup_transition_end step progress detail hd ha hs hinc (hb.newest ha)
  · intro hinc
    exact evictsOldest_transition_end hd ha hs hinc (hb.newest ha)

private theorem historyStep_act {s s' : Shared} {gs : Nat → Slot} {n : Nat} (h : SlotInv s gs) (hb : Bounded s.jobs)
    {o : Op} {r : o.Res} (ho : slotProtocol.allowed (gs n) o) (hsem : Sem n s o r s') :
    HistoryStep (ReportsEnd · (.act n ⟨o, r⟩)) s.jobs s'.jobs := by
  -- an operation that is not on the registry
  have hother : s'.jobs = s.jobs → (∀ id, ¬ ReportsEnd id (.act n ⟨o, r⟩)) →
      HistoryStep (ReportsEnd · (.act n ⟨o, r⟩)) s.jobs s'.jobs := by
    intro hjobs hends
    rw [hjobs]
    exact .of_keeps h.disciplined hb (fun _ hi => hi) hends
  cases o with
  | jobs o =>
    obtain ⟨-, rfl, rfl⟩ := hsem
    cases o with
    | transition id state step progress detail =>
      have ha := h.owned ho
      cases hs : state.isTerminal with
      | true => exact .of_end (fun _ => and_iff_left hs) h.disciplined hb ha hs step progress detail
      | false =>
        obtain ⟨hbounded, hkeeps⟩ := bounded_run (o := .transition id state step progress detail) hb h.disciplined s.now
          (by rintro _ _ _ _ _ ⟨⟩; exact ⟨ha, hs⟩)
        refine .of_keeps h.disciplined hbounded hkeeps ?_
        rintro i ⟨-, hend⟩
        exact absurd (hend.symm.trans hs) (by decide)
    | submit driver key payload =>
      obtain ⟨hbounded, hkeeps⟩ := bounded_run (o := .submit driver key payload) hb h.disciplined s.now
        (by rintro _ _ _ _ _ ⟨⟩)
      exact .of_keeps h.disciplined hbounded hkeeps fun _ => id
    | takePayload i =>
      obtain ⟨hbounded, hkeeps⟩ := bounded_run (o := .takePayload i) hb h.disciplined s.now (by rintro _ _ _ _ _ ⟨⟩)
      exact .of_keeps h.disciplined hbounded hkeeps fun _ => id
    | cancel i =>
      obtain ⟨hbounded, hkeeps⟩ := bounded_run (o := .cancel i) hb h.disciplined s.now (by rintro _ _ _ _ _ ⟨⟩)
      exact .of_keeps h.disciplined hbounded hkeeps fun _ => id
    | isBusy | isCancelled | snapshot => exact hother rfl fun _ => id
  | send i =>
    cases r with
    | ok => exact hother (hsem.2 ▸ rfl) fun _ => id
    | error => exact hother (hsem ▸ rfl) fun _ => id
  | cached | radioHeld | lock | unlock => exact hother (hsem.2 ▸ rfl) fun _ => id
  | store | recv | setHeld | radio | world => exact hother (hsem ▸ rfl) fun _ => id

private theorem step_history (h : Runs (daemon cfg) (.init (.init now)) tr c) (hb : Bounded c.shared.jobs)
    (hs : Step (daemon cfg) c l c') : HistoryStep (ReportsEnd · l) c.shared.jobs c'.shared.jobs := by
  obtain ⟨hI, hT⟩ := reachable_slotInv h
  cases hs with
  | @spawn s s' pool n t p hn hsp =>
    rw [show s'.jobs = s.jobs from spawn_jobs hsp]
    exact .of_keeps hI.disciplined hb (fun _ hi => hi) fun _ => id
  | @act s s' pool n o r k hn hsem =>
    have hop : Tracked jobProtocol .idle (some (.op o k)) (jobUse n tr) := hn ▸ hT n
    exact historyStep_act hI hb hop.allowed.1 hsem
  | @env s s' pool he =>
    have hlookup := env_lookup he
    obtain ⟨time, jobs, -, hperm, rfl⟩ := he
    have hsize : JobRegistry.size { s.jobs with jobs := jobs } = s.jobs.size := (hperm.map Sigma.fst).length_eq
    refine .of_keeps hI.disciplined ⟨?_, ?_, hb.newest⟩ ?_ fun _ => id
    · rw [hsize]
      exact hb.size_le
    · intro hfree
      rw [hsize]
      exact hb.free hfree
    · intro i hi
      rw [hlookup]
      exact hi

private theorem reachable_bounded (h : Runs (daemon cfg) (.init (.init now)) tr c) : Bounded c.shared.jobs := by
  induction h with
  | refl => exact .new
  | snoc hbefore _ hs ih => exact (step_history hbefore ih hs).bounded

end Steps

/-! ### A full history -/

namespace JobRegistry

private theorem Keeps.size_le {r r' : JobRegistry} (h : Keeps r r') : r.size ≤ r'.size := by
  apply (List.subperm_of_subset r.jobs.keys_nodup _).length_le
  intro id hid
  exact mem_keys_iff.2 (h id (mem_keys_iff.1 hid))

/-- The jobs of the first `k` numbers are there, each created at its number. -/
def Numbered (k : Nat) (r : JobRegistry) : Prop :=
  ∀ i, (r.lookup (jobName i)).map (·.snapshot.createdAt) = if 0 < i ∧ i ≤ k then some i else none

private theorem Numbered.created {k i : Nat} {r : JobRegistry} {rec : JobRecord} (h : Numbered k r)
    (hrec : r.lookup (jobName i) = some rec) : 0 < i ∧ rec.snapshot.createdAt = i := by
  have hi := h i
  rw [hrec] at hi
  split at hi
  · rename_i hrange
    exact ⟨hrange.1, Option.some.inj hi⟩
  · cases hi

private theorem Numbered.exists_lookup {k i : Nat} {r : JobRegistry} (h : Numbered k r) (hpos : 0 < i) (hle : i ≤ k) :
    ∃ rec, r.lookup (jobName i) = some rec ∧ rec.snapshot.createdAt = i :=
  Option.map_eq_some_iff.1 ((h i).trans (if_pos ⟨hpos, hle⟩))

private theorem Numbered.increasing {k : Nat} {r : JobRegistry} (h : Numbered k r) : Increasing r := by
  intro i j rec rec' hij hrec hrec'
  rw [(h.created hrec).2, (h.created hrec').2]
  exact hij

/-- When a job is forgotten, the first one is. -/
theorem Numbered.first_gone {k : Nat} {r r' : JobRegistry} (h : Numbered k r) (hk : 1 ≤ k) (hd : r.Disciplined)
    (holdest : EvictsOldest r r') (hless : r'.size < r.size) : r'.lookup (jobName 1) = none := by
  by_contra hstays
  -- then no job is older than the first one, and all of them are kept
  refine absurd (Keeps.size_le ?_) (Nat.not_le.2 hless)
  intro i hi hgone
  obtain ⟨rec, hrec⟩ := Option.ne_none_iff_exists'.1 hi
  obtain ⟨n, -, rfl⟩ := hd.known hrec
  obtain ⟨hpos, htime⟩ := h.created hrec
  obtain ⟨first, hlookup, hone⟩ := h.exists_lookup Nat.one_pos hk
  have hlt := (holdest _ rec hrec hgone).2 _ first hlookup hstays
  omega

private theorem Numbered.put {k : Nat} {r : JobRegistry} (h : Numbered k r) {rec : JobRecord}
    (hrec : rec.snapshot.createdAt = k + 1) : Numbered (k + 1) (r.put (jobName (k + 1)) rec) := by
  intro i
  by_cases hi : i = k + 1
  · subst hi
    rw [lookup_put_self, Option.map_some, hrec, if_pos (by omega)]
  · rw [lookup_put_ne (fun heq => hi (jobName_injective heq)), h i]
    split <;> split <;> first | rfl | omega

end JobRegistry

section Rounds

variable {jobs : AList fun _ : String => JobRecord} {cache : Cache} {pool : Nat → Option (DaemonM Unit)} {k : Nat}

/-- Some operation goes on. -/
private theorem runs_act {sys : System Op Op.Res Shared Tag} {c : Effect.Config Op Op.Res Shared}
    {tr : List (Label Op Op.Res Tag)} {n : Nat} {s s' : Shared} {o : Op} {r : o.Res} {rest : o.Res → DaemonM Unit}
    (h : Runs sys c tr ⟨s, Function.update pool n (some (.op o rest))⟩) (hsem : sys.sem n s o r s') :
    Runs sys c (tr ++ [.act n ⟨o, r⟩]) ⟨s', Function.update pool n (some (rest r))⟩ := by
  have hs := Step.act (Function.update_self n (some (Prog.op o rest)) pool) hsem
  rw [Function.update_idem] at hs
  exact .snoc h trivial hs

/-- The state after `k` jobs that have failed at once, with the registry's jobs. -/
private def afterJobs (k : Nat) (jobs : AList fun _ : String => JobRecord) (cache : Cache) : Shared :=
  ⟨⟨none, jobs, k⟩, cache, [], false, none, false, k + 1⟩

/-- The job of the request for the port. -/
private def portJob (k : Nat) : JobRecord :=
  queuedRecord (k + 1) "longfred" "ttyUSB0" (some (.firmware ⟨.usb, "longfred.elf", none, some "ttyUSB0", none⟩))
    (jobName (k + 1))

/-- The next request has been given the slot. -/
private def inSlot (k : Nat) (jobs : AList fun _ : String => JobRecord) (cache : Cache) : Shared :=
  ⟨⟨some (jobName (k + 1)), jobs.insert (jobName (k + 1)) (portJob k), k + 1⟩, cache, [], false, none, false, k + 1⟩

variable (jobs cache) in
private theorem inSlot_run (hk : k + 1 < 2 ^ 64) (hidle : pool k = none) :
    ∃ tr cache' detail rest, Runs (daemon .plain) ⟨afterJobs k jobs cache, pool⟩ tr ⟨inSlot k jobs cache',
      Function.update pool k
        (some (.op (.jobs (.transition (jobName (k + 1)) .failed none none detail)) rest))⟩ := by
  have hspawn : Runs (daemon .plain) ⟨afterJobs k jobs cache, pool⟩ [.spawn k (.request (usbRequest "ttyUSB0"))]
      ⟨afterJobs k jobs cache, Function.update pool k (some (serve .plain (usbRequest "ttyUSB0")))⟩ :=
    .snoc .refl trivial (.spawn hidle ⟨rfl, rfl⟩)
  have hstore := runs_act (r := ()) hspawn rfl
  have hsubmit := runs_act (o := .jobs (.submit "longfred" "ttyUSB0" (portJob k).payload)) (r := .ok (jobName (k + 1)))
    hstore ⟨hk, rfl, rfl⟩
  have hsend := runs_act (o := .send (jobName (k + 1))) (r := .error "closed") hsubmit rfl
  exact ⟨_, _, _, _, hsend⟩

private theorem inSlot_numbered (h : Numbered k ⟨none, jobs, k⟩) : Numbered (k + 1) (inSlot k jobs cache).jobs :=
  h.put rfl

private theorem inSlot_size (h : Numbered k ⟨none, jobs, k⟩) (hsize : jobs.keys.length = k) :
    (inSlot k jobs cache).jobs.size = k + 1 := by
  have hfresh : JobRegistry.lookup ⟨none, jobs, k⟩ (jobName (k + 1)) = none := by
    have hnext := h (k + 1)
    rw [if_neg (by omega)] at hnext
    exact Option.map_eq_none_iff.1 hnext
  exact (size_put_fresh hfresh (portJob k)).trans (congrArg (· + 1) hsize)

variable (cache) in
/-- The end of the job, while the history is not full. -/
private theorem inSlot_failed (hk : k < MAX_JOB_HISTORY) (h : Numbered k ⟨none, jobs, k⟩) (hsize : jobs.keys.length = k)
    (detail : Option String) : ∃ jobs' : AList fun _ : String => JobRecord,
      (inSlot k jobs cache).jobs.transition (jobName (k + 1)) .failed none none detail = ⟨none, jobs', k + 1⟩ ∧
      Numbered (k + 1) ⟨none, jobs', k + 1⟩ ∧ jobs'.keys.length = k + 1 := by
  let rec' := (portJob k).push (jobName (k + 1)) .failed none none detail
  have hknown : (inSlot k jobs cache).jobs.lookup (jobName (k + 1)) = some (portJob k) := AList.lookup_insert _
  have hjobs : (jobs.insert (jobName (k + 1)) (portJob k)).insert (jobName (k + 1)) rec' =
      jobs.insert (jobName (k + 1)) rec' := AList.insert_insert jobs
  have hsize' : (jobs.insert (jobName (k + 1)) rec').keys.length = k + 1 := by
    have hput := size_put_known (r := (inSlot k jobs cache).jobs) (by rw [hknown]; exact Option.some_ne_none _) rec'
    rw [← hjobs]
    exact hput.trans (inSlot_size h hsize)
  have hfits : evictOldJobs ⟨none, jobs.insert (jobName (k + 1)) rec', k + 1⟩ =
      ⟨none, jobs.insert (jobName (k + 1)) rec', k + 1⟩ := by
    apply if_pos
    rw [excess_eq]
    exact Nat.sub_eq_zero_of_le ((Nat.le_of_eq hsize').trans hk)
  refine ⟨jobs.insert (jobName (k + 1)) rec', ?_, h.put rfl, hsize'⟩
  rw [← hfits]
  exact (transition_ended hknown rfl none none detail).trans
    (congrArg (fun jobs => evictOldJobs ⟨none, jobs, k + 1⟩) hjobs)

variable (cache) in
private theorem round_run (hk : k < MAX_JOB_HISTORY) (hidle : pool k = none) (h : Numbered k ⟨none, jobs, k⟩)
    (hsize : jobs.keys.length = k) : ∃ tr jobs' cache' pool',
      Runs (daemon .plain) ⟨afterJobs k jobs cache, pool⟩ tr ⟨afterJobs (k + 1) jobs' cache', pool'⟩ ∧
      (∀ n, k < n → pool' n = pool n) ∧ Numbered (k + 1) ⟨none, jobs', k + 1⟩ ∧ jobs'.keys.length = k + 1 := by
  have hbound : k + 1 < 2 ^ 64 := by
    have : MAX_JOB_HISTORY = 32 := rfl
    omega
  obtain ⟨tr, cache', detail, rest, hrun⟩ := inSlot_run jobs cache hbound hidle
  obtain ⟨jobs', hend, hnumbered, hsize'⟩ := inSlot_failed cache' hk h hsize detail
  have hsem : Sem k (inSlot k jobs cache') (.jobs (.transition (jobName (k + 1)) .failed none none detail)) ()
      { afterJobs (k + 1) jobs' cache' with now := k + 1 } :=
    ⟨trivial, rfl, congrArg (fun jobs => (⟨jobs, cache', [], false, none, false, k + 1⟩ : Shared)) hend.symm⟩
  have henv : Env { afterJobs (k + 1) jobs' cache' with now := k + 1 } (afterJobs (k + 1) jobs' cache') :=
    ⟨k + 2, jobs', Nat.le_succ _, .rfl, rfl⟩
  refine ⟨_, jobs', cache', _, .snoc (runs_act hrun hsem) trivial (.env henv), ?_, hnumbered, hsize'⟩
  intro n hn
  exact Function.update_of_ne (Nat.ne_of_gt hn) ..

private theorem rounds_run (k : Nat) (hk : k ≤ MAX_JOB_HISTORY) : ∃ tr jobs cache pool,
    Runs (daemon .plain) (.init (.init 1)) tr ⟨afterJobs k jobs cache, pool⟩ ∧ (∀ n, k ≤ n → pool n = none) ∧
      Numbered k ⟨none, jobs, k⟩ ∧ jobs.keys.length = k := by
  induction k with
  | zero =>
    refine ⟨[], ∅, ∅, _, .refl, fun _ _ => rfl, ?_, rfl⟩
    intro i
    rw [if_neg (by omega)]
    rfl
  | succ k ih =>
    obtain ⟨tr, jobs, cache, pool, hrun, hidle, hnumbered, hsize⟩ := ih (Nat.le_of_succ_le hk)
    obtain ⟨tr', jobs', cache', pool', hround, hsame, hnumbered', hsize'⟩ :=
      round_run cache hk (hidle k le_rfl) hnumbered hsize
    refine ⟨_, jobs', cache', pool', hrun.trans hround, ?_, hnumbered', hsize'⟩
    intro n hn
    rw [hsame n hn, hidle n (Nat.le_of_succ_le hn)]

end Rounds

/-! ### The bound -/

/-- In every state that the daemon can reach it remembers at most 33 jobs.  Only the end of a job removes jobs, and as many
as leave at most 32.  If the jobs were created one after the other, no step removes the job in the slot or the job whose
end it reports, and the jobs that a step removes have ended and are older than all the others. -/
theorem history_bounded {cfg : Config} {now : Nat} {tr : List (Label Op Op.Res Tag)} {c : Effect.Config Op Op.Res Shared}
    (h : Runs (daemon cfg) (.init (.init now)) tr c) :
    c.shared.jobs.size ≤ MAX_JOB_HISTORY + 1 ∧ ∀ l c', Step (daemon cfg) c l c' →
      (EndsAJob l → c'.shared.jobs.size = min c.shared.jobs.size MAX_JOB_HISTORY) ∧
      (¬ EndsAJob l → Keeps c.shared.jobs c'.shared.jobs) ∧
      (Increasing c.shared.jobs → (∀ id, c.shared.jobs.active = some id → c'.shared.jobs.lookup id ≠ none) ∧
        (∀ id, ReportsEnd id l → c'.shared.jobs.lookup id ≠ none) ∧ EvictsOldest c.shared.jobs c'.shared.jobs) := by
  have hb := reachable_bounded h
  refine ⟨hb.size_le, ?_⟩
  intro l c' hs
  have hstep := step_history h hb hs
  refine ⟨hstep.full, hstep.keeps, fun hinc => ⟨hstep.stays hinc, ?_, hstep.oldest hinc⟩⟩
  intro id hend
  exact hstep.stays hinc id (hstep.owned id hend)

/-- When the 33rd job ends it stays, and the first one is forgotten. -/
theorem history_bounded_full : ∃ tr c l c', Runs (daemon .plain) (.init (.init 1)) tr c ∧ Step (daemon .plain) c l c' ∧
    ReportsEnd "job-33" l ∧ c.shared.jobs.size = 33 ∧ c'.shared.jobs.size = 32 ∧
    c'.shared.jobs.lookup "job-33" ≠ none ∧ c.shared.jobs.lookup "job-1" ≠ none ∧
    c'.shared.jobs.lookup "job-1" = none := by
  obtain ⟨tr, jobs, cache, pool, hrun, hidle, hnumbered, hsize⟩ := rounds_run MAX_JOB_HISTORY le_rfl
  obtain ⟨tr', cache', detail, rest, hslot⟩ :=
    inSlot_run jobs cache (by decide) (hidle MAX_JOB_HISTORY le_rfl)
  have hreach := hrun.trans hslot
  have hnumbered' : Numbered 33 (inSlot MAX_JOB_HISTORY jobs cache').jobs := inSlot_numbered hnumbered
  have hsize' : (inSlot MAX_JOB_HISTORY jobs cache').jobs.size = 33 := inSlot_size hnumbered hsize
  let r' := (inSlot MAX_JOB_HISTORY jobs cache').jobs.transition (jobName 33) .failed none none detail
  have hsem : (daemon .plain).sem MAX_JOB_HISTORY (inSlot MAX_JOB_HISTORY jobs cache')
      (.jobs (.transition (jobName 33) .failed none none detail)) ()
      { inSlot MAX_JOB_HISTORY jobs cache' with jobs := r' } := ⟨trivial, rfl, rfl⟩
  have hstep := Step.act (Function.update_self MAX_JOB_HISTORY (some (.op _ rest)) pool) hsem
  obtain ⟨-, hafter⟩ := history_bounded hreach
  obtain ⟨hfull, -, hstays⟩ := hafter _ _ hstep
  obtain ⟨-, hown, holdest⟩ := hstays hnumbered'.increasing
  have hless : r'.size = 32 := (hfull ⟨jobName 33, rfl, rfl⟩).trans (congrArg (min · MAX_JOB_HISTORY) hsize')
  have hgone := hnumbered'.first_gone (by decide) (reachable_slotInv hreach).1.disciplined holdest
    (by rw [hless, hsize']; decide)
  obtain ⟨first, hfirst, -⟩ := hnumbered'.exists_lookup Nat.one_pos (by decide)
  exact ⟨_, _, _, _, hreach, hstep, ⟨rfl, rfl⟩, hsize', hless, hown (jobName 33) ⟨rfl, rfl⟩,
    Option.ne_none_iff_exists'.2 ⟨first, hfirst⟩, hgone⟩

end WirelessProgrammer
