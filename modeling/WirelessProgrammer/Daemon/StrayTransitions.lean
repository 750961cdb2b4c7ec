import WirelessProgrammer.Daemon.Effects
import WirelessProgrammer.Daemon.JobDiscipline

/-!
# Transitions of other jobs

A terminal transition frees the slot, whichever job it is for: `transition_leaves_iff` says when a transition of a job that
is not the one in the slot leaves the slot and the other jobs alone, and what follows for calls in any order.
-/

namespace WirelessProgrammer.JobRegistry

/-- What happens to one job has no effect on the slot or on the other jobs that have not ended. -/
structure LeavesOthers (id : String) (r r' : JobRegistry) : Prop where
  active : r'.active = r.active
  running : ∀ i rec, i ≠ id → r.lookup i = some rec → rec.snapshot.state.isTerminal = false → r'.lookup i = some rec

/-- The end of a known job is reported while another job is in the slot. -/
structure Stray (r : JobRegistry) (id : String) (state : JobState) : Prop where
  other : r.active ≠ some id
  taken : r.active.isSome = true
  known : (r.lookup id).isSome = true
  ended : state.isTerminal = true

section Transition

variable {r : JobRegistry} {id : String} (state : JobState) (step : Option String) (progress : Option UInt8)
  (detail : Option String)

private theorem transition_unknown (h : r.lookup id = none) : r.transition id state step progress detail = r := by
  rw [transition, h]

/-- Whatever a transition evicts has ended. -/
theorem transition_running_others {i : String} {rec : JobRecord} (hi : i ≠ id) (hrec : r.lookup i = some rec)
    (ht : rec.snapshot.state.isTerminal = false) : (r.transition id state step progress detail).lookup i = some rec := by
  cases hid : r.lookup id with
  | none => rwa [transition_unknown state step progress detail hid]
  | some old =>
    cases hs : state.isTerminal with
    | false =>
      rw [transition_running hid hs, lookup_put_ne hi]
      exact hrec
    | true =>
      rw [transition_ended hid hs]
      have hput : JobRegistry.lookup { r.put id (old.push id state step progress detail) with active := none } i =
          some rec := (lookup_put_ne hi _).trans hrec
      rcases evicted_evictOldJobs { r.put id (old.push id state step progress detail) with active := none } i with
        hsame | ⟨-, gone, hgone, hend, -⟩
      · exact hsame.trans hput
      · rw [hput] at hgone
        obtain rfl := Option.some.inj hgone
        rw [ht] at hend
        cases hend

/-- The slot after a transition, whichever job is in it. -/
theorem active_transition : (r.transition id state step progress detail).active =
    if (r.lookup id).isSome = true ∧ state.isTerminal = true then none else r.active := by
  cases hid : r.lookup id with
  | none =>
    rw [transition_unknown state step progress detail hid]
    exact (if_neg fun h => absurd h.1 (by simp)).symm
  | some old =>
    cases hs : state.isTerminal with
    | false =>
      rw [transition_running hid hs]
      exact (if_neg fun h => absurd h.2 (by simp)).symm
    | true =>
      rw [transition_ended hid hs, evictOldJobs_active]
      exact (if_pos ⟨rfl, rfl⟩).symm

private theorem active_of_not_stray (h : r.active ≠ some id) (hstray : ¬ Stray r id state) :
    (r.transition id state step progress detail).active = r.active := by
  rw [active_transition]
  split
  · rename_i hboth
    cases hactive : r.active with
    | none => rfl
    | some active =>
      have htaken : r.active.isSome = true := by rw [hactive]; rfl
      exact absurd ⟨h, htaken, hboth.1, hboth.2⟩ hstray
  · rfl

private theorem leavesOthers_iff (h : r.active ≠ some id) :
    LeavesOthers id r (r.transition id state step progress detail) ↔ ¬ Stray r id state := by
  constructor
  · intro hleaves hstray
    have hactive := hleaves.active
    rw [active_transition, if_pos ⟨hstray.known, hstray.ended⟩] at hactive
    have htaken := hstray.taken
    rw [← hactive] at htaken
    cases htaken
  · intro hstray
    have hactive := active_of_not_stray state step progress detail h hstray
    exact ⟨hactive, fun i rec => transition_running_others state step progress detail⟩

end Transition

/-! ### Runs -/

/-- Calls one after the other, at any times and with any ids, each with the registry that it finds; the hash map may change
its order in between. -/
inductive Calls : JobRegistry → List (JobRegistry × JobOp) → JobRegistry → Prop
  | nil (r : JobRegistry) : Calls r [] r
  | call {r r' : JobRegistry} {l : List (JobRegistry × JobOp)} (now : Nat) (o : JobOp)
      (h : Calls (o.run now r).2 l r') : Calls r ((r, o) :: l) r'
  | shuffle {r r' : JobRegistry} {jobs : AList fun _ : String => JobRecord} {l : List (JobRegistry × JobOp)}
      (hperm : jobs.entries.Perm r.jobs.entries) (h : Calls { r with jobs := jobs } l r') : Calls r l r'

/-- The call does not report the end of the job, nor the end of another known job while the slot is taken. -/
def Spares (id : String) (r : JobRegistry) : JobOp → Prop
  | .transition i state .. => ¬ r.Stray i state ∧ (i = id → state.isTerminal = false)
  | _ => True

private theorem active_run {r : JobRegistry} {id : String} (ha : r.active = some id) {o : JobOp} (ho : Spares id r o)
    (now : Nat) : (o.run now r).2.active = some id := by
  cases o with
  | submit driver key payload =>
    have hbusy : r.submit now driver key payload = (.error (.busy id), r) := submit_busy ha ..
    show (r.submit now driver key payload).2.active = some id
    rw [hbusy]
    exact ha
  | takePayload i => exact (takePayload_active r i).trans ha
  | transition i state step progress detail =>
    obtain ⟨hstray, hown⟩ := ho
    show (r.transition i state step progress detail).active = some id
    by_cases hi : i = id
    · have hrunning : ¬ ((r.lookup i).isSome = true ∧ state.isTerminal = true) := by
        intro hboth
        have hfalse := hown hi
        rw [hboth.2] at hfalse
        cases hfalse
      rw [active_transition, if_neg hrunning]
      exact ha
    · have hother : r.active ≠ some i := by
        rw [ha]
        intro heq
        exact hi (Option.some.inj heq).symm
      rw [active_of_not_stray state step progress detail hother hstray]
      exact ha
  | cancel i => exact (cancel_active r i).trans ha
  | isBusy | isCancelled | snapshot => exact ha

private theorem slot_held {r r' : JobRegistry} {l : List (JobRegistry × JobOp)} (h : Calls r l r') {id : String}
    (ha : r.active = some id) (hl : ∀ x ∈ l, Spares id x.1 x.2) : r'.active = some id := by
  induction h with
  | nil r => exact ha
  | call now o h ih =>
    obtain ⟨ho, hl⟩ := List.forall_mem_cons.1 hl
    exact ih (active_run ha ho now) hl
  | shuffle hperm h ih => exact ih ha hl

/-- A transition of a job that is not the one in the slot leaves the slot and the other jobs alone if and only if it does
not report the end of a known job while the slot is taken.  In a run of calls without such a transition the job in the slot
keeps it until its own end is reported. -/
theorem transition_leaves_iff (r : JobRegistry) (id : String) (state : JobState) (step : Option String)
    (progress : Option UInt8) (detail : Option String) (h : r.active ≠ some id) :
    (LeavesOthers id r (r.transition id state step progress detail) ↔ ¬ Stray r id state) ∧
    ∀ l r' id', Calls r l r' → r.active = some id' → (∀ x ∈ l, Spares id' x.1 x.2) → r'.active = some id' := by
  constructor
  · exact leavesOthers_iff state step progress detail h
  · intro l r' id' hcalls ha hl
    exact slot_held hcalls ha hl

/-! ### A second job -/

/-- A job has ended, and another one has the slot. -/
private def second : JobRegistry :=
  let first := (new.submit 0 "longfred" "ttyUSB0" none).2.transition "job-1" .done none none none
  (first.submit 1 "longfred" "ttyUSB0" none).2

private theorem calls_second : ∃ l, Calls .new l second :=
  ⟨_, .call 0 (.submit "longfred" "ttyUSB0" none) <| .call 0 (.transition "job-1" .done none none none) <|
    .call 1 (.submit "longfred" "ttyUSB0" none) (.nil _)⟩

private theorem active_second : second.active = some "job-2" := by decide

/-- A late report of progress. -/
theorem transition_leaves_second :
    LeavesOthers "job-1" second (second.transition "job-1" .probing none none none) ∧
      (second.transition "job-1" .probing none none none).active = some "job-2" := by
  have hother : second.active ≠ some "job-1" := by
    rw [active_second]
    decide
  have hstray : ¬ Stray second "job-1" .probing := by
    intro hstray
    exact absurd hstray.ended (by decide)
  have hcalls : Calls second [(second, .transition "job-1" .probing none none none)]
      (second.transition "job-1" .probing none none none) := .call 1 (.transition "job-1" .probing none none none) (.nil _)
  obtain ⟨hiff, hkeeps⟩ := transition_leaves_iff second "job-1" .probing none none none hother
  constructor
  · exact hiff.2 hstray
  · apply hkeeps _ _ "job-2" hcalls active_second
    intro x hx
    obtain rfl := List.mem_singleton.1 hx
    exact ⟨hstray, fun _ => rfl⟩

/-- The end of the first job, reported again, frees the slot of the second one. -/
theorem slot_freed_by_stray : ∃ l r id, Calls .new l r ∧ r.active = some "job-2" ∧ id ≠ "job-2" ∧
    ¬ LeavesOthers id r (r.transition id .failed none none none) := by
  obtain ⟨l, hl⟩ := calls_second
  refine ⟨l, second, "job-1", hl, active_second, by decide, ?_⟩
  intro hleaves
  have hactive := hleaves.active
  rw [active_second] at hactive
  exact absurd hactive (by decide)

end WirelessProgrammer.JobRegistry
