import WirelessProgrammer.Daemon.System

/-!
# What an operation does with its job

Every operation of the daemon follows the protocol of the job slot: whoever submits a job owns it until it is handed to the
worker, the worker owns the job it works on, only the owner moves a job to another state, and only as long as the job has
not ended.

`jobProtocol` adds what the worker does for its job.  It ends the job only when it has nothing to release or a step of the
join has failed, it reports success only after it has seen that the job is not cancelled, and it writes to a device that it
has joined only after such a look, or for a firmware job as soon as the link is ready.  Before it joins a device it writes
to none.
-/

namespace WirelessProgrammer

open Effect

/-- What an operation has to do with the job slot. -/
inductive Slot
  | free
  | owner (id : String)
  | ended (id : String)
  deriving DecidableEq, Repr

/-- The owner of a job sees it in a state that is not terminal. -/
def slotProtocol : Protocol Op Op.Res Slot where
  allowed g
    | .jobs (.submit ..) => g = .free
    | .jobs (.transition id ..) => g = .owner id
    | .send id => g = .owner id
    | .recv => ∃ id, g = .ended id
    | _ => True
  answers g
    | .jobs (.snapshot id), r => g = .owner id → ∃ s, r = some s ∧ s.state.isTerminal = false
    | _, _ => True
  next g
    | .jobs (.submit ..), .ok id => .owner id
    | .jobs (.transition id state ..), _ => if state.isTerminal then .ended id else g
    | .send _, .ok _ => .free
    | _, _ => g

/-- What an operation has done for its job so far. -/
structure JobUse where
  /-- It is a round of the worker. -/
  worker : Bool
  slot : Slot
  /-- The job it has taken is a firmware job. -/
  firmware : Bool
  /-- It has called `radio_join`, and has not released the radio since. -/
  joining : Bool
  /-- `radio_join`, or a step between it and the exchange with the device, has failed. -/
  failed : Bool
  /-- `radio_join` has returned. -/
  joined : Bool
  /-- After that `prepare_softap` has succeeded. -/
  prepared : Bool
  /-- Its last look at the cancel flag, since `radio_join` has returned if it has, has found the flag clear. -/
  checked : Bool
  /-- Some look at the cancel flag, since `radio_join` has returned if it has, has found the flag clear. -/
  clear : Bool
  /-- It has written to a device. -/
  wrote : Bool

namespace JobUse

def idle : JobUse := ⟨false, .free, false, false, false, false, false, false, false, false⟩

/-- Where an operation starts. -/
def start : Tag → JobUse
  | .request _ => idle
  | .job id => { idle with worker := true, slot := .owner id }

/-- After a look at the cancel flag. -/
def looked (g : JobUse) (cancelled : Bool) : JobUse :=
  { g with checked := !cancelled, clear := g.clear || !cancelled }

/-- What an operation makes of an answer. -/
def note (g : JobUse) : (o : Op) → o.Res → JobUse
  | .jobs (.takePayload _), some (.firmware _) => { g with firmware := true }
  | .jobs (.isCancelled _), cancelled => g.looked cancelled
  | .radio (.connectOpen ..), _ => { g with joining := true }
  | .radio (.connectPsk ..), _ => { g with joining := true }
  | .radio .connected, .ok _ => { g with joined := true, prepared := false, checked := false, clear := false }
  | .radio .connected, .error _ =>
    { g with joined := true, prepared := false, checked := false, clear := false, failed := true }
  | .radio (.setAddress ..), .error _ => { g with failed := true }
  | .radio .linkUp, .error _ => { g with failed := true }
  | .radio (.prepareSoftap ..), .error _ => { g with failed := true }
  | .radio (.prepareSoftap ..), .ok _ => { g with prepared := true }
  | .radio .release, _ => { g with joining := false }
  | .world (.request ..), _ => { g with wrote := true }
  | .world (.spawnBlocking (.firmwareHttp ..)), _ => { g with wrote := true }
  | _, _ => g

/-- The worker may write to the device. -/
def MayWrite (g : JobUse) : Prop :=
  g.joined = true → g.clear = true ∨ g.firmware = true ∧ g.prepared = true

/-- What the worker owes its job, whoever else is at work. -/
def Permits (g : JobUse) : Op → Prop
  | .jobs (.takePayload id) => g.worker = true → g.slot = .owner id ∧ g.joined = false
  | .jobs (.isCancelled id) => g.worker = true → g.slot = .owner id
  | .jobs (.transition _ state ..) =>
    (g.worker = true → state.isTerminal = true → g.joining = true → g.failed = true) ∧
      (state = .done → g.worker = true ∧ g.checked = true ∧ g.clear = true)
  | .send _ => g.worker = false
  | .radio (.connectOpen ..) => g.worker = true → ∃ id, g.slot = .owner id
  | .radio (.connectPsk ..) => g.worker = true → ∃ id, g.slot = .owner id
  | .radio .connected => g.worker = true → (∃ id, g.slot = .owner id) ∧ g.wrote = false
  | .world (.request ..) => g.worker = true → (∃ id, g.slot = .owner id) ∧ g.MayWrite
  | .world (.spawnBlocking (.firmwareHttp ..)) => g.worker = true ∧ (∃ id, g.slot = .owner id) ∧ g.MayWrite
  | _ => True

end JobUse

def jobProtocol : Protocol Op Op.Res JobUse where
  allowed g o := slotProtocol.allowed g.slot o ∧ g.Permits o
  answers g o r := slotProtocol.answers g.slot o r
  next g o r := { g.note o r with slot := slotProtocol.next g.slot o r }

/-- Operations that have nothing to do with the job, or only look at it. -/
def Aside : Op → Prop
  | .jobs .isBusy => True
  | .jobs (.cancel _) => True
  | .jobs (.snapshot _) => True
  | .jobs _ => False
  | .send _ => False
  | .recv => False
  | .radio _ => False
  | .world (.request ..) => False
  | .world (.spawnBlocking (.firmwareHttp ..)) => False
  | _ => True

private theorem jobProtocol_aside {o : Op} (h : Aside o) (g : JobUse) :
    jobProtocol.allowed g o ∧ ∀ r, jobProtocol.next g o r = g := by
  cases o with
  | jobs o =>
    cases o with
    | isBusy | cancel | snapshot => exact ⟨⟨trivial, trivial⟩, fun _ => rfl⟩
    | _ => exact h.elim
  | world o =>
    cases o with
    | request => exact h.elim
    | spawnBlocking w =>
      cases w with
      | firmwareHttp => exact h.elim
      | flashUsb => exact ⟨⟨trivial, trivial⟩, fun _ => rfl⟩
    | _ => exact ⟨⟨trivial, trivial⟩, fun _ => rfl⟩
  | send | recv | radio => exact h.elim
  | _ => exact ⟨⟨trivial, trivial⟩, fun _ => rfl⟩

/-! ### Rules -/

section

variable {α β : Type} {id : String} {g : JobUse} {Q : β → JobUse → Prop}

/-- Code that has nothing to do with the job. -/
theorem follows_allAside {p : DaemonM α} {f : α → DaemonM β} (hp : p.All Aside)
    (hf : ∀ a, (f a).Follows jobProtocol Q g) : (p >>= f).Follows jobProtocol Q g :=
  Prog.Follows.bind (hp.follows (fun _ ho => jobProtocol_aside ho) g) fun a g' hg => by
    subst hg
    exact hf a

/-- One operation that has nothing to do with the job. -/
theorem follows_aside {o : Op} {k : o.Res → DaemonM β} (ho : Aside o)
    (hk : ∀ r, (k r).Follows jobProtocol Q g) : (perform o >>= k).Follows jobProtocol Q g :=
  follows_allAside (.perform ho) hk

/-- The mutex has nothing to do with the job. -/
theorem follows_withRadio {p : DaemonM β} (h : p.Follows jobProtocol Q g) : (withRadio p).Follows jobProtocol Q g :=
  follows_aside trivial fun _ => Prog.Follows.bind h fun _ _ hq => follows_aside trivial fun _ => hq

theorem follows_withHold {p : DaemonM β} (h : p.Follows jobProtocol Q g) : (withHold p).Follows jobProtocol Q g :=
  follows_aside trivial fun _ => Prog.Follows.bind h fun _ _ hq => follows_aside trivial fun _ => hq

/-- Code that has nothing to do with the job, or that leaves what has been done for it as it is. -/
abbrev Still (p : DaemonM α) (g : JobUse) : Prop := p.Follows jobProtocol (fun _ g' => g' = g) g

theorem Still.bind {p : DaemonM α} {f : α → DaemonM β} (hp : Still p g)
    (hf : ∀ a, (f a).Follows jobProtocol Q g) : (p >>= f).Follows jobProtocol Q g :=
  Prog.Follows.bind hp fun a _ hg => hg ▸ hf a

/-! ### The owner of a job -/

/-- The worker, at work on its job. -/
structure JobUse.Working (id : String) (g : JobUse) : Prop where
  worker : g.worker = true
  slot : g.slot = .owner id

/-- The worker has ended its job, with nothing left to release. -/
structure JobUse.Ended (id : String) (g : JobUse) : Prop where
  slot : g.slot = .ended id
  joining : g.joining = false

/-- The program may run while it owns the job, and the job has ended afterwards. -/
abbrev EndsJob (id : String) (p : DaemonM α) (g : JobUse) : Prop := p.Follows jobProtocol (fun _ => JobUse.Ended id) g

/-- The owner sees its job, and the job has not ended. -/
theorem follows_snapshot {k : Option JobSnapshot → DaemonM β} (hg : g.slot = .owner id)
    (hk : ∀ s : JobSnapshot, s.state.isTerminal = false → (k (some s)).Follows jobProtocol Q g) :
    (snapshot id >>= k).Follows jobProtocol Q g := by
  refine Prog.follows_perform.2 ⟨⟨trivial, trivial⟩, fun r hr => ?_⟩
  obtain ⟨s, rfl, hs⟩ := hr hg
  exact hk s hs

theorem follows_isCancelled {k : Bool → DaemonM β} (hg : g.slot = .owner id)
    (hk : ∀ cancelled, (k cancelled).Follows jobProtocol Q (g.looked cancelled)) :
    (isCancelled id >>= k).Follows jobProtocol Q g :=
  Prog.follows_perform.2 ⟨⟨trivial, fun _ => hg⟩, fun r _ => hk r⟩

/-- The owner moves its job to a state that is not terminal. -/
theorem transition_still {state : JobState} (hg : g.slot = .owner id) (h : state.isTerminal = false)
    (step : Option String) (progress : Option UInt8) (detail : Option String) :
    Still (transition id state step progress detail) g := by
  refine ⟨⟨hg, ⟨fun _ ht => ?_, ?_⟩⟩, fun _ _ => ?_⟩
  · rw [h] at ht
    cases ht
  · rintro rfl
    cases h
  · show { g with slot := if state.isTerminal then .ended id else g.slot } = g
    rw [h]
    rfl

/-- The owner ends its job. -/
theorem follows_end (state : JobState) (hg : g.slot = .owner id) (h : state.isTerminal = true)
    (hj : g.joining = true → g.failed = true)
    (hd : state = .done → g.worker = true ∧ g.checked = true ∧ g.clear = true) (step : Option String)
    (progress : Option UInt8) (detail : Option String) :
    (transition id state step progress detail).Follows jobProtocol (fun _ g' => g' = { g with slot := .ended id }) g :=
  ⟨⟨hg, ⟨fun _ _ => hj, hd⟩⟩, fun _ _ => by
    show { g with slot := if state.isTerminal then .ended id else g.slot } = _
    rw [h]
    rfl⟩

private theorem transition_endsJob {state : JobState} (hg : g.slot = .owner id) (hj : g.joining = false)
    (h : state.isTerminal = true) (hd : state ≠ .done) (step : Option String) (progress : Option UInt8)
    (detail : Option String) : EndsJob id (transition id state step progress detail) g := by
  refine (follows_end state hg h (fun hj' => ?_) (fun h => absurd h hd) ..).mono fun _ g' hg' => ?_
  · rw [hj] at hj'
    cases hj'
  · subst hg'
    exact ⟨rfl, hj⟩

theorem failJob_endsJob (hg : g.slot = .owner id) (hj : g.joining = false) (step : Option String) (detail : String) :
    EndsJob id (failJob id step detail) g := transition_endsJob hg hj rfl (by decide) ..

theorem cancelledJob_endsJob (hg : g.slot = .owner id) (hj : g.joining = false) : EndsJob id (cancelledJob id) g :=
  transition_endsJob hg hj rfl (by decide) ..

end

end WirelessProgrammer
