import WirelessProgrammer.Daemon.RadioRequests

/-!
# Turns on the radio

How an operation comes to the radio's mutex.  A request that uses the radio first reads `radio_held`, and goes on only if it
has found the flag clear.  The worker does not read the flag: it takes a `RadioHold`, keeps it while its session lasts, with
the mutex or without, and goes back to wait for the next job when the hold has been dropped.
-/

namespace WirelessProgrammer

open Effect

/-- What an operation has done to get its turn on the radio. -/
structure Turn where
  /-- It is a round of the worker. -/
  worker : Bool
  /-- It has read `radio_held`, and found the flag clear. -/
  admitted : Bool
  /-- Its `RadioHold` is alive. -/
  held : Bool
  /-- It holds the mutex. -/
  locked : Bool
  /-- It has been associated, and has not released the radio since. -/
  session : Bool
  /-- It has gone back to wait for a job. -/
  returned : Bool

namespace Turn

def idle : Turn := ⟨false, false, false, false, false, false⟩

/-- Where an operation starts. -/
def start : Tag → Turn
  | .request _ => idle
  | .job _ => { idle with worker := true }

/-- A session goes on without the mutex. -/
def Parked (g : Turn) : Prop := g.session = true ∧ g.locked = false

/-- The worker, at work on its job. -/
abbrev job (held locked session : Bool) : Turn := ⟨true, false, held, locked, session, false⟩

/-- A request, with or without a turn. -/
structure Request (g : Turn) : Prop where
  request : g.worker = false
  running : g.returned = false

/-- A request that has found the flag clear. -/
structure Admitted (g : Turn) : Prop extends g.Request where
  admitted : g.admitted = true
  unlocked : g.locked = false

/-- A request under the mutex. -/
structure UnderMutex (g : Turn) : Prop extends g.Request where
  locked : g.locked = true

end Turn

def turnProtocol : Protocol Op Op.Res Turn where
  allowed g o := g.returned = false ∧ match o with
    | .lock => g.locked = false ∧ (g.worker = true → g.held = true) ∧ (g.worker = false → g.admitted = true)
    | .unlock => g.locked = true
    | .radio _ => g.locked = true
    | .setHeld false => g.worker = true → g.locked = false ∧ g.session = false
    | .recv => g.worker = true ∧ g.held = false
    | _ => True
  answers _ _ _ := True
  next g
    | .radioHeld, held => { g with admitted := g.admitted || !held }
    | .setHeld held, _ => { g with held := held }
    | .lock, _ => { g with locked := true }
    | .unlock, _ => { g with locked := false }
    | .radio .connected, .ok _ => { g with session := true }
    | .radio .release, _ => { g with session := false }
    | .recv, _ => { g with returned := true }
    | _, _ => g

/-! ### Rules -/

/-- Operations that have nothing to do with turns. -/
def OffRadio : Op → Prop
  | .jobs _ => True
  | .cached .. => True
  | .store _ => True
  | .send _ => True
  | .world _ => True
  | _ => False

/-- Operations under the mutex that do not give it back. -/
def OnRadio : Op → Prop
  | .radio _ => True
  | o => OffRadio o

private theorem offRadio_of_wired {o : Op} (h : Wired o) : OffRadio o := by
  cases o with
  | jobs | cached | store | send | world => trivial
  | _ => exact h.elim

private theorem onRadio_of_quiet {o : Op} (h : Quiet o) : OnRadio o := by
  cases o with
  | jobs | send | world => trivial
  | _ => exact h.elim

private theorem turnProtocol_offRadio {o : Op} (h : OffRadio o) {g : Turn} (hg : g.returned = false) :
    turnProtocol.allowed g o ∧ ∀ r, turnProtocol.next g o r = g := by
  cases o with
  | jobs | cached | store | send | world => exact ⟨⟨hg, trivial⟩, fun _ => rfl⟩
  | _ => exact h.elim

private theorem turnProtocol_onRadio {o : Op} (h : OnRadio o) (g : Turn) (hg : g.UnderMutex) :
    turnProtocol.allowed g o ∧ ∀ r, (turnProtocol.next g o r).UnderMutex := by
  cases o with
  | radio o =>
    refine ⟨⟨hg.running, hg.locked⟩, fun r => ?_⟩
    cases o with
    | connected => cases r <;> exact ⟨⟨hg.request, hg.running⟩, hg.locked⟩
    | _ => exact ⟨⟨hg.request, hg.running⟩, hg.locked⟩
  | jobs | cached | store | send | world => exact ⟨⟨hg.running, trivial⟩, fun _ => hg⟩
  | _ => exact h.elim

section

variable {α β : Type} {id : String} {g : Turn} {Q : β → Turn → Prop}

private theorem still_of_offRadio {p : DaemonM α} (h : p.All OffRadio) (hg : g.returned = false) :
    p.Follows turnProtocol (fun _ g' => g' = g) g :=
  h.keeps (I := fun g' => g' = g) (fun _ ho g' hg' => by
    subst hg'
    exact turnProtocol_offRadio ho hg) rfl

private theorem follows_offRadio {p : DaemonM α} {f : α → DaemonM β} (hp : p.All OffRadio) (hg : g.returned = false)
    (hf : ∀ a, (f a).Follows turnProtocol Q g) : (p >>= f).Follows turnProtocol Q g :=
  (still_of_offRadio hp hg).bind fun a g' hg' => by
    subst hg'
    exact hf a

private theorem quiet_offRadio {p : DaemonM α} (h : p.All Quiet) : p.All OffRadio :=
  (all_wired h).mono fun _ => offRadio_of_wired

private theorem wired_offRadio {p : DaemonM α} (h : p.All Wired) : p.All OffRadio := h.mono fun _ => offRadio_of_wired

/-- One operation that has nothing to do with turns. -/
theorem follows_offStep {o : Op} {f : o.Res → DaemonM β} (ho : OffRadio o) (hg : g.returned = false)
    (hf : ∀ r, (f r).Follows turnProtocol Q g) : (perform o >>= f).Follows turnProtocol Q g :=
  follows_offRadio (.perform ho) hg hf

/-- A call of the radio. -/
theorem follows_onRadio {o : RadioOp} {f : o.Res → DaemonM β} (hg : g.returned = false) (hl : g.locked = true)
    (hf : ∀ r, (f r).Follows turnProtocol Q (turnProtocol.next g (.radio o) r)) :
    (radio o >>= f).Follows turnProtocol Q g :=
  Prog.follows_perform.2 ⟨⟨hg, hl⟩, fun r _ => hf r⟩

/-! ### The worker -/

/-- What a join under the mutex leaves: no session if the job does not go on. -/
abbrev AfterJoin (locked ready : Bool) (g : Turn) : Prop :=
  ∃ session, g = .job true locked session ∧ (ready = false → session = false)

private theorem abandonJoin_turn {session : Bool} (e : DriverError) :
    (abandonJoin id e).Follows turnProtocol (AfterJoin true) (.job true true session) :=
  follows_offRadio (quiet_offRadio (transition_quiet ..)) rfl fun _ =>
    follows_onRadio rfl rfl fun _ => ⟨false, rfl, fun _ => rfl⟩

private theorem prepareLink_turn {session : Bool} (net : CommissioningNet) (associated : Except DriverError Unit) :
    (prepareLink id net associated).Follows turnProtocol (AfterJoin true) (.job true true session) := by
  rcases associated with e | ⟨⟩
  · exact abandonJoin_turn e
  refine follows_onRadio rfl rfl fun addressed => ?_
  rcases addressed with e | ⟨⟩
  · exact abandonJoin_turn e
  refine follows_onRadio rfl rfl fun up => ?_
  rcases up with e | ⟨⟩
  · exact abandonJoin_turn e
  refine follows_onRadio rfl rfl fun prepared => ?_
  rcases prepared with e | ⟨⟩
  · exact abandonJoin_turn e
  · exact ⟨session, rfl, nofun⟩

private theorem connect_turn {session : Bool} {candidate : CachedCandidate} (psk : Option String) {f : Unit → DaemonM β}
    (hf : (f ()).Follows turnProtocol Q (.job true true session)) :
    (connect candidate psk >>= f).Follows turnProtocol Q (.job true true session) := by
  cases psk with
  | none => exact follows_onRadio rfl rfl fun _ => hf
  | some psk => exact follows_onRadio rfl rfl fun _ => hf

/-- The association comes back, and the job goes on with or without a session. -/
theorem connected_turn {session : Bool} {f : Except DriverError Unit → DaemonM β}
    (hf : ∀ r session, (f r).Follows turnProtocol Q (.job true true session)) :
    (radio .connected >>= f).Follows turnProtocol Q (.job true true session) :=
  follows_onRadio rfl rfl fun r => by
    cases r with
    | error e => exact hf _ session
    | ok u => exact hf _ true

private theorem joinForProgram_turn (candidate : CachedCandidate) (net : CommissioningNet) (driver : Driver) :
    (joinForProgram id candidate net driver).Follows turnProtocol (AfterJoin true) (.job true true false) := by
  have hjoin : (radioJoin candidate driver.capabilities.softapPsk).Follows turnProtocol
      (fun _ g' => ∃ session, g' = .job true true session) (.job true true false) := by
    refine connect_turn _ (follows_onRadio rfl rfl fun r => ?_)
    cases r with
    | error e => exact ⟨false, rfl⟩
    | ok u => exact ⟨true, rfl⟩
  refine hjoin.bind fun associated g' hg' => ?_
  obtain ⟨session, rfl⟩ := hg'
  refine (prepareLink_turn net associated).bind fun ready g' hg' => ?_
  cases ready with
  | false => exact hg'
  | true =>
    obtain ⟨session, rfl, -⟩ := hg'
    refine follows_offStep trivial rfl fun cancelled => ?_
    cases cancelled with
    | false => exact ⟨session, rfl, nofun⟩
    | true =>
      refine follows_onRadio rfl rfl fun _ => ?_
      exact follows_offRadio (quiet_offRadio (transition_quiet ..)) rfl fun _ => ⟨false, rfl, fun _ => rfl⟩

private theorem joinForFirmware_turn (candidate : CachedCandidate) (net : CommissioningNet) (driver : Driver) :
    (joinForFirmware id candidate net driver).Follows turnProtocol (AfterJoin true) (.job true true false) := by
  refine connect_turn _ (follows_offStep trivial rfl fun beats => ?_)
  refine follows_offRadio (quiet_offRadio (.forM fun _ _ => detail_quiet _)) rfl fun _ => ?_
  exact connected_turn fun associated _ => prepareLink_turn net associated

/-- The worker joins a device under the mutex, with its hold. -/
theorem withRadio_turn {p : DaemonM Bool} (h : p.Follows turnProtocol (AfterJoin true) (.job true true false)) :
    (withRadio p).Follows turnProtocol (AfterJoin false) (.job true false false) := by
  refine Prog.follows_perform.2 ⟨⟨rfl, rfl, fun _ => rfl, nofun⟩, fun _ _ => ?_⟩
  refine Prog.Follows.bind h fun ready g' hg' => ?_
  obtain ⟨session, rfl, hsession⟩ := hg'
  exact Prog.follows_perform.2 ⟨⟨rfl, rfl⟩, fun _ _ => ⟨session, rfl, hsession⟩⟩

private theorem releaseRadio_turn {session : Bool} :
    releaseRadio.Follows turnProtocol (fun _ g' => g' = .job true false false) (.job true false session) := by
  refine Prog.follows_perform.2 ⟨⟨rfl, rfl, fun _ => rfl, nofun⟩, fun _ _ => follows_onRadio rfl rfl fun _ => ?_⟩
  exact Prog.follows_perform.2 ⟨⟨rfl, rfl⟩, fun _ _ => rfl⟩

/-- The worker's job, with no hold before and after it. -/
abbrev KeepsTurn (p : DaemonM α) : Prop :=
  p.Follows turnProtocol (fun _ g' => g' = .job false false false) (.job false false false)

private theorem keepsTurn_of_offRadio {p : DaemonM α} (h : p.All OffRadio) : KeepsTurn p := still_of_offRadio h rfl

/-- The worker's hold is dropped when its session has ended. -/
theorem withHold_turn {p : DaemonM α}
    (h : p.Follows turnProtocol (fun _ g' => g' = .job true false false) (.job true false false)) :
    KeepsTurn (withHold p) := by
  refine Prog.follows_perform.2 ⟨⟨rfl, trivial⟩, fun _ _ => Prog.Follows.bind h fun _ g' hg' => ?_⟩
  subst hg'
  exact Prog.follows_perform.2 ⟨⟨rfl, fun _ => ⟨rfl, rfl⟩⟩, fun _ _ => rfl⟩

section

variable (cfg : Config)

private theorem programSoftAp_turn (candidate : CachedCandidate) (driver : Driver) (wire : ProgramRequestWire) :
    KeepsTurn (programSoftAp cfg id candidate driver wire) := by
  have hjoin := @joinForProgram_turn id candidate (cfg.effectiveNet driver) driver
  refine withHold_turn ((withRadio_turn hjoin).bind fun ready g' hg' => ?_)
  obtain ⟨session, rfl, hsession⟩ := hg'
  cases ready with
  | false =>
    obtain rfl := hsession rfl
    exact rfl
  | true =>
    refine follows_offRadio (quiet_offRadio (programDevice_quiet ..)) rfl fun outcome => ?_
    refine releaseRadio_turn.bind fun _ g' hg' => ?_
    subst hg'
    refine follows_offStep trivial rfl fun cancelled => ?_
    split
    · exact still_of_offRadio (quiet_offRadio cancelledUnlessEnded_quiet) rfl
    · exact still_of_offRadio (quiet_offRadio (reportOutcome_quiet _)) rfl

private theorem runProgramJob_turn (wire : ProgramRequestWire) : KeepsTurn (runProgramJob cfg id wire) := by
  refine follows_offStep trivial rfl fun snap => ?_
  cases snap with
  | none => exact rfl
  | some snap =>
    dsimp only
    cases Driver.fromId snap.driver with
    | none => exact keepsTurn_of_offRadio (quiet_offRadio (transition_quiet ..))
    | some driver =>
      refine follows_offStep trivial rfl fun candidate => ?_
      cases candidate with
      | none => exact keepsTurn_of_offRadio (quiet_offRadio (transition_quiet ..))
      | some candidate =>
        show KeepsTurn (if driver = .fred then _ else _)
        split
        · exact keepsTurn_of_offRadio (quiet_offRadio (runFredProgramJob_quiet ..))
        refine follows_offRadio (quiet_offRadio (transition_quiet ..)) rfl fun _ => ?_
        refine follows_offStep trivial rfl fun cancelled => ?_
        split
        · exact keepsTurn_of_offRadio (quiet_offRadio (transition_quiet ..))
        · exact programSoftAp_turn cfg candidate driver wire

private theorem firmwareSoftAp_turn (snap : JobSnapshot) (driver : Driver) (image : List UInt8) (filename : String) :
    KeepsTurn (firmwareSoftAp cfg id snap driver image filename) := by
  refine follows_offStep trivial rfl fun candidate => ?_
  cases candidate with
  | none => exact keepsTurn_of_offRadio (quiet_offRadio (.bind (transition_quiet ..) fun _ => .ret _))
  | some candidate =>
    refine follows_offRadio (quiet_offRadio (transition_quiet ..)) rfl fun _ => ?_
    have hjoin := @joinForFirmware_turn id candidate (cfg.effectiveNet driver) driver
    refine withHold_turn ((withRadio_turn hjoin).bind fun ready g' hg' => ?_)
    obtain ⟨session, rfl, hsession⟩ := hg'
    cases ready with
    | false =>
      obtain rfl := hsession rfl
      exact rfl
    | true =>
      refine follows_offRadio (quiet_offRadio (transition_quiet ..)) rfl fun _ => ?_
      refine follows_offRadio (quiet_offRadio (uploadFirmware_quiet ..)) rfl fun outcome => ?_
      exact releaseRadio_turn.bind fun _ _ hg' => hg'

private theorem firmwareOutcome_turn (snap : JobSnapshot) (job : FirmwareJob) (driver : Driver) (image : List UInt8) :
    KeepsTurn (firmwareOutcome cfg id snap job driver image) := by
  unfold firmwareOutcome
  cases job.mode with
  | usb => exact keepsTurn_of_offRadio (wired_offRadio (firmwareUsb_wired ..))
  | lan => exact keepsTurn_of_offRadio (wired_offRadio (firmwareLan_wired ..))
  | z21 => exact keepsTurn_of_offRadio (quiet_offRadio (.bind (transition_quiet ..) fun _ => .ret _))
  | ap => exact firmwareSoftAp_turn cfg ..

private theorem runFirmwareJob_turn (job : FirmwareJob) : KeepsTurn (runFirmwareJob cfg id job) := by
  refine follows_offStep trivial rfl fun snap => ?_
  cases snap with
  | none => exact rfl
  | some snap =>
    dsimp only
    cases Driver.fromId snap.driver with
    | none => exact keepsTurn_of_offRadio (quiet_offRadio (transition_quiet ..))
    | some driver =>
      dsimp only
      cases driver.capabilities.firmware with
      | none => exact keepsTurn_of_offRadio (quiet_offRadio (transition_quiet ..))
      | some fw =>
        show KeepsTurn (if fw.allows job.mode then _ else _)
        split
        · refine follows_offRadio (quiet_offRadio (loadImage_quiet ..)) rfl fun image => ?_
          cases image with
          | error detail => exact keepsTurn_of_offRadio (quiet_offRadio (transition_quiet ..))
          | ok image =>
            refine follows_offRadio (quiet_offRadio (transition_quiet ..)) rfl fun _ => ?_
            refine (firmwareOutcome_turn cfg snap job driver image).bind fun outcome g' hg' => ?_
            subst hg'
            cases outcome with
            | none => exact rfl
            | some outcome => exact keepsTurn_of_offRadio (quiet_offRadio (finishFirmwareJob_quiet _))
        · exact keepsTurn_of_offRadio (quiet_offRadio (transition_quiet ..))

theorem workerRound_turn : (workerRound cfg id).Follows turnProtocol (fun _ _ => True) (.job false false false) := by
  have hjob : KeepsTurn (runJob cfg id) := by
    refine follows_offStep trivial rfl fun cancelled => ?_
    split
    · exact keepsTurn_of_offRadio (quiet_offRadio cancelledUnlessEnded_quiet)
    refine follows_offStep trivial rfl fun payload => ?_
    rcases payload with _ | (wire | job)
    · exact keepsTurn_of_offRadio (quiet_offRadio (transition_quiet ..))
    · exact runProgramJob_turn cfg wire
    · exact runFirmwareJob_turn cfg job
  refine hjob.bind fun _ g' hg' => ?_
  subst hg'
  exact ⟨⟨rfl, rfl, rfl⟩, fun _ _ => trivial⟩

end

/-! ### Requests -/

/-- A request that is admitted takes the mutex, and gives it back. -/
theorem withRadio_admitted {p : DaemonM α} (hp : p.All OnRadio) (hg : g.Admitted) :
    (withRadio p).Follows turnProtocol (fun _ => Turn.Request) g := by
  refine Prog.follows_perform.2 ⟨⟨hg.running, hg.unlocked, fun h => ?_, fun _ => hg.admitted⟩, fun _ _ => ?_⟩
  · rw [hg.request] at h
    cases h
  refine Prog.Follows.bind (hp.keeps (I := Turn.UnderMutex) (fun _ => turnProtocol_onRadio)
    ⟨⟨hg.request, hg.running⟩, rfl⟩) fun _ g' hg' => ?_
  exact Prog.follows_perform.2 ⟨⟨hg'.running, hg'.locked⟩, fun _ _ => ⟨hg'.request, hg'.running⟩⟩

/-- A request may drop its hold at any time. -/
theorem withHold_admitted {p : DaemonM α} (h : ∀ g : Turn, g.Admitted → p.Follows turnProtocol (fun _ => Turn.Request) g)
    (hg : g.Admitted) : (withHold p).Follows turnProtocol (fun _ => Turn.Request) g := by
  have hheld : Turn.Admitted { g with held := true } := ⟨⟨hg.request, hg.running⟩, hg.admitted, hg.unlocked⟩
  refine Prog.follows_perform.2 ⟨⟨hg.running, trivial⟩, fun _ _ => Prog.Follows.bind (h _ hheld) fun _ g' hg' => ?_⟩
  refine Prog.follows_perform.2 ⟨⟨hg'.running, fun hw => ?_⟩, fun _ _ => ⟨hg'.request, hg'.running⟩⟩
  rw [hg'.request] at hw
  cases hw

private theorem radioJoin_onRadio (candidate : CachedCandidate) (psk : Option String) :
    (radioJoin candidate psk).All OnRadio := by
  refine .bind ?_ fun _ => .perform trivial
  cases psk with
  | none => exact .perform trivial
  | some psk => exact .perform trivial

private theorem prepareOrFail_onRadio (net : CommissioningNet) : (prepareOrFail net).All OnRadio := by
  refine .bind (.perform trivial) fun addressed => ?_
  rcases addressed with e | ⟨⟩
  · exact .ret _
  refine .bind (.perform trivial) fun up => ?_
  rcases up with e | ⟨⟩
  · exact .ret _
  · exact .perform trivial

private theorem talkAndRelease_onRadio (net : CommissioningNet) (x : DriverM α) : (talkAndRelease net x).All OnRadio :=
  .bind ((runDriver_quiet _ _ (fun _ => .ret _) (fun _ => .ret _) (fun _ => .ret _) x).mono fun _ => onRadio_of_quiet)
    fun _ => .bind (.perform trivial) fun _ => .ret _

section

variable (cfg : Config)

private theorem probeSession_onRadio (candidate : CachedCandidate) (driver : Driver) :
    (probeSession cfg candidate driver).All OnRadio := by
  refine .bind (radioJoin_onRadio ..) fun associated => ?_
  rcases associated with e | ⟨⟩
  · exact .bind (.perform trivial) fun _ => .ret _
  refine .bind (prepareOrFail_onRadio _) fun prepared => ?_
  rcases prepared with e | ⟨⟩
  · exact .ret _
  · exact talkAndRelease_onRadio ..

private theorem identifySession_onRadio (candidate : CachedCandidate) (driver : Driver) (count : Option UInt32) :
    (identifySession cfg candidate driver count).All OnRadio := by
  refine .bind (radioJoin_onRadio ..) fun associated => ?_
  rcases associated with e | ⟨⟩
  · exact .ret _
  refine .bind (prepareOrFail_onRadio _) fun prepared => ?_
  rcases prepared with e | ⟨⟩
  · exact .ret _
  · exact talkAndRelease_onRadio ..

private theorem probe_turn (hg : g.Admitted) (driver : Driver) (key : String) :
    (probe cfg driver key).Follows turnProtocol (fun _ => Turn.Request) g := by
  refine follows_offStep trivial hg.running fun candidate => ?_
  cases candidate with
  | none => exact hg.toRequest
  | some candidate =>
    exact withHold_admitted (fun _ => withRadio_admitted (probeSession_onRadio ..)) hg

private theorem identify_turn (hg : g.Admitted) (driver : Driver) (key : String) (count : Option UInt32) :
    (identify cfg driver key count).Follows turnProtocol (fun _ => Turn.Request) g := by
  refine follows_offStep trivial hg.running fun candidate => ?_
  cases candidate with
  | none => exact hg.toRequest
  | some candidate =>
    exact withHold_admitted (fun _ => withRadio_admitted (identifySession_onRadio ..)) hg

private theorem scan_turn (hg : g.Admitted) : scan.Follows turnProtocol (fun _ => Turn.Request) g := by
  have hscan : (radio (.scan 64)).All OnRadio := .perform trivial
  refine (withRadio_admitted hscan hg).bind fun results g' hg' => ?_
  cases results with
  | error e => exact hg'
  | ok rs => exact follows_offStep trivial hg'.running fun _ => hg'

/-- A scan that is not one of the radio. -/
theorem scanMode_offRadio {mode : ReachMode} (hm : mode ≠ .ap) : (scanMode mode).All OffRadio := by
  cases mode with
  | ap => exact absurd rfl hm
  | lan => exact wired_offRadio scanLan_wired
  | usb => exact wired_offRadio scanUsb_wired
  | z21 => exact wired_offRadio scanZ21_wired

/-- The flag is read: a request that finds it clear is admitted. -/
theorem follows_radioHeld {f : Bool → DaemonM β} (hheld : (f true).Follows turnProtocol Q .idle)
    (hclear : ∀ g : Turn, g.Admitted → (f false).Follows turnProtocol Q g) :
    (perform .radioHeld >>= f).Follows turnProtocol Q .idle :=
  Prog.follows_perform.2 ⟨⟨rfl, trivial⟩, fun held _ => by
    cases held with
    | true => exact hheld
    | false => exact hclear _ ⟨⟨rfl, rfl⟩, rfl, rfl⟩⟩

private theorem dispatchScan_turn (params : Option Params) :
    (dispatchScan params).Follows turnProtocol (fun _ _ => True) .idle := by
  unfold dispatchScan
  split
  · rename_i hmode
    refine follows_radioHeld trivial fun g hg => ?_
    rw [hmode]
    exact (scan_turn hg).bind fun found _ _ => by cases found <;> trivial
  · rename_i hmode
    exact follows_offRadio (scanMode_offRadio hmode) rfl fun found => by cases found <;> trivial

private theorem dispatchProbe_turn (candidate : CandidateRef) :
    (dispatchProbe cfg candidate).Follows turnProtocol (fun _ _ => True) .idle := by
  refine follows_radioHeld trivial fun g hg => ?_
  simp only [Bool.false_eq_true, if_false]
  split
  · trivial
  · exact (probe_turn cfg hg ..).bind fun info _ _ => by cases info <;> trivial

private theorem dispatchIdentify_turn (candidate : CandidateRef) (count : Option UInt32) :
    (dispatchIdentify cfg candidate count).Follows turnProtocol (fun _ _ => True) .idle := by
  refine follows_radioHeld trivial fun g hg => ?_
  simp only [Bool.false_eq_true, if_false]
  split
  · trivial
  · exact (identify_turn cfg hg ..).bind fun done _ _ => by rcases done with e | ⟨⟩ <;> trivial

theorem serve_turn (req : Request) : (serve cfg req).Follows turnProtocol (fun _ _ => True) .idle := by
  have still : ∀ {p : DaemonM Response}, p.All OffRadio → p.Follows turnProtocol (fun _ _ => True) .idle :=
    fun h => (still_of_offRadio h rfl).mono fun _ _ _ => trivial
  refine Prog.Follows.bind (Q := fun _ _ => True) ?_ fun _ _ _ => trivial
  unfold dispatch
  split
  · trivial
  · exact dispatchScan_turn _
  · split
    · exact dispatchProbe_turn cfg _
    · trivial
  · split
    · exact still (wired_offRadio (dispatchProgram_wired ..))
    · trivial
  · split
    · exact follows_offStep trivial rfl fun s => by cases s <;> trivial
    · trivial
  · trivial
  · split
    · exact follows_offStep trivial rfl fun _ => follows_offStep trivial rfl fun s => by cases s <;> trivial
    · trivial
  · split
    · exact dispatchIdentify_turn cfg ..
    · trivial
  · exact still (quiet_offRadio (dispatchLinkStatus_quiet cfg))
  · split
    · exact still (wired_offRadio (dispatchUpdateFirmware_wired _))
    · trivial

end

end

end WirelessProgrammer
