import WirelessProgrammer.Daemon.System

/-!
# Who uses the radio

Every operation of the daemon follows the protocol of the radio: it calls the radio only while it holds the radio's mutex,
it associates only to the entry that it has looked up in the candidate cache, and it stores as found by the radio only
what its own scan has returned.  The state of the protocol is what the operation has done with the radio so far; the
specifications of the operations say in particular when it has been released.
-/

namespace WirelessProgrammer

open Effect

/-- What an operation has done with the radio so far. -/
structure RadioUse where
  /-- It holds the mutex. -/
  locked : Bool
  /-- It has called for an association, and has not released the radio since. -/
  joining : Bool
  /-- It has been associated, and has not released the radio since. -/
  session : Bool
  /-- An association has failed. -/
  refused : Bool
  /-- A step between the association and the exchange with the device has failed. -/
  failed : Bool
  /-- The entry it has looked up last, with its key in the cache. -/
  entry : Option ((String × String) × CachedCandidate)
  /-- What its last scan has returned. -/
  scanned : List ScanResult

def RadioUse.idle : RadioUse := ⟨false, false, false, false, false, none, []⟩

/-- The SSID that a call of the radio associates to. -/
def RadioOp.ssid? : RadioOp → Option String
  | connectOpen ssid _ => some ssid
  | connectPsk ssid _ _ => some ssid
  | _ => none

def radioProtocol : Protocol Op Op.Res RadioUse where
  allowed g
    | .lock => g.locked = false
    | .unlock => g.locked = true
    | .radio o => g.locked = true ∧ ∀ ssid, o.ssid? = some ssid → ∃ key c, g.entry = some (key, c) ∧ c.ssid = ssid
    | .store (.scanned _ found) => ∀ c ∈ found, c.mode = .ap → c ∈ g.scanned.filterMap claimScanned
    | .store (.manual c) => c.mode ≠ .ap
    | _ => True
  answers _ _ _ := True
  next g
    | .lock, _ => { g with locked := true }
    | .unlock, _ => { g with locked := false }
    | .cached driver key, r => { g with entry := r.map fun c => ((driver, key), c) }
    | .radio (.scan _), .ok results => { g with scanned := results }
    | .radio (.connectOpen ..), _ => { g with joining := true }
    | .radio (.connectPsk ..), _ => { g with joining := true }
    | .radio .connected, .ok _ => { g with session := true }
    | .radio .connected, .error _ => { g with refused := true }
    | .radio (.setAddress ..), .error _ => { g with failed := true }
    | .radio .linkUp, .error _ => { g with failed := true }
    | .radio (.prepareSoftap ..), .error _ => { g with failed := true }
    | .radio .release, _ => { g with joining := false, session := false }
    | _, _ => g

/-! ### Code that leaves the radio alone -/

/-- Operations that have nothing to do with the radio. -/
def Quiet : Op → Prop
  | .jobs _ => True
  | .send _ => True
  | .world _ => True
  | _ => False

/-- Operations without the radio: they may look up entries of the cache, and store targets that no radio has found. -/
def Wired : Op → Prop
  | .cached .. => True
  | .store (.scanned _ found) => ∀ c ∈ found, c.mode ≠ .ap
  | .store (.manual c) => c.mode ≠ .ap
  | o => Quiet o

/-- Nothing is left to release. -/
def Away (g : RadioUse) : Prop := g.locked = false ∧ g.joining = false

private theorem radioProtocol_quiet {o : Op} (h : Quiet o) (g : RadioUse) :
    radioProtocol.allowed g o ∧ ∀ r, radioProtocol.next g o r = g := by
  cases o with
  | jobs | send | world => exact ⟨trivial, fun _ => rfl⟩
  | _ => exact h.elim

private theorem wired_of_quiet {o : Op} (h : Quiet o) : Wired o := by
  cases o with
  | jobs | send | world => exact trivial
  | _ => exact h.elim

private theorem radioProtocol_wired {o : Op} (h : Wired o) (g : RadioUse) (hg : Away g) :
    radioProtocol.allowed g o ∧ ∀ r, Away (radioProtocol.next g o r) := by
  cases o with
  | jobs | send | world => exact ⟨trivial, fun _ => hg⟩
  | cached => exact ⟨trivial, fun _ => hg⟩
  | store w =>
    cases w with
    | scanned mode found => exact ⟨fun c hc hmode => absurd hmode (h c hc), fun _ => hg⟩
    | manual c => exact ⟨h, fun _ => hg⟩
  | recv | radioHeld | setHeld | lock | unlock | radio => exact h.elim

section

variable {α β : Type} {id : String} {g : RadioUse} {Q : β → RadioUse → Prop}

theorem follows_quiet {p : DaemonM α} {f : α → DaemonM β} (hp : p.All Quiet)
    (hf : ∀ a, (f a).Follows radioProtocol Q g) : (p >>= f).Follows radioProtocol Q g :=
  Prog.Follows.bind (hp.follows (fun _ ho => radioProtocol_quiet ho) g) fun a g' hg => by
    subst hg
    exact hf a

/-- One quiet operation. -/
theorem follows_step {o : Op} {f : o.Res → DaemonM β} (ho : Quiet o)
    (hf : ∀ r, (f r).Follows radioProtocol Q g) : (perform o >>= f).Follows radioProtocol Q g :=
  follows_quiet (.perform ho) hf

theorem all_wired {p : DaemonM α} (h : p.All Quiet) : p.All Wired := h.mono fun _ => wired_of_quiet

theorem wired_away {p : DaemonM α} (h : p.All Wired) (hg : Away g) :
    p.Follows radioProtocol (fun _ => Away) g :=
  h.keeps (fun _ ho => radioProtocol_wired ho) hg

theorem quiet_away {p : DaemonM α} (h : p.All Quiet) (hg : Away g) :
    p.Follows radioProtocol (fun _ => Away) g := wired_away (all_wired h) hg

/-! ### Quiet code -/

theorem transition_quiet (state : JobState) (step : Option String) (progress : Option UInt8)
    (detail : Option String) : (transition id state step progress detail).All Quiet := .perform trivial

private theorem currentState_quiet :
    (JobProgressSink.currentState id).All Quiet := .bind (.perform trivial) fun _ => .ret _

private theorem progress_quiet (p : UInt8) : (JobProgressSink.progress id p).All Quiet :=
  .bind currentState_quiet fun _ => transition_quiet ..

theorem detail_quiet (detail : String) : (JobProgressSink.detail id detail).All Quiet :=
  .bind currentState_quiet fun _ => transition_quiet ..

theorem runDriver_quiet (host : String) (port : UInt16) {step : String → DaemonM Unit} {progress : UInt8 → DaemonM Unit}
    {detail : String → DaemonM Unit} (hs : ∀ s, (step s).All Quiet) (hp : ∀ p, (progress p).All Quiet)
    (hd : ∀ d, (detail d).All Quiet) (x : DriverM α) : (runDriver host port step progress detail x).All Quiet := by
  refine .translate (fun o => ?_) _
  cases o with
  | request r => exact .perform trivial
  | step s => exact hs s
  | progress p => exact hp p
  | detail d => exact hd d

theorem cancelledUnlessEnded_quiet : (cancelledUnlessEnded id).All Quiet := by
  refine .bind (.perform trivial) fun snap => ?_
  split
  · exact transition_quiet ..
  · exact .ret _

theorem reportOutcome_quiet (outcome : Except DriverError Outcome) : (reportOutcome id outcome).All Quiet := by
  cases outcome <;> exact transition_quiet ..

private theorem reportDispatch_quiet (outcome : Except DispatchError DispatchOutcome) :
    (reportDispatch id outcome).All Quiet := by
  rcases outcome with e | o
  · cases e <;> exact transition_quiet ..
  · cases o <;> exact transition_quiet ..

private theorem dispatchFred_quiet (target : String) (loco : UInt16) : (dispatchFred id target loco).All Quiet := by
  refine .bind (.perform trivial) fun cancelled => ?_
  split
  · exact transition_quiet ..
  refine .bind (transition_quiet ..) fun _ => .bind (.perform trivial) fun sock => ?_
  rcases sock with e | ⟨⟩
  · exact transition_quiet ..
  refine .bind (.perform trivial) fun outcome => .bind (.perform trivial) fun cancelled => ?_
  split
  · exact transition_quiet ..
  · exact reportDispatch_quiet _

theorem runFredProgramJob_quiet (wire : ProgramRequestWire) (key : String) :
    (runFredProgramJob id wire key).All Quiet := by
  refine .bind (.perform trivial) fun target => ?_
  rcases target with e | (_ | target)
  · exact transition_quiet ..
  · exact transition_quiet ..
  · cases wire.roster.head?.bind (·.address) with
    | none => exact transition_quiet ..
    | some loco => exact dispatchFred_quiet target loco

theorem programDevice_quiet (cfg : Config) (net : CommissioningNet) (driver : Driver) (req : ProgramRequest) :
    (programDevice cfg id net driver req).All Quiet := by
  refine .bind (.perform trivial) fun _ => .bind (runDriver_quiet _ _ (fun _ => transition_quiet ..) progress_quiet
    detail_quiet _) fun outcome => .bind (.perform trivial) fun elapsed => ?_
  split <;> exact .ret _

theorem loadImage_quiet (fw : FirmwareCapabilities) (job : FirmwareJob) : (loadImage fw job).All Quiet := by
  unfold loadImage
  split
  · exact .ret _
  refine .bind (.perform trivial) fun size => ?_
  split
  · exact .ret _
  refine .bind (.perform trivial) fun image => ?_
  rcases image with e | (_ | ⟨b, image⟩) <;> exact .ret _

private theorem awaitBlocking_quiet (label : String) (work : BlockingWork) :
    (awaitBlockingWithHeartbeats id label work).All Quiet := by
  refine .bind (.perform trivial) fun _ => .bind (.perform trivial) fun beats => ?_
  refine .bind (.forM fun secs _ => .bind (.perform trivial) fun cancelled => ?_) fun _ => ?_
  · split
    · exact .perform trivial
    · exact detail_quiet _
  refine .bind (.perform trivial) fun joined => ?_
  cases joined <;> exact .ret _

theorem uploadFirmware_quiet (driver : Driver) (image : List UInt8) (filename host : String) (port : UInt16)
    (source device : Option String) : (uploadFirmware id driver image filename host port source device).All Quiet :=
  .bind (transition_quiet ..) fun _ => .bind (detail_quiet _) fun _ => awaitBlocking_quiet ..

theorem finishFirmwareJob_quiet (outcome : Except DriverError Outcome) :
    (finishFirmwareJob id outcome).All Quiet := by
  refine .bind (.perform trivial) fun snap => ?_
  split
  · exact .ret _
  refine .bind (.perform trivial) fun cancelled => ?_
  split
  · exact transition_quiet ..
  · exact reportOutcome_quiet outcome

/-! ### The mutex and the radio -/

theorem follows_hold {p : DaemonM β} (h : p.Follows radioProtocol Q g) :
    (withHold p).Follows radioProtocol Q g :=
  Prog.follows_perform.2 ⟨trivial, fun _ _ =>
    Prog.Follows.bind h fun _ _ hq => Prog.follows_perform.2 ⟨trivial, fun _ _ => hq⟩⟩

theorem follows_mutex {p : DaemonM β} (hg : g.locked = false)
    (h : p.Follows radioProtocol (fun b g' => g'.locked = true ∧ Q b { g' with locked := false })
      { g with locked := true }) : (withRadio p).Follows radioProtocol Q g :=
  Prog.follows_perform.2 ⟨hg, fun _ _ =>
    Prog.Follows.bind h fun _ _ hq => Prog.follows_perform.2 ⟨hq.1, fun _ _ => hq.2⟩⟩

/-- A call of the radio that does not associate. -/
theorem follows_radio {o : RadioOp} {f : o.Res → DaemonM β} (ho : o.ssid? = none) (hg : g.locked = true)
    (hf : ∀ r, (f r).Follows radioProtocol Q (radioProtocol.next g (.radio o) r)) :
    (radio o >>= f).Follows radioProtocol Q g :=
  Prog.follows_perform.2 ⟨⟨hg, fun ssid h => by rw [ho] at h; cases h⟩, fun r _ => hf r⟩

/-- The association with the entry that has been looked up. -/
theorem follows_connect {key : String × String} {candidate : CachedCandidate} (psk : Option String)
    {f : Unit → DaemonM β} (hg : g.locked = true) (he : g.entry = some (key, candidate))
    (hf : (f ()).Follows radioProtocol Q { g with joining := true }) :
    (connect candidate psk >>= f).Follows radioProtocol Q g := by
  have hallowed : ∀ o : RadioOp, o.ssid? = some candidate.ssid → radioProtocol.allowed g (.radio o) := by
    intro o ho
    refine ⟨hg, fun ssid h => ⟨key, candidate, he, ?_⟩⟩
    rw [ho] at h
    exact Option.some.inj h
  cases psk with
  | none => exact Prog.follows_perform.2 ⟨hallowed _ rfl, fun _ _ => hf⟩
  | some psk => exact Prog.follows_perform.2 ⟨hallowed _ rfl, fun _ _ => hf⟩

/-- The whole of `radio_join`. -/
theorem follows_radioJoin {key : String × String} {candidate : CachedCandidate} (psk : Option String)
    {f : Except DriverError Unit → DaemonM β} (hg : g.locked = true) (he : g.entry = some (key, candidate))
    (hf : ∀ r, (f r).Follows radioProtocol Q (radioProtocol.next { g with joining := true } (.radio .connected) r)) :
    (radioJoin candidate psk >>= f).Follows radioProtocol Q g := by
  have hjoin : (radioJoin candidate psk).Follows radioProtocol
      (fun r g' => g' = radioProtocol.next { g with joining := true } (.radio .connected) r) g :=
    follows_connect psk hg he (follows_radio rfl hg fun _ => rfl)
  exact hjoin.bind fun r g' hg' => by
    subst hg'
    exact hf r

/-! ### The worker -/

/-- A join under the mutex: if it does not go on, the radio is released. -/
abbrev JoinsRadio (p : DaemonM Bool) (g : RadioUse) : Prop :=
  p.Follows radioProtocol (fun ready g' => g'.locked = true ∧ g'.joining = ready) g

private theorem abandonJoin_joinsRadio (hg : g.locked = true) (e : DriverError) : JoinsRadio (abandonJoin id e) g :=
  follows_quiet (transition_quiet ..) fun _ => follows_radio rfl hg fun _ => ⟨hg, rfl⟩

private theorem prepareLink_joinsRadio (hg : g.locked = true) (hj : g.joining = true) (net : CommissioningNet)
    (associated : Except DriverError Unit) : JoinsRadio (prepareLink id net associated) g := by
  rcases associated with e | ⟨⟩
  · exact abandonJoin_joinsRadio hg e
  refine follows_radio rfl hg fun addressed => ?_
  rcases addressed with e | ⟨⟩
  · exact abandonJoin_joinsRadio hg e
  refine follows_radio rfl hg fun up => ?_
  rcases up with e | ⟨⟩
  · exact abandonJoin_joinsRadio hg e
  refine follows_radio rfl hg fun prepared => ?_
  rcases prepared with e | ⟨⟩
  · exact abandonJoin_joinsRadio hg e
  · exact ⟨hg, hj⟩

/-- The return of an association keeps the mutex and what is to be released. -/
theorem next_connected (r : Except DriverError Unit) :
    (radioProtocol.next g (.radio .connected) r).locked = g.locked ∧
      (radioProtocol.next g (.radio .connected) r).joining = g.joining ∧
      (radioProtocol.next g (.radio .connected) r).failed = g.failed := by
  cases r <;> exact ⟨rfl, rfl, rfl⟩

private theorem joinForProgram_joinsRadio {key : String × String} {candidate : CachedCandidate} (hg : g.locked = true)
    (he : g.entry = some (key, candidate)) (net : CommissioningNet) (driver : Driver) :
    JoinsRadio (joinForProgram id candidate net driver) g := by
  refine follows_radioJoin _ hg he fun associated => ?_
  obtain ⟨hlocked, hjoining, -⟩ := next_connected (g := { g with joining := true }) associated
  refine (prepareLink_joinsRadio (hlocked.trans hg) hjoining net associated).bind fun ready g' hg' => ?_
  cases ready with
  | false => exact hg'
  | true =>
    refine follows_step trivial fun cancelled => ?_
    cases cancelled with
    | false => exact hg'
    | true =>
      refine follows_radio rfl hg'.1 fun _ => ?_
      exact follows_quiet (transition_quiet ..) fun _ => ⟨hg'.1, rfl⟩

private theorem joinForFirmware_joinsRadio {key : String × String} {candidate : CachedCandidate} (hg : g.locked = true)
    (he : g.entry = some (key, candidate)) (net : CommissioningNet) (driver : Driver) :
    JoinsRadio (joinForFirmware id candidate net driver) g := by
  refine follows_connect _ hg he (follows_step trivial fun beats => ?_)
  refine follows_quiet (.forM fun _ _ => detail_quiet _) fun _ => follows_radio rfl hg fun associated => ?_
  obtain ⟨hlocked, hjoining, -⟩ := next_connected (g := { g with joining := true }) associated
  exact prepareLink_joinsRadio (hlocked.trans hg) hjoining net associated

/-- After the mutex is given back, only a join that goes on has something to release. -/
theorem JoinsRadio.withRadio {p : DaemonM Bool} (hg : g.locked = false) (h : JoinsRadio p { g with locked := true }) :
    (withRadio p).Follows radioProtocol (fun ready g' => g'.locked = false ∧ g'.joining = ready) g :=
  follows_mutex hg (h.mono fun _ _ hg' => ⟨hg'.1, rfl, hg'.2⟩)

private theorem releaseRadio_away (hg : g.locked = false) : releaseRadio.Follows radioProtocol (fun _ => Away) g :=
  follows_mutex hg (follows_radio rfl rfl fun _ => ⟨rfl, rfl, rfl⟩)

section

variable (cfg : Config)

private theorem programSoftAp_away {key : String × String} {candidate : CachedCandidate} (hg : g.locked = false)
    (he : g.entry = some (key, candidate)) (driver : Driver) (wire : ProgramRequestWire) :
    (programSoftAp cfg id candidate driver wire).Follows radioProtocol (fun _ => Away) g := by
  have hjoin : JoinsRadio (joinForProgram id candidate (cfg.effectiveNet driver) driver) { g with locked := true } :=
    joinForProgram_joinsRadio (g := { g with locked := true }) rfl he ..
  refine follows_hold (Prog.Follows.bind (hjoin.withRadio hg) fun ready g' hg' => ?_)
  cases ready with
  | false => exact hg'
  | true =>
    refine follows_quiet (programDevice_quiet ..) fun outcome => (releaseRadio_away hg'.1).bind fun _ g'' hg'' => ?_
    refine follows_step trivial fun cancelled => ?_
    split
    · exact quiet_away cancelledUnlessEnded_quiet hg''
    · exact quiet_away (reportOutcome_quiet _) hg''

/-- Whatever happens to it, a programming job has released the radio when it returns. -/
theorem runProgramJob_away (hg : Away g) (wire : ProgramRequestWire) :
    (runProgramJob cfg id wire).Follows radioProtocol (fun _ => Away) g := by
  refine follows_step trivial fun snap => ?_
  cases snap with
  | none => exact hg
  | some snap =>
    dsimp only
    cases Driver.fromId snap.driver with
    | none => exact quiet_away (transition_quiet ..) hg
    | some driver =>
      refine Prog.follows_perform.2 ⟨trivial, fun candidate _ => ?_⟩
      cases candidate with
      | none => exact quiet_away (transition_quiet ..) hg
      | some candidate =>
        show Prog.Follows _ _ (if driver = .fred then _ else _) _
        split
        · exact quiet_away (runFredProgramJob_quiet ..) hg
        refine follows_quiet (transition_quiet ..) fun _ => follows_step trivial fun cancelled => ?_
        split
        · exact quiet_away (transition_quiet ..) hg
        · refine programSoftAp_away cfg ?_ rfl driver wire
          exact hg.1

/-! ### Firmware -/

private theorem targetKey_wired (given : Option String) (snap : JobSnapshot) : (targetKey given snap).All Wired := by
  cases given with
  | none => exact .bind (.perform trivial) fun _ => .ret _
  | some target => exact .ret _

theorem firmwareUsb_wired (snap : JobSnapshot) (job : FirmwareJob) : (firmwareUsb id snap job).All Wired := by
  refine .bind (targetKey_wired ..) fun port => ?_
  split
  · exact all_wired (.bind (transition_quiet ..) fun _ => .ret _)
  refine all_wired (.bind (transition_quiet ..) fun _ => .bind (detail_quiet _) fun _ => .bind (.perform trivial) ?_)
  intro header
  split
  · exact .bind (detail_quiet _) fun _ => .bind (awaitBlocking_quiet ..) fun _ => .ret _
  · exact .bind (awaitBlocking_quiet ..) fun _ => .ret _

theorem firmwareLan_wired (snap : JobSnapshot) (job : FirmwareJob) (driver : Driver) (image : List UInt8)
    (filename : String) : (firmwareLan id snap job driver image filename).All Wired := by
  refine .bind (targetKey_wired ..) fun host => ?_
  split
  · exact all_wired (.bind (uploadFirmware_quiet ..) fun _ => .ret _)
  · exact all_wired (.bind (transition_quiet ..) fun _ => .ret _)

private theorem firmwareSoftAp_away (hg : Away g) (snap : JobSnapshot) (driver : Driver) (image : List UInt8)
    (filename : String) :
    (firmwareSoftAp cfg id snap driver image filename).Follows radioProtocol (fun _ => Away) g := by
  refine Prog.follows_perform.2 ⟨trivial, fun candidate _ => ?_⟩
  cases candidate with
  | none => exact quiet_away (.bind (transition_quiet ..) fun _ => .ret _) hg
  | some candidate =>
    refine follows_quiet (transition_quiet ..) fun _ => follows_hold (Prog.Follows.bind
      (JoinsRadio.withRadio hg.1 (joinForFirmware_joinsRadio rfl rfl _ driver)) fun ready g' hg' => ?_)
    cases ready with
    | false => exact hg'
    | true =>
      refine follows_quiet (transition_quiet ..) fun _ => follows_quiet (uploadFirmware_quiet ..) fun outcome => ?_
      exact (releaseRadio_away hg'.1).bind fun _ _ hg'' => hg''

private theorem firmwareOutcome_away (hg : Away g) (snap : JobSnapshot) (job : FirmwareJob) (driver : Driver)
    (image : List UInt8) :
    (firmwareOutcome cfg id snap job driver image).Follows radioProtocol (fun _ => Away) g := by
  unfold firmwareOutcome
  cases job.mode with
  | usb => exact wired_away (firmwareUsb_wired ..) hg
  | lan => exact wired_away (firmwareLan_wired ..) hg
  | z21 => exact quiet_away (.bind (transition_quiet ..) fun _ => .ret _) hg
  | ap => exact firmwareSoftAp_away cfg hg ..

/-- Whatever happens to it, a firmware job has released the radio when it returns. -/
theorem runFirmwareJob_away (hg : Away g) (job : FirmwareJob) :
    (runFirmwareJob cfg id job).Follows radioProtocol (fun _ => Away) g := by
  refine follows_step trivial fun snap => ?_
  cases snap with
  | none => exact hg
  | some snap =>
    dsimp only
    cases Driver.fromId snap.driver with
    | none => exact quiet_away (transition_quiet ..) hg
    | some driver =>
      dsimp only
      cases driver.capabilities.firmware with
      | none => exact quiet_away (transition_quiet ..) hg
      | some fw =>
        show Prog.Follows _ _ (if fw.allows job.mode then _ else _) g
        split
        · refine follows_quiet (loadImage_quiet ..) fun image => ?_
          cases image with
          | error detail => exact quiet_away (transition_quiet ..) hg
          | ok image =>
            refine follows_quiet (transition_quiet ..) fun _ => ?_
            refine (firmwareOutcome_away cfg hg snap job driver image).bind fun outcome g' hg' => ?_
            cases outcome with
            | none => exact hg'
            | some outcome => exact quiet_away (finishFirmwareJob_quiet _) hg'
        · exact quiet_away (transition_quiet ..) hg

theorem workerRound_away (hg : Away g) : (workerRound cfg id).Follows radioProtocol (fun _ => Away) g := by
  refine Prog.Follows.bind ?_ fun _ g' hg' => ⟨trivial, fun _ _ => hg'⟩
  refine follows_step trivial fun cancelled => ?_
  split
  · exact quiet_away cancelledUnlessEnded_quiet hg
  refine follows_step trivial fun payload => ?_
  rcases payload with _ | (wire | job)
  · exact quiet_away (transition_quiet ..) hg
  · exact runProgramJob_away cfg hg wire
  · exact runFirmwareJob_away cfg hg job

end

end

end WirelessProgrammer
