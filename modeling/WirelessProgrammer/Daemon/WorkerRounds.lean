import WirelessProgrammer.Daemon.SlotProtocol

/-!
# Rounds of the worker

Every function of the worker follows the protocol of its job, and a round of the worker ends the job.  The specifications
say where a function may be called and what has been done for the job afterwards.
-/

namespace WirelessProgrammer

open Effect

section

variable {α β : Type} {id : String} {g : JobUse} {Q : β → JobUse → Prop}

/-- What has been done for the job is the same but for further looks at the cancel flag, and what was written. -/
structure JobUse.Onward (g g' : JobUse) : Prop where
  same : g' = { g with checked := g'.checked, clear := g'.clear, wrote := g'.wrote }
  clear : g.clear = true → g'.clear = true

namespace JobUse.Onward

variable {g' g'' : JobUse}

private theorem refl (g : JobUse) : Onward g g := ⟨rfl, id⟩

private theorem looked (h : Onward g g') (cancelled : Bool) : Onward g (g'.looked cancelled) := by
  refine ⟨?_, fun hc => ?_⟩
  · rw [h.same]
    rfl
  · show (g'.clear || !cancelled) = true
    rw [h.clear hc]
    rfl

/-- A write to the device. -/
theorem written (h : Onward g g') : Onward g { g' with wrote := true } := by
  refine ⟨?_, h.clear⟩
  rw [h.same]

private theorem trans (h : Onward g g') (h' : Onward g' g'') : Onward g g'' := by
  refine ⟨?_, fun hc => h'.clear (h.clear hc)⟩
  rw [h'.same, h.same]

private theorem slot (h : Onward g g') : g'.slot = g.slot := by rw [h.same]

private theorem joining (h : Onward g g') : g'.joining = g.joining := by rw [h.same]

private theorem mayWrite (h : Onward g g') (hw : g.MayWrite) : g'.MayWrite := by
  rw [h.same]
  exact fun hjoined => (hw hjoined).imp_left h.clear

private theorem working (h : Onward g g') (hg : g.Working id) : g'.Working id := by
  rw [h.same]
  exact ⟨hg.worker, hg.slot⟩

end JobUse.Onward

/-- The program may run while the worker is at work on its job, which goes on. -/
abbrev KeepsJob (p : DaemonM α) (g : JobUse) : Prop := p.Follows jobProtocol (fun _ => g.Onward) g

private theorem Still.keepsJob {p : DaemonM α} (h : Still p g) : KeepsJob p g :=
  h.mono fun _ _ hg => hg ▸ .refl g

private theorem KeepsJob.onward {p : DaemonM α} {g' : JobUse} (h : KeepsJob p g') (hg : g.Onward g') :
    p.Follows jobProtocol (fun _ => g.Onward) g' :=
  h.mono fun _ _ hg' => hg.trans hg'

/-! ### Progress -/

private theorem stepState_isTerminal (step : String) : (stepState step).isTerminal = false := by
  unfold stepState
  split_ifs <;> rfl

private theorem step_still (hg : g.slot = .owner id) (step : String) : Still (JobProgressSink.step id step) g :=
  transition_still hg (stepState_isTerminal step) ..

/-- The state that is written back is not terminal: nobody else moves the job. -/
theorem currentState_still (hg : g.slot = .owner id) : (JobProgressSink.currentState id).Follows jobProtocol
    (fun state g' => g' = g ∧ state.isTerminal = false) g :=
  follows_snapshot hg fun _ hs => ⟨rfl, hs⟩

private theorem progress_still (hg : g.slot = .owner id) (p : UInt8) : Still (JobProgressSink.progress id p) g :=
  Prog.Follows.bind (currentState_still hg) fun _ _ ⟨hg', h⟩ => by subst hg'; exact transition_still hg h ..

private theorem detail_still (hg : g.slot = .owner id) (detail : String) : Still (JobProgressSink.detail id detail) g :=
  Prog.Follows.bind (currentState_still hg) fun _ _ ⟨hg', h⟩ => by subst hg'; exact transition_still hg h ..

/-- The driver writes to the device. -/
theorem runDriver_keepsJob (hg : g.slot = .owner id) (hw : g.MayWrite) (host : String) (port : UInt16) (x : DriverM α) :
    KeepsJob (runDriver host port (JobProgressSink.step id) (JobProgressSink.progress id) (JobProgressSink.detail id) x)
      g := by
  refine Prog.Follows.translate (fun o g' hg' => ?_) _ (JobUse.Onward.refl g)
  have hslot := hg'.slot.trans hg
  cases o with
  | request r => exact ⟨⟨trivial, fun _ => ⟨⟨id, hslot⟩, hg'.mayWrite hw⟩⟩, fun _ _ => hg'.written⟩
  | step s => exact (step_still hslot s).keepsJob.onward hg'
  | progress p => exact (progress_still hslot p).keepsJob.onward hg'
  | detail d => exact (detail_still hslot d).keepsJob.onward hg'

/-! ### Ends -/

/-- The owner's job has not ended. -/
theorem cancelledUnlessEnded_endsJob (hg : g.slot = .owner id) (hj : g.joining = false) :
    EndsJob id (cancelledUnlessEnded id) g := by
  refine follows_snapshot hg fun s hs => ?_
  simp only [Option.map_some, Option.getD_some, hs, Bool.not_false, if_true]
  exact cancelledJob_endsJob hg hj

/-- The worker has just found the cancel flag clear. -/
structure JobUse.Uncancelled (id : String) (g : JobUse) : Prop extends g.Working id where
  checked : g.checked = true
  clear : g.clear = true

private theorem JobUse.Working.looked (hg : g.Working id) (cancelled : Bool) : (g.looked cancelled).Working id :=
  ⟨hg.worker, hg.slot⟩

private theorem JobUse.Working.uncancelled (hg : g.Working id) : (g.looked false).Uncancelled id :=
  ⟨hg.looked false, rfl, Bool.or_true _⟩

private theorem done_endsJob (hg : g.Uncancelled id) (hj : g.joining = false) (step : Option String)
    (progress : Option UInt8) (detail : Option String) : EndsJob id (transition id .done step progress detail) g := by
  refine (follows_end .done hg.slot rfl (fun hj' => ?_) (fun _ => ⟨hg.worker, hg.checked, hg.clear⟩) ..).mono
    fun _ g' hg' => ?_
  · exact absurd (hj.symm.trans hj') nofun
  · subst hg'
    exact ⟨rfl, hj⟩

private theorem reportOutcome_endsJob (hg : g.Uncancelled id) (hj : g.joining = false)
    (outcome : Except DriverError Outcome) : EndsJob id (reportOutcome id outcome) g := by
  cases outcome with
  | ok o => exact done_endsJob hg hj ..
  | error e => exact failJob_endsJob hg.slot hj ..

private theorem reportDispatch_endsJob (hg : g.Uncancelled id) (hj : g.joining = false)
    (outcome : Except DispatchError DispatchOutcome) : EndsJob id (reportDispatch id outcome) g := by
  rcases outcome with e | o
  · cases e <;> exact failJob_endsJob hg.slot hj ..
  · cases o <;> exact done_endsJob hg hj ..

private theorem finishFirmwareJob_endsJob (hg : g.Working id) (hj : g.joining = false)
    (outcome : Except DriverError Outcome) : EndsJob id (finishFirmwareJob id outcome) g := by
  refine follows_snapshot hg.slot fun s hs => ?_
  simp only [Option.map_some, Option.getD_some, hs, Bool.false_eq_true, if_false]
  refine follows_isCancelled hg.slot fun cancelled => ?_
  cases cancelled with
  | true => exact cancelledJob_endsJob (hg.looked true).slot hj
  | false =>
    split
    · exact cancelledJob_endsJob (hg.looked false).slot hj
    · exact reportOutcome_endsJob hg.uncancelled hj outcome

/-! ### Programming -/

private theorem dispatchFred_endsJob (hg : g.Working id) (hj : g.joining = false) (target : String) (loco : UInt16) :
    EndsJob id (dispatchFred id target loco) g := by
  refine follows_isCancelled hg.slot fun cancelled => ?_
  have hg₁ := hg.looked cancelled
  split
  · exact cancelledJob_endsJob hg₁.slot hj
  refine (transition_still hg₁.slot rfl ..).bind fun _ => follows_aside trivial fun sock => ?_
  rcases sock with e | ⟨⟩
  · exact failJob_endsJob hg₁.slot hj ..
  refine follows_aside trivial fun outcome => follows_isCancelled hg₁.slot fun cancelled => ?_
  cases cancelled with
  | true => exact cancelledJob_endsJob (hg₁.looked true).slot hj
  | false => exact reportDispatch_endsJob hg₁.uncancelled hj _

private theorem runFredProgramJob_endsJob (hg : g.Working id) (hj : g.joining = false) (wire : ProgramRequestWire)
    (key : String) : EndsJob id (runFredProgramJob id wire key) g := by
  refine follows_aside trivial fun target => ?_
  rcases target with e | (_ | target)
  · exact failJob_endsJob hg.slot hj ..
  · exact failJob_endsJob hg.slot hj ..
  · cases wire.roster.head?.bind (·.address) with
    | none => exact failJob_endsJob hg.slot hj ..
    | some loco => exact dispatchFred_endsJob hg hj target loco

/-! ### Joining -/

/-- The worker has not turned to the device yet. -/
structure JobUse.Fresh (id : String) (g : JobUse) : Prop extends g.Working id where
  joining : g.joining = false
  joined : g.joined = false
  wrote : g.wrote = false

private theorem JobUse.Fresh.looked (hg : g.Fresh id) (cancelled : Bool) : (g.looked cancelled).Fresh id :=
  ⟨hg.toWorking.looked cancelled, hg.joining, hg.joined, hg.wrote⟩

/-- The link to the device is ready. -/
structure JobUse.Ready (id : String) (g g' : JobUse) : Prop extends g'.Working id where
  prepared : g'.prepared = true
  firmware : g'.firmware = g.firmware

/-- A join goes on with the job, or has ended it. -/
abbrev JoinsJob (id : String) (p : DaemonM Bool) (R : JobUse → Prop) (g : JobUse) : Prop :=
  p.Follows jobProtocol (fun ready g' => if ready then R g' else g'.Ended id) g

private theorem connect_follows (hg : g.slot = .owner id) (candidate : CachedCandidate) (psk : Option String) :
    (connect candidate psk).Follows jobProtocol (fun _ g' => g' = { g with joining := true }) g := by
  cases psk <;> exact ⟨⟨trivial, fun _ => ⟨id, hg⟩⟩, fun _ _ => rfl⟩

/-- After `radio_join`. -/
def JobUse.associated (g : JobUse) (r : Except DriverError Unit) : JobUse :=
  jobProtocol.next { g with joining := true } (.radio .connected) r

private theorem JobUse.Fresh.permits_connected (hg : g.Fresh id) :
    ({ g with joining := true } : JobUse).Permits (.radio .connected) := fun _ => ⟨⟨id, hg.slot⟩, hg.wrote⟩

private theorem radioJoin_follows (hg : g.Fresh id) (candidate : CachedCandidate) (psk : Option String) :
    (radioJoin candidate psk).Follows jobProtocol (fun r g' => g' = g.associated r) g :=
  (connect_follows hg.slot candidate psk).bind fun _ g' hg' => by
    subst hg'
    exact ⟨⟨trivial, hg.permits_connected⟩, fun _ _ => rfl⟩

/-- The job fails before the radio is released. -/
theorem abandonJoin_endsJob {R : JobUse → Prop} (hg : g.slot = .owner id) (hf : g.failed = true) (e : DriverError) :
    JoinsJob id (abandonJoin id e) R g := by
  have hfail : (failJob id (some "join") e.text).Follows jobProtocol (fun _ g' => g' = { g with slot := .ended id }) g :=
    follows_end .failed hg rfl (fun _ => hf) nofun ..
  refine hfail.bind fun _ g' hg' => ?_
  subst hg'
  exact ⟨⟨trivial, trivial⟩, fun _ _ => ⟨rfl, rfl⟩⟩

private theorem prepareLink_joinsJob (hg : g.Working id) (net : CommissioningNet)
    (associated : Except DriverError Unit) :
    JoinsJob id (prepareLink id net associated) (JobUse.Ready id g) (g.associated associated) := by
  rcases associated with e | ⟨⟩
  · refine abandonJoin_endsJob ?_ rfl e
    exact hg.slot
  refine ⟨⟨trivial, trivial⟩, fun addressed _ => ?_⟩
  rcases addressed with e | ⟨⟩
  · refine abandonJoin_endsJob ?_ rfl e
    exact hg.slot
  refine ⟨⟨trivial, trivial⟩, fun up _ => ?_⟩
  rcases up with e | ⟨⟩
  · refine abandonJoin_endsJob ?_ rfl e
    exact hg.slot
  refine ⟨⟨trivial, trivial⟩, fun prepared _ => ?_⟩
  rcases prepared with e | ⟨⟩
  · refine abandonJoin_endsJob ?_ rfl e
    exact hg.slot
  · exact ⟨⟨hg.worker, hg.slot⟩, rfl, rfl⟩

private theorem releaseRadio_follows :
    releaseRadio.Follows jobProtocol (fun _ g' => g' = { g with joining := false }) g :=
  follows_withRadio ⟨⟨trivial, trivial⟩, fun _ _ => rfl⟩

/-- A programming job goes on only when it has not been cancelled. -/
theorem joinForProgram_joinsJob (hg : g.Fresh id) (candidate : CachedCandidate) (net : CommissioningNet)
    (driver : Driver) :
    JoinsJob id (joinForProgram id candidate net driver) (fun g' => g'.Working id ∧ g'.clear = true) g := by
  refine Prog.Follows.bind (radioJoin_follows hg ..) fun associated g₁ hg₁ => ?_
  subst hg₁
  refine Prog.Follows.bind (prepareLink_joinsJob hg.toWorking net associated) fun ready g₂ hg₂ => ?_
  cases ready with
  | false => exact hg₂
  | true =>
    refine follows_isCancelled hg₂.slot fun cancelled => ?_
    cases cancelled with
    | false => exact ⟨⟨hg₂.worker, hg₂.slot⟩, Bool.or_true _⟩
    | true =>
      refine ⟨⟨trivial, trivial⟩, fun _ _ => ?_⟩
      refine Prog.Follows.bind (cancelledJob_endsJob ?_ rfl) fun _ _ hg => hg
      exact hg₂.slot

section

variable (cfg : Config)

private theorem programDevice_keepsJob (hg : g.Working id) (hc : g.clear = true) (net : CommissioningNet)
    (driver : Driver) (req : ProgramRequest) : KeepsJob (programDevice cfg id net driver req) g := by
  refine follows_isCancelled hg.slot fun cancelled => ?_
  have honward := (JobUse.Onward.refl g).looked cancelled
  have hdriver := (runDriver_keepsJob (honward.working hg).slot (fun _ => .inl (honward.clear hc)) net.host net.port
    (driver.program cfg.codecs .http req)).onward honward
  refine Prog.Follows.bind hdriver fun outcome g' hg' => follows_aside trivial fun elapsed => ?_
  split <;> exact hg'

private theorem programSoftAp_endsJob (hg : g.Fresh id) (candidate : CachedCandidate) (driver : Driver)
    (wire : ProgramRequestWire) : EndsJob id (programSoftAp cfg id candidate driver wire) g := by
  refine follows_withHold (Prog.Follows.bind (follows_withRadio (joinForProgram_joinsJob hg ..)) fun ready g₁ hg₁ => ?_)
  cases ready with
  | false => exact hg₁
  | true =>
    obtain ⟨hg₁, hclear⟩ := hg₁
    refine Prog.Follows.bind (programDevice_keepsJob cfg hg₁ hclear ..) fun outcome g₂ hg₂ => ?_
    refine Prog.Follows.bind releaseRadio_follows fun _ g₃ hg₃ => ?_
    subst hg₃
    have hg₃ : JobUse.Working id { g₂ with joining := false } := ⟨(hg₂.working hg₁).worker, (hg₂.working hg₁).slot⟩
    refine follows_isCancelled hg₃.slot fun cancelled => ?_
    cases cancelled with
    | true => exact cancelledUnlessEnded_endsJob (hg₃.looked true).slot rfl
    | false => exact reportOutcome_endsJob hg₃.uncancelled rfl outcome

private theorem runProgramJob_endsJob (hg : g.Fresh id) (wire : ProgramRequestWire) :
    EndsJob id (runProgramJob cfg id wire) g := by
  refine follows_snapshot hg.slot fun snap _ => ?_
  dsimp only
  cases Driver.fromId snap.driver with
  | none => exact failJob_endsJob hg.slot hg.joining ..
  | some driver =>
    refine follows_aside trivial fun candidate => ?_
    cases candidate with
    | none => exact failJob_endsJob hg.slot hg.joining ..
    | some candidate =>
      show EndsJob id (if driver = .fred then _ else _) g
      split
      · exact runFredProgramJob_endsJob hg.toWorking hg.joining ..
      refine (transition_still hg.slot rfl ..).bind fun _ => follows_isCancelled hg.slot fun cancelled => ?_
      split
      · exact cancelledJob_endsJob (hg.looked cancelled).slot hg.joining
      · exact programSoftAp_endsJob cfg (hg.looked cancelled) ..

/-! ### Firmware -/

private theorem loadImage_aside (fw : FirmwareCapabilities) (job : FirmwareJob) : (loadImage fw job).All Aside := by
  unfold loadImage
  split
  · exact .ret _
  refine .bind (.perform trivial) fun size => ?_
  split
  · exact .ret _
  refine .bind (.perform trivial) fun image => ?_
  rcases image with e | (_ | ⟨b, image⟩) <;> exact .ret _

private theorem targetKey_aside (given : Option String) (snap : JobSnapshot) : (targetKey given snap).All Aside := by
  cases given with
  | none => exact .bind (.perform trivial) fun _ => .ret _
  | some target => exact .ret _

private theorem heartbeat_keepsJob (hg : g.slot = .owner id) (label : String) (secs : Nat) :
    KeepsJob (heartbeat id label secs) g := by
  refine follows_isCancelled hg fun cancelled => ?_
  split
  · exact ⟨⟨trivial, trivial⟩, fun _ _ => (JobUse.Onward.refl g).looked cancelled⟩
  · refine (detail_still (g := g.looked cancelled) hg _).mono fun _ g' hg' => ?_
    subst hg'
    exact (JobUse.Onward.refl g).looked cancelled

/-- The blocking work may be started here. -/
def MayStart (g : JobUse) (work : BlockingWork) : Prop := g.Permits (.world (.spawnBlocking work))

private theorem JobUse.Onward.spawnBlocking (work : BlockingWork) :
    g.Onward (jobProtocol.next g (.world (.spawnBlocking work)) ()) := by
  cases work with
  | flashUsb => exact .refl g
  | firmwareHttp => exact (JobUse.Onward.refl g).written

private theorem mayStart_firmwareHttp (hg : g.Working id) (hw : g.MayWrite) (driver : Driver) (image : List UInt8)
    (filename host : String) (port : UInt16) (source device : Option String) :
    MayStart g (.firmwareHttp driver image filename host port source device) := ⟨hg.worker, ⟨id, hg.slot⟩, hw⟩

private theorem awaitBlocking_keepsJob (hg : g.slot = .owner id) (label : String) {work : BlockingWork}
    (hw : MayStart g work) : KeepsJob (awaitBlockingWithHeartbeats id label work) g := by
  refine Prog.follows_perform.2 ⟨⟨trivial, hw⟩, fun _ _ => follows_aside trivial fun beats => ?_⟩
  have hbeats : (beats.forM (heartbeat id label)).Follows jobProtocol (fun _ => g.Onward)
      (jobProtocol.next g (.world (.spawnBlocking work)) ()) := by
    refine Prog.Follows.forM (fun secs _ g' hg' => ?_) (.spawnBlocking work)
    exact (heartbeat_keepsJob (hg'.slot.trans hg) label secs).onward hg'
  refine Prog.Follows.bind hbeats fun _ g' hg' => follows_aside trivial fun joined => ?_
  cases joined <;> exact hg'

private theorem uploadFirmware_keepsJob (hg : g.Working id) (hw : g.MayWrite) (driver : Driver) (image : List UInt8)
    (filename host : String) (port : UInt16) (source device : Option String) :
    KeepsJob (uploadFirmware id driver image filename host port source device) g :=
  (step_still hg.slot _).bind fun _ => (detail_still hg.slot _).bind fun _ =>
    awaitBlocking_keepsJob hg.slot _ (mayStart_firmwareHttp hg hw ..)

/-- The branches of a firmware job deliver an outcome, or have ended the job. -/
abbrev WorksOnJob (id : String) (p : DaemonM (Option (Except DriverError Outcome))) (g : JobUse) : Prop :=
  p.Follows jobProtocol
    (fun outcome g' => if outcome.isSome then g'.Working id ∧ g'.joining = false else g'.Ended id) g

private theorem failJob_worksOnJob (hg : g.slot = .owner id) (hj : g.joining = false) (detail : String) :
    WorksOnJob id (do failJob id none detail; return none) g :=
  Prog.Follows.bind (failJob_endsJob hg hj ..) fun _ _ hg' => hg'

/-- The outcome of code that keeps the job. -/
theorem KeepsJob.worksOnJob {p : DaemonM (Except DriverError Outcome)} (h : KeepsJob p g) (hg : g.Working id)
    (hj : g.joining = false) : WorksOnJob id (do let outcome ← p; return some outcome) g :=
  Prog.Follows.bind h fun _ _ hg' => ⟨hg'.working hg, hg'.joining.trans hj⟩

private theorem firmwareUsb_worksOnJob (hg : g.Working id) (hj : g.joining = false) (snap : JobSnapshot)
    (job : FirmwareJob) : WorksOnJob id (firmwareUsb id snap job) g := by
  refine follows_allAside (targetKey_aside ..) fun port => ?_
  split
  · exact failJob_worksOnJob hg.slot hj _
  refine (step_still hg.slot _).bind fun _ => (detail_still hg.slot _).bind fun _ => ?_
  refine follows_aside trivial fun header => ?_
  have hflash : MayStart g (.flashUsb port job.path job.partitionTable) := trivial
  have hrest := KeepsJob.worksOnJob (awaitBlocking_keepsJob hg.slot s!"espflash {port}" hflash) hg hj
  split
  · exact (detail_still hg.slot _).bind fun _ => hrest
  · exact hrest

private theorem firmwareLan_worksOnJob (hg : g.Fresh id) (snap : JobSnapshot)
    (job : FirmwareJob) (driver : Driver) (image : List UInt8) (filename : String) :
    WorksOnJob id (firmwareLan id snap job driver image filename) g := by
  have hw : g.MayWrite := fun h => absurd (hg.joined.symm.trans h) nofun
  refine follows_allAside (targetKey_aside ..) fun host => ?_
  split
  · exact KeepsJob.worksOnJob (uploadFirmware_keepsJob hg.toWorking hw ..) hg.toWorking hg.joining
  · exact failJob_worksOnJob hg.slot hg.joining _

private theorem joinForFirmware_joinsJob (hg : g.Fresh id) (candidate : CachedCandidate) (net : CommissioningNet)
    (driver : Driver) : JoinsJob id (joinForFirmware id candidate net driver) (JobUse.Ready id g) g := by
  refine Prog.Follows.bind (connect_follows hg.slot ..) fun _ g₁ hg₁ => ?_
  subst hg₁
  refine follows_aside trivial fun beats => ?_
  have hbeats : Still (beats.forM fun _ => JobProgressSink.detail id "associating") { g with joining := true } := by
    refine Prog.Follows.forM (fun _ _ g' hg' => ?_) rfl
    subst hg'
    refine detail_still ?_ _
    exact hg.slot
  refine hbeats.bind fun _ => ⟨⟨trivial, hg.permits_connected⟩, fun associated _ => ?_⟩
  exact prepareLink_joinsJob hg.toWorking net associated

private theorem firmwareSoftAp_worksOnJob (hg : g.Fresh id) (hf : g.firmware = true)
    (snap : JobSnapshot) (driver : Driver) (image : List UInt8) (filename : String) :
    WorksOnJob id (firmwareSoftAp cfg id snap driver image filename) g := by
  refine follows_aside trivial fun candidate => ?_
  cases candidate with
  | none => exact failJob_worksOnJob hg.slot hg.joining _
  | some candidate =>
    refine (transition_still hg.slot rfl ..).bind fun _ => follows_withHold ?_
    refine Prog.Follows.bind (follows_withRadio (joinForFirmware_joinsJob hg ..)) fun ready g₁ hg₁ => ?_
    cases ready with
    | false => exact hg₁
    | true =>
      obtain ⟨hg₁, hprepared, hfirmware⟩ := hg₁
      refine (transition_still hg₁.slot rfl ..).bind fun _ => ?_
      have hw : g₁.MayWrite := fun _ => .inr ⟨hfirmware.trans hf, hprepared⟩
      refine Prog.Follows.bind (uploadFirmware_keepsJob hg₁ hw ..) fun outcome g₂ hg₂ => ?_
      refine Prog.Follows.bind releaseRadio_follows fun _ g₃ hg₃ => ?_
      subst hg₃
      have hg₂ := hg₂.working hg₁
      exact ⟨⟨hg₂.worker, hg₂.slot⟩, rfl⟩

private theorem firmwareOutcome_worksOnJob (hg : g.Fresh id) (hf : g.firmware = true) (snap : JobSnapshot)
    (job : FirmwareJob) (driver : Driver) (image : List UInt8) :
    WorksOnJob id (firmwareOutcome cfg id snap job driver image) g := by
  unfold firmwareOutcome
  cases job.mode with
  | usb => exact firmwareUsb_worksOnJob hg.toWorking hg.joining ..
  | lan => exact firmwareLan_worksOnJob hg ..
  | z21 => exact failJob_worksOnJob hg.slot hg.joining _
  | ap => exact firmwareSoftAp_worksOnJob cfg hg hf ..

private theorem runFirmwareJob_endsJob (hg : g.Fresh id) (hf : g.firmware = true) (job : FirmwareJob) :
    EndsJob id (runFirmwareJob cfg id job) g := by
  refine follows_snapshot hg.slot fun snap _ => ?_
  dsimp only
  cases Driver.fromId snap.driver with
  | none => exact failJob_endsJob hg.slot hg.joining ..
  | some driver =>
    dsimp only
    cases driver.capabilities.firmware with
    | none => exact failJob_endsJob hg.slot hg.joining ..
    | some fw =>
      show EndsJob id (if fw.allows job.mode then _ else _) g
      split
      · refine follows_allAside (loadImage_aside fw job) fun image => ?_
        cases image with
        | error detail => exact failJob_endsJob hg.slot hg.joining ..
        | ok image =>
          refine (transition_still hg.slot rfl ..).bind fun _ => ?_
          refine Prog.Follows.bind (firmwareOutcome_worksOnJob cfg hg hf snap job driver image)
            fun outcome g₁ hg₁ => ?_
          cases outcome with
          | none => exact hg₁
          | some outcome => exact finishFirmwareJob_endsJob hg₁.1 hg₁.2 outcome
      · exact failJob_endsJob hg.slot hg.joining ..

/-! ### The worker -/

/-- Whatever a job is and whatever it meets, it has ended when `run_job` returns. -/
theorem runJob_endsJob (id : String) : EndsJob id (runJob cfg id) (.start (.job id)) := by
  refine follows_isCancelled rfl fun cancelled => ?_
  split
  · exact cancelledUnlessEnded_endsJob rfl rfl
  refine Prog.follows_perform.2 ⟨⟨trivial, fun _ => ⟨rfl, rfl⟩⟩, fun payload _ => ?_⟩
  rcases payload with _ | (wire | job)
  · exact failJob_endsJob rfl rfl ..
  · exact runProgramJob_endsJob cfg ⟨⟨rfl, rfl⟩, rfl, rfl, rfl⟩ wire
  · exact runFirmwareJob_endsJob cfg ⟨⟨rfl, rfl⟩, rfl, rfl, rfl⟩ rfl job

theorem workerRound_follows (id : String) :
    (workerRound cfg id).Follows jobProtocol (fun _ _ => True) (.start (.job id)) :=
  Prog.Follows.bind (runJob_endsJob cfg id) fun _ _ hg => ⟨⟨⟨id, hg.slot⟩, trivial⟩, fun _ _ => trivial⟩

end

end

end WirelessProgrammer
