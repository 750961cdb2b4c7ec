import WirelessProgrammer.Daemon.SlotProtocol

/-!
# Requests and the job slot

The requests follow the protocol of their jobs.  Only two of them have anything to do with the slot, and these hand the job
that they have submitted to the worker, or end it.
-/

namespace WirelessProgrammer

open Effect

/-- Operations of requests that have nothing to do with the slot. -/
def OffSlot : Op → Prop
  | .jobs (.submit ..) => False
  | .jobs (.transition ..) => False
  | .send _ => False
  | .recv => False
  | .world (.spawnBlocking _) => False
  | _ => True

/-- A request that owns no job. -/
structure JobUse.Requesting (g : JobUse) : Prop where
  worker : g.worker = false
  slot : g.slot = .free

private theorem jobProtocol_offSlot {o : Op} (h : OffSlot o) (g : JobUse) (hg : g.Requesting) :
    jobProtocol.allowed g o ∧ ∀ r, (jobProtocol.next g o r).Requesting := by
  have hworker {p : Prop} : g.worker = true → p := fun h => absurd (hg.worker.symm.trans h) nofun
  cases o with
  | jobs o =>
    cases o with
    | submit | transition => exact h.elim
    | takePayload id =>
      refine ⟨⟨trivial, hworker⟩, fun r => ?_⟩
      rcases r with _ | (_ | _) <;> exact ⟨hg.worker, hg.slot⟩
    | isCancelled => exact ⟨⟨trivial, hworker⟩, fun _ => ⟨hg.worker, hg.slot⟩⟩
    | _ => exact ⟨⟨trivial, trivial⟩, fun _ => hg⟩
  | send | recv => exact h.elim
  | radio o =>
    cases o with
    | connectOpen | connectPsk => exact ⟨⟨trivial, hworker⟩, fun _ => ⟨hg.worker, hg.slot⟩⟩
    | connected => exact ⟨⟨trivial, hworker⟩, fun r => by cases r <;> exact ⟨hg.worker, hg.slot⟩⟩
    | release => exact ⟨⟨trivial, trivial⟩, fun _ => ⟨hg.worker, hg.slot⟩⟩
    | _ => exact ⟨⟨trivial, trivial⟩, fun r => by cases r <;> exact ⟨hg.worker, hg.slot⟩⟩
  | world o =>
    cases o with
    | request => exact ⟨⟨trivial, hworker⟩, fun _ => ⟨hg.worker, hg.slot⟩⟩
    | spawnBlocking => exact h.elim
    | _ => exact ⟨⟨trivial, trivial⟩, fun _ => hg⟩
  | _ => exact ⟨⟨trivial, trivial⟩, fun _ => hg⟩

section

variable {α β : Type} {g : JobUse} {Q : β → JobUse → Prop}

/-- Code that has nothing to do with the slot. -/
theorem follows_allOffSlot {p : DaemonM α} {f : α → DaemonM β} (hg : g.Requesting) (hp : p.All OffSlot)
    (hf : ∀ a g', g'.Requesting → (f a).Follows jobProtocol Q g') : (p >>= f).Follows jobProtocol Q g :=
  Prog.Follows.bind (hp.keeps (fun _ ho => jobProtocol_offSlot ho) hg) hf

private theorem all_withRadio {C : Op → Prop} (hl : C .lock) (hu : C .unlock) {p : DaemonM α} (h : p.All C) :
    (withRadio p).All C :=
  .bind (.perform hl) fun _ => .bind h fun _ => .bind (.perform hu) fun _ => .ret _

private theorem all_withHold {C : Op → Prop} (hh : ∀ held, C (.setHeld held)) {p : DaemonM α} (h : p.All C) :
    (withHold p).All C :=
  .bind (.perform (hh _)) fun _ => .bind h fun _ => .bind (.perform (hh _)) fun _ => .ret _

private theorem storeScanned_offSlot (mode : ReachMode) (found : List CachedCandidate) :
    (storeScanned mode found).All OffSlot := .bind (.perform trivial) fun _ => .ret _

private theorem scanWired_offSlot {γ : Type} (name : String) (mode : ReachMode) (candidate : γ → CachedCandidate)
    (discovered : Except String (List γ)) : (scanWired name mode candidate discovered).All OffSlot := by
  cases discovered with
  | error e => exact .ret _
  | ok hosts => exact storeScanned_offSlot ..

private theorem scanUsb_offSlot : scanUsb.All OffSlot := .bind (.perform trivial) fun _ => scanWired_offSlot ..

private theorem runScan_offSlot (mode : ReachMode) : (runScan mode).All OffSlot := by
  refine .bind ?_ fun found => ?_
  · cases mode with
    | ap =>
      have hscan : (withRadio (radio (.scan 64))).All OffSlot := all_withRadio trivial trivial (.perform trivial)
      refine hscan.bind fun results => ?_
      cases results with
      | error e => exact .ret _
      | ok results => exact storeScanned_offSlot ..
    | lan => exact .bind (.perform trivial) fun _ => scanWired_offSlot ..
    | usb => exact scanUsb_offSlot
    | z21 => exact .bind (.perform trivial) fun _ => scanWired_offSlot ..
  · cases found <;> exact .ret _

private theorem radioJoin_offSlot (candidate : CachedCandidate) (psk : Option String) :
    (radioJoin candidate psk).All OffSlot := by
  cases psk <;> exact .bind (.perform trivial) fun _ => .perform trivial

private theorem prepareOrFail_offSlot (net : CommissioningNet) : (prepareOrFail net).All OffSlot := by
  refine .bind (.perform trivial) fun addressed => ?_
  rcases addressed with e | ⟨⟩
  · exact .ret _
  refine .bind (.perform trivial) fun up => ?_
  rcases up with e | ⟨⟩
  · exact .ret _
  · exact .perform trivial

private theorem talkAndRelease_offSlot (net : CommissioningNet) (x : DriverM α) :
    (talkAndRelease net x).All OffSlot := by
  refine .bind (.translate (fun o => ?_) _) fun _ => .bind (.perform trivial) fun _ => .ret _
  cases o with
  | request r => exact .perform trivial
  | _ => exact .ret _

section

variable (cfg : Config)

private theorem probeSession_offSlot (candidate : CachedCandidate) (driver : Driver) :
    (probeSession cfg candidate driver).All OffSlot := by
  refine .bind (radioJoin_offSlot ..) fun associated => ?_
  rcases associated with e | ⟨⟩
  · exact .bind (.perform trivial) fun _ => .ret _
  refine .bind (prepareOrFail_offSlot _) fun prepared => ?_
  rcases prepared with e | ⟨⟩
  · exact .ret _
  · exact talkAndRelease_offSlot ..

private theorem identifySession_offSlot (candidate : CachedCandidate) (driver : Driver) (count : Option UInt32) :
    (identifySession cfg candidate driver count).All OffSlot := by
  refine .bind (radioJoin_offSlot ..) fun associated => ?_
  rcases associated with e | ⟨⟩
  · exact .ret _
  refine .bind (prepareOrFail_offSlot _) fun prepared => ?_
  rcases prepared with e | ⟨⟩
  · exact .ret _
  · exact talkAndRelease_offSlot ..

private theorem dispatchScan_offSlot (params : Option Params) : (dispatchScan params).All OffSlot := by
  unfold dispatchScan
  split
  · refine .bind (.perform trivial) fun held => ?_
    split
    · exact .ret _
    · exact runScan_offSlot _
  · exact runScan_offSlot _

private theorem dispatchProbe_offSlot (candidate : CandidateRef) : (dispatchProbe cfg candidate).All OffSlot := by
  refine .bind (.perform trivial) fun held => ?_
  split
  · exact .ret _
  split
  · exact .ret _
  · refine .bind (.bind (.perform trivial) fun known => ?_) fun info => ?_
    · cases known with
      | none => exact .ret _
      | some candidate =>
        exact all_withHold (fun _ => trivial) (all_withRadio trivial trivial (probeSession_offSlot ..))
    · cases info <;> exact .ret _

private theorem dispatchIdentify_offSlot (candidate : CandidateRef) (count : Option UInt32) :
    (dispatchIdentify cfg candidate count).All OffSlot := by
  refine .bind (.perform trivial) fun held => ?_
  split
  · exact .ret _
  split
  · exact .ret _
  · refine .bind (.bind (.perform trivial) fun known => ?_) fun done => ?_
    · cases known with
      | none => exact .ret _
      | some candidate =>
        exact all_withHold (fun _ => trivial) (all_withRadio trivial trivial (identifySession_offSlot ..))
    · rcases done with e | ⟨⟩ <;> exact .ret _

private theorem dispatchLinkStatus_offSlot : (dispatchLinkStatus cfg).All OffSlot := by
  refine .bind (.perform trivial) fun blocked => .bind (.perform trivial) fun busy => ?_
  split
  · exact .ret _
  split
  · exact .ret _
  · exact .bind (.perform trivial) fun _ => .ret _

/-- A submission that is accepted hands its job to the worker, or ends it. -/
theorem submitJob_follows (hg : g.Requesting) (driver : Driver) (key : String) (payload : JobPayload) :
    (submitJob driver key payload).Follows jobProtocol (fun _ _ => True) g := by
  refine Prog.follows_perform.2 ⟨⟨hg.slot, trivial⟩, fun submitted _ => ?_⟩
  cases submitted with
  | error e => trivial
  | ok id =>
    refine Prog.follows_perform.2 ⟨⟨rfl, hg.worker⟩, fun sent _ => ?_⟩
    cases sent with
    | ok u => trivial
    | error e => exact ⟨⟨rfl, ⟨fun h => absurd (hg.worker.symm.trans h) nofun, nofun⟩⟩, fun _ _ => trivial⟩

private theorem dispatchProgram_follows (hg : g.Requesting) (candidate : CandidateRef) (request : ProgramRequestWire) :
    (dispatchProgram candidate request).Follows jobProtocol (fun _ _ => True) g := by
  unfold dispatchProgram
  split
  · trivial
  rename_i d _
  have hsubmit : (submitProgram d candidate.key request).Follows jobProtocol (fun _ _ => True) g := by
    unfold submitProgram
    split
    · trivial
    refine follows_allOffSlot hg ?_ fun _ _ hg' => submitJob_follows hg' ..
    unfold rememberZ21
    split
    · refine .bind (.perform trivial) fun known => ?_
      split
      · exact .perform trivial
      · exact .ret _
    · exact .ret _
  exact hsubmit.bind fun id _ _ => by cases id <;> trivial

private theorem submitUpdate_follows (hg : g.Requesting) (p : UpdateFirmwareParams) (key : String) :
    (submitUpdate p key).Follows jobProtocol (fun _ _ => True) g := by
  unfold submitUpdate
  split
  · trivial
  rename_i d _
  have hsubmit (job : FirmwareJob) :
      (submitFirmware d key job).Follows jobProtocol (fun _ _ => True) g := by
    unfold submitFirmware
    split
    · exact submitJob_follows hg ..
    · trivial
  exact (hsubmit _).bind fun id _ _ => by cases id <;> trivial

private theorem dispatchUpdateFirmware_follows (hg : g.Requesting) (p : UpdateFirmwareParams) :
    (dispatchUpdateFirmware p).Follows jobProtocol (fun _ _ => True) g := by
  unfold dispatchUpdateFirmware
  split
  · trivial
  refine follows_allOffSlot hg ?_ fun _ g₁ hg₁ => follows_allOffSlot hg₁ ?_ fun key g₂ hg₂ => ?_
  · unfold rememberLanHost
    split
    · exact .perform trivial
    · exact .ret _
  · unfold firmwareKey
    split
    · refine .bind scanUsb_offSlot fun found => ?_
      split <;> exact .ret _
    · exact .ret _
  · cases key with
    | error resp => trivial
    | ok key =>
      refine follows_allOffSlot hg₂ ?_ fun _ _ hg₃ => submitUpdate_follows hg₃ p key
      unfold rememberUsbPort
      split
      · exact .perform trivial
      · exact .ret _

theorem serve_follows (hg : g.Requesting) (req : Request) : (serve cfg req).Follows jobProtocol (fun _ _ => True) g := by
  have off : ∀ {p : DaemonM Response}, p.All OffSlot → p.Follows jobProtocol (fun _ _ => True) g :=
    fun h => (h.keeps (fun _ ho => jobProtocol_offSlot ho) hg).mono fun _ _ _ => trivial
  refine Prog.Follows.bind (Q := fun _ _ => True) ?_ fun _ _ _ => trivial
  unfold dispatch
  split
  · trivial
  · exact off (dispatchScan_offSlot _)
  · split
    · exact off (dispatchProbe_offSlot ..)
    · trivial
  · split
    · exact dispatchProgram_follows hg ..
    · trivial
  · split
    · exact off (.bind (.perform trivial) fun s => by cases s <;> exact .ret _)
    · trivial
  · trivial
  · split
    · exact off (.bind (.perform trivial) fun _ => .bind (.perform trivial) fun s => by cases s <;> exact .ret _)
    · trivial
  · split
    · exact off (dispatchIdentify_offSlot ..)
    · trivial
  · exact off (dispatchLinkStatus_offSlot _)
  · split
    · exact dispatchUpdateFirmware_follows hg ..
    · trivial

end

end

end WirelessProgrammer
