import WirelessProgrammer.Daemon.RadioProtocol

/-!
# Requests and the radio

The requests follow the protocol of the radio.  `probe` and `identify` give its mutex back in every case, but do not
release it in every case.
-/

namespace WirelessProgrammer

open Effect

variable {α : Type} {g : RadioUse}

/-! ### Code that leaves the radio alone -/

private theorem storeScanned_wired {mode : ReachMode} {found : List CachedCandidate} (h : ∀ c ∈ found, c.mode ≠ .ap) :
    (storeScanned mode found).All Wired := .bind (.perform h) fun _ => .ret _

private theorem scanWired_wired {γ : Type} (name : String) (mode : ReachMode) (hm : mode ≠ .ap)
    {candidate : γ → CachedCandidate} (h : ∀ a, (candidate a).mode = mode) (discovered : Except String (List γ)) :
    (scanWired name mode candidate discovered).All Wired := by
  cases discovered with
  | error e => exact .ret _
  | ok hosts =>
    refine storeScanned_wired fun c hc => ?_
    obtain ⟨a, -, rfl⟩ := List.mem_map.1 hc
    rwa [h a]

theorem scanLan_wired : scanLan.All Wired :=
  .bind (.perform trivial) fun _ => scanWired_wired _ .lan (by decide) (fun _ => rfl) _

theorem scanUsb_wired : scanUsb.All Wired :=
  .bind (.perform trivial) fun _ => scanWired_wired _ .usb (by decide) (fun _ => rfl) _

theorem scanZ21_wired : scanZ21.All Wired :=
  .bind (.perform trivial) fun _ => scanWired_wired _ .z21 (by decide) (fun _ => rfl) _

private theorem cacheManual_wired (driver : Driver) (mode : ReachMode) (h : mode ≠ .ap) (key : String)
    (label : Option String) : (cacheManual driver mode key label).All Wired := .perform h

private theorem submitJob_quiet (driver : Driver) (key : String) (payload : JobPayload) :
    (submitJob driver key payload).All Quiet := by
  refine .bind (.perform trivial) fun submitted => ?_
  cases submitted with
  | error e => exact .ret _
  | ok id =>
    refine .bind (.perform trivial) fun sent => ?_
    cases sent with
    | ok u => exact .ret _
    | error e => exact .bind (transition_quiet ..) fun _ => .ret _

private theorem submitProgram_wired (driver : Driver) (key : String) (request : ProgramRequestWire) :
    (submitProgram driver key request).All Wired := by
  unfold submitProgram
  split
  · exact .ret _
  refine .bind ?_ fun _ => all_wired (submitJob_quiet ..)
  unfold rememberZ21
  split
  · refine .bind (.perform trivial) fun known => ?_
    split
    · exact cacheManual_wired _ .z21 (by decide) ..
    · exact .ret _
  · exact .ret _

theorem dispatchProgram_wired (candidate : CandidateRef) (request : ProgramRequestWire) :
    (dispatchProgram candidate request).All Wired := by
  unfold dispatchProgram
  split
  · exact .ret _
  refine .bind (submitProgram_wired ..) fun id => ?_
  cases id <;> exact .ret _

private theorem submitUpdate_wired (p : UpdateFirmwareParams) (key : String) : (submitUpdate p key).All Wired := by
  unfold submitUpdate
  split
  · exact .ret _
  rename_i d _
  have hsubmit (job : FirmwareJob) : (submitFirmware d key job).All Wired := by
    unfold submitFirmware
    split
    · exact all_wired (submitJob_quiet ..)
    · exact .ret _
  refine .bind (hsubmit _) fun id => ?_
  cases id <;> exact .ret _

theorem dispatchUpdateFirmware_wired (p : UpdateFirmwareParams) : (dispatchUpdateFirmware p).All Wired := by
  unfold dispatchUpdateFirmware
  split
  · exact .ret _
  refine .bind ?_ fun _ => .bind ?_ fun key => ?_
  · unfold rememberLanHost
    split
    · exact cacheManual_wired _ .lan (by decide) ..
    · exact .ret _
  · unfold firmwareKey
    split
    · refine .bind scanUsb_wired fun found => ?_
      split <;> exact .ret _
    · exact .ret _
  · cases key with
    | error resp => exact .ret _
    | ok key =>
      refine .bind ?_ fun _ => submitUpdate_wired p key
      unfold rememberUsbPort
      split
      · exact cacheManual_wired _ .usb (by decide) ..
      · exact .ret _

theorem dispatchLinkStatus_quiet (cfg : Config) : (dispatchLinkStatus cfg).All Quiet := by
  refine .bind (.perform trivial) fun blocked => .bind (.perform trivial) fun busy => ?_
  split
  · exact .ret _
  split
  · exact .ret _
  · exact .bind (.perform trivial) fun _ => .ret _

/-! ### Scans -/

/-- The candidates that an AP-mode scan stores are those the radio has returned. -/
theorem scan_away (hg : Away g) : scan.Follows radioProtocol (fun _ => Away) g := by
  have hscan : (withRadio (radio (.scan 64))).Follows radioProtocol
      (fun results g' => Away g' ∧ ∀ rs, results = .ok rs → g'.scanned = rs) g := by
    refine follows_mutex hg.1 ⟨⟨rfl, nofun⟩, fun results _ => ?_⟩
    cases results with
    | error e => exact ⟨rfl, ⟨rfl, hg.2⟩, nofun⟩
    | ok rs => exact ⟨rfl, ⟨rfl, hg.2⟩, fun _ h => Except.ok.inj h⟩
  refine hscan.bind fun results g' ⟨hg', hresults⟩ => ?_
  cases results with
  | error e => exact hg'
  | ok rs =>
    refine ⟨fun c hc _ => ?_, fun _ _ => hg'⟩
    rw [hresults rs rfl]
    exact hc

private theorem runScan_away (hg : Away g) (mode : ReachMode) :
    (runScan mode).Follows radioProtocol (fun _ => Away) g := by
  refine Prog.Follows.bind (Q := fun _ => Away) ?_ fun found g' hg' => by cases found <;> exact hg'
  cases mode with
  | ap => exact scan_away hg
  | lan => exact wired_away scanLan_wired hg
  | usb => exact wired_away scanUsb_wired hg
  | z21 => exact wired_away scanZ21_wired hg

private theorem dispatchScan_away (hg : Away g) (params : Option Params) :
    (dispatchScan params).Follows radioProtocol (fun _ => Away) g := by
  unfold dispatchScan
  split
  · refine Prog.follows_perform.2 ⟨trivial, fun held _ => ?_⟩
    split
    · exact hg
    · exact runScan_away hg _
  · exact runScan_away hg _

/-! ### Probing and blinking -/

/-- The use of the radio after the steps between the association and the exchange with the device. -/
def RadioUse.prepared (g : RadioUse) : Except DriverError Unit → RadioUse
  | .ok _ => g
  | .error _ => { g with failed := true }

private theorem prepareOrFail_follows (hg : g.locked = true) (net : CommissioningNet) :
    (prepareOrFail net).Follows radioProtocol (fun r g' => g' = g.prepared r) g := by
  refine follows_radio rfl hg fun addressed => ?_
  rcases addressed with e | ⟨⟩
  · exact rfl
  refine follows_radio rfl hg fun up => ?_
  rcases up with e | ⟨⟩
  · exact rfl
  refine ⟨⟨hg, nofun⟩, fun prepared _ => ?_⟩
  cases prepared <;> exact rfl

private theorem talkAndRelease_follows (hg : g.locked = true) (net : CommissioningNet) (x : DriverM α) :
    (talkAndRelease net x).Follows radioProtocol (fun _ g' => g' = { g with joining := false, session := false }) g :=
  follows_quiet (runDriver_quiet _ _ (fun _ => .ret _) (fun _ => .ret _) (fun _ => .ret _) x) fun _ =>
    follows_radio rfl hg fun _ => rfl

section

variable (cfg : Config) {key : String × String} {candidate : CachedCandidate}

/-- What is left to release after `probe`: the radio, if a step after the association has failed. -/
theorem probeSession_follows (hg : g.locked = true) (hf : g.failed = false)
    (he : g.entry = some (key, candidate)) (driver : Driver) :
    (probeSession cfg candidate driver).Follows radioProtocol
      (fun _ g' => g'.locked = true ∧ g'.joining = g'.failed) g := by
  refine follows_radioJoin _ hg he fun associated => ?_
  rcases associated with e | ⟨⟩
  · exact follows_radio rfl hg fun _ => ⟨hg, hf.symm⟩
  refine Prog.Follows.bind (prepareOrFail_follows ?_ _) fun prepared g' hg' => ?_
  · exact hg
  subst hg'
  rcases prepared with e | ⟨⟩
  · exact ⟨hg, rfl⟩
  · refine (talkAndRelease_follows ?_ _ _).mono fun _ g' hg' => ?_
    · exact hg
    · subst hg'
      exact ⟨hg, hf.symm⟩

/-- What is left to release after `identify`: the radio, if the association or a step after it has failed. -/
theorem identifySession_follows (hg : g.locked = true) (hf : g.failed = false)
    (hr : g.refused = false) (he : g.entry = some (key, candidate)) (driver : Driver) (count : Option UInt32) :
    (identifySession cfg candidate driver count).Follows radioProtocol
      (fun _ g' => g'.locked = true ∧ g'.joining = (g'.refused || g'.failed)) g := by
  refine follows_radioJoin _ hg he fun associated => ?_
  rcases associated with e | ⟨⟩
  · exact ⟨hg, rfl⟩
  refine Prog.Follows.bind (prepareOrFail_follows ?_ _) fun prepared g' hg' => ?_
  · exact hg
  subst hg'
  rcases prepared with e | ⟨⟩
  · exact ⟨hg, (Bool.or_true _).symm⟩
  · refine (talkAndRelease_follows ?_ _ _).mono fun _ g' hg' => ?_
    · exact hg
    · subst hg'
      refine ⟨hg, ?_⟩
      show false = (g.refused || g.failed)
      rw [hr, hf]
      rfl

theorem probe_follows (driver : Driver) (key : String) :
    (probe cfg driver key).Follows radioProtocol (fun _ g' => g'.locked = false ∧ g'.joining = g'.failed) .idle := by
  refine Prog.follows_perform.2 ⟨trivial, fun candidate _ => ?_⟩
  cases candidate with
  | none => exact ⟨rfl, rfl⟩
  | some candidate =>
    refine follows_hold (follows_mutex rfl ?_)
    exact (probeSession_follows cfg rfl rfl rfl driver).mono fun _ _ hg => ⟨hg.1, rfl, hg.2⟩

theorem identify_follows (driver : Driver) (key : String) (count : Option UInt32) :
    (identify cfg driver key count).Follows radioProtocol
      (fun _ g' => g'.locked = false ∧ g'.joining = (g'.refused || g'.failed)) .idle := by
  refine Prog.follows_perform.2 ⟨trivial, fun candidate _ => ?_⟩
  cases candidate with
  | none => exact ⟨rfl, rfl⟩
  | some candidate =>
    refine follows_hold (follows_mutex rfl ?_)
    exact (identifySession_follows cfg rfl rfl rfl rfl driver count).mono fun _ _ hg => ⟨hg.1, rfl, hg.2⟩

/-! ### Dispatch -/

private theorem dispatchProbe_follows (candidate : CandidateRef) :
    (dispatchProbe cfg candidate).Follows radioProtocol (fun _ _ => True) .idle := by
  refine Prog.follows_perform.2 ⟨trivial, fun held _ => ?_⟩
  split
  · trivial
  split
  · trivial
  · exact (probe_follows cfg ..).bind fun info _ _ => by cases info <;> trivial

private theorem dispatchIdentify_follows (candidate : CandidateRef) (count : Option UInt32) :
    (dispatchIdentify cfg candidate count).Follows radioProtocol (fun _ _ => True) .idle := by
  refine Prog.follows_perform.2 ⟨trivial, fun held _ => ?_⟩
  split
  · trivial
  split
  · trivial
  · exact (identify_follows cfg ..).bind fun done _ _ => by rcases done with e | ⟨⟩ <;> trivial

theorem serve_radio (req : Request) : (serve cfg req).Follows radioProtocol (fun _ _ => True) .idle := by
  have away : ∀ {p : DaemonM Response}, p.Follows radioProtocol (fun _ => Away) .idle →
      p.Follows radioProtocol (fun _ _ => True) .idle := fun h => h.mono fun _ _ _ => trivial
  have idle : Away .idle := ⟨rfl, rfl⟩
  refine Prog.Follows.bind (Q := fun _ _ => True) ?_ fun _ _ _ => trivial
  unfold dispatch
  split
  · trivial
  · exact away (dispatchScan_away idle _)
  · split
    · exact dispatchProbe_follows cfg _
    · trivial
  · split
    · exact away (wired_away (dispatchProgram_wired ..) idle)
    · trivial
  · split
    · exact follows_step trivial fun s => by cases s <;> trivial
    · trivial
  · trivial
  · split
    · exact follows_step trivial fun _ => follows_step trivial fun s => by cases s <;> trivial
    · trivial
  · split
    · exact dispatchIdentify_follows cfg ..
    · trivial
  · exact away (quiet_away (dispatchLinkStatus_quiet cfg) idle)
  · split
    · exact away (wired_away (dispatchUpdateFirmware_wired _) idle)
    · trivial

end

end WirelessProgrammer
