import WirelessProgrammer.Drivers.WiFred

/-!
# What a passed WiFred verification means

`Stores` is agreement of a read-back configuration with a request on every field that programming writes.  It splits into
the fields that `verify` compares (`Compared`) and those it does not look at (`Uncompared`), so a passed verification is
only as good as the second part.
-/

namespace WirelessProgrammer

namespace WiFred

/-! ### Agreement -/

/-- The slot's loco holds the requested address. -/
def SlotAddress (g : LocoConfig) (e : RosterEntry) : Prop := g.address = wantAddr e

/-- The slot's loco holds what else is written for the slot: mode, direction, long-address flag and every listed
function value. -/
def SlotDetails (g : LocoConfig) (e : RosterEntry) : Prop :=
  g.mode = some (e.mode.getD "") ∧ g.direction = some (e.direction.getD DONT_CHANGE) ∧
    g.longAddress = some (e.longAddress == some true) ∧
    ∀ fm ∈ e.functions, (g.functions.find? (·.index = fm.index)).map (·.value) = some fm.value

/-- The configuration agrees with the request on the throttle name, the server with its automatic flag, an enabled network
with the SSID, and address, mode, direction, long-address flag and function values of every slot.  The network's key, which
programming writes as well, is not among them. -/
def Stores (cfg : DeviceConfig) (req : ProgramRequest) : Prop :=
  cfg.throttleName = some req.identity ∧
    cfg.locoServer = some ⟨req.server.host, req.server.port, req.server.automatic⟩ ∧
    (∃ n ∈ cfg.networks, n.ssid = req.wifi.ssid ∧ n.enabled = true) ∧
    ∀ (slot : Nat) (e : RosterEntry), req.roster[slot]? = some e →
      ∃ g, cfg.locos[slot]? = some g ∧ SlotAddress g e ∧ SlotDetails g e

/-- Agreement on throttle name, server host and port, an enabled target network, and the slots' addresses. -/
def Compared (cfg : DeviceConfig) (req : ProgramRequest) : Prop :=
  cfg.throttleName = some req.identity ∧
    (∃ automatic, cfg.locoServer = some ⟨req.server.host, req.server.port, automatic⟩) ∧
    (∃ n ∈ cfg.networks, n.ssid = req.wifi.ssid ∧ n.enabled = true) ∧
    ∀ (slot : Nat) (e : RosterEntry), req.roster[slot]? = some e → ∃ g, cfg.locos[slot]? = some g ∧ SlotAddress g e

/-- Agreement on the server's automatic flag and on mode, direction, long-address flag and functions of the slots. -/
def Uncompared (cfg : DeviceConfig) (req : ProgramRequest) : Prop :=
  (∀ v, cfg.locoServer = some v → v.automatic = req.server.automatic) ∧
    ∀ (slot : Nat) (e : RosterEntry) (g : LocoConfig), req.roster[slot]? = some e → cfg.locos[slot]? = some g →
      SlotDetails g e

private theorem stores_iff {cfg : DeviceConfig} {req : ProgramRequest} :
    Stores cfg req ↔ Compared cfg req ∧ Uncompared cfg req := by
  constructor
  · rintro ⟨hname, hserver, hnet, hslots⟩
    refine ⟨⟨hname, ⟨_, hserver⟩, hnet, fun slot e he => ?_⟩, fun v hv => ?_, fun slot e g he hg => ?_⟩
    · obtain ⟨g, hg, haddr, -⟩ := hslots slot e he
      exact ⟨g, hg, haddr⟩
    · rw [hserver] at hv
      rw [← Option.some.inj hv]
    · obtain ⟨g', hg', -, hdetails⟩ := hslots slot e he
      rw [hg'] at hg
      exact Option.some.inj hg ▸ hdetails
  · rintro ⟨⟨hname, ⟨automatic, hserver⟩, hnet, hslots⟩, hauto, hdetails⟩
    refine ⟨hname, ?_, hnet, fun slot e he => ?_⟩
    · rw [hserver, ← hauto _ hserver]
    · obtain ⟨g, hg, haddr⟩ := hslots slot e he
      exact ⟨g, hg, haddr, hdetails slot e g he hg⟩

/-! ### Verification -/

private theorem verifySlot_eq_nil {cfg : DeviceConfig} {e : RosterEntry × Nat} :
    verifySlot cfg e = [] ↔ ∃ g, cfg.locos[e.2]? = some g ∧ SlotAddress g e.1 := by
  unfold verifySlot SlotAddress
  cases cfg.locos[e.2]? with
  | none => simp
  | some g =>
    by_cases h : g.address = wantAddr e.1
    · simp [h]
    · simp [h]

/-- `verify` finds nothing exactly when the fields it compares agree. -/
theorem verify_eq_nil {cfg : DeviceConfig} {req : ProgramRequest} : verify cfg req = [] ↔ Compared cfg req := by
  have hname : (if cfg.throttleName ≠ some req.identity then ["throttleName"] else []) = [] ↔
      cfg.throttleName = some req.identity := by
    split
    · simp_all
    · simp_all
  have hserver : (if cfg.locoServer.map (·.name) ≠ some req.server.host ∨
      (cfg.locoServer.map (·.port)).getD 0 ≠ req.server.port then ["locoServer"] else []) = [] ↔
      ∃ automatic, cfg.locoServer = some ⟨req.server.host, req.server.port, automatic⟩ := by
    cases hs : cfg.locoServer with
    | none => simp
    | some v =>
      by_cases hh : v.name = req.server.host
      · by_cases hp : v.port = req.server.port
        · simp only [Option.map_some, hh, hp, Option.getD_some, ne_eq, not_true_eq_false, or_self, if_false, true_iff]
          exact ⟨v.automatic, by rw [← hh, ← hp]⟩
        · simp only [Option.map_some, hh, Option.getD_some, ne_eq, hp, not_false_eq_true, or_true, if_true,
            List.cons_ne_nil, false_iff, not_exists]
          rintro a ha
          exact hp (congrArg LocoServerConfig.port (Option.some.inj ha))
      · have hne : ¬ some v.name = some req.server.host := fun h => hh (Option.some.inj h)
        simp only [Option.map_some, ne_eq, hne, not_false_eq_true, true_or, if_true, List.cons_ne_nil, false_iff,
          not_exists]
        rintro a ha
        exact hh (congrArg LocoServerConfig.name (Option.some.inj ha))
  have hwifi : (if cfg.networks.any (fun n => n.ssid = req.wifi.ssid && n.enabled) then ([] : List String)
      else ["wifi"]) = [] ↔ ∃ n ∈ cfg.networks, n.ssid = req.wifi.ssid ∧ n.enabled = true := by
    have hany : cfg.networks.any (fun n => n.ssid = req.wifi.ssid && n.enabled) = true ↔
        ∃ n ∈ cfg.networks, n.ssid = req.wifi.ssid ∧ n.enabled = true := by simp [List.any_eq_true]
    rw [← hany]
    split
    · simp_all
    · simp_all
  have hslots : req.roster.zipIdx.flatMap (verifySlot cfg) = [] ↔
      ∀ (slot : Nat) (e : RosterEntry), req.roster[slot]? = some e →
        ∃ g, cfg.locos[slot]? = some g ∧ SlotAddress g e := by
    rw [List.flatMap_eq_nil_iff]
    constructor
    · intro h slot e he
      exact verifySlot_eq_nil.1 (h (e, slot) (List.mem_zipIdx_iff_getElem?.2 he))
    · rintro h ⟨e, slot⟩ hmem
      exact verifySlot_eq_nil.2 (h slot e (List.mem_zipIdx_iff_getElem?.1 hmem))
  unfold verify Compared
  rw [List.append_eq_nil_iff, List.append_eq_nil_iff, List.append_eq_nil_iff, hname, hserver, hwifi, hslots]
  tauto

/-- A passed verification of a request means agreement on every written field exactly for the configurations that differ
in a compared field, or agree in the uncompared ones too. -/
theorem verify_sound_iff (cfg : DeviceConfig) (req : ProgramRequest) :
    (verify cfg req = [] → Stores cfg req) ↔ (Compared cfg req → Uncompared cfg req) := by
  rw [verify_eq_nil, stores_iff]
  exact ⟨fun h hc => (h hc).2, fun h hc => ⟨hc, h hc⟩⟩

/-! ### Silent differences -/

/-- A read-back that holds the compared fields of a request and nothing else. -/
def comparedOnly (req : ProgramRequest) : DeviceConfig where
  structureVersion := some STRUCTURE_VERSION
  throttleName := some req.identity
  firmwareRevision := none
  batteryMv := none
  locos := req.roster.map fun e => ⟨none, wantAddr e, none, none, none, []⟩
  networks := [⟨req.wifi.ssid, none, true⟩]
  locoServer := some ⟨req.server.host, req.server.port, !req.server.automatic⟩

/-- For every request there is a configuration that passes verification and differs from it. -/
theorem verify_comparedOnly (req : ProgramRequest) :
    verify (comparedOnly req) req = [] ∧ ¬ Stores (comparedOnly req) req := by
  constructor
  · rw [verify_eq_nil]
    refine ⟨rfl, ⟨_, rfl⟩, ⟨_, List.mem_singleton_self _, rfl, rfl⟩, fun slot e he => ?_⟩
    exact ⟨⟨none, wantAddr e, none, none, none, []⟩, by simp [comparedOnly, he], rfl⟩
  · rintro ⟨-, hserver, -⟩
    have := congrArg LocoServerConfig.automatic (Option.some.inj hserver)
    simp at this

private def oneLoco : ProgramRequest :=
  ⟨"122145", ⟨"net", none⟩, ⟨"hub", 12090, false⟩, [⟨some 3, none, some "128", some 0, [⟨0, 4⟩]⟩], none, none⟩

/-- An accepted request whose automatic flag, mode, direction and functions the device does not hold. -/
theorem verify_accepts_difference :
    ∃ (cfg : DeviceConfig) (req : ProgramRequest),
      validate req = .ok () ∧ verify cfg req = [] ∧ ¬ Stores cfg req :=
  ⟨comparedOnly oneLoco, oneLoco, by decide +kernel, verify_comparedOnly oneLoco⟩

end WiFred

end WirelessProgrammer
