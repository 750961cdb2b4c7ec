import WirelessProgrammer.Drivers.WiFred

/-!
# What WiFred validation accepts

The firmware's vocabularies of `wp-drivers/src/wifred/constants.rs` beside the checks that `validate` makes.  `validate`
accepts exactly the `CheckedRequest`s, so what it should not have accepted are the checked requests with a value that the
firmware does not know.
-/

namespace WirelessProgrammer

namespace WiFred

/-- Speed-step mode strings accepted by the firmware; the empty string means "do not set speed step mode". -/
def MODES : List String := ["", "128", "28", "27", "14", "motorola_28", "tmcc_32", "incremental", "1", "2", "4", "8", "16"]

/-! ### Requests -/

/-- Six digits, an SSID, at most four entries, and of each entry a DCC address if any and indexes up to 16, none twice. -/
structure CheckedRequest (req : ProgramRequest) : Prop where
  length : req.identity.toList.length = 6
  digits : ∀ c ∈ req.identity.toList, c.isDigit = true
  ssid : req.wifi.ssid ≠ ""
  slots : req.roster.length ≤ 4
  address : ∀ e ∈ req.roster, ∀ a, e.address = some a → 1 ≤ a ∧ a ≤ 10239
  index : ∀ e ∈ req.roster, ∀ fm ∈ e.functions, fm.index ≤ 16
  nodup : ∀ e ∈ req.roster, (e.functions.map (·.index)).Nodup

/-- Modes of the table, directions of `eDirection` and function values of `functionInfo`. -/
structure KnownValues (req : ProgramRequest) : Prop where
  mode : ∀ e ∈ req.roster, ∀ m, e.mode = some m → m ∈ MODES
  direction : ∀ e ∈ req.roster, ∀ d, e.direction = some d → d ≤ 2
  value : ∀ e ∈ req.roster, ∀ fm ∈ e.functions, fm.value ≤ 6

/-- A request that the device can be programmed with. -/
structure WellFormedRequest (req : ProgramRequest) : Prop extends CheckedRequest req, KnownValues req

private theorem validate_eq_ok_iff {req : ProgramRequest} : validate req = .ok () ↔ CheckedRequest req := by
  unfold validate
  rw [validateCommon_eq_ok_iff, capabilities, IdentityFormat.matches_digits]
  constructor
  · rintro ⟨⟨hlen, hdigits⟩, hssid, -, hslots, hentry⟩
    exact ⟨hlen, hdigits, hssid, hslots, fun e he => (hentry e he).address, fun e he => (hentry e he).index,
      fun e he => (hentry e he).nodup⟩
  · rintro ⟨hlen, hdigits, hssid, hslots, haddress, hindex, hnodup⟩
    exact ⟨⟨hlen, hdigits⟩, hssid, rfl, hslots, fun e he => ⟨haddress e he, hindex e he, hnodup e he⟩⟩

/-- Validation accepts a request if and only if it is well formed, exactly for the requests that fail a check or have only
values that the firmware knows. -/
theorem validate_complete_iff (req : ProgramRequest) :
    (validate req = .ok () ↔ WellFormedRequest req) ↔ (CheckedRequest req → KnownValues req) := by
  rw [validate_eq_ok_iff]
  constructor
  · exact fun h hchecked => (h.1 hchecked).toKnownValues
  · exact fun h => ⟨fun hchecked => ⟨hchecked, h hchecked⟩, fun hwell => hwell.toCheckedRequest⟩

/-- An accepted request with a mode, a direction and a function value that the firmware does not know. -/
theorem validate_accepts_unknown :
    ∃ req : ProgramRequest, validate req = .ok () ∧ ¬ WellFormedRequest req ∧
      ∃ e ∈ req.roster, (∃ m, e.mode = some m ∧ m ∉ MODES) ∧ (∃ d, e.direction = some d ∧ ¬ d ≤ 2) ∧
        ∃ fm ∈ e.functions, ¬ fm.value ≤ 6 := by
  refine ⟨⟨"122145", ⟨"net", none⟩, ⟨"hub", 12090, false⟩, [⟨some 3, none, some "turbo", some 9, [⟨0, 200⟩]⟩], none, none⟩,
    by decide +kernel, fun h => ?_, _, List.mem_singleton_self _, ⟨_, rfl, by decide⟩, ⟨_, rfl, by decide⟩, _,
    List.mem_singleton_self _, by decide⟩
  exact absurd (h.mode _ (List.mem_singleton_self _) _ rfl) (by decide)

end WiFred

end WirelessProgrammer
