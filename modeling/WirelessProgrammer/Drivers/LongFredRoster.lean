import Mathlib.Data.List.Forall2
import WirelessProgrammer.Drivers.LongFred

/-!
# The roster that LongFred is sent

An address that passed validation is always formatted, so every addressed entry is in the `PUT` roster, in order.  The
letter follows the long-address flag if there is one: a short address above 127 passes validation and is sent as it is.
-/

namespace WirelessProgrammer

namespace LongFred

/-- The elements of the roster of a settings body. -/
def putRoster (body : Json) : List Json := ((body.get? "roster").bind Json.asArray?).getD []

/-- The addressed entries of a roster. -/
def addressed (req : ProgramRequest) : List (UInt16 × Option Bool) :=
  req.roster.filterMap fun entry => entry.address.map fun address => (address, entry.longAddress)

/-- The element of a roster with this text. -/
def addrElement (text : String) : Json := .obj [("addr", .str text)]

/-- `S` with a short address, or `L` with a long one. -/
def IsRosterAddr (address : UInt16) (text : String) : Prop :=
  (text = "S" ++ toString address ∧ 1 ≤ address ∧ address ≤ 127) ∨
    (text = "L" ++ toString address ∧ 1 ≤ address ∧ address ≤ 10239)

/-- The roster has one element for each addressed entry, in order, and it is the entry's address in its form. -/
def RosterWellFormed (req : ProgramRequest) (roster : List Json) : Prop :=
  List.Forall₂ (fun entry element => ∃ text, element = addrElement text ∧ IsRosterAddr entry.1 text) (addressed req) roster

/-- The letter that an address is sent with. -/
def addrLetter (entry : UInt16 × Option Bool) : String := if entry.2.getD (128 ≤ entry.1) then "L" else "S"

/-! ### The roster as it is sent -/

private theorem putRoster_buildSettingsPut (req : ProgramRequest) :
    putRoster (buildSettingsPut req) = (rosterAddrs req).map addrElement := by
  unfold putRoster buildSettingsPut
  by_cases h : rosterAddrs req = []
  · cases req.bigfred <;> cases req.rosterMode <;> simp [h, Json.object, Json.member, Json.get?, List.lookup_cons]
  · cases req.bigfred <;> cases req.rosterMode <;>
      simp [h, Json.object, Json.member, Json.get?, List.lookup_cons, Json.asArray?, addrElement]

/-- An address in range is formatted. -/
theorem formatRosterAddr_eq {address : UInt16} (h : 1 ≤ address ∧ address ≤ 10239) (longAddress : Option Bool) :
    formatRosterAddr address longAddress = some (addrLetter (address, longAddress) ++ toString address) := by
  have hzero : address ≠ 0 := by
    rintro rfl
    exact absurd h.1 (by decide)
  have hrange : ¬ (address = 0 ∨ address > 10239) := by
    rw [not_or]
    exact ⟨hzero, UInt16.not_lt.2 h.2⟩
  rw [formatRosterAddr, if_neg hrange]
  rfl

/-- The roster of an accepted request: every addressed entry, in order. -/
theorem rosterAddrs_eq {req : ProgramRequest} (hvalid : validate req = .ok ()) :
    rosterAddrs req = (addressed req).map fun entry => addrLetter entry ++ toString entry.1 := by
  have hrange : ∀ e ∈ req.roster, ∀ a, e.address = some a → 1 ≤ a ∧ a ≤ 10239 :=
    fun e he => (validateCommon_entry hvalid he).address
  unfold rosterAddrs addressed
  rw [List.map_filterMap]
  refine List.filterMap_congr fun e he => ?_
  cases ha : e.address with
  | none => rfl
  | some a => exact formatRosterAddr_eq (hrange e he a ha) e.longAddress

/-- A formatted address has its form unless it is a short address above 127. -/
theorem isRosterAddr_iff {entry : UInt16 × Option Bool} (h : 1 ≤ entry.1 ∧ entry.1 ≤ 10239) :
    IsRosterAddr entry.1 (addrLetter entry ++ toString entry.1) ↔ (entry.2 = some false → entry.1 ≤ 127) := by
  obtain ⟨address, longAddress⟩ := entry
  have hletter : ("L" : String) ++ toString address ≠ "S" ++ toString address := by
    intro heq
    have hlist := congrArg String.toList heq
    rw [String.toList_append, String.toList_append] at hlist
    exact absurd (List.cons.inj hlist).1 (by decide)
  have hshort : IsRosterAddr address ("S" ++ toString address) ↔ address ≤ 127 :=
    ⟨fun hr => hr.elim (·.2.2) fun hl => absurd hl.1 hletter.symm, fun hle => .inl ⟨rfl, h.1, hle⟩⟩
  have hlong : IsRosterAddr address ("L" ++ toString address) := .inr ⟨rfl, h⟩
  unfold addrLetter
  cases longAddress with
  | none =>
    by_cases hle : 128 ≤ address
    · simpa [hle] using hlong
    · have hle' : address ≤ 127 := by
        have := UInt16.not_le.1 hle
        rw [UInt16.lt_iff_toNat_lt] at this
        rw [UInt16.le_iff_toNat_le]
        exact Nat.le_of_lt_succ this
      simpa [hle] using hshort.2 hle'
  | some long =>
    cases long with
    | true => simpa using hlong
    | false => simpa using hshort

/-- The roster that an accepted request is sent with is well formed exactly if no entry asks for a short address above
127. -/
theorem roster_wellFormed_iff (req : ProgramRequest) (hvalid : validate req = .ok ()) :
    RosterWellFormed req (putRoster (buildSettingsPut req)) ↔
      ∀ entry ∈ req.roster, ∀ address, entry.address = some address → entry.longAddress = some false → address ≤ 127 := by
  have haddressed : ∀ entry ∈ addressed req, 1 ≤ entry.1 ∧ entry.1 ≤ 10239 := by
    intro entry hentry
    obtain ⟨e, he, ha⟩ := List.mem_filterMap.1 hentry
    obtain ⟨address, haddress, rfl⟩ := Option.map_eq_some_iff.1 ha
    exact (validateCommon_entry hvalid he).address address haddress
  have hforall : ∀ l : List (UInt16 × Option Bool), (∀ entry ∈ l, 1 ≤ entry.1 ∧ entry.1 ≤ 10239) →
      (List.Forall₂ (fun entry element => ∃ text, element = addrElement text ∧ IsRosterAddr entry.1 text) l
        ((l.map fun entry => addrLetter entry ++ toString entry.1).map addrElement) ↔
        ∀ entry ∈ l, entry.2 = some false → entry.1 ≤ 127) := by
    intro l hl
    rw [List.map_map, List.forall₂_map_right_iff, List.forall₂_same]
    refine forall₂_congr fun entry hentry => ?_
    rw [← isRosterAddr_iff (hl entry hentry)]
    constructor
    · rintro ⟨text, htext, hr⟩
      have heq : addrLetter entry ++ toString entry.1 = text := by
        simpa [addrElement] using htext
      exact heq ▸ hr
    · exact fun hr => ⟨_, rfl, hr⟩
  unfold RosterWellFormed
  rw [putRoster_buildSettingsPut, rosterAddrs_eq hvalid, hforall _ haddressed]
  constructor
  · intro h e he address haddress hshort
    exact h (address, e.longAddress) (List.mem_filterMap.2 ⟨e, he, by rw [haddress]; rfl⟩) hshort
  · intro h entry hentry hshort
    obtain ⟨e, he, ha⟩ := List.mem_filterMap.1 hentry
    obtain ⟨address, haddress, rfl⟩ := Option.map_eq_some_iff.1 ha
    exact h e he address haddress hshort

/-! ### A short address of four digits -/

private def oneEntry (address : UInt16) (longAddress : Option Bool) : ProgramRequest :=
  ⟨"pilot1", ⟨"club-wifi", none⟩, ⟨"hub", 12090, false⟩, [⟨some address, longAddress, none, none, []⟩], none, none⟩

/-- A short address 3000 is accepted and sent as `S3000`. -/
theorem roster_short_address :
    ∃ req : ProgramRequest, validate req = .ok () ∧ putRoster (buildSettingsPut req) = [addrElement "S3000"] ∧
      ¬ RosterWellFormed req (putRoster (buildSettingsPut req)) := by
  have hroster : putRoster (buildSettingsPut (oneEntry 3000 (some false))) = [addrElement "S3000"] := by
    rw [putRoster_buildSettingsPut]
    rfl
  refine ⟨oneEntry 3000 (some false), by decide +kernel, hroster, fun h => ?_⟩
  rw [hroster] at h
  obtain ⟨⟨text, htext, haddr⟩, -⟩ := List.forall₂_cons.1 h
  obtain rfl : "S3000" = text := by simpa [addrElement] using htext
  rcases haddr with ⟨-, -, hle⟩ | ⟨hlong, -⟩
  · exact absurd hle (by decide)
  · exact absurd hlong (by decide)

/-- A long address 3000 is sent as `L3000`. -/
theorem roster_long_address :
    RosterWellFormed (oneEntry 3000 (some true)) (putRoster (buildSettingsPut (oneEntry 3000 (some true)))) := by
  refine (roster_wellFormed_iff (oneEntry 3000 (some true)) (by decide +kernel)).2 fun entry hentry address _ hshort => ?_
  obtain rfl := List.mem_singleton.1 hentry
  exact absurd hshort (by decide)

end LongFred

end WirelessProgrammer
