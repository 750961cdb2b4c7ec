import WirelessProgrammer.Drivers.LongFred

/-!
# What a passed LongFred verification means

`verify` walks the wanted roster and looks each address up at its place in the stored one.  So what it compares makes the
stored roster start with the wanted one; the stored roster is the wanted one if nothing follows.
-/

namespace WirelessProgrammer

namespace LongFred

/-! ### What is compared -/

/-- The `addr` text of a roster entry, if it has one. -/
def addrOf (entry : Json) : Option String := (entry.get? "addr").bind Json.asStr?

/-- The stored roster entries. -/
def storedEntries (settings : Json) : List Json := itemsAt settings ["roster", "entries"]

/-- The addresses of the stored roster, in order. -/
def storedAddrs (settings : Json) : List String := (storedEntries settings).filterMap addrOf

/-- Agreement on the network, the hostname, the login and the roster mode if the request has them, and at every place of
the wanted roster. -/
def Compared (settings : Json) (req : ProgramRequest) : Prop :=
  (∃ n ∈ itemsAt settings ["wifi", "networks"], n.asStr? = some req.wifi.ssid) ∧
    (req.identity = "" ∨ textAt settings ["wifi", "hostname"] = req.identity) ∧
    (∀ bf, req.bigfred = some bf → textAt settings ["bigfred", "login"] = bf.login) ∧
    (∀ mode, req.rosterMode = some mode → textAt settings ["roster", "mode"] = mode) ∧
    ∀ (i : Nat) (addr : String), (rosterAddrs req)[i]? = some addr →
      ((storedEntries settings)[i]?.bind addrOf) = some addr

/-- No address is stored past the places of the wanted roster. -/
def NoSurplus (settings : Json) (req : ProgramRequest) : Prop :=
  ∀ entry ∈ (storedEntries settings).drop (rosterAddrs req).length, addrOf entry = none

private theorem verifyAddr_eq_nil {entries : List Json} {want : String × Nat} :
    verifyAddr entries want = [] ↔ (entries[want.2]?.bind addrOf) = some want.1 := by
  have hassoc : ((entries[want.2]?.bind (Json.get? "addr")).bind Json.asStr?) = entries[want.2]?.bind addrOf := by
    cases entries[want.2]? with
    | none => rfl
    | some entry => rfl
  unfold verifyAddr
  rw [hassoc]
  by_cases h : (entries[want.2]?.bind addrOf) = some want.1
  · simp [h]
  · simp [h]

private theorem login_eq_nil {text : String} {bigfred : Option BigfredCreds} :
    (match bigfred with
      | some bf => if text ≠ bf.login then ["bigfred.login"] else []
      | none => []) = [] ↔ ∀ bf, bigfred = some bf → text = bf.login := by
  cases bigfred with
  | none => simp
  | some bf => simp

private theorem mode_eq_nil {text : String} {rosterMode : Option String} :
    (match rosterMode with
      | some mode => if text ≠ mode then ["roster.mode"] else []
      | none => []) = [] ↔ ∀ mode, rosterMode = some mode → text = mode := by
  cases rosterMode with
  | none => simp
  | some mode => simp

/-- `verify` finds nothing exactly when what it compares agrees. -/
theorem verify_eq_nil {settings : Json} {req : ProgramRequest} : verify settings req = [] ↔ Compared settings req := by
  have hwifi : (if (itemsAt settings ["wifi", "networks"]).any (fun n => n.asStr? = some req.wifi.ssid) then
      ([] : List String) else ["wifi"]) = [] ↔
      ∃ n ∈ itemsAt settings ["wifi", "networks"], n.asStr? = some req.wifi.ssid := by
    by_cases h : (itemsAt settings ["wifi", "networks"]).any (fun n => n.asStr? = some req.wifi.ssid) = true
    · simp only [h, if_true, true_iff]
      simpa [List.any_eq_true] using h
    · rw [if_neg h]
      simpa [List.any_eq_true] using h
  have hhost : (if req.identity ≠ "" ∧ textAt settings ["wifi", "hostname"] ≠ req.identity then ["wifi.hostname"]
      else []) = [] ↔ req.identity = "" ∨ textAt settings ["wifi", "hostname"] = req.identity := by
    by_cases h : req.identity ≠ "" ∧ textAt settings ["wifi", "hostname"] ≠ req.identity
    · simp only [if_pos h, List.cons_ne_nil, false_iff]
      tauto
    · simp only [if_neg h, true_iff]
      tauto
  have hroster : (rosterAddrs req).zipIdx.flatMap (verifyAddr (itemsAt settings ["roster", "entries"])) = [] ↔
      ∀ (i : Nat) (addr : String), (rosterAddrs req)[i]? = some addr →
        ((storedEntries settings)[i]?.bind addrOf) = some addr := by
    rw [List.flatMap_eq_nil_iff]
    constructor
    · intro h i addr hi
      exact verifyAddr_eq_nil.1 (h (addr, i) (List.mem_zipIdx_iff_getElem?.2 hi))
    · rintro h ⟨addr, i⟩ hmem
      exact verifyAddr_eq_nil.2 (h i addr (List.mem_zipIdx_iff_getElem?.1 hmem))
  unfold verify Compared
  simp only [List.append_eq_nil_iff]
  constructor
  · rintro ⟨⟨⟨⟨h₁, h₂⟩, h₃⟩, h₄⟩, h₅⟩
    exact ⟨hwifi.1 h₁, hhost.1 h₂, login_eq_nil.1 h₃, mode_eq_nil.1 h₄, hroster.1 h₅⟩
  · rintro ⟨h₁, h₂, h₃, h₄, h₅⟩
    exact ⟨⟨⟨⟨hwifi.2 h₁, hhost.2 h₂⟩, login_eq_nil.2 h₃⟩, mode_eq_nil.2 h₄⟩, hroster.2 h₅⟩

/-! ### The stored roster -/

/-- Entries that hold the wanted addresses at their places start with them. -/
private theorem filterMap_take {entries : List Json} {want : List String}
    (h : ∀ (i : Nat) (addr : String), want[i]? = some addr → (entries[i]?.bind addrOf) = some addr) :
    (entries.take want.length).filterMap addrOf = want := by
  induction want generalizing entries with
  | nil => simp
  | cons addr want ih =>
    have hhead := h 0 addr rfl
    cases entries with
    | nil => exact nomatch hhead
    | cons entry entries =>
      have htail := ih fun i a hi => h (i + 1) a hi
      have hentry : addrOf entry = some addr := hhead
      rw [List.length_cons, List.take_succ_cons, List.filterMap_cons_some hentry, htail]

/-- Where the compared fields agree, the stored roster is the wanted one and whatever is stored past it. -/
theorem storedAddrs_eq {settings : Json} {req : ProgramRequest} (h : Compared settings req) :
    storedAddrs settings =
      rosterAddrs req ++ ((storedEntries settings).drop (rosterAddrs req).length).filterMap addrOf := by
  have hsplit := congrArg (List.filterMap addrOf) (List.take_append_drop (rosterAddrs req).length (storedEntries settings))
  rw [List.filterMap_append, filterMap_take h.2.2.2.2] at hsplit
  exact hsplit.symm

/-- A passed verification means that the stored roster is the wanted one exactly for the settings that differ in a compared
field, or store no address past the wanted roster. -/
theorem verify_roster_iff (settings : Json) (req : ProgramRequest) :
    (verify settings req = [] → storedAddrs settings = rosterAddrs req) ↔
      (Compared settings req → NoSurplus settings req) := by
  rw [verify_eq_nil]
  refine forall_congr' fun h => ?_
  rw [storedAddrs_eq h, List.append_right_eq_self, List.filterMap_eq_nil_iff]
  exact Iff.rfl

/-! ### A roster that stays -/

private def noRoster : ProgramRequest := ⟨"pilot1", ⟨"club-wifi", none⟩, ⟨"hub", 12090, false⟩, [], none, none⟩

private def oldRoster : Json :=
  .obj [("wifi", .obj [("hostname", .str "pilot1"), ("networks", .arr [.str "club-wifi"])]),
    ("roster", .obj [("entries", .arr [.obj [("addr", .str "S3")]])])]

/-- An accepted request without locomotives passes verification against a device that still has one. -/
theorem verify_keeps_roster :
    ∃ (settings : Json) (req : ProgramRequest),
      validate req = .ok () ∧ verify settings req = [] ∧ storedAddrs settings ≠ rosterAddrs req :=
  ⟨oldRoster, noRoster, by decide +kernel, by decide +kernel, by decide +kernel⟩

end LongFred

end WirelessProgrammer
