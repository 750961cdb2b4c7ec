import WirelessProgrammer.Drivers.WiFred

/-!
# Which slots a WiFred run writes

The device has four locomotive slots and keeps what it held in a slot that is not written.  A successful run writes the
slots of the request's roster; it writes all four, each with its requested address or `-1`, only for a roster of four
entries.
-/

namespace WirelessProgrammer

open Effect

namespace WiFred

/-- The head of the path that writes the address of slot `n`. -/
def addressHead (n : Nat) (addr : Int) : String :=
  "/index.html?loco=" ++ toString n ++ "&loco.address=" ++ toString addr ++ "&"

/-- The run has issued an address write for slot `n`. -/
def WritesAddress (tr : List (Event DriverOp DriverOp.Res)) (n : Nat) (addr : Int) : Prop :=
  ∃ path, getRequest path ∈ requestsOf tr ∧ (addressHead n addr).toList <+: path.toList

/-- The address the request asks for in a slot, counted from 0; `-1` when it has none. -/
def requestedAddr (req : ProgramRequest) (slot : Nat) : Int := (req.roster[slot]?.map wantAddr).getD (-1)

/-! ### Paths -/

theorem toString_slotNumber {slot : Nat} (h : slot < 255) : toString (slotNumber slot) = toString (slot + 1) := by
  have hn : (slotNumber slot).toNat = slot + 1 := by
    simp [slotNumber]
    omega
  show toString (slotNumber slot).toNat = _
  rw [hn]

theorem slotAddr_eq {e : RosterEntry} (h : ∀ a, e.address = some a → 1 ≤ a ∧ a ≤ 10239) : slotAddr e = wantAddr e := by
  unfold slotAddr wantAddr
  cases ha : e.address with
  | none => rfl
  | some a =>
    have hle : a.toNat ≤ 10239 := (h a ha).2
    have hlt : a.toNat < 2 ^ 15 := by omega
    exact if_pos hlt

private theorem addressHead_locoPath (e : RosterEntry) {slot : Nat} (hslot : slot < 255) :
    (addressHead (slot + 1) (slotAddr e)).toList <+: (locoPath (e, slot)).toList := by
  unfold addressHead locoPath
  simp only [toString_slotNumber hslot, String.toList_append]
  refine ⟨"loco.mode=".toList ++ (percentEncode (e.mode.getD "")).toList ++ "&loco.direction=".toList ++
    (toString (e.direction.getD DONT_CHANGE)).toList ++
    (if e.longAddress = some true then "&loco.longAddress=on" else "").toList, ?_⟩
  simp only [List.append_assoc]
  rfl

/-- A path for a slot, counted from 0, before the fourth does not start like a write of the fourth. -/
private theorem not_head_four {slot : Nat} (hslot : slot < 3) (addr : Int) (tail : List Char) :
    ¬ (addressHead 4 addr).toList <+: "/index.html?loco=".toList ++ ((toString (slotNumber slot)).toList ++ tail) := by
  intro h
  obtain ⟨rest, h⟩ := h
  have h4 : toString 4 = "4" := rfl
  unfold addressHead at h
  simp only [String.toList_append, List.append_assoc, List.append_cancel_left_eq, toString_slotNumber (by omega : slot < 255),
    h4] at h
  have hdigit : toString (slot + 1) = "1" ∨ toString (slot + 1) = "2" ∨ toString (slot + 1) = "3" := by
    have : slot = 0 ∨ slot = 1 ∨ slot = 2 := by omega
    rcases this with rfl | rfl | rfl <;> decide
  rcases hdigit with hd | hd | hd <;> simp [hd] at h

/-- Only a roster of four entries has an address write for the fourth slot in its plan. -/
theorem four_le_of_addressHead {req : ProgramRequest} {addr : Int} {path : String} (hpath : path ∈ writePlan req)
    (h : (addressHead 4 addr).toList <+: path.toList) : 4 ≤ req.roster.length := by
  by_contra hlt
  have hslot : ∀ e ∈ req.roster.zipIdx, e.2 < 3 := by
    intro e he
    have := List.snd_lt_of_mem_zipIdx he
    omega
  have hstart : "/index.html?loco=".toList <+: path.toList := by
    refine List.IsPrefix.trans ⟨"4&loco.address=".toList ++ (toString addr).toList ++ "&".toList, ?_⟩ h
    unfold addressHead
    simp only [String.toList_append, List.append_assoc]
    rfl
  simp only [writePlan, List.cons_append, List.nil_append, List.append_assoc, List.mem_cons, List.mem_append,
    List.mem_map, List.mem_flatMap, List.not_mem_nil, or_false] at hpath
  rcases hpath with rfl | rfl | ⟨e, he, rfl⟩ | ⟨e, he, hf⟩ | rfl | rfl | rfl | rfl | rfl
  · exact absurd hstart (by decide)
  · obtain ⟨rest, h⟩ := hstart
    unfold namePath at h
    simp only [String.toList_append] at h
    simp at h
  · unfold locoPath at h
    simp only [String.toList_append, List.append_assoc] at h
    exact not_head_four (hslot e he) addr _ h
  · unfold functionWrites at hf
    split at hf
    · exact absurd hf List.not_mem_nil
    · obtain rfl := List.mem_singleton.1 hf
      unfold functionsPath at h
      simp only [String.toList_append, List.append_assoc] at h
      exact not_head_four (hslot e he) addr _ h
  · obtain ⟨rest, h⟩ := hstart
    unfold serverPath at h
    simp only [String.toList_append] at h
    simp at h
  · obtain ⟨rest, h⟩ := hstart
    unfold removePath at h
    simp only [String.toList_append] at h
    simp at h
  · obtain ⟨rest, h⟩ := hstart
    unfold wifiPath at h
    simp only [String.toList_append] at h
    simp at h
  · exact absurd hstart (by decide)
  · exact absurd hstart (by decide)

/-! ### Runs -/

/-- For every request that passes validation and every successful run, whatever the device answers: all four slots are
written, with their requested address or `-1`, exactly when the roster has four entries. -/
theorem program_writes_slots (xmlReader : List Char → XmlDocument) (t : Transport) (req : ProgramRequest)
    (hvalid : validate req = .ok ()) (tr : List (Event DriverOp DriverOp.Res)) (o : Outcome)
    (hrun : Prog.Run (program xmlReader t req).run tr (.ok o)) :
    (∀ slot < 4, WritesAddress tr (slot + 1) (requestedAddr req slot)) ↔ req.roster.length = 4 := by
  have hreqs : requestsOf tr = (writePlan req).map getRequest := (program_issues xmlReader t req _ _ hrun).2 o rfl
  have hlen : req.roster.length ≤ 4 := validateCommon_roster hvalid
  constructor
  · intro h
    obtain ⟨path, hmem, hhead⟩ := h 3 (by omega)
    rw [hreqs, List.mem_map] at hmem
    obtain ⟨path', hpath, heq⟩ := hmem
    obtain rfl : path' = path := by simpa [getRequest] using heq
    have := four_le_of_addressHead hpath hhead
    omega
  · intro h4 slot hslot
    have hlt : slot < req.roster.length := by omega
    have hmem : (req.roster[slot], slot) ∈ req.roster.zipIdx := by simp [List.mem_zipIdx_iff_getElem?, hlt]
    have haddr : requestedAddr req slot = slotAddr req.roster[slot] := by
      rw [slotAddr_eq fun a ha => (validateCommon_entry hvalid (List.getElem_mem hlt)).address a ha]
      simp [requestedAddr, hlt]
    refine ⟨locoPath (req.roster[slot], slot), ?_, ?_⟩
    · rw [hreqs]
      refine List.mem_map_of_mem ?_
      simp only [writePlan, List.mem_append, List.mem_map]
      exact .inl (.inl (.inr ⟨_, hmem, rfl⟩))
    · rw [haddr]
      exact addressHead_locoPath _ (by omega)

/-! ### A short roster and a full one -/

private def element (name : String) (attributes : List (String × String)) : XmlElement :=
  ⟨name, attributes.map fun a => (a.1, some a.2)⟩

private def valueElement (name value : String) : XmlEvent := .empty (element name [("value", value)])

private def document : String :=
  "<structurVersion value=\"1\"/><throttleName value=\"122145\"/>" ++
  "<LOCO ID=\"1\"></LOCO><LOCO ID=\"2\"></LOCO><LOCO ID=\"3\"></LOCO><LOCO ID=\"4\"></LOCO>" ++
  "<NETWORK><SSID value=\"net\"/><Enabled value=\"1\"/></NETWORK><ServerName value=\"hub\"/><Port value=\"1\"/>"

private def locoEvents (id : String) : List XmlEvent := [.start (element "LOCO" [("ID", id)]), .endTag "LOCO"]

def documentEvents : List XmlEvent :=
  [valueElement "structurVersion" "1", valueElement "throttleName" "122145"] ++
  locoEvents "1" ++ locoEvents "2" ++ locoEvents "3" ++ locoEvents "4" ++
  [.start (element "NETWORK" []), valueElement "SSID" "net", valueElement "Enabled" "1", .endTag "NETWORK",
    valueElement "ServerName" "hub", valueElement "Port" "1"]

/-- What the XML reader delivers for the document, the only text it is given here. -/
def documentReader (_text : List Char) : XmlDocument := ⟨documentEvents, none⟩

/-- A device that shows the document whenever it is asked for its configuration. -/
private def device : (o : DriverOp) → o.Res
  | .request r => .ok (if r.path = CONFIG_XML_PATH then Text.utf8Bytes document else [])
  | .step _ => ()
  | .progress _ => ()
  | .detail _ => ()

private def unused : RosterEntry := ⟨none, none, none, none, []⟩

def unusedSlots (n : Nat) : ProgramRequest :=
  ⟨"122145", ⟨"net", none⟩, ⟨"hub", 1, false⟩, List.replicate n unused, none, none⟩

theorem run_device {n : Nat}
    (h : verify (documentEvents.foldl ParseState.handleEvent .init).cfg (unusedSlots n) = []) :
    ∃ tr, Prog.Run (program documentReader .http (unusedSlots n)).run tr (.ok ⟨true, []⟩) := by
  have hread : device (.request (getRequest CONFIG_XML_PATH)) = .ok (Text.utf8Bytes document) := by
    simp [device, getRequest]
  have hparse : parseConfig documentReader (Text.utf8Bytes document) =
      .ok (documentEvents.foldl ParseState.handleEvent .init).cfg := parseConfig_utf8Bytes rfl
  exact ⟨_, (program_succeeds documentReader hread hparse (by decide +kernel) h fun path => ⟨_, rfl⟩).run⟩

/-- With an empty roster the run succeeds without a write to slot 4, whatever the device holds there. -/
theorem program_skips_slots :
    ∃ (xmlReader : List Char → XmlDocument) (req : ProgramRequest) (tr : List (Event DriverOp DriverOp.Res))
      (o : Outcome), validate req = .ok () ∧ Prog.Run (program xmlReader .http req).run tr (.ok o) ∧
      ¬ ∀ slot < 4, WritesAddress tr (slot + 1) (requestedAddr req slot) := by
  obtain ⟨tr, hrun⟩ := run_device (n := 0) (by decide +kernel)
  refine ⟨documentReader, unusedSlots 0, _, _, by decide +kernel, hrun, fun h => ?_⟩
  obtain ⟨path, hmem, hhead⟩ := h 3 (by omega)
  rw [(program_issues documentReader .http (unusedSlots 0) _ _ hrun).2 _ rfl, List.mem_map] at hmem
  obtain ⟨path', hpath, heq⟩ := hmem
  obtain rfl : path' = path := by simpa [getRequest] using heq
  exact absurd (four_le_of_addressHead hpath hhead) (by decide)

/-- Four unused slots are all written with `-1`. -/
theorem program_writes_slots_unused :
    ∃ tr o, Prog.Run (program documentReader .http (unusedSlots 4)).run tr (.ok o) ∧
      ∀ slot < 4, WritesAddress tr (slot + 1) (requestedAddr (unusedSlots 4) slot) := by
  obtain ⟨tr, hrun⟩ := run_device (n := 4) (by decide +kernel)
  exact ⟨_, _, hrun, (program_writes_slots documentReader .http (unusedSlots 4) (by decide +kernel) _ _ hrun).2 rfl⟩

end WiFred

end WirelessProgrammer
