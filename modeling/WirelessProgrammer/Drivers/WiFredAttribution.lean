import WirelessProgrammer.Drivers.WiFredVerify

/-!
# Which slot a read-back address is compared with

The parser pushes a loco at each closing tag, in the order of the document, and `verify` looks the slots up by their place;
the `ID` that was read is not looked at.  So a passed comparison speaks of the element at the slot's place among those that
are not self-closing, and `attributed_iff` says for which documents that is the element with the slot's number.
-/

namespace WirelessProgrammer

namespace WiFred

/-! ### Documents -/

/-- The event neither opens nor closes a slot. -/
def NoLoco : XmlEvent → Prop
  | .start e => e.name ≠ "LOCO"
  | .empty e => e.name ≠ "LOCO"
  | .endTag name => name ≠ "LOCO"
  | .other => True

/-- A `LOCO` element: its attributes, and what is inside it unless it is self-closing. -/
structure LocoElement where
  attributes : List (String × Option String)
  children : Option (List XmlEvent)
  noLoco : ∀ child ∈ children.getD [], NoLoco child

/-- A part of a document: a slot, or an event outside the slots. -/
inductive DocumentItem
  | loco (l : LocoElement)
  | other (event : XmlEvent) (h : NoLoco event)

namespace LocoElement

variable (l : LocoElement)

def tag : XmlElement := ⟨"LOCO", l.attributes⟩

def events : List XmlEvent :=
  match l.children with
  | none => [.empty l.tag]
  | some children => .start l.tag :: children ++ [.endTag "LOCO"]

/-- The number of the slot, if it has one. -/
def id : Option UInt8 := attrU8 l.tag "ID"

end LocoElement

/-- The address after an event inside a slot. -/
def addressAfter (address : Int) : XmlEvent → Int
  | .start e => if e.name = "DCCadress" then (attrI64 e "value").getD (-1) else address
  | .empty e => if e.name = "DCCadress" then (attrI64 e "value").getD (-1) else address
  | _ => address

/-- The address that a slot carries; `-1`, of an unused one, if it has none. -/
def LocoElement.address (l : LocoElement) : Int := (l.children.getD []).foldl addressAfter (-1)

def DocumentItem.events : DocumentItem → List XmlEvent
  | loco l => l.events
  | other event _ => [event]

def DocumentItem.loco? : DocumentItem → Option LocoElement
  | loco l => some l
  | other _ _ => none

/-- The slots of a document, in order. -/
def locoElements (doc : List DocumentItem) : List LocoElement := doc.filterMap DocumentItem.loco?

/-- Those of them that are not self-closing. -/
def openedElements (doc : List DocumentItem) : List LocoElement := (locoElements doc).filter (·.children.isSome)

/-- What the parser makes of a document. -/
def parsed (doc : List DocumentItem) : DeviceConfig :=
  ((doc.flatMap DocumentItem.events).foldl ParseState.handleEvent .init).cfg

/-! ### The parser -/

private theorem handleElement_address (s : ParseState) (attributes : List (String × Option String)) :
    (s.handleElement ⟨"DCCadress", attributes⟩).cfg.locos = s.cfg.locos ∧
      (s.handleElement ⟨"DCCadress", attributes⟩).currentLoco.map (·.address) =
        s.currentLoco.map fun _ => (attrI64 ⟨"DCCadress", attributes⟩ "value").getD (-1) := by
  obtain ⟨cfg, cur, net, inFunctions⟩ := s
  cases cur <;> exact ⟨rfl, rfl⟩

/-- Other elements leave the slots and the current address alone. -/
theorem handleElement_other (s : ParseState) {e : XmlElement} (hloco : e.name ≠ "LOCO") (haddress : e.name ≠ "DCCadress") :
    (s.handleElement e).cfg.locos = s.cfg.locos ∧
      (s.handleElement e).currentLoco.map (·.address) = s.currentLoco.map (·.address) := by
  obtain ⟨cfg, cur, net, inFunctions⟩ := s
  unfold ParseState.handleElement
  split
  case h_5 => exact absurd ‹_› hloco
  case h_6 => exact absurd ‹_› haddress
  case h_11 =>
    -- a function outside a function map is not looked at
    cases inFunctions with
    | true => exact ⟨rfl, by cases cur <;> rfl⟩
    | false => exact ⟨rfl, rfl⟩
  all_goals exact ⟨rfl, by cases cur <;> rfl⟩

private theorem handleElement_noLoco (s : ParseState) {e : XmlElement} (h : e.name ≠ "LOCO") :
    (s.handleElement e).cfg.locos = s.cfg.locos ∧
      (s.handleElement e).currentLoco.map (·.address) =
        s.currentLoco.map fun l => if e.name = "DCCadress" then (attrI64 e "value").getD (-1) else l.address := by
  by_cases haddress : e.name = "DCCadress"
  · obtain ⟨name, attributes⟩ := e
    obtain rfl : name = "DCCadress" := haddress
    exact handleElement_address s attributes
  · obtain ⟨hlocos, hcurrent⟩ := handleElement_other s h haddress
    refine ⟨hlocos, hcurrent.trans (congrArg (Option.map · s.currentLoco) (funext fun l => ?_))⟩
    exact (if_neg haddress).symm

private theorem handleEvent_noLoco (s : ParseState) {event : XmlEvent} (h : NoLoco event) :
    (s.handleEvent event).cfg.locos = s.cfg.locos ∧
      (s.handleEvent event).currentLoco.map (·.address) = s.currentLoco.map fun l => addressAfter l.address event := by
  cases event with
  | start e => exact handleElement_noLoco s h
  | empty e => exact handleElement_noLoco s h
  | endTag name =>
    obtain ⟨cfg, cur, net, inFunctions⟩ := s
    show (ParseState.handleEnd _ name).cfg.locos = _ ∧ (ParseState.handleEnd _ name).currentLoco.map _ = _
    unfold ParseState.handleEnd
    split
    case h_1 => exact absurd rfl h
    all_goals exact ⟨rfl, rfl⟩
  | other => exact ⟨rfl, rfl⟩

/-- Events inside a slot change its address in turn. -/
theorem foldl_noLoco (s : ParseState) {events : List XmlEvent} (h : ∀ event ∈ events, NoLoco event) :
    (events.foldl ParseState.handleEvent s).cfg.locos = s.cfg.locos ∧
      (events.foldl ParseState.handleEvent s).currentLoco.map (·.address) =
        s.currentLoco.map fun l => events.foldl addressAfter l.address := by
  induction events generalizing s with
  | nil => exact ⟨rfl, rfl⟩
  | cons event events ih =>
    obtain ⟨hevent, hevents⟩ := List.forall_mem_cons.1 h
    obtain ⟨hlocos, hcurrent⟩ := handleEvent_noLoco s hevent
    obtain ⟨hlocos', hcurrent'⟩ := ih (s.handleEvent event) hevents
    refine ⟨hlocos'.trans hlocos, hcurrent'.trans ?_⟩
    have hfold := congrArg (Option.map fun a => events.foldl addressAfter a) hcurrent
    rw [Option.map_map, Option.map_map] at hfold
    exact hfold

/-- A slot that is not self-closing is pushed with the address it carries, a self-closing one is not pushed. -/
theorem foldl_loco (s : ParseState) (l : LocoElement) :
    (l.events.foldl ParseState.handleEvent s).cfg.locos.map (·.address) =
      s.cfg.locos.map (·.address) ++ if l.children.isSome then [l.address] else [] := by
  obtain ⟨attributes, children, hchildren⟩ := l
  cases children with
  | none => simp [LocoElement.events, ParseState.handleEvent, LocoElement.tag, ParseState.handleElement]
  | some children =>
    let s' := s.handleEvent (.start ⟨"LOCO", attributes⟩)
    obtain ⟨hlocos, hcurrent⟩ := @foldl_noLoco s' children hchildren
    have hopen : s'.currentLoco = some ⟨attrU8 ⟨"LOCO", attributes⟩ "ID", -1, none, none, none, []⟩ := rfl
    have hsame : s'.cfg.locos = s.cfg.locos := rfl
    obtain ⟨loco, hloco, haddress⟩ := Option.map_eq_some_iff.1 (hcurrent.trans (by rw [hopen]; rfl))
    have hend : (LocoElement.events ⟨attributes, some children, hchildren⟩).foldl ParseState.handleEvent s =
        (children.foldl ParseState.handleEvent s').handleEvent (.endTag "LOCO") := by
      simp [LocoElement.events, LocoElement.tag, s']
    have hpush : ((children.foldl ParseState.handleEvent s').handleEvent (.endTag "LOCO")).cfg.locos =
        (children.foldl ParseState.handleEvent s').cfg.locos ++
          (children.foldl ParseState.handleEvent s').currentLoco.toList := rfl
    rw [hend, hpush, List.map_append, hlocos, hsame]
    rw [hloco]
    exact congrArg (_ ++ [·]) haddress

/-- The parser's slots are the elements that are not self-closing, in the order of the document. -/
theorem parsed_locos (doc : List DocumentItem) :
    (parsed doc).locos.map (·.address) = (openedElements doc).map LocoElement.address := by
  have hfold : ∀ s : ParseState, ((doc.flatMap DocumentItem.events).foldl ParseState.handleEvent s).cfg.locos.map (·.address) =
      s.cfg.locos.map (·.address) ++ (openedElements doc).map LocoElement.address := by
    induction doc with
    | nil => exact fun s => (List.append_nil _).symm
    | cons item doc ih =>
      intro s
      rw [List.flatMap_cons, List.foldl_append, ih]
      cases item with
      | loco l =>
        rw [DocumentItem.events, foldl_loco, List.append_assoc]
        refine congrArg (_ ++ ·) ?_
        by_cases hopen : l.children.isSome = true
        · simp [openedElements, locoElements, DocumentItem.loco?, hopen]
        · simp [openedElements, locoElements, DocumentItem.loco?, hopen]
      | other event h =>
        have hevent : [event].foldl ParseState.handleEvent s = s.handleEvent event := rfl
        have hnone : (DocumentItem.other event h).loco? = none := rfl
        rw [DocumentItem.events, hevent, (handleEvent_noLoco s h).1, openedElements, openedElements, locoElements,
          locoElements, List.filterMap_cons_none hnone]
  exact hfold .init

/-! ### Mismatches -/

/-- The mismatch of a slot's address, counted from 0. -/
def slotMismatch (slot : Nat) : String := s!"loco[{slot + 1}].address"

private theorem slotMismatch_injective {i j : Nat} (h : slotMismatch i = slotMismatch j) : i = j := by
  have hlist := congrArg String.toList h
  simp only [slotMismatch, String.toList_append, List.append_assoc] at hlist
  have hdigits := List.append_cancel_right (List.append_cancel_left hlist)
  have hvalue : ∀ n : Nat, Nat.ofDigitChars 10 (toString n).toList 0 = n := by
    intro n
    rw [Text.toList_toString_nat, Nat.ofDigitChars_ten_toDigits]
  have hnumber : i + 1 = j + 1 := by
    calc i + 1 = Nat.ofDigitChars 10 (toString (i + 1)).toList 0 := (hvalue _).symm
      _ = Nat.ofDigitChars 10 (toString (j + 1)).toList 0 := congrArg (Nat.ofDigitChars 10 · 0) hdigits
      _ = j + 1 := hvalue _
  omega

private theorem slotMismatch_ne {slot : Nat} : slotMismatch slot ≠ "throttleName" ∧ slotMismatch slot ≠ "locoServer" ∧
    slotMismatch slot ≠ "wifi" := by
  have hhead : "loco[".toList <+: (slotMismatch slot).toList := by
    simp only [slotMismatch, String.toList_append, List.append_assoc]
    exact List.prefix_append ..
  refine ⟨fun h => ?_, fun h => ?_, fun h => ?_⟩
  · rw [h] at hhead
    exact absurd hhead (by decide)
  · rw [h] at hhead
    exact absurd hhead (by decide)
  · rw [h] at hhead
    exact absurd hhead (by decide)

/-- A slot's mismatch is reported unless the parsed slot at its place has the address. -/
theorem slotMismatch_mem_iff {cfg : DeviceConfig} {req : ProgramRequest} {slot : Nat} {e : RosterEntry}
    (he : req.roster[slot]? = some e) :
    slotMismatch slot ∉ verify cfg req ↔ (cfg.locos.map (·.address))[slot]? = some (wantAddr e) := by
  have hslot : slotMismatch slot ∈ verify cfg req ↔ slotMismatch slot ∈ verifySlot cfg (e, slot) := by
    obtain ⟨hname, hserver, hwifi⟩ := @slotMismatch_ne slot
    have hfields : ∀ (c : Prop) [Decidable c] (field : String), slotMismatch slot ≠ field →
        slotMismatch slot ∉ (if c then [field] else []) ∧ slotMismatch slot ∉ (if c then [] else [field]) := by
      intro c _ field hne
      by_cases hc : c <;> simp [hc, hne]
    unfold verify
    simp only [List.mem_append, (hfields _ _ hname).1, (hfields _ _ hserver).1, (hfields _ _ hwifi).2, false_or,
      List.mem_flatMap]
    constructor
    · rintro ⟨⟨e', i⟩, hmem, hin⟩
      -- a mismatch has the number of its own slot
      have hi : slotMismatch slot = slotMismatch i := by
        unfold verifySlot at hin
        split at hin
        · split at hin
          · exact nomatch hin
          · exact List.mem_singleton.1 hin
        · exact List.mem_singleton.1 hin
      obtain rfl := slotMismatch_injective hi
      have he' := List.mem_zipIdx_iff_getElem?.1 hmem
      obtain rfl : e = e' := Option.some.inj (he.symm.trans he')
      exact hin
    · exact fun hin => ⟨(e, slot), List.mem_zipIdx_iff_getElem?.2 he, hin⟩
  rw [hslot, List.getElem?_map]
  unfold verifySlot
  cases cfg.locos[slot]? with
  | none => simp [slotMismatch]
  | some g =>
    by_cases h : g.address = wantAddr e
    · simp [h]
    · simp [h, slotMismatch]

/-! ### Attribution -/

/-- There is an element with the slot's number, counted from 1, and every such element carries the address. -/
def CarriesAddress (doc : List DocumentItem) (slot : Nat) (address : Int) : Prop :=
  (∃ l ∈ locoElements doc, l.id.map (·.toNat) = some (slot + 1)) ∧
    ∀ l ∈ locoElements doc, l.id.map (·.toNat) = some (slot + 1) → l.address = address

/-- What a request can ask for: an unused slot, or a number of 16 bits. -/
def Requestable (address : Int) : Prop := address = -1 ∨ 0 ≤ address ∧ address < 2 ^ 16

private theorem requestable_iff {address : Int} : Requestable address ↔ ∃ e : RosterEntry, wantAddr e = address := by
  constructor
  · rintro (rfl | ⟨hlo, hhi⟩)
    · exact ⟨⟨none, none, none, none, []⟩, rfl⟩
    · have hlt : address.toNat < 2 ^ 16 := by omega
      refine ⟨⟨some (UInt16.ofNat address.toNat), none, none, none, []⟩, ?_⟩
      show ((UInt16.ofNat address.toNat).toNat : Int) = address
      rw [UInt16.toNat_ofNat_of_lt' hlt]
      omega
  · rintro ⟨⟨address, _, _, _, _⟩, rfl⟩
    cases address with
    | none => exact .inl rfl
    | some a =>
      have ha : (a.toNat : Int) < 2 ^ 16 := by
        have := a.toNat_lt
        omega
      exact .inr ⟨Int.natCast_nonneg _, ha⟩

/-- For every document and slot: whenever the slot's comparison passes the element with its number carries the requested
address, exactly if that holds of the address of the element at the slot's place among those that are not self-closing. -/
theorem attributed_iff (doc : List DocumentItem) (slot : Nat) :
    (∀ (xmlReader : List Char → XmlDocument) (text : String) (cfg : DeviceConfig) (req : ProgramRequest) (e : RosterEntry),
        xmlReader text.toList = ⟨doc.flatMap DocumentItem.events, none⟩ →
        parseConfig xmlReader (Text.utf8Bytes text) = .ok cfg → req.roster[slot]? = some e →
        slotMismatch slot ∉ verify cfg req → CarriesAddress doc slot (wantAddr e)) ↔
      ∀ l, (openedElements doc)[slot]? = some l → Requestable l.address → CarriesAddress doc slot l.address := by
  have hpassed : ∀ (req : ProgramRequest) (e : RosterEntry), req.roster[slot]? = some e →
      (slotMismatch slot ∉ verify (parsed doc) req ↔
        ∃ l, (openedElements doc)[slot]? = some l ∧ l.address = wantAddr e) := by
    intro req e he
    rw [slotMismatch_mem_iff he, parsed_locos, List.getElem?_map, Option.map_eq_some_iff]
  constructor
  · intro h l hl hreq
    obtain ⟨e, he⟩ := requestable_iff.1 hreq
    let req : ProgramRequest := ⟨"", ⟨"", none⟩, ⟨"", 0, false⟩, List.replicate slot e ++ [e], none, none⟩
    have hroster : req.roster[slot]? = some e := by simp [req]
    rw [← he]
    exact h (fun _ => ⟨_, none⟩) "" (parsed doc) req e rfl (parseConfig_utf8Bytes rfl) hroster
      ((hpassed req e hroster).2 ⟨l, hl, he.symm⟩)
  · intro h xmlReader text cfg req e hreader hparse he hmatch
    rw [parseConfig_utf8Bytes hreader] at hparse
    obtain rfl : parsed doc = cfg := Except.ok.inj hparse
    obtain ⟨l, hl, haddress⟩ := (hpassed req e he).1 hmatch
    have := h l hl (requestable_iff.2 ⟨e, haddress.symm⟩)
    rwa [haddress] at this

/-! ### Two slots in the other order -/

private def value (name text : String) (h : name ≠ "LOCO" := by decide) : DocumentItem :=
  .other (.empty ⟨name, [("value", some text)]⟩) h

private def slotWith (id address : String) : DocumentItem :=
  .loco ⟨[("ID", some id)], some [.empty ⟨"DCCadress", [("value", some address)]⟩], by
    simp only [Option.getD_some, List.forall_mem_singleton]
    exact (by decide : "DCCadress" ≠ "LOCO")⟩

/-- The second slot comes before the first one. -/
private def swappedDocument : List DocumentItem :=
  [value "structurVersion" "1", value "throttleName" "122145", slotWith "2" "3", slotWith "1" "4",
    .other (.start ⟨"NETWORK", []⟩) (by decide : "NETWORK" ≠ "LOCO"), value "SSID" "net", value "Enabled" "1",
    .other (.endTag "NETWORK") (by decide : "NETWORK" ≠ "LOCO"), value "ServerName" "hub", value "Port" "1"]

private def threeAndFour : ProgramRequest :=
  ⟨"122145", ⟨"net", none⟩, ⟨"hub", 1, false⟩,
    [⟨some 3, none, none, none, []⟩, ⟨some 4, none, none, none, []⟩], none, none⟩

/-- Addresses 3 and 4 are requested, slot 1 of the device has 4 and slot 2 has 3, and verification finds nothing. -/
theorem verify_accepts_swapped :
    ∃ (doc : List DocumentItem) (xmlReader : List Char → XmlDocument) (text : String) (cfg : DeviceConfig)
      (req : ProgramRequest) (e : RosterEntry),
      xmlReader text.toList = ⟨doc.flatMap DocumentItem.events, none⟩ ∧
      parseConfig xmlReader (Text.utf8Bytes text) = .ok cfg ∧ validate req = .ok () ∧ verify cfg req = [] ∧
      req.roster[0]? = some e ∧ ¬ CarriesAddress doc 0 (wantAddr e) := by
  refine ⟨swappedDocument, fun _ => ⟨_, none⟩, "", parsed swappedDocument, threeAndFour, _, rfl, parseConfig_utf8Bytes rfl,
    by decide +kernel, by decide +kernel, rfl, fun h => ?_⟩
  have hslots : (locoElements swappedDocument).map (fun l => (l.id.map (·.toNat), l.address)) =
      [(some 2, 3), (some 1, 4)] := by decide +kernel
  have hsecond : (some 1, (4 : Int)) ∈ (locoElements swappedDocument).map fun l => (l.id.map (·.toNat), l.address) := by
    rw [hslots]
    decide
  obtain ⟨l, hl, hpair⟩ := List.mem_map.1 hsecond
  have hcarried : l.address = 4 := congrArg Prod.snd hpair
  have hrequested : l.address = 3 := h.2 l hl (congrArg Prod.fst hpair)
  omega

end WiFred

end WirelessProgrammer
