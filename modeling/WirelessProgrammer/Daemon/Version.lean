import Mathlib.Data.Nat.Digits.Defs
import WirelessProgrammer.Core

/-!
# The version section

`elf_section_data` looks up a section of an ELF file by its name.  Most sums are checked, but the field offset is added to
the offset of the section header of the names as it is: `section_data_iff` says for which files the lookup panics.
-/

namespace WirelessProgrammer

/-- A computation with `?` on options. -/
abbrev Lookup := OptionT Checked

namespace Lookup

variable {α β : Type}

def ofOption (o : Option α) : Lookup α := OptionT.mk (.ok o)

/-- The lookup comes to a value or to none. -/
def Total (x : Lookup α) : Prop := ∃ r, x.run = .ok r

def Returns (x : Lookup α) (a : α) : Prop := x.run = .ok (some a)

@[simp] theorem total_ofOption (o : Option α) : (ofOption o).Total := ⟨o, rfl⟩

@[simp] theorem returns_ofOption {o : Option α} {a : α} : (ofOption o).Returns a ↔ o = some a := by
  constructor
  · exact Checked.ok.inj
  · exact congrArg Checked.ok

@[simp] theorem total_failure : (failure : Lookup α).Total := ⟨none, rfl⟩

@[simp] theorem not_returns_failure (a : α) : ¬ (failure : Lookup α).Returns a := by
  intro h
  cases Checked.ok.inj h

@[simp] theorem total_pure (a : α) : (pure a : Lookup α).Total := ⟨some a, rfl⟩

@[simp] theorem returns_pure {a b : α} : (pure a : Lookup α).Returns b ↔ a = b := by
  constructor
  · intro h
    exact Option.some.inj (Checked.ok.inj h)
  · rintro rfl
    rfl

@[simp] theorem returns_lift {c : Checked α} {a : α} : (liftM c : Lookup α).Returns a ↔ c = .ok a := by
  cases c with
  | ok b =>
    constructor
    · intro h
      rw [Option.some.inj (Checked.ok.inj h)]
    · intro h
      rw [Checked.ok.inj h]
      rfl
  | err e => exact iff_of_false (fun h => by cases h) (fun h => by cases h)
  | panic => exact iff_of_false (fun h => by cases h) (fun h => by cases h)

@[simp] theorem total_lift {c : Checked α} : (liftM c : Lookup α).Total ↔ ∃ a, c = .ok a := by
  cases c with
  | ok a => exact iff_of_true ⟨some a, rfl⟩ ⟨a, rfl⟩
  | err e => exact iff_of_false (fun ⟨r, h⟩ => by cases h) (fun ⟨a, h⟩ => by cases h)
  | panic => exact iff_of_false (fun ⟨r, h⟩ => by cases h) (fun ⟨a, h⟩ => by cases h)

private theorem returns_bind {x : Lookup α} {f : α → Lookup β} {b : β} :
    (x >>= f).Returns b ↔ ∃ a, x.Returns a ∧ (f a).Returns b := by
  unfold Returns
  rw [OptionT.run_bind]
  rcases hx : x.run with (_ | a) | e | _
  · exact iff_of_false (fun h => by cases h) (fun ⟨a, ha, _⟩ => by cases ha)
  · constructor
    · intro h
      exact ⟨a, rfl, h⟩
    · rintro ⟨a', ha, h⟩
      obtain rfl := Option.some.inj (Checked.ok.inj ha)
      exact h
  · exact iff_of_false (fun h => by cases h) (fun ⟨a, ha, _⟩ => by cases ha)
  · exact iff_of_false (fun h => by cases h) (fun ⟨a, ha, _⟩ => by cases ha)

private theorem total_bind {x : Lookup α} {f : α → Lookup β} :
    (x >>= f).Total ↔ x.Total ∧ ∀ a, x.Returns a → (f a).Total := by
  unfold Total Returns
  rw [OptionT.run_bind]
  rcases hx : x.run with (_ | a) | e | _
  · exact iff_of_true ⟨none, rfl⟩ ⟨⟨none, rfl⟩, fun a ha => by cases ha⟩
  · constructor
    · rintro ⟨r, h⟩
      refine ⟨⟨some a, rfl⟩, ?_⟩
      intro a' ha
      obtain rfl := Option.some.inj (Checked.ok.inj ha)
      exact ⟨r, h⟩
    · rintro ⟨-, h⟩
      exact h a rfl
  · exact iff_of_false (fun ⟨r, h⟩ => by cases h) (fun ⟨⟨r, h⟩, _⟩ => by cases h)
  · exact iff_of_false (fun ⟨r, h⟩ => by cases h) (fun ⟨⟨r, h⟩, _⟩ => by cases h)

end Lookup

/-- `a.checked_add(b)` on `usize`. -/
def checkedAdd (a b : Nat) : Option Nat := if a + b < 2 ^ 64 then some (a + b) else none

/-- `a.checked_mul(b)` on `usize`. -/
def checkedMul (a b : Nat) : Option Nat := if a * b < 2 ^ 64 then some (a * b) else none

namespace Elf

open Lookup (ofOption)

/-! ### The lookup -/

/-- `uN::from_le_bytes` or `uN::from_be_bytes`, and `as usize`. -/
def fromBytes (le : Bool) (bytes : List UInt8) : Nat :=
  Nat.ofDigits 256 ((if le then bytes else bytes.reverse).map UInt8.toNat)

/-- `[b[i], b[i + 1], ..]`, an array of `n` bytes. -/
def bytesAt (b : List UInt8) : Nat → Nat → Checked (List UInt8)
  | _, 0 => return []
  | i, n + 1 => return (← byteAt b i) :: (← bytesAt b (i + 1) n)

/-- The number in `n` bytes of the file. -/
def uintAt (n : Nat) (data : List UInt8) (off : Nat) (le : Bool) : Lookup Nat := do
  let b ← ofOption (sliceGet data off (← usizeAdd off n))
  return fromBytes le (← bytesAt b 0 n)

def u16At : List UInt8 → Nat → Bool → Lookup Nat := uintAt 2

def u32At : List UInt8 → Nat → Bool → Lookup Nat := uintAt 4

def u64At : List UInt8 → Nat → Bool → Lookup Nat := uintAt 8

def cstrAt (data : List UInt8) (off : Nat) : Lookup (List Char) := do
  let slice ← ofOption (if off ≤ data.length then some (data.drop off) else none)
  let stop := (slice.findIdx? (· == 0)).getD slice.length
  ofOption (Text.fromUtf8 (← sliceRange slice 0 stop)).toOption

/-- Where a class of files has the fields of its header, and of a section header. -/
structure Layout where
  word : Nat
  wordAt : List UInt8 → Nat → Bool → Lookup Nat
  shoff : Nat
  shentsize : Nat
  shnum : Nat
  shstrndx : Nat
  minEntry : Nat
  offset : Nat
  size : Nat
  wordAt_eq : wordAt = uintAt word
  header_fields : shoff + word ≤ shentsize ∧ shentsize ≤ shnum ∧ shnum ≤ shstrndx ∧ shstrndx ≤ 62
  entry_fields : word ≤ 8 ∧ offset ≤ size ∧ size ≤ 32

def elf32 : Layout := ⟨4, u32At, 32, 46, 48, 50, 40, 16, 20, rfl, by decide, by decide⟩

def elf64 : Layout := ⟨8, u64At, 40, 58, 60, 62, 64, 24, 32, rfl, by decide, by decide⟩

/-- What the header of the file says about the section headers. -/
structure Header where
  shoff : Nat
  shentsize : Nat
  shnum : Nat
  shstrndx : Nat
  deriving DecidableEq

/-- Where the header of a section is. -/
def Header.entryAt (h : Header) (i : Nat) : Lookup Nat := do
  ofOption (checkedAdd h.shoff (← ofOption (checkedMul i h.shentsize)))

/-- The fields of the header, which must be usable. -/
def readHeader (c : Layout) (data : List UInt8) (le : Bool) : Lookup Header := do
  let shoff ← c.wordAt data c.shoff le
  let shentsize ← u16At data c.shentsize le
  let shnum ← u16At data c.shnum le
  let shstrndx ← u16At data c.shstrndx le
  if shentsize < c.minEntry ∨ shnum = 0 ∨ shnum ≤ shstrndx then failure
  else return ⟨shoff, shentsize, shnum, shstrndx⟩

/-- A field of a section header. -/
def fieldAt (c : Layout) (data : List UInt8) (le : Bool) (hdr off : Nat) : Lookup Nat := do
  -- `hdr + 24` and the like are plain sums, as is the end of a field in `uintAt`
  c.wordAt data (← usizeAdd hdr off) le

/-- The slice with the offset and the size that a section header states. -/
def readContents (c : Layout) (data : List UInt8) (le : Bool) (hdr : Nat) : Lookup (List UInt8) := do
  let offset ← fieldAt c data le hdr c.offset
  let size ← fieldAt c data le hdr c.size
  ofOption (sliceGet data offset (← ofOption (checkedAdd offset size)))

/-- The section with the names. -/
def readStrtab (c : Layout) (data : List UInt8) (le : Bool) (h : Header) : Lookup (List UInt8) := do
  readContents c data le (← h.entryAt h.shstrndx)

/-- The loop over the section headers, from one of them on. -/
def findSection (c : Layout) (data : List UInt8) (name : List Char) (le : Bool) (h : Header) (strtab : List UInt8) :
    Nat → Nat → Lookup (List UInt8)
  | _, 0 => failure
  | i, n + 1 => do
    let hdr ← h.entryAt i
    let nameOff ← u32At data hdr le
    -- a name that cannot be read ends the lookup, also when a later section has the name
    let secName ← cstrAt strtab nameOff
    if secName ≠ name then findSection c data name le h strtab (i + 1) n
    else readContents c data le hdr

/-- `elf32_section` and `elf64_section`. -/
def elfSection (c : Layout) (data : List UInt8) (name : List Char) (le : Bool) : Lookup (List UInt8) := do
  let h ← readHeader c data le
  let strtab ← readStrtab c data le h
  findSection c data name le h strtab 0 h.shnum

def elf32Section : List UInt8 → List Char → Bool → Lookup (List UInt8) := elfSection elf32

def elf64Section : List UInt8 → List Char → Bool → Lookup (List UInt8) := elfSection elf64

def magic : List UInt8 := [0x7f, 0x45, 0x4c, 0x46]

def elfSectionData (data : List UInt8) (name : List Char) : Lookup (List UInt8) := do
  if data.length < 16 then failure
  else if (← sliceRange data 0 4) ≠ magic then failure
  else do
    let cls ← byteAt data 4
    let endian ← byteAt data 5
    let le := endian == 1
    if ¬ le ∧ endian ≠ 2 then failure
    else if cls = 1 then elf32Section data name le
    else if cls = 2 then elf64Section data name le
    else failure

/-! ### Numbers -/

/-- The number in `n` bytes from an offset on. -/
def field (data : List UInt8) (off n : Nat) (le : Bool) : Nat := fromBytes le ((data.drop off).take n)

section Field

variable {data : List UInt8} {off n x : Nat} {le : Bool}

private theorem fromBytes_lt (le : Bool) (bytes : List UInt8) : fromBytes le bytes < 256 ^ bytes.length := by
  have hlen : ((if le then bytes else bytes.reverse).map UInt8.toNat).length = bytes.length := by cases le <;> simp
  unfold fromBytes
  rw [← hlen]
  apply Nat.ofDigits_lt_base_pow_length (by decide)
  intro x hx
  obtain ⟨b, -, rfl⟩ := List.mem_map.1 hx
  exact b.toNat_lt

private theorem field_lt (data : List UInt8) (off n : Nat) (le : Bool) : field data off n le < 256 ^ n := by
  have hlt := fromBytes_lt le ((data.drop off).take n)
  have hle : 256 ^ ((data.drop off).take n).length ≤ 256 ^ n :=
    Nat.pow_le_pow_right (by decide) (List.length_take_le n _)
  exact Nat.lt_of_lt_of_le hlt hle

private theorem bytesAt_eq {b : List UInt8} {i : Nat} (h : i + n ≤ b.length) :
    bytesAt b i n = .ok ((b.drop i).take n) := by
  induction n generalizing i with
  | zero =>
    rw [List.take_zero]
    rfl
  | succ n ih =>
    have hi : i < b.length := by omega
    have hbyte : byteAt b i = .ok b[i] := by rw [byteAt, List.getElem?_eq_getElem hi]
    have hrest : i + 1 + n ≤ b.length := by omega
    rw [bytesAt, hbyte, Checked.ok_bind, ih hrest, List.drop_eq_getElem_cons hi, List.take_succ_cons]
    rfl

private theorem bytesAt_sliceGet {b : List UInt8} (h : sliceGet data off (off + n) = some b) :
    bytesAt b 0 n = .ok b ∧ off + n ≤ data.length ∧ b = (data.drop off).take n := by
  unfold sliceGet at h
  split at h
  · rename_i hin
    rw [Nat.add_sub_cancel_left] at h
    obtain rfl := Option.some.inj h
    have hlen : ((data.drop off).take n).length = n := by
      rw [List.length_take, List.length_drop]
      omega
    refine ⟨?_, hin.2, rfl⟩
    rw [bytesAt_eq (by omega), List.drop_zero, List.take_of_length_le (Nat.le_of_eq hlen)]
  · cases h

private theorem uintAt_total : (uintAt n data off le).Total ↔ off + n < 2 ^ 64 := by
  unfold uintAt
  rw [Lookup.total_bind, Lookup.total_lift]
  constructor
  · rintro ⟨⟨stop, hstop⟩, -⟩
    by_contra hover
    rw [usizeAdd, if_neg hover] at hstop
    cases hstop
  · intro hfits
    rw [usizeAdd_of_lt hfits]
    refine ⟨⟨_, rfl⟩, ?_⟩
    intro stop hstop
    obtain rfl := Checked.ok.inj (Lookup.returns_lift.1 hstop)
    rw [Lookup.total_bind]
    refine ⟨Lookup.total_ofOption _, ?_⟩
    intro b hb
    obtain ⟨hbytes, -⟩ := bytesAt_sliceGet (Lookup.returns_ofOption.1 hb)
    rw [Lookup.total_bind, hbytes]
    exact ⟨Lookup.total_lift.2 ⟨b, rfl⟩, fun _ _ => Lookup.total_pure _⟩

private theorem uintAt_returns (hlen : data.length < 2 ^ 63) :
    (uintAt n data off le).Returns x ↔ off + n ≤ data.length ∧ x = field data off n le := by
  unfold uintAt
  constructor
  · intro h
    obtain ⟨stop, hstop, h⟩ := Lookup.returns_bind.1 h
    obtain ⟨b, hb, h⟩ := Lookup.returns_bind.1 h
    obtain ⟨bytes, hbytes, h⟩ := Lookup.returns_bind.1 h
    obtain rfl := usizeAdd_ok (Lookup.returns_lift.1 hstop)
    obtain ⟨heq, hin, rfl⟩ := bytesAt_sliceGet (Lookup.returns_ofOption.1 hb)
    rw [Lookup.returns_lift, heq] at hbytes
    obtain rfl := Checked.ok.inj hbytes
    exact ⟨hin, (Lookup.returns_pure.1 h).symm⟩
  · rintro ⟨hin, rfl⟩
    have hfits : off + n < 2 ^ 64 := by omega
    have hslice : sliceGet data off (off + n) = some ((data.drop off).take n) := by
      rw [sliceGet, if_pos ⟨Nat.le_add_right off n, hin⟩, Nat.add_sub_cancel_left]
    obtain ⟨hbytes, -⟩ := bytesAt_sliceGet hslice
    refine Lookup.returns_bind.2 ⟨off + n, Lookup.returns_lift.2 (usizeAdd_of_lt hfits), ?_⟩
    refine Lookup.returns_bind.2 ⟨_, Lookup.returns_ofOption.2 hslice, ?_⟩
    exact Lookup.returns_bind.2 ⟨_, Lookup.returns_lift.2 hbytes, rfl⟩

end Field

/-! ### Names -/

/-- The bytes of a slice up to the first zero. -/
theorem sliceRange_position (slice : List UInt8) :
    sliceRange slice 0 ((slice.findIdx? (· == 0)).getD slice.length) = .ok (slice.takeWhile (· != 0)) := by
  have hnot : (fun b : UInt8 => !(b != 0)) = (· == 0) := by
    funext b
    exact Bool.not_not _
  have hle : slice.findIdx (· == 0) ≤ slice.length := List.findIdx_le_length
  rw [← List.findIdx_eq_getD_findIdx?, List.takeWhile_eq_take_findIdx_not, hnot, sliceRange,
    if_pos ⟨Nat.zero_le _, hle⟩, Nat.sub_zero, List.drop_zero]

/-- The name at an offset of a string table. -/
def cstr (strtab : List UInt8) (off : Nat) : Option (List Char) :=
  (Text.fromUtf8 ((strtab.drop off).takeWhile (· != 0))).toOption

private theorem cstrAt_eq (strtab : List UInt8) (off : Nat) :
    cstrAt strtab off = if off ≤ strtab.length then ofOption (cstr strtab off) else failure := by
  unfold cstrAt
  split
  · show ((liftM (sliceRange (strtab.drop off) 0 _) : Lookup (List UInt8)) >>= fun b => ofOption _) = _
    rw [sliceRange_position]
    rfl
  · rfl

private theorem cstrAt_total (strtab : List UInt8) (off : Nat) : (cstrAt strtab off).Total := by
  rw [cstrAt_eq]
  split
  · exact Lookup.total_ofOption _
  · exact Lookup.total_failure

private theorem cstrAt_returns {strtab : List UInt8} {off : Nat} {name : List Char}
    (h : (cstrAt strtab off).Returns name) : cstr strtab off = some name := by
  rw [cstrAt_eq] at h
  split at h
  · exact Lookup.returns_ofOption.1 h
  · exact absurd h (Lookup.not_returns_failure name)

/-! ### The header -/

def Layout.header (c : Layout) (data : List UInt8) (le : Bool) : Header :=
  ⟨field data c.shoff c.word le, field data c.shentsize 2 le, field data c.shnum 2 le, field data c.shstrndx 2 le⟩

/-- Section headers of a possible size, and one of them for the names. -/
structure Header.Usable (c : Layout) (h : Header) : Prop where
  entry : c.minEntry ≤ h.shentsize
  names : h.shstrndx < h.shnum

/-- The offset of a section header. -/
def Header.entry (h : Header) (i : Nat) : Nat := h.shoff + i * h.shentsize

section Header

variable {c : Layout} {data : List UInt8} {le : Bool} {h : Header} {i e : Nat}

private theorem entryAt_total (h : Header) (i : Nat) : (h.entryAt i).Total := by
  rw [Header.entryAt, Lookup.total_bind]
  exact ⟨Lookup.total_ofOption _, fun _ _ => Lookup.total_ofOption _⟩

private theorem entryAt_returns : (h.entryAt i).Returns e ↔ h.entry i < 2 ^ 64 ∧ e = h.entry i := by
  unfold Header.entryAt Header.entry
  rw [Lookup.returns_bind]
  simp only [Lookup.returns_ofOption, checkedMul, checkedAdd]
  constructor
  · rintro ⟨product, hproduct, hsum⟩
    split at hproduct
    · obtain rfl := Option.some.inj hproduct
      split at hsum
      · rename_i hfits
        exact ⟨hfits, (Option.some.inj hsum).symm⟩
      · cases hsum
    · cases hproduct
  · rintro ⟨hfits, rfl⟩
    have hproduct : i * h.shentsize < 2 ^ 64 := by omega
    exact ⟨i * h.shentsize, if_pos hproduct, if_pos hfits⟩

private theorem readHeader_total (c : Layout) (data : List UInt8) (le : Bool) : (readHeader c data le).Total := by
  obtain ⟨h₁, h₂, h₃, h₄⟩ := c.header_fields
  have htotal : ∀ {off n}, off + n ≤ 64 → (uintAt n data off le).Total := by
    intro off n hoff
    rw [uintAt_total]
    omega
  rw [readHeader, c.wordAt_eq, Lookup.total_bind]
  refine ⟨htotal (by omega), fun shoff _ => ?_⟩
  rw [Lookup.total_bind]
  refine ⟨htotal (by omega), fun shentsize _ => ?_⟩
  rw [Lookup.total_bind]
  refine ⟨htotal (by omega), fun shnum _ => ?_⟩
  rw [Lookup.total_bind]
  refine ⟨htotal (by omega), fun shstrndx _ => ?_⟩
  split
  · exact Lookup.total_failure
  · exact Lookup.total_pure _

private theorem readHeader_returns (hlen : data.length < 2 ^ 63) :
    (readHeader c data le).Returns h ↔ c.shstrndx + 2 ≤ data.length ∧ h = c.header data le ∧ h.Usable c := by
  unfold readHeader u16At
  rw [c.wordAt_eq]
  simp only [Lookup.returns_bind, uintAt_returns hlen]
  constructor
  · rintro ⟨shoff, ⟨-, rfl⟩, shentsize, ⟨-, rfl⟩, shnum, ⟨-, rfl⟩, shstrndx, ⟨hin, rfl⟩, hreturns⟩
    split at hreturns
    · exact absurd hreturns (Lookup.not_returns_failure h)
    · rename_i husable
      obtain rfl := Lookup.returns_pure.1 hreturns
      rw [not_or, not_or, Nat.not_lt, Nat.not_le] at husable
      exact ⟨hin, rfl, husable.1, husable.2.2⟩
  · rintro ⟨hin, rfl, husable⟩
    obtain ⟨h₁, h₂, h₃, h₄⟩ := c.header_fields
    have hentry : c.minEntry ≤ field data c.shentsize 2 le := husable.entry
    have hnames : field data c.shstrndx 2 le < field data c.shnum 2 le := husable.names
    refine ⟨_, ⟨by omega, rfl⟩, _, ⟨by omega, rfl⟩, _, ⟨by omega, rfl⟩, _, ⟨hin, rfl⟩, ?_⟩
    rw [if_neg (by omega), Lookup.returns_pure]
    rfl

end Header

/-! ### The sections -/

/-- The bytes of the section with a header at `e`: its offset and its size are fields of the header. -/
def Layout.contents (c : Layout) (data : List UInt8) (le : Bool) (e : Nat) : List UInt8 :=
  (data.drop (field data (e + c.offset) c.word le)).take (field data (e + c.size) c.word le)

/-- The header at `e` and the section that it describes lie in the file. -/
structure Layout.Inside (c : Layout) (data : List UInt8) (le : Bool) (e : Nat) : Prop where
  header : e + c.size + c.word ≤ data.length
  contents : field data (e + c.offset) c.word le + field data (e + c.size) c.word le ≤ data.length

/-- What the file says the name of a section is. -/
def Layout.secName (c : Layout) (data : List UInt8) (le : Bool) (h : Header) (i : Nat) : Option (List Char) :=
  cstr (c.contents data le (h.entry h.shstrndx)) (field data (h.entry i) 4 le)

section Sections

variable {c : Layout} {data : List UInt8} {le : Bool} {h : Header} {e x : Nat} {s : List UInt8}

private theorem fieldAt_total {off : Nat} : (fieldAt c data le e off).Total ↔ e + off + c.word < 2 ^ 64 := by
  rw [fieldAt, c.wordAt_eq, Lookup.total_bind, Lookup.total_lift]
  constructor
  · rintro ⟨⟨i, hi⟩, htotal⟩
    obtain rfl := usizeAdd_ok hi
    exact uintAt_total.1 (htotal _ (Lookup.returns_lift.2 hi))
  · intro hfits
    have hsum : usizeAdd e off = .ok (e + off) := usizeAdd_of_lt (by omega)
    refine ⟨⟨_, hsum⟩, ?_⟩
    intro i hi
    obtain rfl := usizeAdd_ok (Lookup.returns_lift.1 hi)
    exact uintAt_total.2 hfits

private theorem fieldAt_returns (hlen : data.length < 2 ^ 63) {off : Nat} (h : (fieldAt c data le e off).Returns x) :
    e + off + c.word ≤ data.length ∧ x = field data (e + off) c.word le := by
  obtain ⟨i, hi, hread⟩ := Lookup.returns_bind.1 h
  obtain rfl := usizeAdd_ok (Lookup.returns_lift.1 hi)
  rw [c.wordAt_eq] at hread
  exact (uintAt_returns hlen).1 hread

/-- The first of the two fields may be too far on; the second one is not when the first one is in the file. -/
theorem readContents_total (hlen : data.length < 2 ^ 63) :
    (readContents c data le e).Total ↔ e + c.offset + c.word < 2 ^ 64 := by
  obtain ⟨hword, -, hsize⟩ := c.entry_fields
  rw [readContents, Lookup.total_bind, fieldAt_total, and_iff_left_iff_imp]
  intro _ offset hoffset
  -- the first field was read, so that its header is in the file, up to a few bytes
  have hin := (fieldAt_returns hlen hoffset).1
  have hfits : e + c.size + c.word < 2 ^ 64 := by omega
  rw [Lookup.total_bind, fieldAt_total]
  refine ⟨hfits, fun size _ => ?_⟩
  rw [Lookup.total_bind]
  exact ⟨Lookup.total_ofOption _, fun _ _ => Lookup.total_ofOption _⟩

private theorem readContents_returns (hlen : data.length < 2 ^ 63) (h : (readContents c data le e).Returns s) :
    c.Inside data le e ∧ s = c.contents data le e := by
  obtain ⟨offset, hoffset, h⟩ := Lookup.returns_bind.1 h
  obtain ⟨size, hsize, h⟩ := Lookup.returns_bind.1 h
  obtain ⟨stop, hstop, h⟩ := Lookup.returns_bind.1 h
  obtain ⟨-, rfl⟩ := fieldAt_returns hlen hoffset
  obtain ⟨hheader, rfl⟩ := fieldAt_returns hlen hsize
  rw [Lookup.returns_ofOption, checkedAdd] at hstop
  split at hstop
  · obtain rfl := Option.some.inj hstop
    rw [Lookup.returns_ofOption, sliceGet] at h
    split at h
    · rename_i hin
      rw [Nat.add_sub_cancel_left] at h
      exact ⟨⟨hheader, hin.2⟩, (Option.some.inj h).symm⟩
    · cases h
  · cases hstop

private theorem readStrtab_total (hlen : data.length < 2 ^ 63) : (readStrtab c data le h).Total ↔
    (h.entry h.shstrndx < 2 ^ 64 → h.entry h.shstrndx + c.offset + c.word < 2 ^ 64) := by
  rw [readStrtab, Lookup.total_bind, and_iff_right (entryAt_total h h.shstrndx)]
  constructor
  · intro htotal hfits
    exact (readContents_total hlen).1 (htotal _ (entryAt_returns.2 ⟨hfits, rfl⟩))
  · intro hword e he
    obtain ⟨hfits, rfl⟩ := entryAt_returns.1 he
    exact (readContents_total hlen).2 (hword hfits)

private theorem readStrtab_returns (hlen : data.length < 2 ^ 63) (hs : (readStrtab c data le h).Returns s) :
    c.Inside data le (h.entry h.shstrndx) ∧ s = c.contents data le (h.entry h.shstrndx) := by
  obtain ⟨e, he, hs⟩ := Lookup.returns_bind.1 hs
  obtain ⟨-, rfl⟩ := entryAt_returns.1 he
  exact readContents_returns hlen hs

/-- The loop adds up nothing that is too large when the section headers start in the file. -/
theorem findSection_total (hlen : data.length < 2 ^ 63) (hshoff : h.shoff ≤ data.length) (hentry : h.shentsize < 2 ^ 16)
    (name : List Char) (strtab : List UInt8) {i n : Nat} (hn : i + n ≤ 2 ^ 16) :
    (findSection c data name le h strtab i n).Total := by
  induction n generalizing i with
  | zero => exact Lookup.total_failure
  | succ n ih =>
    obtain ⟨hword, hoffset, hsize⟩ := c.entry_fields
    -- no header is further from the first one than 2 ^ 32
    have hproduct : i * h.shentsize ≤ 2 ^ 16 * 2 ^ 16 := Nat.mul_le_mul (by omega) (Nat.le_of_lt hentry)
    have hstart : h.entry i + 64 < 2 ^ 64 := by
      unfold Header.entry
      omega
    rw [findSection, Lookup.total_bind]
    refine ⟨entryAt_total h i, fun e he => ?_⟩
    obtain ⟨-, rfl⟩ := entryAt_returns.1 he
    rw [Lookup.total_bind]
    refine ⟨uintAt_total.2 (by omega), fun nameOff _ => ?_⟩
    rw [Lookup.total_bind]
    refine ⟨cstrAt_total strtab nameOff, fun secName _ => ?_⟩
    split
    · exact ih (by omega)
    · exact (readContents_total hlen).2 (by omega)

/-- What the loop returns is the contents of the first section with the name. -/
theorem findSection_returns (hlen : data.length < 2 ^ 63) {name : List Char} {i n : Nat}
    (hs : (findSection c data name le h (c.contents data le (h.entry h.shstrndx)) i n).Returns s) :
    ∃ k, i ≤ k ∧ k < i + n ∧ c.secName data le h k = some name ∧
      (∀ j, i ≤ j → j < k → c.secName data le h j ≠ some name) ∧
      c.Inside data le (h.entry k) ∧ s = c.contents data le (h.entry k) := by
  induction n generalizing i with
  | zero => exact absurd hs (Lookup.not_returns_failure s)
  | succ n ih =>
    obtain ⟨e, he, hentry⟩ := Lookup.returns_bind.1 hs
    obtain ⟨nameOff, hoff, hafter⟩ := Lookup.returns_bind.1 hentry
    obtain ⟨secName, hread, hrest⟩ := Lookup.returns_bind.1 hafter
    obtain ⟨-, rfl⟩ := entryAt_returns.1 he
    obtain ⟨-, rfl⟩ := (uintAt_returns hlen).1 hoff
    have hname : c.secName data le h i = some secName := cstrAt_returns hread
    split at hrest
    · rename_i hne
      obtain ⟨k, hik, hk, hfound, hfirst, hcontents⟩ := ih hrest
      refine ⟨k, by omega, by omega, hfound, ?_, hcontents⟩
      intro j hij hjk
      rcases Nat.eq_or_lt_of_le hij with rfl | hij
      · rw [hname]
        intro heq
        exact hne (Option.some.inj heq)
      · exact hfirst j hij hjk
    · rename_i heq
      rw [Decidable.not_not] at heq
      rw [heq] at hname
      refine ⟨i, Nat.le_refl i, by omega, hname, ?_, readContents_returns hlen hrest⟩
      intro j hij hji
      omega

/-! ### Which files make the lookup panic -/

/-- The section header of the names begins so close to the largest offset that the end of its first field is none. -/
structure Layout.Wraps (c : Layout) (data : List UInt8) (le : Bool) : Prop where
  whole : c.shstrndx + 2 ≤ data.length
  usable : (c.header data le).Usable c
  fits : (c.header data le).entry (c.header data le).shstrndx < 2 ^ 64
  wraps : 2 ^ 64 ≤ (c.header data le).entry (c.header data le).shstrndx + c.offset + c.word

/-- The contents of the first section with the name. -/
def Layout.FirstNamed (c : Layout) (data : List UInt8) (le : Bool) (name : List Char) (s : List UInt8) : Prop :=
  ∃ k < (c.header data le).shnum, c.secName data le (c.header data le) k = some name ∧
    (∀ j < k, c.secName data le (c.header data le) j ≠ some name) ∧
    c.Inside data le ((c.header data le).entry k) ∧ s = c.contents data le ((c.header data le).entry k)

private theorem elfSection_total (hlen : data.length < 2 ^ 63) (name : List Char) :
    (elfSection c data name le).Total ↔ ¬ c.Wraps data le := by
  rw [elfSection, Lookup.total_bind, and_iff_right (readHeader_total c data le)]
  constructor
  · rintro htotal hwraps
    obtain ⟨htotal, -⟩ := Lookup.total_bind.1 (htotal _ ((readHeader_returns hlen).2 ⟨hwraps.whole, rfl, hwraps.usable⟩))
    have hfits := (readStrtab_total hlen).1 htotal hwraps.fits
    have hwraps := hwraps.wraps
    omega
  · intro hwraps h hh
    obtain ⟨hwhole, rfl, husable⟩ := (readHeader_returns hlen).1 hh
    rw [Lookup.total_bind, readStrtab_total hlen]
    constructor
    · intro hfits
      by_contra hover
      exact hwraps ⟨hwhole, husable, hfits, Nat.not_lt.1 hover⟩
    · intro strtab hstrtab
      -- the section headers start before the one of the names, which is in the file
      have hheader := (readStrtab_returns hlen hstrtab).1.header
      have hstart : (c.header data le).shoff ≤ (c.header data le).entry (c.header data le).shstrndx := Nat.le_add_right ..
      have hshnum : (c.header data le).shnum < 2 ^ 16 := field_lt data c.shnum 2 le
      have hshentsize : (c.header data le).shentsize < 2 ^ 16 := field_lt data c.shentsize 2 le
      exact findSection_total hlen (by omega) hshentsize name strtab (by omega)

private theorem elfSection_returns (hlen : data.length < 2 ^ 63) {name : List Char}
    (hs : (elfSection c data name le).Returns s) : c.FirstNamed data le name s := by
  obtain ⟨h, hh, hrest⟩ := Lookup.returns_bind.1 hs
  obtain ⟨strtab, hstrtab, hfind⟩ := Lookup.returns_bind.1 hrest
  obtain ⟨-, rfl, -⟩ := (readHeader_returns hlen).1 hh
  obtain ⟨-, rfl⟩ := readStrtab_returns hlen hstrtab
  obtain ⟨k, -, hk, hname, hfirst, hcontents⟩ := findSection_returns hlen hfind
  rw [Nat.zero_add] at hk
  exact ⟨k, hk, hname, fun j => hfirst j (Nat.zero_le j), hcontents⟩

/-- The offsets of the smaller class are too small for that. -/
theorem not_wraps_elf32 : ¬ elf32.Wraps data le := by
  intro h
  have hshoff : (elf32.header data le).shoff < 2 ^ 32 := field_lt data 32 4 le
  have hshentsize : (elf32.header data le).shentsize < 2 ^ 16 := field_lt data 46 2 le
  have hshstrndx : (elf32.header data le).shstrndx < 2 ^ 16 := field_lt data 50 2 le
  have hproduct : (elf32.header data le).shstrndx * (elf32.header data le).shentsize ≤ 2 ^ 16 * 2 ^ 16 :=
    Nat.mul_le_mul (Nat.le_of_lt hshstrndx) (Nat.le_of_lt hshentsize)
  have hwraps : 2 ^ 64 ≤ (elf32.header data le).entry (elf32.header data le).shstrndx + 16 + 4 := h.wraps
  unfold Header.entry at hwraps
  omega

end Sections

/-! ### The lookup by class -/

/-- The layout of a file by its class. -/
inductive OfClass (data : List UInt8) : Layout → Prop
  | elf32 (h : data[4]? = some 1) : OfClass data elf32
  | elf64 (h : data[4]? = some 2) : OfClass data elf64

/-- The section lies in the file as the first section header with the name states it. -/
def Stated (data : List UInt8) (name : List Char) (s : List UInt8) : Prop :=
  ∃ c, OfClass data c ∧ c.FirstNamed data (data[5]? == some 1) name s

/-- A 64-bit file in which the section header of the names begins among the last 32 offsets. -/
structure Overflows (data : List UInt8) : Prop where
  magic : data.take 4 = magic
  cls : data[4]? = some 2
  endian : data[5]? = some 1 ∨ data[5]? = some 2
  wraps : elf64.Wraps data (data[5]? == some 1)

private theorem elfSectionData_foreign {data : List UInt8} (h : 16 ≤ data.length → data.take 4 ≠ magic)
    (name : List Char) : elfSectionData data name = failure := by
  by_cases hlen : 16 ≤ data.length
  · have hslice : sliceRange data 0 4 = .ok (data.take 4) := by
      rw [sliceRange, if_pos ⟨Nat.zero_le 4, by omega⟩, List.drop_zero]
    rw [elfSectionData, if_neg (Nat.not_lt.2 hlen), hslice]
    exact if_pos (h hlen)
  · exact if_pos (Nat.not_le.1 hlen)

/-- The lookup in a file that begins like an ELF file. -/
theorem elfSectionData_magic {data : List UInt8} {cls endian : UInt8} (hlen : 16 ≤ data.length)
    (hmagic : data.take 4 = magic) (hcls : data[4]? = some cls) (hendian : data[5]? = some endian) (name : List Char) :
    elfSectionData data name =
      if ¬ (endian == 1) = true ∧ endian ≠ 2 then failure
      else if cls = 1 then elf32Section data name (endian == 1)
      else if cls = 2 then elf64Section data name (endian == 1)
      else failure := by
  have hslice : sliceRange data 0 4 = .ok magic := by
    rw [sliceRange, if_pos ⟨Nat.zero_le 4, by omega⟩, List.drop_zero, hmagic]
  have hcls : byteAt data 4 = .ok cls := by rw [byteAt, hcls]
  have hendian : byteAt data 5 = .ok endian := by rw [byteAt, hendian]
  rw [elfSectionData, if_neg (Nat.not_lt.2 hlen), hslice, hcls, hendian]
  rfl

/-- A lookup is given up before the section headers are read, or it is the one of the class of the file. -/
theorem elfSectionData_cases (data : List UInt8) (name : List Char) :
    (elfSectionData data name = failure ∧ ¬ Overflows data) ∨
      ∃ c, OfClass data c ∧ elfSectionData data name = elfSection c data name (data[5]? == some 1) ∧
        (Overflows data ↔ c.Wraps data (data[5]? == some 1)) := by
  by_cases helf : 16 ≤ data.length → data.take 4 ≠ magic
  · refine .inl ⟨elfSectionData_foreign helf name, ?_⟩
    intro h
    have hwhole : 62 + 2 ≤ data.length := h.wraps.whole
    exact helf (by omega) h.magic
  simp only [Classical.not_imp, Decidable.not_not] at helf
  obtain ⟨hlong, hmagic⟩ := helf
  obtain ⟨cls, hcls⟩ : ∃ cls, data[4]? = some cls := ⟨_, List.getElem?_eq_getElem (by omega)⟩
  obtain ⟨endian, hendian⟩ : ∃ endian, data[5]? = some endian := ⟨_, List.getElem?_eq_getElem (by omega)⟩
  have hle : (data[5]? == some 1) = (endian == 1) := by rw [hendian]; rfl
  rw [elfSectionData_magic hlong hmagic hcls hendian, hle]
  -- what an overflow needs of the two bytes
  have hclass : Overflows data → cls = 2 := by
    intro h
    have h2 := h.cls
    rw [hcls] at h2
    exact Option.some.inj h2
  have horder : Overflows data → endian = 1 ∨ endian = 2 := by
    intro h
    have horder := h.endian
    rw [hendian] at horder
    exact horder.imp Option.some.inj Option.some.inj
  by_cases hother : ¬ (endian == 1) = true ∧ endian ≠ 2
  · refine .inl ⟨if_pos hother, ?_⟩
    intro h
    exact (horder h).elim (fun h1 => hother.1 (beq_iff_eq.2 h1)) hother.2
  rw [if_neg hother]
  by_cases h1 : cls = 1
  · rw [h1] at hcls
    rw [if_pos h1]
    refine .inr ⟨elf32, .elf32 hcls, rfl, iff_of_false ?_ not_wraps_elf32⟩
    intro h
    exact absurd (h1.symm.trans (hclass h)) (by decide)
  rw [if_neg h1]
  by_cases h2 : cls = 2
  · rw [h2] at hcls
    rw [if_pos h2]
    refine .inr ⟨elf64, .elf64 hcls, rfl, ?_⟩
    rw [← hle]
    constructor
    · exact Overflows.wraps
    · intro hwraps
      have hendian' : data[5]? = some 1 ∨ data[5]? = some 2 := by
        rw [hendian]
        simp only [beq_iff_eq, not_and_or, not_not] at hother
        exact hother.imp (congrArg some) (congrArg some)
      exact ⟨hmagic, hcls, hendian', hwraps⟩
  · rw [if_neg h2]
    exact .inl ⟨rfl, fun h => h2 (hclass h)⟩

private theorem elfSectionData_total {data : List UInt8} (hlen : data.length < 2 ^ 63) (name : List Char) :
    (elfSectionData data name).Total ↔ ¬ Overflows data := by
  obtain ⟨heq, hfits⟩ | ⟨c, -, heq, hwraps⟩ := elfSectionData_cases data name
  · rw [heq]
    exact iff_of_true Lookup.total_failure hfits
  · rw [heq, hwraps, elfSection_total hlen]

private theorem elfSectionData_returns {data : List UInt8} (hlen : data.length < 2 ^ 63) {name : List Char}
    {s : List UInt8} (hs : (elfSectionData data name).Returns s) : Stated data name s := by
  obtain ⟨heq, -⟩ | ⟨c, hc, heq, -⟩ := elfSectionData_cases data name
  · rw [heq] at hs
    exact absurd hs (Lookup.not_returns_failure s)
  · rw [heq] at hs
    exact ⟨c, hc, elfSection_returns hlen hs⟩

/-- The lookup comes to an end, with a slice of the file as the first section header with the name states it or with none,
if and only if the section header of the names does not begin among the last 32 offsets of a 64-bit file. -/
theorem section_data_iff (data : Slice) (name : List Char) :
    ((elfSectionData data.1 name).Total ∧ ∀ s, (elfSectionData data.1 name).Returns s → Stated data.1 name s) ↔
      ¬ Overflows data.1 := by
  rw [elfSectionData_total data.2, and_iff_left_iff_imp]
  intro _ s
  exact elfSectionData_returns data.2

/-- A 32-bit file with one section, which holds its own name. -/
private def tiny : List UInt8 :=
  magic ++ [1, 1] ++ List.replicate 26 0 ++ [52, 0, 0, 0] ++ List.replicate 10 0 ++ [40, 0, 1, 0, 0, 0] ++
    List.replicate 16 0 ++ [92, 0, 0, 0, 2, 0, 0, 0] ++ List.replicate 16 0 ++ [0x78, 0]

example : (elfSectionData tiny ['x']).Returns [0x78, 0] := rfl

/-- The header of a 64-bit file whose section headers begin at the largest offset. -/
private def lastOffset : List UInt8 :=
  magic ++ [2, 1] ++ List.replicate 34 0 ++ List.replicate 8 0xff ++ List.replicate 10 0 ++ [64, 0, 1, 0, 0, 0]

/-- The lookup of any section in such a file panics. -/
theorem section_data_panics : ∃ data : Slice, ∀ name, (elfSectionData data.1 name).run = .panic :=
  ⟨⟨lastOffset, by decide⟩, fun _ => rfl⟩

end Elf

end WirelessProgrammer
