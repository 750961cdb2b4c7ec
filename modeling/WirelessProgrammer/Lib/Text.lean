import Mathlib.Algebra.Group.Int.Defs
import Mathlib.Algebra.Group.Nat.Defs
import Mathlib.Data.List.Infix
import Mathlib.Data.List.TakeDrop

/-!
# Byte strings and text

The parts of a systems language's standard library that protocol code leans on: searching a byte string for a
pattern, strict UTF-8 decoding with the position of the first error, Unicode white space, splitting, and integer
parsing with the errors the library reports.  A byte string is a `List UInt8` and decoded text a `List Char`.
-/

namespace Text

/-! ### Windows -/

section Windows

variable {α : Type} [DecidableEq α]

/-- The first index at which a window of `l` equals the non-empty pattern `pat`. -/
def windowPosition (pat : List α) : List α → Option Nat
  | [] => none
  | a :: l => if pat <+: a :: l then some 0 else (windowPosition pat l).map (· + 1)

theorem windowPosition_some {pat l : List α} {i : Nat} (h : windowPosition pat l = some i) :
    pat <+: l.drop i := by
  induction l generalizing i with
  | nil => simp [windowPosition] at h
  | cons a l ih =>
    rw [windowPosition] at h
    split at h
    · obtain rfl := Option.some.inj h
      assumption
    · obtain ⟨j, hj, rfl⟩ := Option.map_eq_some_iff.1 h
      exact ih hj

theorem windowPosition_split {pat l : List α} {i : Nat} (h : windowPosition pat l = some i) :
    ∃ rest, l = l.take i ++ pat ++ rest ∧ (l.take i).length = i := by
  obtain ⟨rest, hr⟩ := windowPosition_some h
  refine ⟨rest, by rw [List.append_assoc, hr, List.take_append_drop], ?_⟩
  induction l generalizing i with
  | nil => simp [windowPosition] at h
  | cons a l ih =>
    rw [windowPosition] at h
    split at h
    · obtain rfl := Option.some.inj h
      rfl
    · obtain ⟨j, hj, rfl⟩ := Option.map_eq_some_iff.1 h
      simpa using ih hj hr

/-- A window that is found stays the first one when the string grows. -/
theorem windowPosition_append {pat l : List α} {i : Nat} (h : windowPosition pat l = some i) (m : List α) :
    windowPosition pat (l ++ m) = some i := by
  induction l generalizing i with
  | nil => simp [windowPosition] at h
  | cons a l ih =>
    rw [List.cons_append, windowPosition]
    rw [windowPosition] at h
    split at h
    · rename_i hp
      obtain rfl := Option.some.inj h
      rw [if_pos (hp.trans ⟨m, by simp⟩)]
    · rename_i hp
      obtain ⟨j, hj, rfl⟩ := Option.map_eq_some_iff.1 h
      obtain ⟨rest, hrest, hlen⟩ := windowPosition_split hj
      have hle : pat.length ≤ (a :: l).length := by
        have := congrArg List.length hrest
        simp at this hlen ⊢
        omega
      rw [if_neg fun h' => hp (List.prefix_of_prefix_length_le h' ⟨m, by simp⟩ hle), ih hj]
      rfl

theorem windowPosition_isSome {pat l : List α} (hpat : pat ≠ []) (h : pat <:+: l) :
    ∃ i, windowPosition pat l = some i := by
  induction l with
  | nil => exact absurd (List.infix_nil.1 h) hpat
  | cons a l ih =>
    rw [windowPosition]
    split
    · exact ⟨0, rfl⟩
    · rename_i hp
      obtain ⟨i, hi⟩ := ih ((List.infix_cons_iff.1 h).resolve_left hp)
      exact ⟨i + 1, by rw [hi]; rfl⟩

end Windows

/-! ### UTF-8 -/

/-- Where strict decoding stopped; `errorLen` is absent when the input ends inside a sequence. -/
structure Utf8Error where
  validUpTo : Nat
  errorLen : Option Nat
  deriving DecidableEq, Repr

def Utf8Error.text (e : Utf8Error) : String :=
  match e.errorLen with
  | some n => s!"invalid utf-8 sequence of {n} bytes from index {e.validUpTo}"
  | none => s!"incomplete utf-8 byte sequence from index {e.validUpTo}"

private def isCont (b : UInt8) : Bool := 0x80 ≤ b && b ≤ 0xBF

private def low6 (b : UInt8) : Nat := b.toNat % 64

/-- The second byte of a three byte sequence that starts with `a`. -/
private def second3 (a b : UInt8) : Bool :=
  if a = 0xE0 then 0xA0 ≤ b && b ≤ 0xBF else if a = 0xED then 0x80 ≤ b && b ≤ 0x9F else isCont b

/-- The second byte of a four byte sequence that starts with `a`. -/
private def second4 (a b : UInt8) : Bool :=
  if a = 0xF0 then 0x90 ≤ b && b ≤ 0xBF else if a = 0xF4 then 0x80 ≤ b && b ≤ 0x8F else isCont b

private def consChar (n : Nat) (r : Except Utf8Error (List Char)) : Except Utf8Error (List Char) :=
  r.map (Char.ofNat n :: ·)

/-- Decode from byte index `i` on. -/
private def decodeFrom (i : Nat) : List UInt8 → Except Utf8Error (List Char)
  | [] => .ok []
  | a :: l =>
    if a < 0x80 then consChar a.toNat (decodeFrom (i + 1) l)
    else if 0xC2 ≤ a ∧ a ≤ 0xDF then
      match l with
      | [] => .error ⟨i, none⟩
      | b :: l =>
        if isCont b then consChar (a.toNat % 32 * 64 + low6 b) (decodeFrom (i + 2) l) else .error ⟨i, some 1⟩
    else if 0xE0 ≤ a ∧ a ≤ 0xEF then
      match l with
      | [] => .error ⟨i, none⟩
      | b :: l =>
        if second3 a b then
          match l with
          | [] => .error ⟨i, none⟩
          | c :: l =>
            if isCont c then
              consChar ((a.toNat % 16 * 64 + low6 b) * 64 + low6 c) (decodeFrom (i + 3) l)
            else .error ⟨i, some 2⟩
        else .error ⟨i, some 1⟩
    else if 0xF0 ≤ a ∧ a ≤ 0xF4 then
      match l with
      | [] => .error ⟨i, none⟩
      | b :: l =>
        if second4 a b then
          match l with
          | [] => .error ⟨i, none⟩
          | c :: l =>
            if isCont c then
              match l with
              | [] => .error ⟨i, none⟩
              | d :: l =>
                if isCont d then
                  consChar (((a.toNat % 8 * 64 + low6 b) * 64 + low6 c) * 64 + low6 d) (decodeFrom (i + 4) l)
                else .error ⟨i, some 3⟩
            else .error ⟨i, some 2⟩
        else .error ⟨i, some 1⟩
    else .error ⟨i, some 1⟩

/-- Strict decoding of a byte string. -/
def fromUtf8 (bytes : List UInt8) : Except Utf8Error (List Char) := decodeFrom 0 bytes

/-- Decoding with U+FFFD for what is not valid, which takes up at most `n` bytes. -/
private def lossyFrom : Nat → List UInt8 → List Char
  | 0, _ => []
  | n + 1, bytes =>
    match fromUtf8 bytes with
    | .ok s => s
    | .error e =>
      let rest := match e.errorLen with
        | some k => lossyFrom n (bytes.drop (e.validUpTo + k))
        | none => []
      (fromUtf8 (bytes.take e.validUpTo)).toOption.getD [] ++ Char.ofNat 0xFFFD :: rest

/-- Decoding that does not fail. -/
def fromUtf8Lossy (bytes : List UInt8) : List Char := lossyFrom (bytes.length + 1) bytes

/-- The bytes of a text. -/
def utf8Bytes (s : String) : List UInt8 := s.toList.flatMap String.utf8EncodeChar

private theorem isCont_iff {b : UInt8} : isCont b = true ↔ 128 ≤ b.toNat ∧ b.toNat ≤ 191 := by
  simp [isCont, UInt8.le_iff_toNat_le]

private theorem decodeFrom_one {a : UInt8} (ha : a.toNat ≤ 0x7f) (i : Nat) (l : List UInt8) :
    decodeFrom i (a :: l) = consChar a.toNat (decodeFrom (i + 1) l) := by
  have h1 : a < 0x80 := UInt8.lt_iff_toNat_lt.2 (Nat.lt_succ_of_le ha)
  rw [decodeFrom.eq_def]
  simp only [if_pos h1]

private theorem decodeFrom_two {a b : UInt8} {n : Nat} (ha : a.toNat = n / 64 + 192) (hb : b.toNat = n % 64 + 128)
    (hn : 0x80 ≤ n ∧ n ≤ 0x7ff) (i : Nat) (l : List UInt8) :
    decodeFrom i (a :: b :: l) = consChar n (decodeFrom (i + 2) l) := by
  have h1 : ¬ a < 0x80 := by simp [UInt8.lt_iff_toNat_lt, ha]
  have h2 : 0xC2 ≤ a ∧ a ≤ 0xDF := by simp [UInt8.le_iff_toNat_le, ha]; omega
  have hcont : isCont b = true := isCont_iff.2 (by omega)
  have hval : a.toNat % 32 * 64 + low6 b = n := by simp only [low6, ha, hb]; omega
  rw [decodeFrom.eq_def]
  simp only [if_neg h1, if_pos h2, hcont, if_true, hval]

private theorem decodeFrom_three {a b c : UInt8} {n : Nat} (ha : a.toNat = n / 4096 + 224)
    (hb : b.toNat = n / 64 % 64 + 128) (hc : c.toNat = n % 64 + 128) (hn : 0x800 ≤ n ∧ n ≤ 0xffff)
    (hsurrogate : n < 0xd800 ∨ 0xdfff < n) (i : Nat) (l : List UInt8) :
    decodeFrom i (a :: b :: c :: l) = consChar n (decodeFrom (i + 3) l) := by
  have h1 : ¬ a < 0x80 := by simp [UInt8.lt_iff_toNat_lt, ha]
  have h2 : ¬ (0xC2 ≤ a ∧ a ≤ 0xDF) := by simp [UInt8.le_iff_toNat_le, ha]
  have h3 : 0xE0 ≤ a ∧ a ≤ 0xEF := by simp [UInt8.le_iff_toNat_le, ha]; omega
  have hsecond : second3 a b = true := by
    simp only [second3, isCont, ← UInt8.toNat_inj, UInt8.le_iff_toNat_le, ha, hb]
    split
    · simp; simp at *; omega
    split
    · simp; simp at *; omega
    · simp; omega
  have hcont : isCont c = true := isCont_iff.2 (by omega)
  have hval : (a.toNat % 16 * 64 + low6 b) * 64 + low6 c = n := by simp only [low6, ha, hb, hc]; omega
  rw [decodeFrom.eq_def]
  simp only [if_neg h1, if_neg h2, if_pos h3, hsecond, hcont, if_true, hval]

private theorem decodeFrom_four {a b c d : UInt8} {n : Nat} (ha : a.toNat = n / 262144 + 240)
    (hb : b.toNat = n / 4096 % 64 + 128) (hc : c.toNat = n / 64 % 64 + 128) (hd : d.toNat = n % 64 + 128)
    (hn : 0x10000 ≤ n ∧ n < 0x110000) (i : Nat) (l : List UInt8) :
    decodeFrom i (a :: b :: c :: d :: l) = consChar n (decodeFrom (i + 4) l) := by
  have h1 : ¬ a < 0x80 := by simp [UInt8.lt_iff_toNat_lt, ha]
  have h2 : ¬ (0xC2 ≤ a ∧ a ≤ 0xDF) := by simp [UInt8.le_iff_toNat_le, ha]
  have h3 : ¬ (0xE0 ≤ a ∧ a ≤ 0xEF) := by simp [UInt8.le_iff_toNat_le, ha]
  have h4 : 0xF0 ≤ a ∧ a ≤ 0xF4 := by simp [UInt8.le_iff_toNat_le, ha]; omega
  have hsecond : second4 a b = true := by
    simp only [second4, isCont, ← UInt8.toNat_inj, UInt8.le_iff_toNat_le, ha, hb]
    split
    · simp; simp at *; omega
    split
    · simp; simp at *; omega
    · simp; omega
  have hcont : isCont c = true := isCont_iff.2 (by omega)
  have hcont' : isCont d = true := isCont_iff.2 (by omega)
  have hval : ((a.toNat % 8 * 64 + low6 b) * 64 + low6 c) * 64 + low6 d = n := by
    simp only [low6, ha, hb, hc, hd]; omega
  rw [decodeFrom.eq_def]
  simp only [if_neg h1, if_neg h2, if_neg h3, if_pos h4, hsecond, hcont, hcont', if_true, hval]

/-- One encoded character in front. -/
private theorem decodeFrom_encodeChar (c : Char) (i : Nat) (l : List UInt8) :
    ∃ j, decodeFrom i (String.utf8EncodeChar c ++ l) = consChar c.toNat (decodeFrom j l) := by
  have hv : c.toNat < 0xd800 ∨ 0xdfff < c.toNat ∧ c.toNat < 0x110000 := c.valid
  have hbyte : ∀ n, n < 256 → (UInt8.ofNat n).toNat = n := fun n h => UInt8.toNat_ofNat_of_lt' h
  have hval : c.val.toNat = c.toNat := rfl
  simp only [String.utf8EncodeChar, hval]
  split
  · have ha := hbyte c.toNat (by omega)
    exact ⟨i + 1, by rw [List.singleton_append, decodeFrom_one (by omega), ha]⟩
  split
  · exact ⟨i + 2, decodeFrom_two (by rw [hbyte _ (by omega)]; omega) (hbyte _ (by omega)) (by omega) i l⟩
  split
  · exact ⟨i + 3, decodeFrom_three (by rw [hbyte _ (by omega)]; omega) (hbyte _ (by omega)) (hbyte _ (by omega))
      (by omega) (by omega) i l⟩
  · exact ⟨i + 4, decodeFrom_four (by rw [hbyte _ (by omega)]; omega) (hbyte _ (by omega)) (hbyte _ (by omega))
      (hbyte _ (by omega)) (by omega) i l⟩

/-- Decoding what was encoded gives the text back. -/
theorem fromUtf8_utf8Bytes (s : String) : fromUtf8 (utf8Bytes s) = .ok s.toList := by
  have h : ∀ (l : List Char) (i : Nat), decodeFrom i (l.flatMap String.utf8EncodeChar) = .ok l := by
    intro l
    induction l with
    | nil => exact fun _ => rfl
    | cons c l ih =>
      intro i
      obtain ⟨j, hj⟩ := decodeFrom_encodeChar c i (l.flatMap String.utf8EncodeChar)
      rw [List.flatMap_cons, hj, ih j]
      simp [consChar, Except.map, Char.ofNat_toNat]
  exact h s.toList 0

theorem fromUtf8Lossy_utf8Bytes (s : String) : fromUtf8Lossy (utf8Bytes s) = s.toList := by
  rw [fromUtf8Lossy, lossyFrom, fromUtf8_utf8Bytes]

/-! ### White space, case and splitting -/

/-- The Unicode property `White_Space`. -/
def isWhitespace (c : Char) : Bool :=
  let n := c.toNat
  (9 ≤ n && n ≤ 13) || n = 0x20 || n = 0x85 || n = 0xA0 || n = 0x1680 || (0x2000 ≤ n && n ≤ 0x200A) ||
    n = 0x2028 || n = 0x2029 || n = 0x202F || n = 0x205F || n = 0x3000

def trim (s : List Char) : List Char := ((s.dropWhile isWhitespace).reverse.dropWhile isWhitespace).reverse

theorem trim_eq_self {s : List Char} (h : ∀ c ∈ s, isWhitespace c = false) : trim s = s := by
  have hdrop : ∀ l : List Char, (∀ c ∈ l, isWhitespace c = false) → l.dropWhile isWhitespace = l := by
    intro l hl
    cases l with
    | nil => rfl
    | cons c l => exact List.dropWhile_cons_of_neg (by simp [hl c (by simp)])
  unfold trim
  rw [hdrop s h, hdrop s.reverse fun c hc => h c (List.mem_reverse.1 hc), List.reverse_reverse]

/-- The pieces between the elements that satisfy `p`; always at least one piece. -/
def splitBy {α : Type} (p : α → Bool) : List α → List (List α)
  | [] => [[]]
  | a :: l =>
    if p a then [] :: splitBy p l
    else
      match splitBy p l with
      | [] => [[a]]
      | w :: ws => (a :: w) :: ws

theorem splitBy_eq_singleton {α : Type} {p : α → Bool} {w : List α} (h : ∀ a ∈ w, p a = false) : splitBy p w = [w] := by
  induction w with
  | nil => rfl
  | cons a w ih => simp [splitBy, h a (by simp), ih fun b hb => h b (by simp [hb])]

/-- The piece before the first separator. -/
theorem splitBy_append_cons {α : Type} {p : α → Bool} {w : List α} {b : α} (h : ∀ a ∈ w, p a = false) (hb : p b = true)
    (l : List α) : splitBy p (w ++ b :: l) = w :: splitBy p l := by
  induction w with
  | nil => simp [splitBy, hb]
  | cons a w ih => simp [splitBy, h a (by simp), ih fun b hb => h b (by simp [hb])]

theorem not_of_mem_splitBy {α : Type} {p : α → Bool} {l w : List α} (h : w ∈ splitBy p l) : ∀ a ∈ w, p a = false := by
  induction l generalizing w with
  | nil =>
    intro a ha
    rw [List.mem_singleton.1 h] at ha
    exact absurd ha List.not_mem_nil
  | cons b l ih =>
    rw [splitBy] at h
    split at h
    · rcases List.mem_cons.1 h with rfl | h
      · intro a ha
        exact absurd ha List.not_mem_nil
      · exact ih h
    · rename_i hb
      -- the first piece takes up the element
      have hcons : ∀ v : List α, (∀ a ∈ v, p a = false) → ∀ a ∈ b :: v, p a = false := by
        intro v hv
        exact List.forall_mem_cons.2 ⟨by simpa using hb, hv⟩
      split at h
      · rw [List.mem_singleton.1 h]
        exact hcons [] fun a ha => absurd ha List.not_mem_nil
      · rename_i v vs heq
        rw [heq] at ih
        rcases List.mem_cons.1 h with rfl | h
        · exact hcons v (ih List.mem_cons_self)
        · exact ih (List.mem_cons_of_mem v h)

/-- Pieces that are written with a separator behind each of them. -/
theorem splitBy_flatMap {α : Type} {p : α → Bool} {b : α} (hb : p b = true) {ls : List (List α)}
    (h : ∀ l ∈ ls, ∀ a ∈ l, p a = false) : splitBy p (ls.flatMap fun l => l ++ [b]) = ls ++ [[]] := by
  induction ls with
  | nil => rfl
  | cons l ls ih =>
    obtain ⟨hl, hls⟩ := List.forall_mem_cons.1 h
    rw [List.flatMap_cons, List.append_assoc, List.singleton_append, splitBy_append_cons hl hb, ih hls]
    rfl

/-- The lines of a text; nothing behind the last line break is no line. -/
def lines (s : List Char) : List (List Char) :=
  let pieces := splitBy (· = '\n') s
  if pieces.getLast? = some [] then pieces.dropLast else pieces

/-- Every line with a line break behind it. -/
def unlines (ls : List (List Char)) : List Char := ls.flatMap fun l => l ++ ['\n']

theorem not_mem_of_mem_lines {s l : List Char} (h : l ∈ lines s) : '\n' ∉ l := by
  have hpiece : l ∈ splitBy (· = '\n') s := by
    unfold lines at h
    dsimp only at h
    split at h
    · exact List.mem_of_mem_dropLast h
    · exact h
  intro hc
  exact absurd (not_of_mem_splitBy hpiece '\n' hc) (by decide)

theorem lines_unlines {ls : List (List Char)} (h : ∀ l ∈ ls, '\n' ∉ l) : lines (unlines ls) = ls := by
  have hpieces : splitBy (fun c : Char => decide (c = '\n')) (unlines ls) = ls ++ [[]] := by
    refine splitBy_flatMap (p := fun c : Char => decide (c = '\n')) (b := '\n') (decide_eq_true rfl) ?_
    intro l hl a ha
    rw [decide_eq_false_iff_not]
    rintro rfl
    exact h l hl ha
  unfold lines
  rw [hpieces]
  simp

/-- Written lines are read back if and only if no line has a line break in it. -/
theorem lines_unlines_iff {ls : List (List Char)} : lines (unlines ls) = ls ↔ ∀ l ∈ ls, '\n' ∉ l := by
  constructor
  · intro h l hl
    rw [← h] at hl
    exact not_mem_of_mem_lines hl
  · exact lines_unlines

def splitWhitespace (s : List Char) : List (List Char) := (splitBy isWhitespace s).filter (· ≠ [])

/-- Split at every carriage return followed by a line feed. -/
def splitCrlf : List Char → List (List Char)
  | [] => [[]]
  | '\r' :: '\n' :: l => [] :: splitCrlf l
  | a :: l =>
    match splitCrlf l with
    | [] => [[a]]
    | w :: ws => (a :: w) :: ws

/-- The parts before and after the first `c`. -/
def splitOnce (c : Char) : List Char → Option (List Char × List Char)
  | [] => none
  | a :: l => if a = c then some ([], l) else (splitOnce c l).map fun p => (a :: p.1, p.2)

theorem splitOnce_eq_none {c : Char} {l : List Char} (h : c ∉ l) : splitOnce c l = none := by
  induction l with
  | nil => rfl
  | cons a l ih =>
    have hne : a ≠ c := fun heq => h (by simp [heq])
    rw [splitOnce, if_neg hne, ih fun hmem => h (List.mem_cons_of_mem a hmem)]
    rfl

theorem splitOnce_append_cons {c : Char} {l : List Char} (h : c ∉ l) (r : List Char) :
    splitOnce c (l ++ c :: r) = some (l, r) := by
  induction l with
  | nil => simp [splitOnce]
  | cons a l ih =>
    have hne : a ≠ c := fun heq => h (by simp [heq])
    simp [splitOnce, hne, ih fun hc => h (by simp [hc])]

def eqIgnoreAsciiCase (s t : List Char) : Bool := s.map Char.toLower == t.map Char.toLower

/-! ### Integers -/

inductive ParseIntError
  | empty
  | invalidDigit
  | posOverflow
  | negOverflow
  deriving DecidableEq, Repr

def ParseIntError.text : ParseIntError → String
  | .empty => "cannot parse integer from empty string"
  | .invalidDigit => "invalid digit found in string"
  | .posOverflow => "number too large to fit in target type"
  | .negOverflow => "number too small to fit in target type"

def digitValue (c : Char) : Option Nat :=
  if '0' ≤ c ∧ c ≤ '9' then some (c.toNat - '0'.toNat)
  else if 'a' ≤ c ∧ c ≤ 'z' then some (c.toNat - 'a'.toNat + 10)
  else if 'A' ≤ c ∧ c ≤ 'Z' then some (c.toNat - 'A'.toNat + 10)
  else none

def toDigit (radix : Nat) (c : Char) : Option Nat := (digitValue c).filter (· < radix)

/-- Accumulate digits below `limit`; a bad digit is reported before an overflow caused by the digits so far. -/
private def parseDigits (radix limit : Nat) (e : ParseIntError) : Nat → List Char → Except ParseIntError Nat
  | acc, [] => .ok acc
  | acc, c :: l =>
    match toDigit radix c with
    | none => .error .invalidDigit
    | some d => if acc * radix + d < limit then parseDigits radix limit e (acc * radix + d) l else .error e

/-- An unsigned integer of the given width. -/
def parseUnsigned (radix bits : Nat) (s : List Char) : Except ParseIntError Nat :=
  match s with
  | [] => .error .empty
  | ['+'] => .error .invalidDigit
  | ['-'] => .error .invalidDigit
  | '+' :: l => parseDigits radix (2 ^ bits) .posOverflow 0 l
  | l => parseDigits radix (2 ^ bits) .posOverflow 0 l

/-- A two's complement integer of the given width. -/
def parseSigned (radix bits : Nat) (s : List Char) : Except ParseIntError Int :=
  match s with
  | [] => .error .empty
  | ['+'] => .error .invalidDigit
  | ['-'] => .error .invalidDigit
  | '-' :: l => (parseDigits radix (2 ^ (bits - 1) + 1) .negOverflow 0 l).map fun n => -(n : Int)
  | '+' :: l => (parseDigits radix (2 ^ (bits - 1)) .posOverflow 0 l).map fun n => (n : Int)
  | l => (parseDigits radix (2 ^ (bits - 1)) .posOverflow 0 l).map fun n => (n : Int)

private theorem digit_facts {c : Char} (h : c.isDigit = true) :
    c ≠ '+' ∧ c ≠ '-' ∧ isWhitespace c = false ∧ toDigit 10 c = some (c.toNat - '0'.toNat) := by
  have hle : '0' ≤ c ∧ c ≤ '9' := by simpa [Char.isDigit, Char.le_def] using h
  have hn : 48 ≤ c.toNat ∧ c.toNat ≤ 57 := hle
  refine ⟨?_, ?_, ?_, ?_⟩
  · rintro rfl
    exact absurd hn (by decide)
  · rintro rfl
    exact absurd hn (by decide)
  · simp [isWhitespace]
    omega
  · have h0 : '0'.toNat = 48 := rfl
    simp only [toDigit, digitValue, if_pos hle, h0]
    simp
    omega

private theorem parseDigits_ofDigitChars {limit : Nat} {e : ParseIntError} {l : List Char} {acc : Nat}
    (hl : ∀ c ∈ l, c.isDigit = true) (h : Nat.ofDigitChars 10 l acc < limit) :
    parseDigits 10 limit e acc l = .ok (Nat.ofDigitChars 10 l acc) := by
  have hle : ∀ (l : List Char) (n : Nat), n ≤ Nat.ofDigitChars 10 l n := by
    intro l n
    rw [Nat.ofDigitChars_eq_ofDigitChars_zero]
    have := Nat.le_mul_of_pos_left n (Nat.pow_pos (n := l.length) (by decide : 0 < 10))
    omega
  induction l generalizing acc with
  | nil => simp [parseDigits]
  | cons c l ih =>
    rw [Nat.ofDigitChars_cons, Nat.mul_comm] at h ⊢
    have hlt : acc * 10 + (c.toNat - '0'.toNat) < limit := Nat.lt_of_le_of_lt (hle l _) h
    rw [parseDigits]
    simp only [(digit_facts (hl c (by simp))).2.2.2, if_pos hlt]
    exact ih (fun c hc => hl c (by simp [hc])) h

/-- The number that digits spell, read after `n`. -/
def ofDigits (radix : Nat) (n : Nat) (l : List Char) : Nat :=
  l.foldl (fun n c => n * radix + (toDigit radix c).getD 0) n

private theorem parseDigits_ofDigits {radix limit acc : Nat} {e : ParseIntError} {l : List Char} (hr : 0 < radix)
    (hl : ∀ c ∈ l, (toDigit radix c).isSome = true) (h : ofDigits radix acc l < limit) :
    parseDigits radix limit e acc l = .ok (ofDigits radix acc l) := by
  have hle : ∀ (l : List Char) (n : Nat), n ≤ ofDigits radix n l := by
    intro l
    induction l with
    | nil => exact fun n => Nat.le_refl n
    | cons c l ih =>
      intro n
      have := Nat.le_mul_of_pos_right n hr
      exact Nat.le_trans (by omega) (ih (n * radix + (toDigit radix c).getD 0))
  induction l generalizing acc with
  | nil => rfl
  | cons c l ih =>
    obtain ⟨d, hd⟩ := Option.isSome_iff_exists.1 (hl c (by simp))
    have hstep : ofDigits radix acc (c :: l) = ofDigits radix (acc * radix + d) l := by
      rw [ofDigits, List.foldl_cons, hd]
      rfl
    rw [hstep] at h ⊢
    have hlt : acc * radix + d < limit := Nat.lt_of_le_of_lt (hle l _) h
    rw [parseDigits]
    simp only [hd, if_pos hlt]
    exact ih (fun c hc => hl c (by simp [hc])) h

/-- Parsing digits, however many zeros are in front. -/
theorem parseUnsigned_ofDigits {radix bits : Nat} {l : List Char} (hr : 0 < radix) (hne : l ≠ [])
    (hl : ∀ c ∈ l, (toDigit radix c).isSome = true) (h : ofDigits radix 0 l < 2 ^ bits) :
    parseUnsigned radix bits l = .ok (ofDigits radix 0 l) := by
  have hsign : ∀ c ∈ l, c ≠ '+' ∧ c ≠ '-' := by
    intro c hc
    have hdigit := hl c hc
    constructor
    · rintro rfl
      cases hdigit
    · rintro rfl
      cases hdigit
  have hparse := parseDigits_ofDigits (e := .posOverflow) hr hl h
  unfold parseUnsigned
  split
  · exact absurd rfl hne
  · exact absurd rfl (hsign '+' (by simp)).1
  · exact absurd rfl (hsign '-' (by simp)).2
  · exact absurd rfl (hsign '+' (by simp)).1
  · exact hparse

theorem toList_toString_nat (n : Nat) : (toString n).toList = Nat.toDigits 10 n := Nat.toList_repr

theorem isDigit_of_mem_toString {n : Nat} {c : Char} (h : c ∈ (toString n).toList) : c.isDigit = true := by
  rw [toList_toString_nat] at h
  exact Nat.isDigit_of_mem_toDigits (by decide) (by decide) h

theorem trim_toString (n : Nat) : trim (toString n).toList = (toString n).toList :=
  trim_eq_self fun _ hc => (digit_facts (isDigit_of_mem_toString hc)).2.2.1

private theorem parseDigits_toString {n limit : Nat} {e : ParseIntError} (h : n < limit) :
    parseDigits 10 limit e 0 (toString n).toList = .ok n := by
  have hvalue : Nat.ofDigitChars 10 (toString n).toList 0 = n := by
    rw [toList_toString_nat, Nat.ofDigitChars_ten_toDigits]
  have hparse := parseDigits_ofDigitChars (e := e) (fun _ hc => isDigit_of_mem_toString hc) (hvalue ▸ h)
  rwa [hvalue] at hparse

/-- Digits of a number that is too large are refused at the first prefix that is. -/
private theorem parseDigits_overflow {limit : Nat} {e : ParseIntError} {l : List Char} {acc : Nat}
    (hl : ∀ c ∈ l, c.isDigit = true) (hacc : acc < limit) (h : limit ≤ Nat.ofDigitChars 10 l acc) :
    parseDigits 10 limit e acc l = .error e := by
  induction l generalizing acc with
  | nil =>
    simp at h
    omega
  | cons c l ih =>
    rw [Nat.ofDigitChars_cons, Nat.mul_comm] at h
    rw [parseDigits]
    simp only [(digit_facts (hl c (by simp))).2.2.2]
    by_cases hlt : acc * 10 + (c.toNat - '0'.toNat) < limit
    · rw [if_pos hlt]
      exact ih (fun c hc => hl c (by simp [hc])) hlt h
    · rw [if_neg hlt]

/-- A printed number starts with a digit. -/
private theorem toString_eq_cons (n : Nat) :
    ∃ c l, (toString n).toList = c :: l ∧ c ≠ '+' ∧ c ≠ '-' := by
  cases hs : (toString n).toList with
  | nil => exact absurd (toList_toString_nat n ▸ hs) Nat.toDigits_ne_nil
  | cons c l =>
    obtain ⟨hplus, hminus, -⟩ := digit_facts (isDigit_of_mem_toString (n := n) (c := c) (by rw [hs]; exact .head _))
    exact ⟨c, l, rfl, hplus, hminus⟩

/-- Parsing a number that was printed. -/
theorem parseUnsigned_toString {n bits : Nat} (h : n < 2 ^ bits) : parseUnsigned 10 bits (toString n).toList = .ok n := by
  have hparse := parseDigits_toString (e := .posOverflow) h
  obtain ⟨c, l, hs, hplus, hminus⟩ := toString_eq_cons n
  rw [hs] at hparse ⊢
  unfold parseUnsigned
  split
  · simp_all
  · simp_all
  · simp_all
  · simp_all
  · exact hparse

/-- Parsing a printed number that does not fit. -/
theorem parseUnsigned_toString_overflow {n bits : Nat} (h : 2 ^ bits ≤ n) :
    parseUnsigned 10 bits (toString n).toList = .error .posOverflow := by
  have hvalue : Nat.ofDigitChars 10 (toString n).toList 0 = n := by
    rw [toList_toString_nat, Nat.ofDigitChars_ten_toDigits]
  have hparse := parseDigits_overflow (e := .posOverflow) (fun _ hc => isDigit_of_mem_toString hc)
    (Nat.two_pow_pos bits) (hvalue ▸ h)
  obtain ⟨c, l, hs, hplus, hminus⟩ := toString_eq_cons n
  rw [hs] at hparse ⊢
  unfold parseUnsigned
  split
  · simp_all
  · simp_all
  · simp_all
  · simp_all
  · exact hparse

theorem toList_toString_negSucc (n : Nat) : (toString (Int.negSucc n)).toList = '-' :: (toString (n + 1)).toList := by
  show ("-" ++ toString (n + 1)).toList = _
  rw [String.toList_append]
  rfl

theorem trim_toString_int (n : Int) : trim (toString n).toList = (toString n).toList := by
  cases n with
  | ofNat n => exact trim_toString n
  | negSucc n =>
    refine trim_eq_self fun c hc => ?_
    rw [toList_toString_negSucc, List.mem_cons] at hc
    rcases hc with rfl | hc
    · decide
    · exact (digit_facts (isDigit_of_mem_toString hc)).2.2.1

/-- The same for a signed number. -/
theorem parseSigned_toString {n : Int} {bits : Nat} (hlo : -2 ^ (bits - 1) ≤ n) (hhi : n < 2 ^ (bits - 1)) :
    parseSigned 10 bits (toString n).toList = .ok n := by
  have hpow : ((2 ^ (bits - 1) : Nat) : Int) = 2 ^ (bits - 1) := by simp
  cases n with
  | ofNat n =>
    have hlt : n < 2 ^ (bits - 1) := by
      have : (n : Int) < 2 ^ (bits - 1) := hhi
      omega
    have hparse := parseDigits_toString (e := .posOverflow) hlt
    obtain ⟨c, l, hs, hplus, hminus⟩ := toString_eq_cons n
    show parseSigned 10 bits (toString n).toList = _
    rw [hs] at hparse ⊢
    unfold parseSigned
    split
    · simp_all
    · simp_all
    · simp_all
    · simp_all
    · simp_all
    · rw [hparse]
      rfl
  | negSucc n =>
    have hlt : n + 1 < 2 ^ (bits - 1) + 1 := by
      have : -2 ^ (bits - 1) ≤ -((n : Int) + 1) := by
        rw [← Int.negSucc_eq]
        exact hlo
      omega
    have hparse := parseDigits_toString (e := .negOverflow) hlt
    obtain ⟨c, l, hs, -⟩ := toString_eq_cons (n + 1)
    rw [toList_toString_negSucc]
    rw [hs] at hparse ⊢
    simp only [parseSigned, hparse]
    rfl

end Text
