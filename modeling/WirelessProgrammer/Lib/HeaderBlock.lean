import WirelessProgrammer.Lib.Text

/-!
# Header blocks

The header of a text protocol: lines with a carriage return and a line feed between them, and a blank line behind the last
one.  A line has no carriage return in it.  Such lines are found again, in the text and in its bytes.
-/

namespace Text

/-! ### Bytes of characters -/

/-- Every byte of a character that takes more than one has its top bit set. -/
private theorem utf8EncodeChar_cases (c : Char) :
    (c.toNat < 128 ∧ String.utf8EncodeChar c = [UInt8.ofNat c.toNat]) ∨
      (128 ≤ c.toNat ∧ ∀ b ∈ String.utf8EncodeChar c, 128 ≤ b.toNat) := by
  have hv : c.toNat < 0x110000 := by
    rcases c.valid with h | h
    · have : c.toNat < 0xd800 := h
      omega
    · exact h.2
  have hval : c.val.toNat = c.toNat := rfl
  have hbyte : ∀ n, 128 ≤ n → n < 256 → 128 ≤ (UInt8.ofNat n).toNat := by
    intro n hlo hhi
    rw [UInt8.toNat_ofNat_of_lt' hhi]
    exact hlo
  simp only [String.utf8EncodeChar, hval]
  split
  · exact .inl ⟨by omega, rfl⟩
  refine .inr ⟨by omega, fun b hb => ?_⟩
  split at hb
  · simp only [List.mem_cons, List.not_mem_nil, or_false] at hb
    rcases hb with rfl | rfl <;> exact hbyte _ (by omega) (by omega)
  split at hb
  · simp only [List.mem_cons, List.not_mem_nil, or_false] at hb
    rcases hb with rfl | rfl | rfl <;> exact hbyte _ (by omega) (by omega)
  · simp only [List.mem_cons, List.not_mem_nil, or_false] at hb
    rcases hb with rfl | rfl | rfl | rfl <;> exact hbyte _ (by omega) (by omega)

/-- A byte of one character is in an encoded text only for that character. -/
theorem mem_encode_iff {l : List Char} {c : Char} (hc : c.toNat < 128) :
    UInt8.ofNat c.toNat ∈ l.flatMap String.utf8EncodeChar ↔ c ∈ l := by
  rw [List.mem_flatMap]
  constructor
  · rintro ⟨d, hd, hmem⟩
    have hbyte : (UInt8.ofNat c.toNat).toNat = c.toNat := UInt8.toNat_ofNat_of_lt' (show c.toNat < 256 by omega)
    rcases utf8EncodeChar_cases d with ⟨hsmall, heq⟩ | ⟨-, hlarge⟩
    · rw [heq, List.mem_singleton] at hmem
      have hnat := congrArg UInt8.toNat hmem
      rw [hbyte, UInt8.toNat_ofNat_of_lt' (show d.toNat < 256 by omega)] at hnat
      rwa [Char.toNat_inj.1 hnat]
    · have := hlarge _ hmem
      omega
  · intro h
    refine ⟨c, h, ?_⟩
    rcases utf8EncodeChar_cases c with ⟨-, heq⟩ | ⟨hlarge, -⟩
    · rw [heq]
      exact List.mem_singleton.2 rfl
    · omega

theorem cr_mem_encode {l : List Char} : (13 : UInt8) ∈ l.flatMap String.utf8EncodeChar ↔ '\r' ∈ l :=
  mem_encode_iff (show '\r'.toNat < 128 by decide)

theorem encode_ne_nil {l : List Char} (h : l ≠ []) : l.flatMap String.utf8EncodeChar ≠ [] := by
  cases l with
  | nil => exact absurd rfl h
  | cons c l =>
    rw [List.flatMap_cons]
    intro heq
    have hc : String.utf8EncodeChar c = [] := (List.append_eq_nil_iff.1 heq).1
    unfold String.utf8EncodeChar at hc
    dsimp only at hc
    split at hc
    · cases hc
    split at hc
    · cases hc
    split at hc
    · cases hc
    · cases hc

/-! ### Printed numbers -/

theorem isWhitespace_of_mem_toString {n : Nat} {c : Char} (h : c ∈ (toString n).toList) : isWhitespace c = false := by
  have hle : '0' ≤ c ∧ c ≤ '9' := by simpa [Char.isDigit, Char.le_def] using isDigit_of_mem_toString h
  have hn : 48 ≤ c.toNat ∧ c.toNat ≤ 57 := hle
  simp [isWhitespace]
  omega

theorem toString_ne_nil (n : Nat) : (toString n).toList ≠ [] := by
  rw [toList_toString_nat]
  exact Nat.toDigits_ne_nil

theorem trim_space (l : List Char) : trim (' ' :: l) = trim l := rfl

/-! ### Lines of a block -/

/-- Every line with a line ending behind it. -/
def crlfLines (ls : List (List Char)) : List Char := ls.flatMap fun l => l ++ ['\r', '\n']

@[simp] theorem crlfLines_nil : crlfLines [] = [] := rfl

@[simp] theorem crlfLines_cons (l : List Char) (ls : List (List Char)) :
    crlfLines (l :: ls) = l ++ '\r' :: '\n' :: crlfLines ls := by
  simp [crlfLines]

theorem splitCrlf_line {l : List Char} (h : '\r' ∉ l) : splitCrlf l = [l] := by
  induction l with
  | nil => rfl
  | cons a l ih =>
    have ha : a ≠ '\r' := fun heq => h (by simp [heq])
    have ih := ih fun hmem => h (List.mem_cons_of_mem a hmem)
    rw [splitCrlf.eq_def]
    split
    · rename_i heq
      cases heq
    · rename_i heq
      exact absurd (List.cons.inj heq).1 ha
    · rename_i heq
      obtain ⟨rfl, rfl⟩ := List.cons.inj heq
      rw [ih]

theorem splitCrlf_line_append {l : List Char} (h : '\r' ∉ l) (m : List Char) :
    splitCrlf (l ++ '\r' :: '\n' :: m) = l :: splitCrlf m := by
  induction l with
  | nil => rfl
  | cons a l ih =>
    have ha : a ≠ '\r' := fun heq => h (by simp [heq])
    have ih := ih fun hmem => h (List.mem_cons_of_mem a hmem)
    rw [List.cons_append, splitCrlf.eq_def]
    split
    · rename_i heq
      cases heq
    · rename_i heq
      exact absurd (List.cons.inj heq).1 ha
    · rename_i heq
      obtain ⟨rfl, rfl⟩ := List.cons.inj heq
      rw [ih]

/-- The lines of a block, and what is behind them. -/
theorem splitCrlf_crlfLines {ls : List (List Char)} (h : ∀ l ∈ ls, '\r' ∉ l) (m : List Char) :
    splitCrlf (crlfLines ls ++ m) = ls ++ splitCrlf m := by
  induction ls with
  | nil => rfl
  | cons l ls ih =>
    obtain ⟨hl, hls⟩ := List.forall_mem_cons.1 h
    rw [crlfLines_cons, List.append_assoc, List.cons_append, List.cons_append, splitCrlf_line_append hl, ih hls]
    rfl

/-! ### The blank line -/

/-- The end of a line and the blank line behind it. -/
def blankLine : List UInt8 := [13, 10, 13, 10]

private theorem not_blankLine_start {b : UInt8} {l : List UInt8} (hl : 13 ∉ b :: l) (t : List UInt8) :
    ¬ blankLine <+: b :: t := by
  intro hp
  simp only [blankLine, List.cons_prefix_cons] at hp
  exact hl (by simp [← hp.1])

/-- A line ending with no further one behind it starts no blank line. -/
private theorem windowPosition_skip {l t : List UInt8} (hl : 13 ∉ l) (ht : t.head? ≠ some 13) :
    windowPosition blankLine (l ++ 13 :: 10 :: t) = (windowPosition blankLine t).map (· + (l.length + 2)) := by
  induction l with
  | nil =>
    have hcr : ¬ blankLine <+: 13 :: 10 :: t := by
      intro hp
      cases t with
      | nil => simp [blankLine] at hp
      | cons b t => simp [blankLine] at hp ht; exact ht hp.1.symm
    have hlf : ¬ blankLine <+: 10 :: t := by simp [blankLine]
    rw [List.nil_append, windowPosition, if_neg hcr, windowPosition, if_neg hlf, Option.map_map]
    rfl
  | cons b l ih =>
    rw [List.cons_append, windowPosition, if_neg (not_blankLine_start hl _),
      ih fun hmem => hl (List.mem_cons_of_mem b hmem), Option.map_map]
    rfl

private theorem windowPosition_line {l : List UInt8} (hl : 13 ∉ l) (rest : List UInt8) :
    windowPosition blankLine (l ++ blankLine ++ rest) = some l.length := by
  induction l with
  | nil => rfl
  | cons b l ih =>
    rw [List.cons_append, List.cons_append, windowPosition, if_neg (not_blankLine_start hl _),
      ih fun hmem => hl (List.mem_cons_of_mem b hmem)]
    rfl

/-- The bytes of lines, none of them blank, with the blank line behind the last one: it is found there and not before. -/
theorem windowPosition_block {ls : List (List UInt8)} {last : List UInt8} (h : ∀ l ∈ ls, l ≠ [] ∧ 13 ∉ l)
    (hlast : last ≠ [] ∧ 13 ∉ last) (rest : List UInt8) :
    windowPosition blankLine (ls.flatMap (· ++ [13, 10]) ++ last ++ blankLine ++ rest) =
      some (ls.flatMap (· ++ [13, 10]) ++ last).length := by
  induction ls with
  | nil => exact windowPosition_line hlast.2 rest
  | cons l ls ih =>
    obtain ⟨hl, hls⟩ := List.forall_mem_cons.1 h
    have hsplit : (l :: ls).flatMap (· ++ [13, 10]) ++ last ++ blankLine ++ rest =
        l ++ 13 :: 10 :: (ls.flatMap (· ++ [13, 10]) ++ last ++ blankLine ++ rest) := by
      simp
    have hhead : ∀ m : List UInt8, m ≠ [] ∧ 13 ∉ m → ∀ t, (m ++ t).head? ≠ some 13 := by
      intro m hm t
      obtain ⟨b, m, rfl⟩ := List.exists_cons_of_ne_nil hm.1
      rintro ⟨⟩
      exact hm.2 List.mem_cons_self
    have ht : (ls.flatMap (· ++ [13, 10]) ++ last ++ blankLine ++ rest).head? ≠ some 13 := by
      cases ls with
      | nil =>
        rw [List.flatMap_nil, List.nil_append, List.append_assoc]
        exact hhead last hlast _
      | cons m ls =>
        rw [List.flatMap_cons, List.append_assoc, List.append_assoc, List.append_assoc, List.append_assoc]
        exact hhead m (hls m List.mem_cons_self) _
    rw [hsplit, windowPosition_skip hl.2 ht, ih hls, Option.map_some]
    congr 1
    simp
    omega

/-- The bytes of a block of lines. -/
theorem encode_crlfLines (ls : List (List Char)) :
    (crlfLines ls).flatMap String.utf8EncodeChar =
      (ls.map fun l => l.flatMap String.utf8EncodeChar).flatMap (· ++ [13, 10]) := by
  have hcr : String.utf8EncodeChar '\r' = [13] := by decide
  have hlf : String.utf8EncodeChar '\n' = [10] := by decide
  induction ls with
  | nil => rfl
  | cons l ls ih =>
    rw [crlfLines_cons, List.flatMap_append, List.flatMap_cons, List.flatMap_cons, hcr, hlf, ih]
    simp

/-- The lines of a header block, with the blank line behind the last one. -/
def headerBlock (ls : List (List Char)) (last : List Char) : List Char := crlfLines ls ++ last ++ ['\r', '\n', '\r', '\n']

/-- A line of a block. -/
def IsHeaderLine (l : List Char) : Prop := l ≠ [] ∧ '\r' ∉ l

section Block

variable {ls : List (List Char)} {last : List Char}

theorem encode_headerBlock (ls : List (List Char)) (last : List Char) :
    (headerBlock ls last).flatMap String.utf8EncodeChar =
      (crlfLines ls ++ last).flatMap String.utf8EncodeChar ++ blankLine := by
  rw [headerBlock, List.flatMap_append]
  rfl

/-- In the bytes of a block, the blank line is found behind the last line. -/
theorem windowPosition_headerBlock (h : ∀ l ∈ ls, IsHeaderLine l) (hlast : IsHeaderLine last) (rest : List UInt8) :
    windowPosition blankLine ((headerBlock ls last).flatMap String.utf8EncodeChar ++ rest) =
      some ((crlfLines ls ++ last).flatMap String.utf8EncodeChar).length := by
  have hline : ∀ l, IsHeaderLine l →
      l.flatMap String.utf8EncodeChar ≠ [] ∧ (13 : UInt8) ∉ l.flatMap String.utf8EncodeChar :=
    fun l hl => ⟨encode_ne_nil hl.1, fun hmem => hl.2 (cr_mem_encode.1 hmem)⟩
  have hlines : ∀ m ∈ ls.map fun l => l.flatMap String.utf8EncodeChar, m ≠ [] ∧ 13 ∉ m := by
    intro m hm
    obtain ⟨l, hl, rfl⟩ := List.mem_map.1 hm
    exact hline l (h l hl)
  have hfound := windowPosition_block hlines (hline last hlast) rest
  rw [encode_headerBlock, List.flatMap_append, encode_crlfLines]
  exact hfound

theorem splitCrlf_block (h : ∀ l ∈ ls, IsHeaderLine l) (hlast : IsHeaderLine last) :
    splitCrlf (crlfLines ls ++ last) = ls ++ [last] := by
  rw [splitCrlf_crlfLines fun l hl => (h l hl).2, splitCrlf_line hlast.2]

/-- The same with the blank line: it and what is behind it are two further lines, both of them empty. -/
theorem splitCrlf_headerBlock (h : ∀ l ∈ ls, IsHeaderLine l) (hlast : IsHeaderLine last) :
    splitCrlf (headerBlock ls last) = ls ++ [last, [], []] := by
  have hblock : headerBlock ls last = crlfLines ls ++ (last ++ '\r' :: '\n' :: ['\r', '\n']) := by
    simp [headerBlock]
  rw [hblock, splitCrlf_crlfLines fun l hl => (h l hl).2, splitCrlf_line_append hlast.2]
  rfl

end Block

end Text
