import WirelessProgrammer.Core

/-!
# HTTP messages

The parsing half of `wp-link/src/http.rs`: where the body starts, `Content-Length`, the chunked decoder, whether a
buffer holds a complete response, the status line, and percent encoding.

The decoder walks over whole chunks and stops at the first line that is not followed by one; `Chunks` says what it
has walked over, and `Sized` when none of the additions of the walk overflows.
-/

namespace WirelessProgrammer

open Text

def crlf : List UInt8 := [13, 10]

def invalidData (message : String) : IoError := ⟨.invalidData, message⟩

/-- Find the start of the response body (after the blank line). -/
def locateBody (buf : List UInt8) : Except IoError Nat :=
  match windowPosition [13, 10, 13, 10] buf with
  | some i => .ok (i + 4)
  | none => .error (invalidData "no header/body separator")

/-- The text after the colon of the first header line with the given name. -/
def headerValue (name : String) (headers : List UInt8) : Option (List Char) :=
  match fromUtf8 headers with
  | .error _ => none
  | .ok text => (splitCrlf text).findSome? fun line =>
    match splitOnce ':' line with
    | none => none
    | some (n, value) => if eqIgnoreAsciiCase n name.toList then some value else none

/-- `Content-Length` from the header block, if present. -/
def parseContentLength (headers : List UInt8) : Option Nat :=
  (headerValue "content-length" headers).bind fun value => (parseUnsigned 10 64 (trim value)).toOption

def isChunked (headers : List UInt8) : Bool :=
  match headerValue "transfer-encoding" headers with
  | none => false
  | some value => (splitBy (· = ',') value).any fun t => eqIgnoreAsciiCase (trim t) "chunked".toList

def hexUpper (n : Nat) : Char := if n < 10 then Char.ofNat (48 + n) else Char.ofNat (55 + n)

def percentEncodeByte (b : UInt8) : List Char :=
  let c := Char.ofNat b.toNat
  if c.isAlphanum || c = '-' || c = '.' || c = '_' || c = '~' then [c]
  else ['%', hexUpper (b.toNat / 16), hexUpper (b.toNat % 16)]

/-- Percent-encode a query value per RFC 3986 (unreserved set kept). -/
def percentEncode (input : String) : String := String.ofList ((utf8Bytes input).flatMap percentEncodeByte)

/-- The characters that percent encoding keeps. -/
def isUnreserved (c : Char) : Bool := c.isAlphanum || c = '-' || c = '.' || c = '_' || c = '~'

theorem isUnreserved_lt {c : Char} (h : isUnreserved c = true) : c.toNat < 128 := by
  by_contra hge
  have hnot : c.isAlphanum = false := by
    show (decide (c.val ≥ 65 ∧ c.val ≤ 90) || (c.val ≥ 97 && c.val ≤ 122) || (c.val ≥ 48 && c.val ≤ 57)) = false
    simp only [UInt32.le_iff_toNat_le, Char.toNat_val, ge_iff_le]
    simp
    omega
  simp only [isUnreserved, hnot, Bool.false_or, Bool.or_eq_true, decide_eq_true_eq] at h
  rcases h with ((rfl | rfl) | rfl) | rfl <;> exact hge (by decide)

private theorem hexUpper_unreserved {n : Nat} (h : n < 16) : isUnreserved (hexUpper n) = true := by
  have hall : ∀ i : Fin 16, isUnreserved (hexUpper i) = true := by decide
  exact hall ⟨n, h⟩

theorem percentEncodeByte_cases (b : UInt8) :
    (isUnreserved (Char.ofNat b.toNat) = true ∧ percentEncodeByte b = [Char.ofNat b.toNat]) ∨
      percentEncodeByte b = ['%', hexUpper (b.toNat / 16), hexUpper (b.toNat % 16)] := by
  by_cases h : isUnreserved (Char.ofNat b.toNat) = true
  · exact .inl ⟨h, if_pos h⟩
  · exact .inr (if_neg h)

theorem toList_percentEncode (s : String) : (percentEncode s).toList = (utf8Bytes s).flatMap percentEncodeByte :=
  String.toList_ofList

/-- Only unreserved characters and `%` occur in an encoded value. -/
theorem mem_percentEncode {s : String} {c : Char} (h : c ∈ (percentEncode s).toList) : isUnreserved c = true ∨ c = '%' := by
  rw [toList_percentEncode] at h
  obtain ⟨b, -, hc⟩ := List.mem_flatMap.1 h
  have hb : b.toNat < 256 := b.toNat_lt
  rcases percentEncodeByte_cases b with ⟨hun, heq⟩ | heq
  · rw [heq] at hc
    exact .inl (List.mem_singleton.1 hc ▸ hun)
  · rw [heq] at hc
    simp only [List.mem_cons, List.not_mem_nil, or_false] at hc
    rcases hc with rfl | rfl | rfl
    · exact .inr rfl
    · exact .inl (hexUpper_unreserved (by omega))
    · exact .inl (hexUpper_unreserved (by omega))

/-- The bytes of a text of small characters. -/
theorem flatMap_utf8EncodeChar {l : List Char} (h : ∀ c ∈ l, c.toNat < 128) :
    l.flatMap String.utf8EncodeChar = l.map fun c => UInt8.ofNat c.toNat := by
  induction l with
  | nil => rfl
  | cons c l ih =>
    have hc : c.val.toNat ≤ 127 := Nat.le_of_lt_succ (h c (by simp))
    rw [List.flatMap_cons, ih fun c hc => h c (by simp [hc])]
    simp only [String.utf8EncodeChar, if_pos hc]
    rfl

/-- A value of unreserved characters is its own encoding. -/
theorem percentEncode_eq_self {s : String} (h : ∀ c ∈ s.toList, isUnreserved c = true) : percentEncode s = s := by
  have hbyte : ∀ c : Char, isUnreserved c = true → percentEncodeByte (UInt8.ofNat c.toNat) = [c] := by
    intro c hc
    have hlt := isUnreserved_lt hc
    have hval : Char.ofNat (UInt8.ofNat c.toNat).toNat = c := by
      rw [UInt8.toNat_ofNat_of_lt' (show c.toNat < 256 by omega), Char.ofNat_toNat]
    unfold percentEncodeByte
    rw [hval]
    exact if_pos hc
  have hall : ∀ l : List Char, (∀ c ∈ l, isUnreserved c = true) →
      (l.map fun c => UInt8.ofNat c.toNat).flatMap percentEncodeByte = l := by
    intro l
    induction l with
    | nil => exact fun _ => rfl
    | cons c l ih =>
      intro hl
      rw [List.map_cons, List.flatMap_cons, hbyte c (hl c (by simp)), ih fun c hc => hl c (by simp [hc])]
      rfl
  rw [percentEncode, utf8Bytes, flatMap_utf8EncodeChar fun c hc => isUnreserved_lt (h c hc), hall _ h, String.ofList_toList]

theorem percentEncode_toString (n : Nat) : percentEncode (toString n) = toString n := by
  refine percentEncode_eq_self fun c hc => ?_
  simp [isUnreserved, Char.isAlphanum, isDigit_of_mem_toString hc]

theorem percentEncode_toString_int (n : Int) : percentEncode (toString n) = toString n := by
  cases n with
  | ofNat n => exact percentEncode_toString n
  | negSucc n =>
    refine percentEncode_eq_self fun c hc => ?_
    rw [toList_toString_negSucc, List.mem_cons] at hc
    rcases hc with rfl | hc
    · rfl
    · simp [isUnreserved, Char.isAlphanum, isDigit_of_mem_toString hc]

/-! ### The chunked decoder -/

/-- The size on a chunk-size line, an extension after `;` ignored. -/
def chunkSize (line : List UInt8) : Except IoError Nat :=
  match fromUtf8 (line.takeWhile (· ≠ 59)) with
  | .error e => .error (invalidData e.text)
  | .ok text =>
    match parseUnsigned 16 64 (trim text) with
    | .error e => .error (invalidData s!"chunk size: {e.text}")
    | .ok n => .ok n

/-- One pass of the decoder's loop: the decoded body, or the next position with the output so far. -/
def chunkStep (body : List UInt8) (pos : Nat) (out : List UInt8) : Checked (List UInt8 ⊕ Nat × List UInt8) := do
  let tail ← sliceFrom body pos
  let some rel := windowPosition crlf tail | .err (invalidData "truncated chunk size")
  let nl ← usizeAdd pos rel
  let sizeLine ← sliceRange body pos nl
  let size ← .ofExcept (chunkSize sizeLine)
  let pos ← usizeAdd nl 2
  if size = 0 then return .inl out
  let dataEnd ← usizeAdd pos size
  let chunkEnd ← usizeAdd dataEnd 2
  if chunkEnd > body.length then .err (invalidData "truncated chunk data")
  let data ← sliceRange body pos dataEnd
  let afterCrlf ← usizeAdd dataEnd 2
  if sliceGet body dataEnd afterCrlf ≠ some crlf then .err (invalidData "missing chunk CRLF")
  return .inr (afterCrlf, out ++ data)

/-- A pass of the loop leaves the chunk it has read behind. -/
theorem chunkStep_next {body out out' : List UInt8} {pos pos' : Nat}
    (h : chunkStep body pos out = .ok (.inr (pos', out'))) : pos < pos' ∧ pos' ≤ body.length := by
  unfold chunkStep at h
  obtain ⟨tail, -, h⟩ := Checked.bind_eq_ok h
  split at h
  · obtain ⟨nl, hnl, h⟩ := Checked.bind_eq_ok h
    obtain ⟨line, -, h⟩ := Checked.bind_eq_ok h
    obtain ⟨size, -, h⟩ := Checked.bind_eq_ok h
    obtain ⟨start, hstart, h⟩ := Checked.bind_eq_ok h
    have := usizeAdd_ok hnl
    have := usizeAdd_ok hstart
    split at h
    · exact nomatch h
    · obtain ⟨dataEnd, hend, h⟩ := Checked.bind_eq_ok h
      obtain ⟨chunkEnd, hchunk, h⟩ := Checked.bind_eq_ok h
      have := usizeAdd_ok hend
      have := usizeAdd_ok hchunk
      split at h
      · exact nomatch h
      · obtain ⟨data, -, h⟩ := Checked.bind_eq_ok h
        obtain ⟨afterCrlf, hafter, h⟩ := Checked.bind_eq_ok h
        have := usizeAdd_ok hafter
        split at h
        · exact nomatch h
        · simp at h
          omega
  · exact nomatch h

/-- The decoder's loop from `pos` on. -/
def decodeFromPos (body : List UInt8) (pos : Nat) (out : List UInt8) : Checked (List UInt8) :=
  match _h : chunkStep body pos out with
  | .panic => .panic
  | .err e => .err e
  | .ok (.inl out) => .ok out
  | .ok (.inr (pos', out')) => decodeFromPos body pos' out'
termination_by body.length - pos
decreasing_by
  have := chunkStep_next _h
  omega

private theorem decodeFromPos_eq (body : List UInt8) (pos : Nat) (out : List UInt8) :
    decodeFromPos body pos out = chunkStep body pos out >>= fun r =>
      match r with
      | .inl out => .ok out
      | .inr (pos', out') => decodeFromPos body pos' out' := by
  rw [decodeFromPos]
  split <;> rename_i h <;> rw [h] <;> rfl

/-- Decode a complete `Transfer-Encoding: chunked` body. -/
def decodeChunked (body : List UInt8) : Checked (List UInt8) := decodeFromPos body 0 []

/-- `true` when `buf` holds a full HTTP response. -/
def httpMessageComplete (buf : List UInt8) : Checked Bool :=
  match locateBody buf with
  | .error _ => .ok false
  | .ok start => do
    let headers ← sliceRange buf 0 start
    let body ← sliceFrom buf start
    match parseContentLength headers with
    | some len => return len ≤ body.length
    | none =>
      if isChunked headers then
        match decodeChunked body with
        | .ok _ => return true
        | .err _ => return false
        | .panic => .panic
      else return false

/-- Parse the HTTP status code from the status line. -/
def parseStatus (buf : List UInt8) : Except IoError Nat :=
  match fromUtf8 (buf.takeWhile (· ≠ 13)) with
  | .error e => .error (invalidData e.text)
  | .ok line =>
    match (splitWhitespace line)[1]? with
    | none => .error (invalidData "no status code")
    | some status =>
      match parseUnsigned 10 16 status with
      | .error e => .error (invalidData e.text)
      | .ok n => .ok n

/-! ### Chunk lines -/

/-- The first CRLF after a line without one is the one that ends it. -/
theorem windowPosition_crlf {line : List UInt8} (hl : ¬ crlf <:+: line) (rest : List UInt8) :
    windowPosition crlf (line ++ crlf ++ rest) = some line.length := by
  induction line with
  | nil => rfl
  | cons a line ih =>
    have hp : ¬ crlf <+: a :: line ++ crlf ++ rest := by
      intro h
      cases line with
      | nil => simp [crlf] at h
      | cons b line =>
        obtain ⟨rfl, rfl, -⟩ : 13 = a ∧ 10 = b ∧ True := by simpa [crlf] using h
        exact hl ⟨[], line, rfl⟩
    have ih' := ih fun h => hl (List.infix_cons h)
    simp only [List.cons_append, List.append_assoc] at hp ih' ⊢
    rw [windowPosition, if_neg hp, ih']
    rfl

theorem exists_line {buf : List UInt8} {i : Nat} (h : windowPosition crlf buf = some i) :
    ∃ line rest, buf = line ++ crlf ++ rest ∧ line.length = i ∧ ¬ crlf <:+: line := by
  obtain ⟨rest, hsplit, hlen⟩ := windowPosition_split h
  refine ⟨buf.take i, rest, hsplit, hlen, fun hin => ?_⟩
  -- a CRLF inside the line would be found first
  obtain ⟨j, hj⟩ := windowPosition_isSome (by simp [crlf]) hin
  obtain ⟨rest', hsplit', hlen'⟩ := windowPosition_split hj
  have hij : windowPosition crlf buf = some j := by
    rw [hsplit, List.append_assoc]
    exact windowPosition_append hj _
  have := congrArg List.length hsplit'
  have : i = j := Option.some.inj (h.symm.trans hij)
  simp [crlf] at *
  omega

/-- A line is determined by the bytes it starts. -/
theorem line_unique {line line' rest rest' : List UInt8} (hl : ¬ crlf <:+: line) (hl' : ¬ crlf <:+: line')
    (h : line ++ crlf ++ rest = line' ++ crlf ++ rest') : line = line' ∧ rest = rest' := by
  have hlen : line.length = line'.length := by
    have := windowPosition_crlf hl rest
    rw [h, windowPosition_crlf hl' rest'] at this
    exact (Option.some.inj this).symm
  rw [List.append_assoc, List.append_assoc] at h
  obtain ⟨h₁, h₂⟩ := List.append_inj h hlen
  exact ⟨h₁, List.append_cancel_left h₂⟩

/-- What the decoder can find at a position. -/
inductive ChunkView : List UInt8 → Prop
  | noLine {bytes : List UInt8} (h : windowPosition crlf bytes = none) : ChunkView bytes
  | badSize {line : List UInt8} {e : IoError} (hl : ¬ crlf <:+: line) (h : chunkSize line = .error e)
      (rest : List UInt8) : ChunkView (line ++ crlf ++ rest)
  | last {line : List UInt8} (hl : ¬ crlf <:+: line) (h : chunkSize line = .ok 0) (rest : List UInt8) :
      ChunkView (line ++ crlf ++ rest)
  | chunk {line data : List UInt8} (hl : ¬ crlf <:+: line) (h : chunkSize line = .ok data.length) (h0 : data ≠ [])
      (rest : List UInt8) : ChunkView (line ++ crlf ++ (data ++ crlf ++ rest))
  | truncated {line rest : List UInt8} {n : Nat} (hl : ¬ crlf <:+: line) (h : chunkSize line = .ok n) (h0 : n ≠ 0)
      (hrest : ∀ data rest', rest = data ++ crlf ++ rest' → data.length ≠ n) : ChunkView (line ++ crlf ++ rest)

theorem chunkView (bytes : List UInt8) : ChunkView bytes := by
  cases hw : windowPosition crlf bytes with
  | none => exact .noLine hw
  | some i =>
    obtain ⟨line, rest, rfl, -, hl⟩ := exists_line hw
    cases hs : chunkSize line with
    | error e => exact .badSize hl hs rest
    | ok n =>
      by_cases h0 : n = 0
      · exact .last hl (h0 ▸ hs) rest
      by_cases hchunk : ∃ data rest', rest = data ++ crlf ++ rest' ∧ data.length = n
      · obtain ⟨data, rest, rfl, rfl⟩ := hchunk
        exact .chunk hl hs (fun h => h0 (by simp [h])) rest
      · exact .truncated hl hs h0 fun data rest' h hn => hchunk ⟨data, rest', h, hn⟩

section Decoding

variable {pre line rest out : List UInt8}

/-- A pass of the loop at a line, up to the data of the chunk. -/
private theorem chunkStep_line (hl : ¬ crlf <:+: line) (hb : pre.length + line.length < 2 ^ 63) :
    chunkStep (pre ++ (line ++ crlf ++ rest)) pre.length out =
      match chunkSize line with
      | .error e => .err e
      | .ok n =>
        let body := pre ++ (line ++ crlf ++ rest)
        let start := pre.length + line.length + 2
        if n = 0 then .ok (.inl out)
        else if 2 ^ 64 ≤ start + n + 2 then .panic
        else if start + n + 2 > body.length then .err (invalidData "truncated chunk data")
        else sliceRange body start (start + n) >>= fun data =>
          if sliceGet body (start + n) (start + n + 2) ≠ some crlf then .err (invalidData "missing chunk CRLF")
          else .ok (.inr (start + n + 2, out ++ data)) := by
  have hnl : usizeAdd pre.length line.length = .ok (pre.length + line.length) := usizeAdd_of_lt (by omega)
  have hstart : usizeAdd (pre.length + line.length) 2 = .ok (pre.length + line.length + 2) :=
    usizeAdd_of_lt (by omega)
  have hline : sliceRange (pre ++ (line ++ crlf ++ rest)) pre.length (pre.length + line.length) = .ok line :=
    sliceRange_append (l := pre) (n := crlf ++ rest) (by simp) rfl rfl
  unfold chunkStep
  rw [sliceFrom_append, Checked.ok_bind, windowPosition_crlf hl]
  simp only [hnl, hline, Checked.ok_bind]
  cases chunkSize line with
  | error e => rfl
  | ok n =>
    simp only [Checked.ofExcept, Checked.ok_bind, hstart, usizeAdd_bind_usizeAdd]
    by_cases hn : n = 0
    · simp [hn]
    by_cases hover : 2 ^ 64 ≤ pre.length + line.length + 2 + n + 2
    · simp only [if_neg hn, if_pos hover, if_neg (Nat.not_lt.2 hover)]
    have hadd : usizeAdd (pre.length + line.length + 2 + n) 2 = .ok (pre.length + line.length + 2 + n + 2) :=
      usizeAdd_of_lt (by omega)
    simp only [if_neg hn, if_neg hover, if_pos (Nat.not_le.1 hover), hadd, Checked.ok_bind]
    split
    · rfl
    · refine congrArg _ (funext fun data => ?_)
      split <;> rfl

theorem decodeFromPos_noLine {bytes : List UInt8} (h : windowPosition crlf bytes = none) :
    decodeFromPos (pre ++ bytes) pre.length out = .err (invalidData "truncated chunk size") := by
  rw [decodeFromPos_eq]
  simp [chunkStep, sliceFrom_append, h]

theorem decodeFromPos_badSize {e : IoError} (hl : ¬ crlf <:+: line) (h : chunkSize line = .error e)
    (hb : pre.length + line.length < 2 ^ 63) :
    decodeFromPos (pre ++ (line ++ crlf ++ rest)) pre.length out = .err e := by
  rw [decodeFromPos_eq, chunkStep_line hl hb, h]
  rfl

theorem decodeFromPos_last (hl : ¬ crlf <:+: line) (h : chunkSize line = .ok 0)
    (hb : pre.length + line.length < 2 ^ 63) :
    decodeFromPos (pre ++ (line ++ crlf ++ rest)) pre.length out = .ok out := by
  rw [decodeFromPos_eq, chunkStep_line hl hb, h]
  rfl

theorem decodeFromPos_overflow {n : Nat} (hl : ¬ crlf <:+: line) (h : chunkSize line = .ok n) (h0 : n ≠ 0)
    (hb : pre.length + line.length < 2 ^ 63) (hover : 2 ^ 64 ≤ pre.length + line.length + 2 + n + 2) :
    decodeFromPos (pre ++ (line ++ crlf ++ rest)) pre.length out = .panic := by
  rw [decodeFromPos_eq, chunkStep_line hl hb, h]
  simp only [if_neg h0, if_pos hover]
  rfl

theorem decodeFromPos_chunk {data : List UInt8} (hl : ¬ crlf <:+: line) (h : chunkSize line = .ok data.length)
    (h0 : data ≠ []) (hb : pre.length + line.length < 2 ^ 63)
    (hsize : pre.length + line.length + 2 + data.length + 2 < 2 ^ 64) :
    decodeFromPos (pre ++ (line ++ crlf ++ (data ++ crlf ++ rest))) pre.length out =
      decodeFromPos (pre ++ (line ++ crlf ++ (data ++ crlf)) ++ rest) (pre ++ (line ++ crlf ++ (data ++ crlf))).length
        (out ++ data) := by
  have hne : data.length ≠ 0 := by simpa using h0
  have hnext : (pre ++ (line ++ crlf ++ (data ++ crlf))).length = pre.length + line.length + 2 + data.length + 2 := by
    simp [crlf]; omega
  have hdata : sliceRange (pre ++ (line ++ crlf ++ (data ++ crlf ++ rest))) (pre.length + line.length + 2)
      (pre.length + line.length + 2 + data.length) = .ok data :=
    sliceRange_append (l := pre ++ (line ++ crlf)) (n := crlf ++ rest) (by simp) (by simp [crlf]; omega) rfl
  have hget : sliceGet (pre ++ (line ++ crlf ++ (data ++ crlf ++ rest))) (pre.length + line.length + 2 + data.length)
      (pre.length + line.length + 2 + data.length + 2) = some crlf :=
    sliceGet_append (l := pre ++ (line ++ crlf ++ data)) (n := rest) (by simp) (by simp [crlf]; omega) rfl
  rw [decodeFromPos_eq, chunkStep_line hl hb, h, hnext]
  simp only [hdata, hget, if_neg hne, if_neg (Nat.not_le.2 hsize), Checked.ok_bind]
  rw [if_neg (by simp [crlf]; omega)]
  simp only [List.append_assoc]
  rfl

theorem decodeFromPos_truncated {n : Nat} (hl : ¬ crlf <:+: line) (h : chunkSize line = .ok n) (h0 : n ≠ 0)
    (hrest : ∀ data rest', rest = data ++ crlf ++ rest' → data.length ≠ n)
    (hb : pre.length + line.length < 2 ^ 63) (hsize : pre.length + line.length + 2 + n + 2 < 2 ^ 64) :
    ∃ e, decodeFromPos (pre ++ (line ++ crlf ++ rest)) pre.length out = .err e := by
  rw [decodeFromPos_eq, chunkStep_line hl hb, h]
  simp only [if_neg h0, if_neg (Nat.not_le.2 hsize)]
  split
  · exact ⟨_, rfl⟩
  rename_i hlen
  obtain ⟨data, two, rest, rfl, rfl, htwo⟩ :
      ∃ data two rest', rest = data ++ two ++ rest' ∧ data.length = n ∧ two.length = 2 := by
    refine ⟨rest.take n, (rest.drop n).take 2, rest.drop (n + 2), ?_, ?_, ?_⟩
    · rw [List.append_assoc, ← List.drop_drop, List.take_append_drop, List.take_append_drop]
    all_goals simp [crlf] at hlen ⊢; omega
  have hdata : sliceRange (pre ++ (line ++ crlf ++ (data ++ two ++ rest))) (pre.length + line.length + 2)
      (pre.length + line.length + 2 + data.length) = .ok data :=
    sliceRange_append (l := pre ++ (line ++ crlf)) (n := two ++ rest) (by simp) (by simp [crlf]; omega) rfl
  have hget : sliceGet (pre ++ (line ++ crlf ++ (data ++ two ++ rest))) (pre.length + line.length + 2 + data.length)
      (pre.length + line.length + 2 + data.length + 2) = some two :=
    sliceGet_append (l := pre ++ (line ++ crlf ++ data)) (n := rest) (by simp) (by simp [crlf]; omega) (by omega)
  have hne : some two ≠ some crlf := fun h => hrest data rest (by rw [Option.some.inj h]) rfl
  simp only [hdata, hget, Checked.ok_bind, if_pos hne]
  exact ⟨_, rfl⟩

/-- The input ends before the CRLF behind the data. -/
theorem decodeFromPos_cut {n : Nat} (hl : ¬ crlf <:+: line) (h : chunkSize line = .ok n) (h0 : n ≠ 0)
    (hrest : rest.length < n + 2) (hb : pre.length + line.length < 2 ^ 63)
    (hsize : pre.length + line.length + 2 + n + 2 < 2 ^ 64) :
    decodeFromPos (pre ++ (line ++ crlf ++ rest)) pre.length out = .err (invalidData "truncated chunk data") := by
  rw [decodeFromPos_eq, chunkStep_line hl hb, h]
  simp only [if_neg h0, if_neg (Nat.not_le.2 hsize)]
  rw [if_pos (by simp [crlf]; omega)]
  rfl

end Decoding

/-! ### Where the decoder's additions overflow -/

/-- `Chunks bytes data`: the bytes are whole chunks, none of them the last one, that carry `data`. -/
inductive Chunks : List UInt8 → List UInt8 → Prop
  | nil : Chunks [] []
  | cons {line data bytes out : List UInt8} (hl : ¬ crlf <:+: line) (hsize : chunkSize line = .ok data.length)
      (hdata : data ≠ []) (h : Chunks bytes out) : Chunks (line ++ crlf ++ (data ++ crlf ++ bytes)) (data ++ out)

/-- Behind `k` bytes of the body, every chunk-size line that follows whole chunks states a size that, with the
position of its data and the CRLF after the data, stays below `2^64` (or is zero). -/
def Sized (k : Nat) (bytes : List UInt8) : Prop :=
  ∀ pre data line rest n, bytes = pre ++ (line ++ crlf ++ rest) → Chunks pre data → ¬ crlf <:+: line →
    chunkSize line = .ok n → n = 0 ∨ k + pre.length + line.length + 2 + n + 2 < 2 ^ 64

/-- `Sized`, one line at a time. -/
theorem sized_line {k : Nat} {line rest : List UInt8} (hl : ¬ crlf <:+: line) :
    Sized k (line ++ crlf ++ rest) ↔ ∀ n, chunkSize line = .ok n → n ≠ 0 →
      k + line.length + 2 + n + 2 < 2 ^ 64 ∧
        ∀ data rest', rest = data ++ crlf ++ rest' → data.length = n →
          Sized (k + line.length + 2 + n + 2) rest' := by
  constructor
  · intro h n hn h0
    refine ⟨?_, ?_⟩
    · simpa [h0] using h [] [] line rest n rfl .nil hl hn
    · rintro data rest' rfl hdata pre out line' post m rfl hpre hl' hm
      have hne : data ≠ [] := by rintro rfl; exact h0 hdata.symm
      have := h _ _ line' post m (by simp) (.cons hl (hdata ▸ hn) hne hpre) hl' hm
      simp [crlf, hdata] at this
      omega
  · intro h pre out line' post n heq hpre hl' hn
    cases hpre with
    | nil =>
      obtain ⟨rfl, -⟩ := line_unique hl hl' heq
      by_cases h0 : n = 0
      · exact .inl h0
      · exact .inr (h n hn h0).1
    | @cons line₁ data bytes out hl₁ hsize hdata hbytes =>
      have heq' : line ++ crlf ++ rest = line₁ ++ crlf ++ (data ++ crlf ++ bytes ++ (line' ++ crlf ++ post)) := by
        simpa using heq
      obtain ⟨rfl, hrest⟩ := line_unique hl hl₁ heq'
      have hlen : data.length ≠ 0 := by simpa using hdata
      have := (h _ hsize hlen).2 data (bytes ++ (line' ++ crlf ++ post)) (by simpa using hrest) rfl
        bytes out line' post n rfl hbytes hl' hn
      simp [crlf]
      omega

theorem sized_of_append {k : Nat} {bytes m : List UInt8} (h : Sized k (bytes ++ m)) : Sized k bytes := by
  rintro pre data line rest n rfl
  exact h pre data line (rest ++ m) n (by simp)

private theorem sized_of_no_line {k : Nat} {bytes : List UInt8} (h : windowPosition crlf bytes = none) :
    Sized k bytes := by
  rintro pre _ line rest n rfl - - -
  have hin : crlf <:+: pre ++ (line ++ crlf ++ rest) := ⟨pre ++ line, rest, by simp⟩
  obtain ⟨i, hi⟩ := windowPosition_isSome (by simp [crlf]) hin
  exact nomatch h.symm.trans hi

/-- From a position behind `pre` the decoder panics exactly when a size overflows. -/
theorem decodeFromPos_ne_panic {pre bytes out : List UInt8} (hb : (pre ++ bytes).length < 2 ^ 63) :
    decodeFromPos (pre ++ bytes) pre.length out ≠ .panic ↔ Sized pre.length bytes := by
  induction hn : bytes.length using Nat.strong_induction_on generalizing pre bytes out with
  | _ n ih =>
    subst hn
    cases chunkView bytes with
    | noLine h => simp [decodeFromPos_noLine h, sized_of_no_line h]
    | badSize hl h rest =>
      rw [sized_line hl, decodeFromPos_badSize hl h (by simp at hb; omega)]
      simp [h]
    | last hl h rest =>
      rw [sized_line hl, decodeFromPos_last hl h (by simp at hb; omega)]
      simp [h]
    | @truncated line rest size hl h h0 hrest =>
      have hpl : pre.length + line.length < 2 ^ 63 := by simp at hb; omega
      rw [sized_line hl]
      simp only [h, Except.ok.injEq, forall_eq']
      by_cases hover : 2 ^ 64 ≤ pre.length + line.length + 2 + size + 2
      · rw [decodeFromPos_overflow hl h h0 hpl hover]
        exact iff_of_false (fun h => h rfl) fun h => Nat.not_lt.2 hover (h h0).1
      · obtain ⟨e, he⟩ : ∃ e, decodeFromPos (pre ++ (line ++ crlf ++ rest)) pre.length out = .err e :=
          decodeFromPos_truncated hl h h0 hrest hpl (by omega)
        rw [he]
        exact iff_of_true (by simp) fun _ => ⟨by omega, fun data rest' h' hd => absurd hd (hrest data rest' h')⟩
    | @chunk line data hl h h0 rest =>
      have hpl : pre.length + line.length < 2 ^ 63 := by simp at hb; omega
      have hne : data.length ≠ 0 := by simpa using h0
      rw [sized_line hl]
      simp only [h, Except.ok.injEq, forall_eq']
      by_cases hover : 2 ^ 64 ≤ pre.length + line.length + 2 + data.length + 2
      · rw [decodeFromPos_overflow hl h hne hpl hover]
        exact iff_of_false (fun h => h rfl) fun h => Nat.not_lt.2 hover (h hne).1
      · rw [decodeFromPos_chunk hl h h0 hpl (by omega), ih rest.length (by simp [crlf]; omega) (by simpa using hb) rfl]
        have hpos : (pre ++ (line ++ crlf ++ (data ++ crlf))).length =
            pre.length + line.length + 2 + data.length + 2 := by simp [crlf]; omega
        rw [hpos]
        refine ⟨fun h _ => ⟨by omega, ?_⟩, fun h => (h hne).2 data rest rfl rfl⟩
        rintro data' rest' heq hdata'
        rw [List.append_assoc, List.append_assoc] at heq
        obtain ⟨-, h'⟩ := List.append_inj heq hdata'.symm
        rwa [← List.append_cancel_left h']

/-- More input behind a body that the decoder has not refused changes nothing. -/
theorem decodeFromPos_append {pre bytes out : List UInt8} (hb : (pre ++ bytes).length < 2 ^ 63)
    (h : ∀ e, decodeFromPos (pre ++ bytes) pre.length out ≠ .err e) (m : List UInt8) :
    decodeFromPos (pre ++ (bytes ++ m)) pre.length out = decodeFromPos (pre ++ bytes) pre.length out := by
  induction hn : bytes.length using Nat.strong_induction_on generalizing pre bytes out with
  | _ n ih =>
    subst hn
    cases chunkView bytes with
    | noLine hw => exact absurd (decodeFromPos_noLine hw) (h _)
    | badSize hl hs rest => exact absurd (decodeFromPos_badSize hl hs (by simp at hb; omega)) (h _)
    | @last line hl hs rest =>
      have hpl : pre.length + line.length < 2 ^ 63 := by simp at hb; omega
      rw [List.append_assoc _ rest m, decodeFromPos_last hl hs hpl, decodeFromPos_last hl hs hpl]
    | @truncated line rest size hl hs h0 hrest =>
      have hpl : pre.length + line.length < 2 ^ 63 := by simp at hb; omega
      by_cases hover : 2 ^ 64 ≤ pre.length + line.length + 2 + size + 2
      · rw [List.append_assoc _ rest m, decodeFromPos_overflow hl hs h0 hpl hover,
          decodeFromPos_overflow hl hs h0 hpl hover]
      · obtain ⟨e, he⟩ : ∃ e, decodeFromPos (pre ++ (line ++ crlf ++ rest)) pre.length out = .err e :=
          decodeFromPos_truncated hl hs h0 hrest hpl (by omega)
        exact absurd he (h e)
    | @chunk line data hl hs h0 rest =>
      have hpl : pre.length + line.length < 2 ^ 63 := by simp at hb; omega
      have hne : data.length ≠ 0 := by simpa using h0
      have happ : line ++ crlf ++ (data ++ crlf ++ rest) ++ m = line ++ crlf ++ (data ++ crlf ++ (rest ++ m)) := by
        simp only [List.append_assoc]
      by_cases hover : 2 ^ 64 ≤ pre.length + line.length + 2 + data.length + 2
      · rw [decodeFromPos_overflow hl hs hne hpl hover, List.append_assoc _ _ m,
          decodeFromPos_overflow hl hs hne hpl hover]
      · rw [decodeFromPos_chunk hl hs h0 hpl (by omega)] at h
        rw [happ, decodeFromPos_chunk hl hs h0 hpl (by omega), decodeFromPos_chunk hl hs h0 hpl (by omega)]
        exact ih rest.length (by simp [crlf]; omega) (by simpa using hb) h rfl

/-- When `http_message_complete` runs the chunked decoder. -/
def DecodesChunks (buf : List UInt8) (start : Nat) : Prop :=
  locateBody buf = .ok start ∧ parseContentLength (buf.take start) = none ∧ isChunked (buf.take start) = true

theorem locateBody_le {buf : List UInt8} {start : Nat} (h : locateBody buf = .ok start) : start ≤ buf.length := by
  unfold locateBody at h
  split at h
  · rename_i i hi
    obtain ⟨rest, hsplit, hlen⟩ := windowPosition_split hi
    have := congrArg List.length hsplit
    simp at h this hlen
    omega
  · exact nomatch h

theorem sliceRange_zero {l : List UInt8} {n : Nat} (h : n ≤ l.length) : sliceRange l 0 n = .ok (l.take n) := by
  simp [sliceRange, h]

theorem decodeChunked_ne_panic (body : Slice) : decodeChunked body.1 ≠ .panic ↔ Sized 0 body.1 :=
  @decodeFromPos_ne_panic [] body.1 [] body.2

/-- The branches of `http_message_complete` once the header block is there. -/
theorem httpMessageComplete_located {buf : List UInt8} {start : Nat} (h : locateBody buf = .ok start) :
    httpMessageComplete buf =
      match parseContentLength (buf.take start) with
      | some len => .ok (len ≤ (buf.drop start).length)
      | none =>
        if isChunked (buf.take start) then
          match decodeChunked (buf.drop start) with
          | .ok _ => .ok true
          | .err _ => .ok false
          | .panic => .panic
        else .ok false := by
  have hle := locateBody_le h
  simp only [httpMessageComplete, h, sliceRange_zero hle, sliceFrom, if_pos hle, Checked.ok_bind]
  rfl

private theorem httpMessageComplete_returns (buf : Slice) :
    (∃ b, httpMessageComplete buf.1 = .ok b) ↔
      ∀ start, DecodesChunks buf.1 start → Sized 0 (buf.1.drop start) := by
  cases hl : locateBody buf.1 with
  | error e => simp [httpMessageComplete, DecodesChunks, hl]
  | ok start =>
    have hbody : (buf.1.drop start).length < 2 ^ 63 := by
      have := buf.2
      simp
      omega
    have hdec := decodeChunked_ne_panic ⟨_, hbody⟩
    rw [httpMessageComplete_located hl]
    simp only [DecodesChunks, hl, Except.ok.injEq, and_imp, forall_eq']
    cases parseContentLength (buf.1.take start) with
    | some len => simp
    | none =>
      by_cases hc : isChunked (buf.1.take start) = true
      · simp only [hc, if_true, forall_const]
        rw [← hdec]
        cases decodeChunked (buf.1.drop start) <;> simp
      · simp [hc]

/-! ### More input behind a response -/

private theorem decodeChunked_append (body : Slice) (h : ∀ e, decodeChunked body.1 ≠ .err e) (m : List UInt8) :
    decodeChunked (body.1 ++ m) = decodeChunked body.1 :=
  @decodeFromPos_append [] body.1 [] body.2 h m

theorem locateBody_append {buf : List UInt8} {start : Nat} (h : locateBody buf = .ok start) (m : List UInt8) :
    locateBody (buf ++ m) = .ok start := by
  unfold locateBody at h ⊢
  cases hw : windowPosition [13, 10, 13, 10] buf with
  | none => simp [hw] at h
  | some i =>
    rw [windowPosition_append hw]
    rwa [hw] at h

/-- Once a response is complete, or its chunked body has made the decoder panic, it stays so. -/
theorem httpMessageComplete_append (buf : Slice) (h : httpMessageComplete buf.1 ≠ .ok false) (m : List UInt8) :
    httpMessageComplete (buf.1 ++ m) = httpMessageComplete buf.1 := by
  cases hl : locateBody buf.1 with
  | error e => simp [httpMessageComplete, hl] at h
  | ok start =>
    have hle := locateBody_le hl
    have hbody : (buf.1.drop start).length < 2 ^ 63 := by
      have := buf.2
      simp
      omega
    rw [httpMessageComplete_located hl] at h
    rw [httpMessageComplete_located hl, httpMessageComplete_located (locateBody_append hl m),
      List.take_append_of_le_length hle, List.drop_append_of_le_length hle]
    cases hlen : parseContentLength (buf.1.take start) with
    | some len =>
      simp only [hlen, ne_eq, Checked.ok.injEq, decide_eq_false_iff_not, not_not] at h
      have : len ≤ (buf.1.drop start ++ m).length := by rw [List.length_append]; omega
      simp only [decide_eq_true h, decide_eq_true this]
    | none =>
      by_cases hc : isChunked (buf.1.take start) = true
      · simp only [hlen, hc, if_true] at h ⊢
        rw [decodeChunked_append ⟨_, hbody⟩ (fun e he => ?_) m]
        simp only at he
        rw [he] at h
        exact h rfl
      · simp [hlen, hc] at h

/-- The status line is read up to the first carriage return, which a located header block contains. -/
theorem parseStatus_append {buf : List UInt8} (h : 13 ∈ buf) (m : List UInt8) :
    parseStatus (buf ++ m) = parseStatus buf := by
  have htake : (buf ++ m).takeWhile (· ≠ 13) = buf.takeWhile (· ≠ 13) := by
    induction buf with
    | nil => simp at h
    | cons a buf ih =>
      by_cases ha : a = 13
      · simp [ha]
      · have := ih ((List.mem_cons.1 h).resolve_left (Ne.symm ha))
        simp only [List.cons_append, List.takeWhile_cons, decide_eq_true ha, if_true, this]
  rw [parseStatus, htake, parseStatus]

theorem cr_mem_of_locateBody {buf : List UInt8} {start : Nat} (h : locateBody buf = .ok start) : 13 ∈ buf := by
  unfold locateBody at h
  cases hw : windowPosition [13, 10, 13, 10] buf with
  | none => simp [hw] at h
  | some i =>
    obtain ⟨rest, hsplit, -⟩ := windowPosition_split hw
    rw [hsplit]
    simp

/-! ### Totality on device input -/

/-- On every byte slice: the chunked decoder returns exactly when no chunk size overflows, and
`http_message_complete` returns exactly when the body it decodes, if any, is such a body. -/
theorem chunked_total (body buf : Slice) :
    (decodeChunked body.1 ≠ .panic ↔ Sized 0 body.1) ∧
      ((∃ b, httpMessageComplete buf.1 = .ok b) ↔
        ∀ start, DecodesChunks buf.1 start → Sized 0 (buf.1.drop start)) :=
  ⟨decodeChunked_ne_panic body, httpMessageComplete_returns buf⟩

private def overflowingBody : List UInt8 := utf8Bytes "ffffffffffffffff\r\n"

private def chunkedHeader : List UInt8 := utf8Bytes "HTTP/1.1 200 OK\r\nTransfer-Encoding: chunked\r\n\r\n"

/-- A device that announces a chunk of `2^64 - 1` bytes. -/
theorem chunked_total_fails_at_max_size :
    decodeChunked (utf8Bytes "ffffffffffffffff\r\n") = .panic ∧
      httpMessageComplete (utf8Bytes "HTTP/1.1 200 OK\r\nTransfer-Encoding: chunked\r\n\r\n" ++
        utf8Bytes "ffffffffffffffff\r\n") = .panic := by
  have hdec : decodeChunked overflowingBody = .panic := by
    have hstep : chunkStep overflowingBody 0 [] = .panic := by decide +kernel
    rw [decodeChunked, decodeFromPos_eq, hstep]
    rfl
  refine ⟨hdec, ?_⟩
  have hl : locateBody (chunkedHeader ++ overflowingBody) = .ok 47 := by decide +kernel
  have hdrop : (chunkedHeader ++ overflowingBody).drop 47 = overflowingBody := by decide +kernel
  have hlen : parseContentLength ((chunkedHeader ++ overflowingBody).take 47) = none := by decide +kernel
  have hchunked : isChunked ((chunkedHeader ++ overflowingBody).take 47) = true := by decide +kernel
  have h := httpMessageComplete_located hl
  rw [hlen, hchunked, hdrop, hdec] at h
  exact h

end WirelessProgrammer
