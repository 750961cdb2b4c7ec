import WirelessProgrammer.Http.Message

/-!
# Chunked bodies

What `decode_chunked` is the inverse of: chunks behind lines that spell their sizes, up to a line that spells zero.  The
decoder gives back the payload of such a body whatever comes behind it, and fails on every part of it that stops short
(`chunked_inverts`).
-/

namespace WirelessProgrammer

open Text

/-! ### Whole bodies -/

/-- `WholeBody bytes payload`: chunks that carry the payload, and the line of size zero that ends them. -/
inductive WholeBody : List UInt8 → List UInt8 → Prop
  | last {line : List UInt8} (hl : ¬ crlf <:+: line) (hsize : chunkSize line = .ok 0) : WholeBody (line ++ crlf) []
  | chunk {line data bytes payload : List UInt8} (hl : ¬ crlf <:+: line) (hsize : chunkSize line = .ok data.length)
      (hdata : data ≠ []) (h : WholeBody bytes payload) :
      WholeBody (line ++ crlf ++ (data ++ crlf ++ bytes)) (data ++ payload)

theorem prefix_append_cases {p l m : List UInt8} (h : p <+: l ++ m) :
    (p <+: l ∧ p ≠ l) ∨ ∃ q, p = l ++ q ∧ q <+: m := by
  rcases List.prefix_or_prefix_of_prefix h (List.prefix_append l m) with hshort | ⟨q, rfl⟩
  · by_cases heq : p = l
    · exact .inr ⟨[], by rw [heq, List.append_nil], List.nil_prefix⟩
    · exact .inl ⟨hshort, heq⟩
  · exact .inr ⟨q, rfl, (List.prefix_append_right_inj l).1 h⟩

/-- The part of a line that stops short of its CRLF has none. -/
private theorem windowPosition_short {line p : List UInt8} (hl : ¬ crlf <:+: line) (hp : p <+: line ++ crlf)
    (hne : p ≠ line ++ crlf) : windowPosition crlf p = none := by
  cases hw : windowPosition crlf p with
  | none => rfl
  | some i =>
    obtain ⟨line', rest, rfl, -, hl'⟩ := exists_line hw
    obtain ⟨m, hm⟩ := hp
    have heq : line' ++ crlf ++ (rest ++ m) = line ++ crlf ++ [] := by rw [← List.append_assoc, hm, List.append_nil]
    obtain ⟨rfl, hnil⟩ := line_unique hl' hl heq
    rw [(List.append_eq_nil_iff.1 hnil).1, List.append_nil] at hne
    exact absurd rfl hne

namespace WholeBody

variable {bytes payload pre out : List UInt8}

/-- Behind `pre` the decoder stops at the end of the body. -/
theorem decodeFromPos (h : WholeBody bytes payload) (rest : List UInt8) (hb : (pre ++ bytes).length < 2 ^ 63) :
    WirelessProgrammer.decodeFromPos (pre ++ (bytes ++ rest)) pre.length out = .ok (out ++ payload) := by
  induction h generalizing pre out with
  | @last line hl hsize => rw [decodeFromPos_last hl hsize (by simp at hb; omega), List.append_nil]
  | @chunk line data bytes payload hl hsize hdata h ih =>
    have happ : line ++ crlf ++ (data ++ crlf ++ bytes) ++ rest = line ++ crlf ++ (data ++ crlf ++ (bytes ++ rest)) := by
      simp only [List.append_assoc]
    have hlen : (pre ++ (line ++ crlf ++ (data ++ crlf)) ++ bytes).length < 2 ^ 63 := by
      simpa [List.append_assoc] using hb
    simp only [List.length_append] at hb
    rw [happ, decodeFromPos_chunk hl hsize hdata (by omega) (by simp [crlf] at hb; omega), ih hlen, List.append_assoc]

/-- A part of the body that stops short is refused, inside a line or inside a chunk. -/
theorem decodeFromPos_short (h : WholeBody bytes payload) {p : List UInt8} (hp : p <+: bytes) (hne : p ≠ bytes)
    (hb : (pre ++ bytes).length < 2 ^ 63) :
    ∃ message ∈ ["truncated chunk size", "truncated chunk data"],
      WirelessProgrammer.decodeFromPos (pre ++ p) pre.length out = .err (invalidData message) := by
  induction h generalizing p pre out with
  | last hl hsize => exact ⟨_, List.mem_cons_self .., decodeFromPos_noLine (windowPosition_short hl hp hne)⟩
  | @chunk line data bytes payload hl hsize hdata h ih =>
    have hlen : (pre ++ (line ++ crlf ++ (data ++ crlf)) ++ bytes).length < 2 ^ 63 := by
      simpa [List.append_assoc] using hb
    have hsum : pre.length + line.length + 2 + data.length + 2 < 2 ^ 63 := by
      simp [crlf] at hb
      omega
    rcases prefix_append_cases hp with ⟨hshort, hne'⟩ | ⟨q, rfl, hq⟩
    · exact ⟨_, List.mem_cons_self .., decodeFromPos_noLine (windowPosition_short hl hshort hne')⟩
    rcases prefix_append_cases hq with ⟨hshort, hne'⟩ | ⟨p', rfl, hp'⟩
    · have hlt : q.length < (data ++ crlf).length := by
        by_contra hge
        exact hne' (hshort.eq_of_length_le (Nat.not_lt.1 hge))
      rw [List.length_append] at hlt
      refine ⟨_, List.mem_cons_of_mem _ (List.mem_cons_self ..), ?_⟩
      exact decodeFromPos_cut hl hsize (fun h0 => hdata (List.length_eq_zero_iff.1 h0)) hlt (by omega) (by omega)
    · -- the chunk is there, so what stops short is the rest of the body
      rw [decodeFromPos_chunk hl hsize hdata (by omega) (by omega)]
      exact ih hp' (fun heq => hne (by rw [heq])) hlen

/-- What the decoder accepts is a whole body, with something behind it or not. -/
theorem of_decodeFromPos {res : List UInt8} (hb : (pre ++ bytes).length < 2 ^ 63)
    (h : WirelessProgrammer.decodeFromPos (pre ++ bytes) pre.length out = .ok res) :
    ∃ body rest payload, bytes = body ++ rest ∧ WholeBody body payload ∧ res = out ++ payload := by
  induction hn : bytes.length using Nat.strong_induction_on generalizing pre bytes out with
  | _ n ih =>
    subst hn
    have hpl : ∀ {line rest : List UInt8}, bytes = line ++ crlf ++ rest → pre.length + line.length < 2 ^ 63 := by
      rintro line rest rfl
      simp at hb
      omega
    cases chunkView bytes with
    | noLine hw =>
      rw [decodeFromPos_noLine hw] at h
      cases h
    | badSize hl hs rest =>
      rw [decodeFromPos_badSize hl hs (hpl rfl)] at h
      cases h
    | @last line hl hs rest =>
      rw [decodeFromPos_last hl hs (hpl rfl)] at h
      exact ⟨line ++ crlf, rest, [], rfl, .last hl hs, by rw [List.append_nil, Checked.ok.inj h]⟩
    | @truncated line rest size hl hs h0 hrest =>
      by_cases hover : 2 ^ 64 ≤ pre.length + line.length + 2 + size + 2
      · rw [decodeFromPos_overflow hl hs h0 (hpl rfl) hover] at h
        cases h
      · obtain ⟨e, he⟩ : ∃ e, WirelessProgrammer.decodeFromPos (pre ++ (line ++ crlf ++ rest)) pre.length out = .err e :=
          decodeFromPos_truncated hl hs h0 hrest (hpl rfl) (by omega)
        rw [he] at h
        cases h
    | @chunk line data hl hs h0 rest =>
      have hsum : pre.length + line.length + 2 + data.length + 2 < 2 ^ 63 := by
        simp [crlf] at hb
        omega
      rw [decodeFromPos_chunk hl hs h0 (hpl rfl) (by omega)] at h
      obtain ⟨body, rest', payload, rfl, hbody, rfl⟩ := ih rest.length (by simp [crlf]; omega) (by simpa using hb) h rfl
      refine ⟨line ++ crlf ++ (data ++ crlf ++ body), rest', data ++ payload, ?_, .chunk hl hs h0 hbody, ?_⟩
      · simp only [List.append_assoc]
      · rw [List.append_assoc]

theorem length_le (h : WholeBody bytes payload) : payload.length ≤ bytes.length := by
  induction h with
  | last hl hsize => exact Nat.zero_le _
  | chunk hl hsize hdata h ih =>
    simp only [List.length_append]
    omega

theorem decodes (h : WholeBody bytes payload) (rest : List UInt8) (hb : bytes.length < 2 ^ 63) :
    decodeChunked (bytes ++ rest) = .ok payload := @decodeFromPos _ _ [] [] h rest hb

theorem refuses_short (h : WholeBody bytes payload) {p : List UInt8} (hp : p <+: bytes) (hne : p ≠ bytes)
    (hb : bytes.length < 2 ^ 63) :
    ∃ message ∈ ["truncated chunk size", "truncated chunk data"], decodeChunked p = .err (invalidData message) :=
  @decodeFromPos_short _ _ [] [] h p hp hne hb

end WholeBody

/-- The decoder accepts exactly the whole bodies, whatever comes behind them. -/
theorem decodeChunked_eq_ok_iff {body payload : List UInt8} (hb : body.length < 2 ^ 63) :
    decodeChunked body = .ok payload ↔ ∃ bytes rest, body = bytes ++ rest ∧ WholeBody bytes payload := by
  constructor
  · intro h
    obtain ⟨bytes, rest, payload, rfl, hwhole, rfl⟩ := @WholeBody.of_decodeFromPos body [] [] payload hb h
    exact ⟨bytes, rest, rfl, hwhole⟩
  · rintro ⟨bytes, rest, rfl, hwhole⟩
    rw [List.length_append] at hb
    exact hwhole.decodes rest (by omega)

/-! ### Spelled sizes -/

/-- The value of a hexadecimal digit, of either case. -/
def hexDigit (b : UInt8) : Option Nat :=
  if 48 ≤ b ∧ b ≤ 57 then some (b.toNat - 48)
  else if 65 ≤ b ∧ b ≤ 70 then some (b.toNat - 55)
  else if 97 ≤ b ∧ b ≤ 102 then some (b.toNat - 87)
  else none

def hexNumber (digits : List UInt8) : Nat := digits.foldl (fun n b => n * 16 + (hexDigit b).getD 0) 0

/-- A chunk-size line for `n`: digits of either case, zeros in front as they like, and an extension without a CRLF. -/
structure SizeLine (n : Nat) where
  digits : List UInt8
  ext : Option (List UInt8)
  digits_ne : digits ≠ []
  hex : ∀ b ∈ digits, (hexDigit b).isSome = true
  value : hexNumber digits = n
  ext_line : ∀ e, ext = some e → ¬ crlf <:+: e

/-- The bytes of an extension, behind its semicolon. -/
def extBytes (ext : Option (List UInt8)) : List UInt8 := ext.elim [] (59 :: ·)

def SizeLine.bytes {n : Nat} (line : SizeLine n) : List UInt8 := line.digits ++ extBytes line.ext

private theorem hexDigit_facts {b : UInt8} (h : (hexDigit b).isSome = true) :
    b.toNat < 128 ∧ b ≠ 13 ∧ b ≠ 59 ∧ isWhitespace (Char.ofNat b.toNat) = false ∧
      toDigit 16 (Char.ofNat b.toNat) = hexDigit b := by
  have hall : ∀ i : Fin 256, (hexDigit (UInt8.ofNat i)).isSome = true → (UInt8.ofNat i).toNat < 128 ∧
      UInt8.ofNat i ≠ 13 ∧ UInt8.ofNat i ≠ 59 ∧ isWhitespace (Char.ofNat (UInt8.ofNat i).toNat) = false ∧
      toDigit 16 (Char.ofNat (UInt8.ofNat i).toNat) = hexDigit (UInt8.ofNat i) := by decide +kernel
  have hb := hall ⟨b.toNat, b.toNat_lt⟩
  simp only [UInt8.ofNat_toNat] at hb
  exact hb h

/-- Bytes below 128 are the text of their code points. -/
private theorem fromUtf8_ascii {l : List UInt8} (h : ∀ b ∈ l, b.toNat < 128) :
    fromUtf8 l = .ok (l.map fun b => Char.ofNat b.toNat) := by
  have hchar : ∀ b ∈ l, (Char.ofNat b.toNat).toNat = b.toNat := by
    intro b hb
    have hvalid : b.toNat.isValidChar := .inl (Nat.lt_trans (h b hb) (by decide))
    rw [Char.ofNat, dif_pos hvalid]
    rfl
  have hbytes : utf8Bytes (String.ofList (l.map fun b => Char.ofNat b.toNat)) = l := by
    rw [utf8Bytes, String.toList_ofList, flatMap_utf8EncodeChar, List.map_map]
    · conv => rhs; rw [← List.map_id l]
      refine List.map_congr_left fun b hb => ?_
      simp [hchar b hb]
    · intro c hc
      obtain ⟨b, hb, rfl⟩ := List.mem_map.1 hc
      rw [hchar b hb]
      exact h b hb
  have hdecode := fromUtf8_utf8Bytes (String.ofList (l.map fun b => Char.ofNat b.toNat))
  rwa [hbytes, String.toList_ofList] at hdecode

/-- Bytes without a carriage return do not start a CRLF. -/
private theorem crlf_infix_append {l m : List UInt8} (hl : 13 ∉ l) (h : crlf <:+: l ++ m) : crlf <:+: m := by
  induction l with
  | nil => exact h
  | cons b l ih =>
    rcases List.infix_cons_iff.1 h with hpre | hin
    · obtain ⟨rfl, -⟩ := List.cons_prefix_cons.1 hpre
      exact absurd (List.mem_cons_self ..) hl
    · exact ih (fun hmem => hl (List.mem_cons_of_mem _ hmem)) hin

namespace SizeLine

variable {n : Nat} (line : SizeLine n)

private theorem no_crlf : ¬ crlf <:+: line.bytes := by
  intro h
  have hdigits : 13 ∉ line.digits := fun hmem => (hexDigit_facts (line.hex 13 hmem)).2.1 rfl
  have hext := crlf_infix_append hdigits h
  cases hx : line.ext with
  | none =>
    rw [hx] at hext
    exact absurd (List.infix_nil.1 hext) (List.cons_ne_nil _ _)
  | some e =>
    rw [hx] at hext
    exact line.ext_line e hx (crlf_infix_append (l := [59]) (by decide) hext)

/-- The decoder reads the size that the line spells. -/
theorem chunkSize_bytes (hn : n < 2 ^ 64) : chunkSize line.bytes = .ok n := by
  have htake : line.bytes.takeWhile (· ≠ 59) = line.digits := by
    have hall : ∀ b ∈ line.digits, decide (b ≠ 59) = true := fun b hb =>
      decide_eq_true (hexDigit_facts (line.hex b hb)).2.2.1
    rw [bytes, List.takeWhile_append_of_pos hall]
    cases line.ext with
    | none => exact List.append_nil _
    | some e =>
      rw [extBytes, Option.elim_some, List.takeWhile_cons_of_neg (by decide), List.append_nil]
  have hvalue : ofDigits 16 0 (line.digits.map fun b => Char.ofNat b.toNat) = n := by
    refine Eq.trans ?_ line.value
    rw [ofDigits, hexNumber, List.foldl_map]
    refine List.foldl_ext _ _ _ fun m b hb => ?_
    rw [(hexDigit_facts (line.hex b hb)).2.2.2.2]
  have hparse : parseUnsigned 16 64 (line.digits.map fun b => Char.ofNat b.toNat) = .ok n := by
    rw [parseUnsigned_ofDigits (by decide), hvalue]
    · exact fun h => line.digits_ne (List.map_eq_nil_iff.1 h)
    · intro c hc
      obtain ⟨b, hb, rfl⟩ := List.mem_map.1 hc
      rw [(hexDigit_facts (line.hex b hb)).2.2.2.2]
      exact line.hex b hb
    · rwa [hvalue]
  have htrim : trim (line.digits.map fun b => Char.ofNat b.toNat) = line.digits.map fun b => Char.ofNat b.toNat := by
    refine trim_eq_self fun c hc => ?_
    obtain ⟨b, hb, rfl⟩ := List.mem_map.1 hc
    exact (hexDigit_facts (line.hex b hb)).2.2.2.1
  unfold chunkSize
  rw [htake, fromUtf8_ascii fun b hb => (hexDigit_facts (line.hex b hb)).1]
  simp only [htrim, hparse]

end SizeLine

/-! ### Encoded messages -/

structure Chunk where
  data : List UInt8
  data_ne : data ≠ []
  line : SizeLine data.length

def Chunk.bytes (c : Chunk) : List UInt8 := c.line.bytes ++ crlf ++ (c.data ++ crlf)

/-- Chunks with their size lines, and the line of size zero. -/
structure ChunkedMessage where
  chunks : List Chunk
  last : SizeLine 0

namespace ChunkedMessage

/-- The encoding, up to the CRLF of the line of size zero. -/
def encode (m : ChunkedMessage) : List UInt8 := m.chunks.flatMap Chunk.bytes ++ (m.last.bytes ++ crlf)

def payload (m : ChunkedMessage) : List UInt8 := m.chunks.flatMap Chunk.data

private theorem wholeBody (m : ChunkedMessage) (h : m.encode.length < 2 ^ 63) : WholeBody m.encode m.payload := by
  obtain ⟨chunks, last⟩ := m
  induction chunks with
  | nil => exact .last last.no_crlf (last.chunkSize_bytes (by decide))
  | cons c chunks ih =>
    have hsplit : encode ⟨c :: chunks, last⟩ = c.line.bytes ++ crlf ++ (c.data ++ crlf ++ encode ⟨chunks, last⟩) := by
      simp only [encode, Chunk.bytes, List.flatMap_cons, List.append_assoc]
    have hpayload : payload ⟨c :: chunks, last⟩ = c.data ++ payload ⟨chunks, last⟩ := List.flatMap_cons
    rw [hsplit] at h ⊢
    rw [hpayload]
    simp only [List.length_append] at h
    exact .chunk c.line.no_crlf (c.line.chunkSize_bytes (by omega)) c.data_ne (ih (by omega))

end ChunkedMessage

/-- A header block that announces a chunked body and no length. -/
def ChunkedHead (head : List UInt8) : Prop := DecodesChunks head head.length

/-- Behind such a header block the message is complete exactly if the decoder accepts the body. -/
theorem ChunkedHead.complete {head : List UInt8} (h : ChunkedHead head) (body : List UInt8) :
    httpMessageComplete (head ++ body) =
      match decodeChunked body with
      | .ok _ => .ok true
      | .err _ => .ok false
      | .panic => .panic := by
  obtain ⟨hstart, hlen, hchunked⟩ := h
  rw [List.take_length] at hlen hchunked
  rw [httpMessageComplete_located (locateBody_append hstart body), List.take_left, List.drop_left, hlen]
  rcases decodeChunked body with payload | e | _ <;> simp only [hchunked, if_true]

/-- Decoding inverts encoding: the payload comes back whatever follows the line of size zero, no part of the encoding that
stops short of that line's CRLF is accepted, and so a response is complete there and not before. -/
theorem chunked_inverts (m : ChunkedMessage) (hm : m.encode.length < 2 ^ 63) :
    (∀ trailing, decodeChunked (m.encode ++ trailing) = .ok m.payload) ∧
      (∀ p, p <+: m.encode → p ≠ m.encode → ∃ e, decodeChunked p = .err e) ∧
      ∀ head, ChunkedHead head →
        (∀ trailing, httpMessageComplete (head ++ (m.encode ++ trailing)) = .ok true) ∧
        ∀ p, p <+: m.encode → p ≠ m.encode → httpMessageComplete (head ++ p) = .ok false := by
  have hbody := m.wholeBody hm
  refine ⟨fun trailing => hbody.decodes trailing hm, fun p hp hne => ?_, fun head hhead => ⟨?_, ?_⟩⟩
  · obtain ⟨message, -, he⟩ := hbody.refuses_short hp hne hm
    exact ⟨_, he⟩
  · intro trailing
    rw [hhead.complete, hbody.decodes trailing hm]
  · intro p hp hne
    obtain ⟨message, -, he⟩ := hbody.refuses_short hp hne hm
    rw [hhead.complete, he]

private def helloChunk : Chunk where
  data := utf8Bytes "hello\r\n0\r\n"
  data_ne := by decide
  line := ⟨utf8Bytes "00a", some (utf8Bytes "name=\r"), by decide, by decide +kernel, by decide +kernel, by simp; decide⟩

private def helloMessage : ChunkedMessage where
  chunks := [helloChunk]
  last := ⟨utf8Bytes "0", none, by decide, by decide +kernel, by decide +kernel, nofun⟩

/-- A chunk whose data looks like the end, behind a size with zeros and an extension. -/
theorem hello_inverts :
    decodeChunked (utf8Bytes "00a;name=\r\r\nhello\r\n0\r\n\r\n0\r\n" ++ utf8Bytes "rest") =
      .ok (utf8Bytes "hello\r\n0\r\n") := by
  have hencode : helloMessage.encode = utf8Bytes "00a;name=\r\r\nhello\r\n0\r\n\r\n0\r\n" := by decide +kernel
  have hlen : helloMessage.encode.length < 2 ^ 63 := by decide +kernel
  have hpayload : helloMessage.payload = utf8Bytes "hello\r\n0\r\n" := by decide +kernel
  rw [← hencode, ← hpayload]
  exact (chunked_inverts helloMessage hlen).1 (utf8Bytes "rest")

end WirelessProgrammer
