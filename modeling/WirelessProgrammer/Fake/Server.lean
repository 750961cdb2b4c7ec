import WirelessProgrammer.Lib.HeaderBlock
import WirelessProgrammer.Http.Client
import WirelessProgrammer.Fake.Device

/-!
# The server of the fake devices

`wp-fake/src/server.rs`: one connection is one request.  A read gives at most 512 bytes, none of them at the end of the
stream; a list of reads is a finite part of what the socket does, and `Io.running` the result of a connection whose reads
have run out.
What the server makes of a request does not depend on the pieces it is read in (`receive_pieces`).
-/

namespace WirelessProgrammer

open Text

/-- What a read of the server's socket gives. -/
abbrev SocketRead := Except IoError (List UInt8)

/-! ### Reading a request -/

def findHeaderEnd (buf : List UInt8) : Option Nat := windowPosition blankLine buf

/-- What a header line says about the length of the body: a value that is no number counts as none. -/
def declaredLength (line : List Char) : Option Nat :=
  let lower := line.map Char.toLower
  let name := "content-length:".toList
  if name <+: lower then some ((parseUnsigned 10 64 (trim (lower.drop name.length))).toOption.getD 0) else none

def parseRequestLineAndHeaders (header : List Char) : Except IoError (String × String × Nat) :=
  match splitCrlf header with
  | [] => .error (invalidData "empty request")
  | requestLine :: lines =>
    match splitWhitespace requestLine with
    | [] => .error (invalidData "missing method")
    | [_] => .error (invalidData "missing path")
    | method :: path :: _ =>
      -- the last line that names a length counts
      .ok (String.ofList method, String.ofList path, lines.foldl (fun n line => (declaredLength line).getD n) 0)

def headersTooLarge : IoError := invalidData "HTTP headers too large"

/-- Read until the end of the header is there: its position, what has been read, and the reads to come.  A stream that
ends before gives `none`. -/
def readHeader : List SocketRead → List UInt8 → Io (Option (Nat × List UInt8 × List SocketRead))
  | [], _ => .running
  | .error e :: _, _ => .err e
  | .ok [] :: _, _ => .ok none
  | .ok (b :: data) :: reads, buf =>
    let buf := buf ++ b :: data
    match findHeaderEnd buf with
    | some pos => .ok (some (pos, buf, reads))
    | none => if buf.length > 64 * 1024 then .err headersTooLarge else readHeader reads buf

/-- Read until there are `len` bytes, or the stream ends. -/
def readUntil (len : Nat) : List SocketRead → List UInt8 → Io (List UInt8)
  | [], buf => if buf.length < len then .running else .ok buf
  | .error e :: _, buf => if buf.length < len then .err e else .ok buf
  | .ok [] :: _, buf => .ok buf
  | .ok (b :: data) :: reads, buf => if buf.length < len then readUntil len reads (buf ++ b :: data) else .ok buf

/-- The request of a connection, if it brings one. -/
def receive (reads : List SocketRead) : Io (Option FakeRequest) := do
  match ← readHeader reads [] with
  | none => return none
  | some (headerEnd, buf, reads) =>
    let header ← .ofChecked (sliceRange buf 0 headerEnd)
    let text ← .ofExcept ((fromUtf8 header).mapError fun e => invalidData e.text)
    let (method, path, contentLength) ← .ofExcept (parseRequestLineAndHeaders text)
    let bodyStart := headerEnd + 4
    let stop ← .ofChecked (usizeAdd bodyStart contentLength)
    let buf ← readUntil stop reads buf
    let body ← .ofChecked (sliceRange buf bodyStart (bodyStart + min contentLength (buf.length - bodyStart)))
    return some ⟨method, path, if contentLength > 0 then some body else none⟩

/-! ### Answering it -/

namespace FakeResponse

def reason (r : FakeResponse) : String :=
  if r.status = 200 then "OK" else if r.status = 404 then "Not Found" else "Error"

def head (r : FakeResponse) : String :=
  s!"HTTP/1.1 {r.status} {r.reason}\r\nContent-Type: {r.contentType}\r\nContent-Length: {r.body.length}\r\n" ++
    "Connection: close\r\n\r\n"

/-- What the server writes for a response. -/
def written (r : FakeResponse) : List UInt8 := if r.dropWithoutReply then [] else utf8Bytes r.head ++ r.body

end FakeResponse

section Served

variable {σ : Type} (handle : σ → FakeRequest → FakeResponse × σ)

/-- What is written to a connection before it is closed, and the device after it. -/
def handleConnection (reads : List SocketRead) (d : σ) : Io (List UInt8) × σ :=
  match receive reads with
  | .ok (some req) => (.ok (handle d req).1.written, (handle d req).2)
  | .ok none => (.ok [], d)
  | .err e => (.err e, d)
  | .panic => (.panic, d)
  | .running => (.running, d)

end Served

/-! ### Requests in pieces -/

private theorem findHeaderEnd_prefix {stream buf : List UInt8} {k : Nat} (hk : findHeaderEnd stream = some k)
    (h : buf <+: stream) : findHeaderEnd buf = if k + 4 ≤ buf.length then some k else none := by
  obtain ⟨m, rfl⟩ := h
  cases hbuf : findHeaderEnd buf with
  | some i =>
    have hik : i = k := Option.some.inj ((windowPosition_append hbuf m).symm.trans hk)
    obtain ⟨rest, hsplit, hlen⟩ := windowPosition_split hbuf
    have := congrArg List.length hsplit
    simp only [List.length_append, hlen, blankLine, List.length_cons, List.length_nil] at this
    rw [if_pos (by omega), hik]
  | none =>
    rw [if_neg]
    intro hle
    -- the window lies inside what has been read, so it would have been found
    obtain ⟨rest, hsplit, hlen⟩ := windowPosition_split hk
    have htake : buf.take (k + 4) = (buf ++ m).take k ++ blankLine :=
      calc buf.take (k + 4) = (buf ++ m).take (k + 4) := (List.take_append_of_le_length hle).symm
        _ = ((buf ++ m).take k ++ blankLine ++ rest).take (k + 4) := congrArg _ hsplit
        _ = (buf ++ m).take k ++ blankLine := List.take_left' (by rw [List.length_append, hlen]; rfl)
    have hinside : blankLine <:+: buf := by
      refine ⟨(buf ++ m).take k, buf.drop (k + 4), ?_⟩
      rw [← htake, List.take_append_drop]
    obtain ⟨i, hi⟩ := windowPosition_isSome (by simp [blankLine]) hinside
    exact absurd (hbuf.symm.trans hi) (by simp)

section Pieces

variable {stream : List UInt8} {pieces : List (List UInt8)}

/-- What a read that is not at the end of the stream can give. -/
def IsRead (piece : List UInt8) : Prop := piece ≠ [] ∧ piece.length ≤ 512

/-- The reads that give the pieces, and then whatever comes. -/
def readsOfPieces (pieces : List (List UInt8)) (tail : List SocketRead) : List SocketRead := pieces.map .ok ++ tail

/-- The reader of the header stops at a piece with which the blank line is complete, gives up on a long header, or comes to
what is behind the pieces. -/
theorem readHeader_pieces {k : Nat} (hk : findHeaderEnd stream = some k) (hpieces : ∀ piece ∈ pieces, IsRead piece)
    (tail : List SocketRead) {buf : List UInt8} (hpart : buf ++ pieces.flatten <+: stream) (hshort : buf.length < k + 4)
    (hsmall : buf.length ≤ 64 * 1024) :
    (∃ done rest, pieces = done ++ rest ∧ k + 4 ≤ (buf ++ done.flatten).length ∧
      (buf ++ done.flatten).length ≤ 64 * 1024 + 512 ∧
      readHeader (readsOfPieces pieces tail) buf = .ok (some (k, buf ++ done.flatten, readsOfPieces rest tail))) ∨
      (64 * 1024 < k + 3 ∧ readHeader (readsOfPieces pieces tail) buf = .err headersTooLarge) ∨
      (buf ++ pieces.flatten).length < k + 4 ∧
        readHeader (readsOfPieces pieces tail) buf = readHeader tail (buf ++ pieces.flatten) := by
  induction pieces generalizing buf with
  | nil =>
    rw [List.flatten_nil, List.append_nil]
    exact .inr (.inr ⟨hshort, rfl⟩)
  | cons piece pieces ih =>
    obtain ⟨hpiece, hrest⟩ := List.forall_mem_cons.1 hpieces
    obtain ⟨b, data, rfl⟩ := List.exists_cons_of_ne_nil hpiece.1
    rw [List.flatten_cons, ← List.append_assoc] at hpart ⊢
    have hlength : (buf ++ b :: data).length = buf.length + (b :: data).length := List.length_append
    have hread512 := hpiece.2
    have hfound := findHeaderEnd_prefix hk ((List.prefix_append _ _).trans hpart)
    have hread : readHeader (readsOfPieces ((b :: data) :: pieces) tail) buf =
        readHeader (.ok (b :: data) :: readsOfPieces pieces tail) buf := rfl
    rw [hread, readHeader]
    simp only [hfound]
    by_cases hdone : k + 4 ≤ (buf ++ b :: data).length
    · refine .inl ⟨[b :: data], pieces, rfl, by simpa using hdone, ?_, ?_⟩
      · rw [List.flatten_singleton]
        omega
      · rw [if_pos hdone, List.flatten_singleton]
    simp only [if_neg hdone]
    by_cases hlarge : (buf ++ b :: data).length > 64 * 1024
    · rw [if_pos hlarge]
      exact .inr (.inl ⟨by omega, rfl⟩)
    rw [if_neg hlarge]
    rcases ih hrest hpart (Nat.not_le.1 hdone) (Nat.not_lt.1 hlarge) with ⟨done, rest, rfl, hle, hle', heq⟩ | htoo | hover
    · rw [List.append_assoc, ← List.flatten_cons] at hle hle' heq
      exact .inl ⟨(b :: data) :: done, rest, rfl, hle, hle', heq⟩
    · exact .inr (.inl htoo)
    · exact .inr (.inr hover)

/-- Reading on for the body ends with a part that is long enough, or comes to what is behind the pieces. -/
theorem readUntil_pieces (len : Nat) (hpieces : ∀ piece ∈ pieces, IsRead piece) (tail : List SocketRead) (buf : List UInt8) :
    (∃ got, got <+: buf ++ pieces.flatten ∧ len ≤ got.length ∧ buf.length ≤ got.length ∧
      readUntil len (readsOfPieces pieces tail) buf = .ok got) ∨
      (buf ++ pieces.flatten).length < len ∧
        readUntil len (readsOfPieces pieces tail) buf = readUntil len tail (buf ++ pieces.flatten) := by
  induction pieces generalizing buf with
  | nil =>
    rw [List.flatten_nil, List.append_nil]
    by_cases hlen : buf.length < len
    · exact .inr ⟨hlen, rfl⟩
    refine .inl ⟨buf, List.prefix_rfl, Nat.not_lt.1 hlen, Nat.le_refl _, ?_⟩
    show readUntil len tail buf = _
    unfold readUntil
    split
    · rw [if_neg hlen]
    · rw [if_neg hlen]
    · rfl
    · rw [if_neg hlen]
  | cons piece pieces ih =>
    obtain ⟨hpiece, hrest⟩ := List.forall_mem_cons.1 hpieces
    obtain ⟨b, data, rfl⟩ := List.exists_cons_of_ne_nil hpiece.1
    have hread : readUntil len (readsOfPieces ((b :: data) :: pieces) tail) buf =
        readUntil len (.ok (b :: data) :: readsOfPieces pieces tail) buf := rfl
    rw [hread, readUntil, List.flatten_cons, ← List.append_assoc]
    by_cases hshort : buf.length < len
    · rw [if_pos hshort]
      rcases ih hrest (buf ++ b :: data) with ⟨got, hgot, hle, hlonger, heq⟩ | hover
      · rw [List.length_append] at hlonger
        exact .inl ⟨got, hgot, hle, by omega, heq⟩
      · exact .inr hover
    · refine .inl ⟨buf, ?_, Nat.not_lt.1 hshort, Nat.le_refl _, if_neg hshort⟩
      rw [List.append_assoc]
      exact List.prefix_append ..

/-- Behind the last piece the header is not there. -/
private theorem readHeader_end {tail : List SocketRead} (htail : ∀ data rest, tail = .ok data :: rest → data = [])
    (buf : List UInt8) (found : Nat × List UInt8 × List SocketRead) : readHeader tail buf ≠ .ok (some found) := by
  rcases tail with _ | ⟨e | data, rest⟩
  · exact nofun
  · exact nofun
  · obtain rfl := htail data rest rfl
    exact nofun

/-- Behind the last piece only the end of the stream makes the body complete. -/
private theorem readUntil_end {tail : List SocketRead} (htail : ∀ data rest, tail = .ok data :: rest → data = [])
    {len : Nat} {buf got : List UInt8} (hshort : buf.length < len) (hread : readUntil len tail buf = .ok got) :
    (∃ rest, tail = .ok [] :: rest) ∧ got = buf := by
  rcases tail with _ | ⟨e | data, rest⟩
  · rw [readUntil, if_pos hshort] at hread
    cases hread
  · rw [readUntil, if_pos hshort] at hread
    cases hread
  · obtain rfl := htail data rest rfl
    exact ⟨⟨rest, rfl⟩, (Io.ok.inj hread).symm⟩

section Head

variable {k n : Nat} {text : List Char} {method path : String} (hk : findHeaderEnd stream = some k)
  (htext : fromUtf8 (stream.take k) = .ok text) (hparse : parseRequestLineAndHeaders text = .ok (method, path, n))

include htext hparse

/-- With the header received, what is left to do is to wait for the body. -/
private theorem receive_header {reads later : List SocketRead} {buf : List UInt8}
    (hread : readHeader reads [] = .ok (some (k, buf, later))) (hpart : buf <+: stream) (hle : k ≤ buf.length)
    (hlt : k + 4 + n < 2 ^ 64) :
    receive reads = (do
      let got ← readUntil (k + 4 + n) later buf
      let body ← .ofChecked (sliceRange got (k + 4) (k + 4 + min n (got.length - (k + 4))))
      return some ⟨method, path, if n > 0 then some body else none⟩) := by
  have htake : buf.take k = stream.take k := by
    obtain ⟨m, hm⟩ := hpart
    rw [← hm, List.take_append_of_le_length hle]
  unfold receive
  rw [hread]
  simp only [Io.ok_bind, sliceRange_zero hle, Io.ofChecked, htake, htext, Except.mapError, Io.ofExcept, hparse,
    usizeAdd_of_lt hlt]

include hk

/-- The request at the start of a stream is received whatever pieces the stream is read in, and whatever the socket does
after them; only a header of more than 64 KiB can be refused. -/
theorem receive_pieces (hlen : k + 4 + n ≤ stream.length) (hn : n < 2 ^ 63) (hpieces : ∀ piece ∈ pieces, IsRead piece)
    (hstream : pieces.flatten = stream) (tail : List SocketRead) :
    receive (readsOfPieces pieces tail) =
        .ok (some ⟨method, path, if n > 0 then some ((stream.drop (k + 4)).take n) else none⟩) ∨
      64 * 1024 < k + 3 ∧ receive (readsOfPieces pieces tail) = .err headersTooLarge := by
  have hpart : [] ++ pieces.flatten <+: stream := List.prefix_rfl.trans (by rw [← hstream, List.nil_append])
  rcases readHeader_pieces hk hpieces tail hpart (Nat.zero_lt_succ _) (Nat.zero_le _) with
    ⟨done, rest, rfl, hheader, hsmall, hread⟩ | ⟨hlarge, hread⟩ | ⟨hshort, -⟩
  · left
    rw [List.nil_append] at hheader hsmall hread
    rw [List.flatten_append] at hstream
    have hdone : done.flatten <+: stream := by
      rw [← hstream]
      exact List.prefix_append ..
    rcases readUntil_pieces (k + 4 + n) (fun p hp => hpieces p (List.mem_append_right _ hp)) tail done.flatten with
      ⟨got, hgot, hstop, -, hmore⟩ | ⟨hshort, -⟩
    · have hmin : min n (got.length - (k + 4)) = n := by omega
      have hbody : (got.drop (k + 4)).take n = (stream.drop (k + 4)).take n := by
        rw [hstream] at hgot
        obtain ⟨m, hm⟩ := hgot
        rw [← hm, List.drop_append_of_le_length (by omega),
          List.take_append_of_le_length (by rw [List.length_drop]; omega)]
      rw [receive_header htext hparse hread hdone (by omega) (by omega), hmore, Io.ok_bind, hmin, sliceRange,
        if_pos (by omega), Nat.add_sub_cancel_left, hbody]
      rfl
    · rw [hstream] at hshort
      omega
  · refine .inr ⟨hlarge, ?_⟩
    rw [receive, hread]
    rfl
  · rw [List.nil_append, hstream] at hshort
    omega

/-- A request of which a part is missing is received only if the stream ends in the body: the body is then what there is of
it. -/
theorem receive_cut (hlen : stream.length = k + 4 + n) (hn : n < 2 ^ 63) (hpieces : ∀ piece ∈ pieces, IsRead piece)
    (hpart : pieces.flatten <+: stream) (hcut : pieces.flatten ≠ stream) {tail : List SocketRead}
    (htail : ∀ data rest, tail = .ok data :: rest → data = []) {req : FakeRequest}
    (hreq : receive (readsOfPieces pieces tail) = .ok (some req)) :
    (∃ rest, tail = .ok [] :: rest) ∧ ∃ j < n, req = ⟨method, path, some ((stream.drop (k + 4)).take j)⟩ := by
  have hless : pieces.flatten.length < stream.length :=
    Nat.lt_of_le_of_ne hpart.length_le fun heq => hcut (hpart.eq_of_length heq)
  have hstart : [] ++ pieces.flatten <+: stream := hpart
  rcases readHeader_pieces hk hpieces tail hstart (Nat.zero_lt_succ _) (Nat.zero_le _) with
    ⟨done, rest, rfl, hheader, hsmall, hread⟩ | ⟨-, hread⟩ | ⟨-, hread⟩
  · rw [List.nil_append] at hheader hsmall hread
    have hdone : done.flatten <+: stream := by
      rw [List.flatten_append] at hpart
      exact (List.prefix_append ..).trans hpart
    rw [receive_header htext hparse hread hdone (by omega) (by omega)] at hreq
    rcases readUntil_pieces (k + 4 + n) (fun p hp => hpieces p (List.mem_append_right _ hp)) tail done.flatten with
      ⟨got, hgot, hstop, -, -⟩ | ⟨hshort, hmore⟩
    · have := hgot.length_le
      rw [← List.flatten_append] at this
      omega
    rw [hmore, ← List.flatten_append] at hreq
    rw [← List.flatten_append] at hshort
    obtain ⟨got, hgot, hreq⟩ := Io.bind_eq_ok hreq
    obtain ⟨hend, rfl⟩ := readUntil_end htail hshort hgot
    have hlong : k + 4 ≤ (done ++ rest).flatten.length := by
      rw [List.flatten_append, List.length_append]
      omega
    have hmin : min n ((done ++ rest).flatten.length - (k + 4)) = (done ++ rest).flatten.length - (k + 4) := by omega
    have hbody : (done ++ rest).flatten.drop (k + 4) =
        (stream.drop (k + 4)).take ((done ++ rest).flatten.length - (k + 4)) := by
      obtain ⟨m, hm⟩ := hpart
      rw [← hm, List.drop_append_of_le_length hlong, ← List.length_drop, List.take_left]
    refine ⟨hend, (done ++ rest).flatten.length - (k + 4), by omega, ?_⟩
    rw [hmin, sliceRange, if_pos (by omega), Nat.add_sub_cancel_left, ← List.length_drop, List.take_length, Io.ofChecked,
      Io.ok_bind, if_pos (by omega), hbody] at hreq
    exact (Option.some.inj (Io.ok.inj hreq)).symm
  · rw [receive, hread] at hreq
    cases hreq
  · rw [receive, hread] at hreq
    obtain ⟨found, hfound, hreq⟩ := Io.bind_eq_ok hreq
    cases found with
    | none => cases hreq
    | some found => exact absurd hfound (readHeader_end htail _ found)

end Head

end Pieces

/-! ### What the client sends -/

/-- No white space in it. -/
def Unspaced (l : List Char) : Prop := ∀ c ∈ l, isWhitespace c = false

-- decided character by character
instance (l : List Char) : Decidable (Unspaced l) :=
  decidable_of_iff ((l.all fun c => !isWhitespace c) = true) (by simp [Unspaced])

theorem Unspaced.append {l₁ l₂ : List Char} (h₁ : Unspaced l₁) (h₂ : Unspaced l₂) : Unspaced (l₁ ++ l₂) := by
  intro c hc
  rcases List.mem_append.1 hc with hc | hc
  · exact h₁ c hc
  · exact h₂ c hc

/-- A word of the request line: not empty, and no white space in it. -/
def IsWord (s : String) : Prop := s.toList ≠ [] ∧ Unspaced s.toList

instance (s : String) : Decidable (IsWord s) := inferInstanceAs (Decidable (s.toList ≠ [] ∧ Unspaced s.toList))

private theorem IsWord.cr_not_mem {s : String} (h : IsWord s) : '\r' ∉ s.toList :=
  fun hmem => absurd (h.2 '\r' hmem) (by decide)

namespace BoundedHttpClient

variable (c : BoundedHttpClient)

/-- The request can be written as a request line and headers. -/
structure Sendable (r : HttpRequest) : Prop where
  method : IsWord r.method
  path : IsWord r.path
  host : '\r' ∉ c.host.toList
  contentType : ∀ b ∈ r.body, '\r' ∉ b.1.toList
  body_lt : ∀ b ∈ r.body, b.2.length < 2 ^ 63

/-- All the bytes of a request. -/
def requestBytes (r : HttpRequest) : List UInt8 :=
  utf8Bytes (c.requestHead r) ++ ((r.body.map (·.2)).getD [])

/-- The lines of the head before the last one. -/
def headLines (r : HttpRequest) : List (List Char) :=
  [r.method.toList ++ ' ' :: r.path.toList ++ " HTTP/1.1".toList,
    "Host: ".toList ++ c.host.toList ++ ':' :: (toString c.port).toList] ++
  match r.body with
  | some (contentType, _) => ["Connection: close".toList, "Content-Type: ".toList ++ contentType.toList]
  | none => []

/-- The last line of the head. -/
def lastLine (r : HttpRequest) : List Char :=
  match r.body with
  | some (_, bytes) => "Content-Length: ".toList ++ (toString bytes.length).toList
  | none => "Connection: close".toList

theorem toList_requestHead (r : HttpRequest) : (c.requestHead r).toList = headerBlock (c.headLines r) (lastLine r) := by
  have hhead : c.requestHead r = r.method ++ " " ++ r.path ++ " HTTP/1.1\r\nHost: " ++ c.host ++ ":" ++ toString c.port ++
      "\r\nConnection: close\r\n" ++
      (match r.body with
        | some (contentType, bytes) =>
          "Content-Type: " ++ contentType ++ "\r\nContent-Length: " ++ toString bytes.length ++ "\r\n"
        | none => "") ++ "\r\n" := rfl
  rw [hhead]
  unfold headLines lastLine headerBlock
  cases hbody : r.body with
  | none => simp [String.toList_append]
  | some b => simp [String.toList_append]

theorem length_requestBytes (r : HttpRequest) :
    (c.requestBytes r).length =
      ((headerBlock (c.headLines r) (lastLine r)).flatMap String.utf8EncodeChar).length +
        ((r.body.map (·.2)).getD []).length := by
  rw [requestBytes, List.length_append, utf8Bytes, toList_requestHead]

end BoundedHttpClient

/-! ### What the server makes of it -/

/-- A request that the server has of another, when the stream ends in its body. -/
def CutOff (r : HttpRequest) (req : FakeRequest) : Prop :=
  ∃ b ∈ r.body, ∃ j < b.2.length, req = ⟨r.method, r.path, some (b.2.take j)⟩

/-- The request as the device sees it: an empty body is no body. -/
def FakeRequest.ofSent (r : HttpRequest) : FakeRequest := ⟨r.method, r.path, (r.body.map (·.2)).filter (· ≠ [])⟩

theorem FakeRequest.ofSent_eq {r : HttpRequest} (h : ∀ b ∈ r.body, b.2 ≠ []) : FakeRequest.ofSent r = .ofHttp r := by
  unfold FakeRequest.ofSent FakeRequest.ofHttp
  cases hbody : r.body with
  | none => rfl
  | some b => simp [Option.filter, h b hbody]

private theorem splitWhitespace_requestLine {method path : List Char} (hmethod : method ≠ [])
    (hm : Unspaced method) (hpath : path ≠ []) (hp : Unspaced path) :
    splitWhitespace (method ++ ' ' :: path ++ " HTTP/1.1".toList) = [method, path, "HTTP/1.1".toList] := by
  have hspace : isWhitespace ' ' = true := by decide
  have hversion : Unspaced "HTTP/1.1".toList := by decide
  have hline : method ++ ' ' :: path ++ " HTTP/1.1".toList = method ++ ' ' :: (path ++ ' ' :: "HTTP/1.1".toList) := by
    rw [List.append_assoc]
    rfl
  rw [splitWhitespace, hline, splitBy_append_cons hm hspace, splitBy_append_cons hp hspace, splitBy_eq_singleton hversion]
  simp [hmethod, hpath]

/-- A line whose lower case starts otherwise than the name of the header. -/
private theorem declaredLength_none (name rest : List Char) (hlen : name.length ≤ 15)
    (hne : name.map Char.toLower ≠ "content-length:".toList.take name.length) : declaredLength (name ++ rest) = none := by
  unfold declaredLength
  dsimp only
  rw [if_neg]
  intro hp
  have hpre := hp.take name.length
  rw [List.map_append, List.take_left' (List.length_map ..)] at hpre
  refine hne (hpre.eq_of_length ?_).symm
  rw [List.length_map, List.length_take]
  exact Nat.min_eq_left hlen

private theorem declaredLength_some (n : Nat) (h : n < 2 ^ 64) :
    declaredLength ("Content-Length: ".toList ++ (toString n).toList) = some n := by
  have hdigits : (toString n).toList.map Char.toLower = (toString n).toList := by
    refine (List.map_congr_left fun c hc => ?_).trans (List.map_id _)
    have hdigit := isDigit_of_mem_toString hc
    simp only [Char.isDigit, Bool.and_eq_true, decide_eq_true_eq] at hdigit
    exact dif_neg fun hupper => absurd (UInt32.le_trans hupper.1 hdigit.2) (by decide)
  have hlower : ("Content-Length: ".toList ++ (toString n).toList).map Char.toLower =
      "content-length:".toList ++ ' ' :: (toString n).toList := by
    rw [List.map_append, hdigits]
    rfl
  unfold declaredLength
  dsimp only
  rw [hlower, if_pos (List.prefix_append ..), List.drop_left, trim_space, trim_toString, parseUnsigned_toString h]
  rfl

namespace BoundedHttpClient

variable {c : BoundedHttpClient} {r : HttpRequest}

private theorem Sendable.headLines (h : c.Sendable r) : ∀ l ∈ c.headLines r, IsHeaderLine l := by
  have hport : '\r' ∉ (toString c.port).toList := fun hmem => absurd (isDigit_of_mem_toString hmem) (by decide)
  have hline : '\r' ∉ r.method.toList ++ ' ' :: r.path.toList ++ " HTTP/1.1".toList := by
    simp [h.method.cr_not_mem, h.path.cr_not_mem]
  have hhost : '\r' ∉ "Host: ".toList ++ c.host.toList ++ ':' :: (toString c.port).toList := by
    simp only [List.mem_append, List.mem_cons, not_or]
    exact ⟨⟨by decide, h.host⟩, by decide, hport⟩
  unfold BoundedHttpClient.headLines
  cases hbody : r.body with
  | none =>
    intro l hl
    simp only [List.append_nil, List.mem_cons, List.not_mem_nil, or_false] at hl
    rcases hl with rfl | rfl
    · exact ⟨by simp, hline⟩
    · exact ⟨by simp, hhost⟩
  | some b =>
    have hcontent : '\r' ∉ "Content-Type: ".toList ++ b.1.toList := by
      rw [List.mem_append, not_or]
      exact ⟨by decide, h.contentType b hbody⟩
    intro l hl
    simp only [List.cons_append, List.nil_append, List.mem_cons, List.not_mem_nil, or_false] at hl
    rcases hl with rfl | rfl | rfl | rfl
    · exact ⟨by simp, hline⟩
    · exact ⟨by simp, hhost⟩
    · exact ⟨by decide, by decide⟩
    · exact ⟨by simp, hcontent⟩

private theorem isHeaderLine_lastLine (r : HttpRequest) : IsHeaderLine (lastLine r) := by
  unfold lastLine
  cases r.body with
  | none => exact ⟨by decide, by decide⟩
  | some b =>
    refine ⟨by simp, ?_⟩
    rw [List.mem_append, not_or]
    exact ⟨by decide, fun hmem => absurd (isDigit_of_mem_toString hmem) (by decide)⟩

/-- The server reads off the head what the client has put into it. -/
theorem Sendable.parse (h : c.Sendable r) :
    parseRequestLineAndHeaders (crlfLines (c.headLines r) ++ lastLine r) =
      .ok (r.method, r.path, (r.body.map (·.2.length)).getD 0) := by
  have hhost : ∀ l : List Char, declaredLength ("Host: ".toList ++ l) = none :=
    fun l => declaredLength_none _ l (by decide) (by decide)
  have hclose : declaredLength "Connection: close".toList = none :=
    declaredLength_none "Connection: ".toList "close".toList (by decide) (by decide)
  have htype : ∀ l : List Char, declaredLength ("Content-Type: ".toList ++ l) = none :=
    fun l => declaredLength_none _ l (by decide) (by decide)
  unfold parseRequestLineAndHeaders
  rw [splitCrlf_block h.headLines (isHeaderLine_lastLine r)]
  unfold BoundedHttpClient.headLines lastLine
  cases hbody : r.body with
  | none =>
    simp only [List.cons_append, List.nil_append,
      splitWhitespace_requestLine h.method.1 h.method.2 h.path.1 h.path.2, String.ofList_toList]
    simp only [List.append_assoc, List.foldl_cons, List.foldl_nil, hhost, hclose]
    rfl
  | some b =>
    have hlength := declaredLength_some b.2.length (Nat.lt_of_lt_of_le (h.body_lt b hbody) (by decide))
    simp only [List.cons_append, List.nil_append,
      splitWhitespace_requestLine h.method.1 h.method.2 h.path.1 h.path.2, String.ofList_toList]
    simp only [List.append_assoc, List.foldl_cons, List.foldl_nil, hhost, hclose, htype, hlength]
    rfl

/-- Where the parts of a request are in its bytes. -/
private theorem Sendable.layout (h : c.Sendable r) : ∃ k text,
    findHeaderEnd (c.requestBytes r) = some k ∧ fromUtf8 ((c.requestBytes r).take k) = .ok text ∧
      parseRequestLineAndHeaders text = .ok (r.method, r.path, ((r.body.map (·.2)).getD []).length) ∧
      (c.requestBytes r).length = k + 4 + ((r.body.map (·.2)).getD []).length ∧
      (c.requestBytes r).drop (k + 4) = (r.body.map (·.2)).getD [] ∧
      (utf8Bytes (c.requestHead r)).length = k + 4 ∧ ((r.body.map (·.2)).getD []).length < 2 ^ 63 := by
  let text := crlfLines (c.headLines r) ++ lastLine r
  let bytes := (r.body.map (·.2)).getD []
  have hhead : utf8Bytes (c.requestHead r) = text.flatMap String.utf8EncodeChar ++ blankLine := by
    rw [utf8Bytes, c.toList_requestHead, encode_headerBlock]
  have hstream : c.requestBytes r = text.flatMap String.utf8EncodeChar ++ blankLine ++ bytes := by
    rw [requestBytes, hhead]
  have hlength : (r.body.map (·.2.length)).getD 0 = bytes.length := by
    cases hb : r.body <;> simp [bytes, hb]
  refine ⟨(text.flatMap String.utf8EncodeChar).length, text, ?_, ?_, ?_, ?_, ?_, ?_, ?_⟩
  · rw [hstream, ← encode_headerBlock]
    exact windowPosition_headerBlock h.headLines (isHeaderLine_lastLine r) bytes
  · rw [hstream, List.append_assoc, List.take_left]
    simpa [utf8Bytes] using fromUtf8_utf8Bytes (String.ofList text)
  · rw [← hlength]
    exact h.parse
  · rw [hstream, List.length_append, List.length_append]
    rfl
  · rw [hstream, List.drop_left' (by rw [List.length_append]; rfl)]
  · rw [hhead, List.length_append]
    rfl
  · cases hb : r.body with
    | none => simp
    | some b => simpa using h.body_lt b hb

/-- The server receives what the client sends, in whatever pieces it arrives, unless it refuses a long header. -/
theorem Sendable.received (h : c.Sendable r) {pieces : List (List UInt8)}
    (hpieces : ∀ piece ∈ pieces, IsRead piece) (hflatten : pieces.flatten = c.requestBytes r) (tail : List SocketRead) :
    receive (readsOfPieces pieces tail) = .ok (some (.ofSent r)) ∨
      64 * 1024 < (utf8Bytes (c.requestHead r)).length ∧ receive (readsOfPieces pieces tail) = .err headersTooLarge := by
  obtain ⟨k, text, hfound, htext, hparse, hlen, hdrop, hheadlen, hbody⟩ := h.layout
  have hrequest : (⟨r.method, r.path, if ((r.body.map (·.2)).getD []).length > 0 then some ((r.body.map (·.2)).getD [])
      else none⟩ : FakeRequest) = .ofSent r := by
    rw [FakeRequest.ofSent]
    cases hb : r.body with
    | none => simp
    | some b => simp [Option.filter, List.length_pos_iff]
  have hreceive := receive_pieces hfound htext hparse (Nat.le_of_eq hlen.symm) hbody hpieces hflatten tail
  rw [hdrop, List.take_length, hrequest] at hreceive
  exact hreceive.imp_right fun hlarge => ⟨by omega, hlarge.2⟩

/-- Of a request of which a part is missing, the server makes one only if the stream ends in the body. -/
theorem Sendable.cut (h : c.Sendable r) {pieces : List (List UInt8)} (hpieces : ∀ piece ∈ pieces, IsRead piece)
    (hpart : pieces.flatten <+: c.requestBytes r) (hcut : pieces.flatten ≠ c.requestBytes r) {tail : List SocketRead}
    (htail : ∀ data rest, tail = .ok data :: rest → data = []) {req : FakeRequest}
    (hreq : receive (readsOfPieces pieces tail) = .ok (some req)) : (∃ rest, tail = .ok [] :: rest) ∧ CutOff r req := by
  obtain ⟨k, text, hfound, htext, hparse, hlen, hdrop, -, hbody⟩ := h.layout
  obtain ⟨hend, j, hj, rfl⟩ := receive_cut hfound htext hparse hlen hbody hpieces hpart hcut htail hreq
  rw [hdrop]
  refine ⟨hend, ?_⟩
  cases hb : r.body with
  | none => simp [hb] at hj
  | some b =>
    rw [hb] at hj
    exact ⟨b, hb, j, hj, rfl⟩

end BoundedHttpClient

end WirelessProgrammer
