import WirelessProgrammer.Http.Splitting
import WirelessProgrammer.Fake.Server

/-!
# The client and the server of the fake devices

One connection carries a request to the server of a fake device and its response back, in any pieces in either direction:
the client comes to what the device has answered (`Answered.once`).
-/

namespace WirelessProgrammer

open Text Effect

/-! ### What the client reads off a response -/

namespace FakeResponse

variable (r : FakeResponse)

def headLines : List (List Char) :=
  ["HTTP/1.1".toList ++ ' ' :: ((toString r.status).toList ++ ' ' :: r.reason.toList),
    "Content-Type".toList ++ ':' :: ' ' :: r.contentType.toList,
    "Content-Length".toList ++ ':' :: ' ' :: (toString r.body.length).toList]

def lastLine : List Char := "Connection: close".toList

private theorem toList_head : r.head.toList = headerBlock r.headLines lastLine := by
  have hhead : r.head = "HTTP/1.1 " ++ toString r.status ++ " " ++ r.reason ++ "\r\nContent-Type: " ++ r.contentType ++
      "\r\nContent-Length: " ++ toString r.body.length ++ "\r\n" ++ "Connection: close\r\n\r\n" := rfl
  rw [hhead]
  unfold headLines lastLine headerBlock
  simp [String.toList_append]

theorem length_written (h : r.dropWithoutReply = false) :
    r.written.length = ((headerBlock r.headLines lastLine).flatMap String.utf8EncodeChar).length + r.body.length := by
  rw [written, if_neg (by simp [h]), List.length_append, utf8Bytes, toList_head]

/-- The content type fits on its line. -/
def Writable : Prop := '\r' ∉ r.contentType.toList

theorem writable_okText (body : String) : (okText body).Writable := by
  show '\r' ∉ "text/plain".toList
  decide

theorem writable_okXml (body : List UInt8) : (okXml body).Writable := by
  show '\r' ∉ "text/html".toList
  decide

theorem writable_okJson (body : List UInt8) : (okJson body).Writable := by
  show '\r' ∉ "application/json".toList
  decide

variable {r}

private theorem cr_not_mem_toString (n : Nat) : '\r' ∉ (toString n).toList :=
  fun hmem => absurd (isDigit_of_mem_toString hmem) (by decide)

private theorem reason_cases (r : FakeResponse) : r.reason = "OK" ∨ r.reason = "Not Found" ∨ r.reason = "Error" := by
  unfold reason
  split
  · exact .inl rfl
  split
  · exact .inr (.inl rfl)
  · exact .inr (.inr rfl)

private theorem isHeaderLine_lastLine : IsHeaderLine lastLine := ⟨by decide, by decide⟩

private theorem isHeaderLine_headLines (h : '\r' ∉ r.contentType.toList) : ∀ l ∈ r.headLines, IsHeaderLine l := by
  have hreason : '\r' ∉ r.reason.toList := by
    rcases r.reason_cases with h | h | h <;> rw [h] <;> decide
  intro l hl
  simp only [headLines, List.mem_cons, List.not_mem_nil, or_false] at hl
  rcases hl with rfl | rfl | rfl
  all_goals
    refine ⟨by simp, ?_⟩
    simp only [List.mem_append, List.mem_cons, not_or]
  · exact ⟨by decide, by decide, cr_not_mem_toString _, by decide, hreason⟩
  · exact ⟨by decide, by decide, by decide, h⟩
  · exact ⟨by decide, by decide, by decide, cr_not_mem_toString _⟩

/-- What a header line with the name says. -/
def namedValue (name : String) (line : List Char) : Option (List Char) :=
  (splitOnce ':' line).bind fun p => if eqIgnoreAsciiCase p.1 name.toList then some p.2 else none

private theorem namedValue_append {name : List Char} (hname : ':' ∉ name) (wanted : String) (value : List Char) :
    namedValue wanted (name ++ ':' :: value) = if eqIgnoreAsciiCase name wanted.toList then some value else none := by
  rw [namedValue, splitOnce_append_cons hname]
  rfl

private theorem namedValue_statusLine (r : FakeResponse) (wanted : String) :
    namedValue wanted ("HTTP/1.1".toList ++ ' ' :: ((toString r.status).toList ++ ' ' :: r.reason.toList)) = none := by
  have hstatus : ':' ∉ (toString r.status).toList := fun hmem => absurd (isDigit_of_mem_toString hmem) (by decide)
  have hreason : ':' ∉ r.reason.toList := by
    rcases r.reason_cases with h | h | h <;> rw [h] <;> decide
  rw [namedValue, splitOnce_eq_none]
  · rfl
  · simp only [List.mem_append, List.mem_cons, not_or]
    exact ⟨by decide, by decide, hstatus, by decide, hreason⟩

private theorem namedValue_other {name wanted : String} (hname : ':' ∉ name.toList)
    (hne : eqIgnoreAsciiCase name.toList wanted.toList = false) (value : List Char) :
    namedValue wanted (name.toList ++ ':' :: value) = none := by
  rw [namedValue_append hname, if_neg (by rw [hne]; exact Bool.false_ne_true)]

section Head

variable (h : '\r' ∉ r.contentType.toList)

include h

private theorem locateBody_head : locateBody (utf8Bytes r.head) = .ok (utf8Bytes r.head).length := by
  have hfound := windowPosition_headerBlock (isHeaderLine_headLines h) isHeaderLine_lastLine []
  rw [List.append_nil, ← toList_head] at hfound
  have hlength : (utf8Bytes r.head).length =
      ((crlfLines r.headLines ++ lastLine).flatMap String.utf8EncodeChar).length + 4 := by
    rw [utf8Bytes, toList_head, encode_headerBlock, List.length_append]
    rfl
  rw [locateBody, hlength]
  have : windowPosition [13, 10, 13, 10] (utf8Bytes r.head) = _ := hfound
  rw [this]

private theorem headerValue_head (name : String) :
    headerValue name (utf8Bytes r.head) = (r.headLines ++ [lastLine, [], []]).findSome? (namedValue name) := by
  unfold headerValue
  rw [fromUtf8_utf8Bytes, toList_head]
  simp only [splitCrlf_headerBlock (isHeaderLine_headLines h) isHeaderLine_lastLine]
  congr 1
  funext line
  unfold namedValue
  cases splitOnce ':' line <;> rfl

private theorem parseContentLength_head :
    parseContentLength (utf8Bytes r.head) = if r.body.length < 2 ^ 64 then some r.body.length else none := by
  unfold parseContentLength
  rw [headerValue_head h]
  simp only [headLines, List.cons_append, List.nil_append, List.findSome?_cons]
  rw [namedValue_statusLine, namedValue_other (by decide) (by decide),
    namedValue_append (by decide)]
  have hname : eqIgnoreAsciiCase "Content-Length".toList "content-length".toList = true := by decide
  simp only [hname, if_true, Option.bind_some, trim_space, trim_toString]
  by_cases hlen : r.body.length < 2 ^ 64
  · rw [if_pos hlen, parseUnsigned_toString hlen]
    rfl
  · rw [if_neg hlen, parseUnsigned_toString_overflow (Nat.not_lt.1 hlen)]
    rfl

private theorem isChunked_head : isChunked (utf8Bytes r.head) = false := by
  unfold isChunked
  rw [headerValue_head h]
  simp only [headLines, List.cons_append, List.nil_append, List.findSome?_cons]
  rw [namedValue_statusLine, namedValue_other (by decide) (by decide), namedValue_other (by decide) (by decide)]
  rfl

omit h in
private theorem parseStatus_head : parseStatus (utf8Bytes r.head) = .ok r.status.toNat := by
  let line := "HTTP/1.1".toList ++ ' ' :: ((toString r.status).toList ++ ' ' :: r.reason.toList)
  have hcr : '\r' ∉ line := by
    have hreason : '\r' ∉ r.reason.toList := by
      rcases r.reason_cases with h | h | h <;> rw [h] <;> decide
    simp only [line, List.mem_append, List.mem_cons, not_or]
    exact ⟨by decide, by decide, cr_not_mem_toString _, by decide, hreason⟩
  have hbytes : ∃ rest, utf8Bytes r.head = line.flatMap String.utf8EncodeChar ++ 13 :: rest := by
    rw [utf8Bytes, toList_head, encode_headerBlock, List.flatMap_append, encode_crlfLines, headLines, List.map_cons,
      List.flatMap_cons]
    simp only [List.append_assoc, List.cons_append]
    exact ⟨_, rfl⟩
  have htake : (utf8Bytes r.head).takeWhile (· ≠ 13) = line.flatMap String.utf8EncodeChar := by
    obtain ⟨rest, hrest⟩ := hbytes
    rw [hrest, List.takeWhile_append_of_pos]
    · simp
    · intro b hb
      rw [decide_eq_true_iff]
      rintro rfl
      exact hcr (cr_mem_encode.1 hb)
  have htext : fromUtf8 (line.flatMap String.utf8EncodeChar) = .ok line := by
    simpa [utf8Bytes] using fromUtf8_utf8Bytes (String.ofList line)
  have hspace : isWhitespace ' ' = true := by decide
  have hversion : Unspaced "HTTP/1.1".toList := by decide
  have hdigits : ∀ c ∈ (toString r.status).toList, isWhitespace c = false := by
    intro c hc
    exact isWhitespace_of_mem_toString hc
  have hne : (toString r.status).toList ≠ [] := toString_ne_nil _
  have hwords : (splitWhitespace line)[1]? = some (toString r.status).toList := by
    rw [splitWhitespace, splitBy_append_cons hversion hspace, splitBy_append_cons hdigits hspace]
    simp [hne]
  have hparse : parseUnsigned 10 16 (toString r.status).toList = .ok r.status.toNat :=
    parseUnsigned_toString r.status.toNat_lt
  unfold parseStatus
  simp only [htake, htext, hwords, hparse]

end Head

/-! ### The client reads a response -/

/-- A response with a declared length is complete when all of it is there.  A length that is no `usize` is none, and no
buffer is that long. -/
theorem httpMessageComplete_sized {head body buf : List UInt8} (hlocated : locateBody head = .ok head.length)
    (hchunked : isChunked head = false)
    (hdeclared : parseContentLength head = if body.length < 2 ^ 64 then some body.length else none)
    (hbuf : buf <+: head ++ body) (hlt : buf.length < 2 ^ 64) :
    httpMessageComplete buf = .ok ((head ++ body).length ≤ buf.length) := by
  rw [List.length_append]
  rcases prefix_append_cases hbuf with ⟨hshort, hne⟩ | ⟨q, rfl, -⟩
  · -- without the whole header block there is no blank line
    have hless : buf.length < head.length :=
      Nat.lt_of_le_of_ne hshort.length_le fun heq => hne (hshort.eq_of_length heq)
    rw [decide_eq_false (by omega)]
    cases hl : locateBody buf with
    | error e => simp [httpMessageComplete, hl]
    | ok start =>
      obtain ⟨m, hm⟩ := hshort
      have hstart := locateBody_append hl m
      rw [hm, hlocated] at hstart
      have := locateBody_le hl
      cases hstart
      omega
  · rw [List.length_append] at hlt
    rw [httpMessageComplete_located (locateBody_append hlocated q), List.take_left, List.drop_left, List.length_append,
      hdeclared, hchunked]
    by_cases hsize : body.length < 2 ^ 64
    · rw [if_pos hsize]
      simp
    · rw [if_neg hsize, decide_eq_false (by omega)]
      rfl

/-- What a client makes of a response: a device that closes the connection without one has restarted, for a client that
waits for that. -/
def resultFor (c : BoundedHttpClient) (r : FakeResponse) : Except IoError (List UInt8) :=
  if r.dropWithoutReply ∧ c.successOnResetAfterWrite then .ok [] else r.result

theorem resultFor_eq {c : BoundedHttpClient} (h : c.successOnResetAfterWrite = false) (r : FakeResponse) :
    r.resultFor c = r.result := by
  simp [resultFor, h]

/-- How much of what is written makes the response complete; a response that is never written is not. -/
def need (r : FakeResponse) : Nat := if r.dropWithoutReply then 1 else r.written.length

theorem Writable.complete (h : r.Writable) {buf : List UInt8} (hbuf : buf <+: r.written) (hlt : buf.length < 2 ^ 63) :
    httpMessageComplete buf = .ok (r.need ≤ buf.length) := by
  by_cases hdrop : r.dropWithoutReply = true
  · have hnil : r.written = [] := if_pos hdrop
    rw [hnil, List.prefix_nil] at hbuf
    rw [hbuf, need, if_pos hdrop, httpMessageComplete_nil]
    rfl
  have hwritten : r.written = utf8Bytes r.head ++ r.body := if_neg hdrop
  rw [hwritten] at hbuf
  rw [httpMessageComplete_sized (locateBody_head h) (isChunked_head h) (parseContentLength_head h) hbuf
      (Nat.lt_of_lt_of_le hlt (by decide)),
    need, if_neg hdrop, hwritten]

/-- The client's look at the whole of a response. -/
theorem Writable.responseBody {c : BoundedHttpClient} (h : r.Writable) (hsize : r.written.length ≤ c.maxBody)
    (hdrop : r.dropWithoutReply = false) : Io.ofChecked (c.responseBody r.written) = .ofExcept (r.resultFor c) := by
  have hlocated := locateBody_append (locateBody_head h) r.body
  have hstatus : parseStatus (utf8Bytes r.head ++ r.body) = .ok r.status.toNat := by
    rw [parseStatus_append (cr_mem_of_locateBody (locateBody_head h)), parseStatus_head]
  have hwritten : r.written = utf8Bytes r.head ++ r.body := if_neg (by simp [hdrop])
  rw [hwritten] at hsize ⊢
  rw [List.length_append] at hsize
  rw [c.responseBody_located hlocated, List.take_left, List.drop_left, isChunked_head h,
    if_neg Bool.false_ne_true, Checked.ok_bind]
  unfold BoundedHttpClient.checkBody resultFor result
  rw [if_neg (by omega), hstatus, hdrop]
  simp only [Checked.ofExcept, Checked.ok_bind, Bool.false_eq_true, false_and, if_false]
  by_cases hok : 200 ≤ r.status.toNat ∧ r.status.toNat < 300
  · rw [if_neg (not_not.2 hok), if_pos hok]
    rfl
  · rw [if_pos hok, if_neg hok]
    rfl

end FakeResponse

/-! ### One connection -/

section Exchange

variable {σ : Type} (handle : σ → FakeRequest → FakeResponse × σ) (c : BoundedHttpClient)

/-- One connection over which everything arrives: the client's request is taken, the server reads it in some pieces, and
the client reads in some pieces what the server writes before it closes the connection. -/
inductive Answered (r : HttpRequest) (a : Attempt) (d : σ) : σ → Prop
  | intro {d' : σ} {up down : List (List UInt8)} {waiting : List SocketRead} {reply : List UInt8} {polls rest : List ReadPoll}
      {p : ReadPoll} (hsent : c.sendRequest r a = .ok ()) (hup : ∀ piece ∈ up, IsRead piece)
      (hrequest : up.flatten = c.requestBytes r)
      (hserved : handleConnection handle (readsOfPieces up waiting) d = (.ok reply, d'))
      (hdown : Gives c.cancel polls down) (hreply : down.flatten = reply) (hquiet : p.Quiet c.cancel)
      (hclosed : p.call = .ok []) (hreads : a.reads = polls ++ p :: rest) : Answered r a d d'

variable {handle c} {r : HttpRequest} {a : Attempt} {d d' : σ}

/-- The end of the stream with nothing received. -/
theorem readLoop_nothing {p : ReadPoll} (hquiet : p.Quiet c.cancel) (hclosed : p.call = .ok []) (rest : List ReadPoll) :
    c.readLoop (p :: rest) [] = .ok (if c.successOnResetAfterWrite then .reboot else .response []) := by
  have hnothing := httpMessageComplete_nil
  rw [c.readLoop_reads hquiet (Nat.zero_le _) hnothing, hclosed]
  unfold BoundedHttpClient.closed
  rw [hnothing]
  cases c.successOnResetAfterWrite <;> rfl

/-- The client reads a response in some pieces, and then the end of the stream. -/
theorem requestOnce_reply {response : FakeResponse} (hwrite : response.Writable) (hsent : c.sendRequest r a = .ok ())
    {polls rest : List ReadPoll} {p : ReadPoll} {down : List (List UInt8)} (hdown : Gives c.cancel polls down)
    (hreply : down.flatten = response.written) (hquiet : p.Quiet c.cancel) (hclosed : p.call = .ok [])
    (hreads : a.reads = polls ++ p :: rest) :
    c.requestOnce r a =
      if c.maxBody < response.written.length then .err tooLarge else .ofExcept (response.resultFor c) := by
  have hreceived : [] ++ down.flatten = response.written := hreply
  have htail : GoesOn c.cancel (p :: rest) := ⟨p, rest, rfl, hquiet.cancelled⟩
  have hloop := c.readLoop_pieces (fun buf hbuf hle => hwrite.complete hbuf (Nat.lt_of_le_of_lt hle c.maxBody_lt))
    hreceived hdown htail
  have hle := stopAt_le response.need 0 down
  rw [hreply, Nat.zero_add] at hle
  rw [c.requestOnce_of_sent hsent, hreads, hloop, List.length_nil]
  cases hdrop : response.dropWithoutReply with
  | true =>
    have hnil : response.written = [] := if_pos hdrop
    have hneed : response.need = 1 := if_pos hdrop
    rw [hnil, hneed, List.length_nil] at hle
    rw [hnil, hneed, List.length_nil, if_neg (by omega), if_neg (by omega), if_neg (Nat.not_lt_zero _),
      readLoop_nothing hquiet hclosed]
    unfold FakeResponse.resultFor FakeResponse.result
    cases c.successOnResetAfterWrite <;> simp [hdrop] <;> rfl
  | false =>
    have hneed : response.need = response.written.length := if_neg (by simp [hdrop])
    have hstop : response.need ≤ stopAt response.need 0 down := need_le_stopAt (by rw [hreply]; omega)
    have hall : stopAt response.need 0 down = response.written.length := by omega
    rw [hall, hneed, List.take_length]
    by_cases hlarge : c.maxBody < response.written.length
    · rw [if_pos hlarge, if_pos hlarge]
      rfl
    · rw [if_neg hlarge, if_neg hlarge, if_pos (Nat.le_refl _)]
      exact hwrite.responseBody (Nat.not_lt.1 hlarge) hdrop

/-- The device has handled the request once, and the client comes to its response, unless that is too large for it. -/
theorem Answered.once (h : Answered handle c r a d d') (hsend : c.Sendable r)
    (hwrite : (handle d (.ofSent r)).1.Writable) :
    d' = (handle d (.ofSent r)).2 ∧
      c.requestOnce r a =
        if c.maxBody < (handle d (.ofSent r)).1.written.length then .err tooLarge
        else .ofExcept ((handle d (.ofSent r)).1.resultFor c) := by
  cases h with
  | @intro up down waiting reply polls rest p hsent hup hrequest hserved hdown hreply hquiet hclosed hreads =>
    rw [handleConnection] at hserved
    rcases hsend.received hup hrequest waiting with hreceive | ⟨-, hreceive⟩
    · rw [hreceive] at hserved
      obtain ⟨hwritten, rfl⟩ := Prod.mk.inj hserved
      obtain rfl := Io.ok.inj hwritten
      exact ⟨rfl, requestOnce_reply hwrite hsent hdown hreply hquiet hclosed hreads⟩
    · rw [hreceive] at hserved
      cases (Prod.mk.inj hserved).1

/-! ### A connection there is -/

/-- A short request can be read at once, and so can its head. -/
theorem isRead_short (hshort : (c.requestBytes r).length ≤ 512) :
    IsRead (utf8Bytes (c.requestHead r)) ∧ IsRead (c.requestBytes r) := by
  have hne : utf8Bytes (c.requestHead r) ≠ [] := by
    intro hnil
    rw [utf8Bytes, c.toList_requestHead, encode_headerBlock] at hnil
    cases (List.append_eq_nil_iff.1 hnil).2
  have hlength : (c.requestBytes r).length = (utf8Bytes (c.requestHead r)).length + ((r.body.map (·.2)).getD []).length := by
    rw [BoundedHttpClient.requestBytes, List.length_append]
  exact ⟨⟨hne, by omega⟩, fun hnil => hne (List.append_eq_nil_iff.1 hnil).1, hshort⟩

theorem handleConnection_short (hsend : c.Sendable r) (hshort : (c.requestBytes r).length ≤ 512) (d : σ) :
    handleConnection handle (readsOfPieces [c.requestBytes r] []) d =
      (.ok (handle d (.ofSent r)).1.written, (handle d (.ofSent r)).2) := by
  obtain ⟨hhead, hrequest⟩ := isRead_short hshort
  have hlength := hhead.2
  have hreceive := (hsend.received (List.forall_mem_singleton.2 hrequest) (List.flatten_singleton ..) []).resolve_right
    (by omega)
  rw [handleConnection, hreceive]

/-- The request is taken at once, and answered in one piece, or in none where nothing is written. -/
def BoundedHttpClient.answered (c : BoundedHttpClient) (r : HttpRequest) (reply : List UInt8) : Attempt :=
  c.smooth r (([reply].filter (· ≠ [])).map (fun piece => readPass (.ok piece)) ++ [readPass (.ok [])])

theorem answered_short (hsend : c.Sendable r) (hshort : (c.requestBytes r).length ≤ 512) (d : σ) :
    Answered handle c r (c.answered r (handle d (.ofSent r)).1.written) d (handle d (.ofSent r)).2 := by
  have hdown : ∀ piece ∈ [(handle d (.ofSent r)).1.written].filter (· ≠ []), piece ≠ [] :=
    fun piece hpiece => by simpa using (List.mem_filter.1 hpiece).2
  have hreply : ([(handle d (.ofSent r)).1.written].filter (· ≠ [])).flatten = (handle d (.ofSent r)).1.written := by
    by_cases hnil : (handle d (.ofSent r)).1.written = []
    · simp [hnil]
    · simp [hnil]
  exact .intro (c.sendRequest_smooth r _) (List.forall_mem_singleton.2 (isRead_short hshort).2) (List.flatten_singleton ..)
    (handleConnection_short hsend hshort d) (reads_readPass c.cancel hdown) hreply (quiet_readPass c.cancel (.ok [])) rfl rfl

end Exchange

end WirelessProgrammer
