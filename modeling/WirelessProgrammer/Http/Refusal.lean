import WirelessProgrammer.Http.Client

/-!
# Responses after the request has been written

Whatever way the bytes of a response are cut into reads, and however the connection then ends, the read loop stops at a
prefix that is a complete message, or at everything that was received.  With `success_on_reset_after_write` the second
case is a reboot; so a refusal that is a complete message is always an error, and a refusal that the client cannot tell
from a broken connection is not.
-/

namespace WirelessProgrammer

/-- The bytes that arrive before the connection ends. -/
def received : List ReadPoll → List UInt8
  | [] => []
  | p :: polls =>
    match p.call with
    | .ok [] => []
    | .ok (b :: data) => b :: data ++ received polls
    | .error e => if e.isTimeout then received polls else []

/-- The connection ends, by FIN, reset or abort. -/
def Ends : List ReadPoll → Prop
  | [] => False
  | p :: polls =>
    match p.call with
    | .ok [] => True
    | .ok (_ :: _) => Ends polls
    | .error e => if e.isTimeout then Ends polls else e.isReset = true

/-- The received bytes contain a complete status line with this status. -/
def HasStatus (buf : List UInt8) (status : Nat) : Prop :=
  (∃ line rest, buf = line ++ crlf ++ rest ∧ 13 ∉ line) ∧ parseStatus buf = .ok status

def IsSuccess (status : Nat) : Prop := 200 ≤ status ∧ status < 300

/-- The chunked body of a response states a size that makes the decoder overflow. -/
def OversizedChunk (buf : List UInt8) : Prop :=
  ∃ start, locateBody buf = .ok start ∧ isChunked (buf.take start) = true ∧ ¬ Sized 0 (buf.drop start)

private theorem OversizedChunk.append {buf : List UInt8} (h : OversizedChunk buf) (m : List UInt8) :
    OversizedChunk (buf ++ m) := by
  obtain ⟨start, hl, hc, hs⟩ := h
  have hle := locateBody_le hl
  refine ⟨start, locateBody_append hl m, by rwa [List.take_append_of_le_length hle], ?_⟩
  rw [List.drop_append_of_le_length hle]
  exact fun h => hs (sized_of_append h)

private theorem locateBody_of_complete {buf : List UInt8} (h : httpMessageComplete buf = .ok true) :
    ∃ start, locateBody buf = .ok start := by
  cases hl : locateBody buf with
  | error _ => simp [httpMessageComplete, hl] at h
  | ok start => exact ⟨start, rfl⟩

/-! ### The read loop -/

/-- What the read loop can come to when `r` is all that is received before the connection ends. -/
inductive ReadsTo (c : BoundedHttpClient) (r : List UInt8) : Io ReadEnd → Prop
  | complete {buf m : List UInt8} (hr : r = buf ++ m) (hlen : buf.length < 2 ^ 63)
      (hc : httpMessageComplete buf = .ok true) : ReadsTo c r (.ok (.response buf))
  | closed (hflag : c.successOnResetAfterWrite = false) (hc : httpMessageComplete r = .ok false) :
      ReadsTo c r (.ok (.response r))
  | reboot (hflag : c.successOnResetAfterWrite = true) (hc : httpMessageComplete r = .ok false) :
      ReadsTo c r (.ok .reboot)
  | err (e : IoError) : ReadsTo c r (.err e)
  | panic {buf m : List UInt8} (hr : r = buf ++ m) (hlen : buf.length < 2 ^ 63)
      (hp : httpMessageComplete buf = .panic) : ReadsTo c r .panic

namespace BoundedHttpClient

variable (c : BoundedHttpClient)

/-- The connection ends while `buf`, not a complete message, is all there is. -/
theorem closed_readsTo {buf : List UInt8} (hc : httpMessageComplete buf = .ok false) (e : Option IoError) :
    ReadsTo c buf (c.closed buf e) := by
  simp only [BoundedHttpClient.closed, hc, Io.ofChecked, Io.ok_bind, Bool.false_eq_true, if_false]
  by_cases hflag : c.successOnResetAfterWrite = true
  · simpa [hflag] using ReadsTo.reboot hflag hc
  · cases e with
    | none => simpa [hflag] using ReadsTo.closed (by simpa using hflag) hc
    | some e => simpa [hflag] using ReadsTo.err _

private theorem readLoop_readsTo {polls : List ReadPoll} (hends : Ends polls) (buf : List UInt8) :
    ReadsTo c (buf ++ received polls) (c.readLoop polls buf) := by
  induction polls generalizing buf with
  | nil => exact hends.elim
  | cons p polls ih =>
    rw [readLoop]
    split
    · exact .err _
    split
    · exact .err _
    rename_i hlen
    have hlen : buf.length < 2 ^ 63 := by have := c.maxBody_lt; omega
    split
    · exact .panic rfl hlen ‹_›
    · exact .err _
    · exact .complete rfl hlen ‹_›
    rename_i hfalse
    split
    · exact .err _
    split
    · exact .err _
    -- the socket is read: a FIN or a reset ends the loop, data and timeouts lead to the next pass
    rw [Ends] at hends
    rw [received]
    split
    · rename_i hcall
      simpa [hcall] using c.closed_readsTo hfalse none
    · rename_i hcall
      simp only [hcall] at hends ⊢
      rw [← List.append_assoc]
      exact ih hends _
    · rename_i e hcall
      simp only [hcall] at hends ⊢
      by_cases htime : e.isTimeout = true
      · simp only [htime, if_true] at hends ⊢
        split
        · exact ih hends _
        · exact .err _
      · simp only [if_neg htime] at hends ⊢
        simpa [htime, hends] using c.closed_readsTo hfalse (some e)

/-- A response is only accepted with a status line that says success. -/
theorem responseBody_success {buf body : List UInt8} (h : c.responseBody buf = .ok body) :
    ∃ status, parseStatus buf = .ok status ∧ IsSuccess status := by
  unfold responseBody at h
  obtain ⟨start, -, h⟩ := Checked.bind_eq_ok h
  obtain ⟨rawBody, -, h⟩ := Checked.bind_eq_ok h
  obtain ⟨headers, -, h⟩ := Checked.bind_eq_ok h
  obtain ⟨body, -, h⟩ := Checked.bind_eq_ok h
  unfold checkBody at h
  split at h
  · exact nomatch h
  obtain ⟨status, hs, h⟩ := Checked.bind_eq_ok h
  split at h
  · exact nomatch h
  rename_i hstatus
  cases hp : parseStatus buf with
  | error e => simp [hp, Checked.ofExcept] at hs
  | ok s =>
    obtain rfl : s = status := by simpa [hp, Checked.ofExcept] using hs
    exact ⟨s, rfl, not_not.1 hstatus⟩

theorem checkBody_ne_panic (buf body : List UInt8) : c.checkBody buf body ≠ .panic := by
  intro h
  unfold checkBody at h
  split at h
  · cases h
  cases hstatus : parseStatus buf with
  | error e =>
    rw [hstatus] at h
    cases h
  | ok status =>
    rw [hstatus] at h
    simp only [Checked.ofExcept, Checked.ok_bind] at h
    split at h <;> cases h

theorem checkBody_eq_ok {buf body : List UInt8} {status : Nat} (hsize : body.length ≤ c.maxBody)
    (hstatus : parseStatus buf = .ok status) (hok : IsSuccess status) : c.checkBody buf body = .ok body := by
  unfold checkBody
  rw [if_neg (Nat.not_lt.2 hsize), hstatus]
  simp only [Checked.ofExcept, Checked.ok_bind]
  unfold IsSuccess at hok
  rw [if_neg (not_not.2 hok)]
  rfl

/-- The response is what is behind the header block, decoded if the header block says so. -/
theorem responseBody_located {buf : List UInt8} {start : Nat} (h : locateBody buf = .ok start) :
    c.responseBody buf =
      (if isChunked (buf.take start) then decodeChunked (buf.drop start) else .ok (buf.drop start)) >>=
        c.checkBody buf := by
  have hle := locateBody_le h
  unfold responseBody
  simp only [h, Checked.ofExcept, Checked.ok_bind, sliceFrom, if_pos hle, sliceRange_zero hle]

/-- Looking at a response aborts only on an overflowing chunk size. -/
theorem oversizedChunk_of_panic (buf : Slice) (h : c.responseBody buf.1 = .panic) : OversizedChunk buf.1 := by
  cases hl : locateBody buf.1 with
  | error e => simp [responseBody, hl, Checked.ofExcept] at h
  | ok start =>
    refine ⟨start, hl, ?_⟩
    rw [c.responseBody_located hl] at h
    by_cases hc : isChunked (buf.1.take start) = true
    · refine ⟨hc, fun hsized => ?_⟩
      have hbody : (buf.1.drop start).length < 2 ^ 63 := by
        have := buf.2
        simp
        omega
      have hdec := (decodeChunked_ne_panic ⟨_, hbody⟩).2 hsized
      rw [if_pos hc] at h
      cases hd : decodeChunked (buf.1.drop start) with
      | ok body => exact c.checkBody_ne_panic buf.1 body (by simpa [hd] using h)
      | err e => simp [hd] at h
      | panic => exact hdec hd
    · rw [if_neg hc] at h
      exact absurd h (c.checkBody_ne_panic buf.1 _)

/-- With the request written and the connection at its end, a single request answers from what was received. -/
theorem requestOnce_of_sent {r : HttpRequest} {a : Attempt} (hsent : c.sendRequest r a = .ok ()) :
    c.requestOnce r a = c.readLoop a.reads [] >>= fun e =>
      match e with
      | .reboot => .ok []
      | .response buf => .ofChecked (c.responseBody buf) := by
  rw [requestOnce, hsent]
  rfl

/-- With `success_on_reset_after_write`, and a status outside 200..=299 on a complete status line: if the received bytes
are a complete message the request is an error (a chunk size that overflows apart), and it is only ever accepted as a
reboot, with an empty body, of a device whose connection ended before its message was complete. -/
theorem refused_upload (hflag : c.successOnResetAfterWrite = true) (r : HttpRequest) (a : Attempt)
    (hsent : c.sendRequest r a = .ok ()) (hends : Ends a.reads) (status : Nat)
    (hstatus : HasStatus (received a.reads) status) (hrefused : ¬ IsSuccess status) :
    (httpMessageComplete (received a.reads) = .ok true → ¬ OversizedChunk (received a.reads) →
        ∃ e, c.requestOnce r a = .err e) ∧
      ∀ body, c.requestOnce r a = .ok body →
        body = [] ∧ httpMessageComplete (received a.reads) = .ok false := by
  obtain ⟨-, hparse⟩ := hstatus
  -- a complete message that the loop stops at has the refused status on its status line
  have hresp : ∀ buf m, received a.reads = buf ++ m → httpMessageComplete buf = .ok true →
      ∀ body, c.responseBody buf ≠ .ok body := by
    intro buf m hr hc body hbody
    obtain ⟨start, hl⟩ := locateBody_of_complete hc
    obtain ⟨s, hs, hok⟩ := c.responseBody_success hbody
    rw [hr, parseStatus_append (cr_mem_of_locateBody hl), hs] at hparse
    exact hrefused (Except.ok.inj hparse ▸ hok)
  have hloop := c.readLoop_readsTo hends []
  rw [List.nil_append] at hloop
  rw [c.requestOnce_of_sent hsent]
  generalize c.readLoop a.reads [] = loop at hloop ⊢
  cases hloop with
  | @complete buf m hr hlen hc =>
    have hne := hresp buf m hr hc
    simp only [Io.ok_bind]
    cases hbody : c.responseBody buf with
    | ok body => exact absurd hbody (hne body)
    | err e => exact ⟨fun _ _ => ⟨e, rfl⟩, fun _ h => nomatch h⟩
    | panic =>
      refine ⟨fun _ hsized => absurd ?_ hsized, fun _ h => nomatch h⟩
      rw [hr]
      exact (c.oversizedChunk_of_panic ⟨buf, hlen⟩ hbody).append m
  | closed h => simp [hflag] at h
  | reboot _ hc => exact ⟨fun h => by simp [hc] at h, fun body hbody => ⟨(Io.ok.inj hbody).symm, hc⟩⟩
  | err e => exact ⟨fun _ _ => ⟨e, rfl⟩, fun _ h => nomatch h⟩
  | panic hr hlen hp =>
    refine ⟨fun h => ?_, fun _ h => nomatch h⟩
    rw [hr, httpMessageComplete_append ⟨_, hlen⟩ (by simp [hp]), hp] at h
    exact nomatch h

end BoundedHttpClient

/-! ### A refusal that looks like a reboot -/

/-- A client as the daemon builds it for a driver whose devices reboot after the upload. -/
private def rebootClient : BoundedHttpClient :=
  { BoundedHttpClient.new "192.168.4.1" 80 with successOnResetAfterWrite := true }

private def goodConnect : ConnectPoll :=
  ⟨.ok ("192.168.4.1:80", false), .ok (), .ok (), .ok (), .ok (), .ok (), .ok ()⟩

private def upload : HttpRequest := ⟨"POST", "/upload?p=/a.bin", some ("multipart/form-data", [1])⟩

private def readPoll (call : Except IoError (List UInt8)) : ReadPoll := ⟨⟨false, false, .ok (), call⟩, false⟩

/-- The network takes the request, the device answers with these reads. -/
private def answered (reads : List ReadPoll) : Attempt where
  connect := goodConnect
  cancelled := false
  head := [⟨false, false, .ok (), .ok (Text.utf8Bytes (rebootClient.requestHead upload)).length⟩]
  body := [⟨false, false, .ok (), .ok 1⟩]
  flush := [⟨false, false, .ok (), .ok ()⟩]
  reads := reads

private theorem sendRequest_answered (reads : List ReadPoll) :
    rebootClient.sendRequest upload (answered reads) = .ok () := by
  have hhead : rebootClient.sendHead upload (answered reads) = .ok () := by
    simp only [BoundedHttpClient.sendHead, answered]
    rw [writeAllInterruptible_whole rfl rfl]
    rfl
  rw [BoundedHttpClient.sendRequest, hhead]
  rfl

private def refusal : List UInt8 := Text.utf8Bytes "HTTP/1.1 500 E\r\n\r\n"

private def framedRefusal : List UInt8 := Text.utf8Bytes "HTTP/1.1 500 E\r\nContent-Length:0\r\n\r\n"

/-- A refusal without a length, closed by the device, is accepted. -/
theorem refused_upload_accepted_without_length :
    ∃ (c : BoundedHttpClient) (r : HttpRequest) (a : Attempt) (status : Nat),
      c.successOnResetAfterWrite = true ∧ c.sendRequest r a = .ok () ∧ Ends a.reads ∧
      HasStatus (received a.reads) status ∧ ¬ IsSuccess status ∧ c.requestOnce r a = .ok [] := by
  refine ⟨rebootClient, upload, answered [readPoll (.ok refusal), readPoll (.ok [])], 500, rfl,
    sendRequest_answered _, trivial, ⟨⟨refusal.take 14, [13, 10], ?_⟩, ?_⟩, by simp [IsSuccess], ?_⟩
  · decide +kernel
  · decide +kernel
  · rw [BoundedHttpClient.requestOnce_of_sent _ (sendRequest_answered _)]
    decide +kernel

/-- The same refusal with a length is an error. -/
theorem refused_upload_with_length :
    ∃ e, rebootClient.requestOnce upload (answered [readPoll (.ok framedRefusal), readPoll (.ok [])]) = .err e := by
  have hl : locateBody framedRefusal = .ok 36 := by decide +kernel
  have hc : httpMessageComplete (framedRefusal ++ []) = .ok true := by decide +kernel
  have hline : framedRefusal ++ [] = framedRefusal.take 14 ++ crlf ++ framedRefusal.drop 16 ∧
      13 ∉ framedRefusal.take 14 := by decide +kernel
  refine (rebootClient.refused_upload rfl upload (answered [readPoll (.ok framedRefusal), readPoll (.ok [])])
    (sendRequest_answered _) trivial 500 ⟨⟨_, _, hline⟩, by decide +kernel⟩ (by simp [IsSuccess])).1 hc ?_
  rintro ⟨start, hl', hchunked, -⟩
  obtain rfl : start = 36 := Except.ok.inj (hl'.symm.trans hl)
  exact absurd hchunked (by decide +kernel)

end WirelessProgrammer
