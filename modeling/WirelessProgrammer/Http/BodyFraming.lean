import WirelessProgrammer.Http.Splitting

/-!
# Framed bodies and pieces

A stream that starts with a complete response, received in any pieces.  The client stops where `http_message_complete` says
so, by `Content-Length` if there is one, and takes the body to be everything behind the header block, or what the chunked
decoder makes of it.  `requestOnce_body_iff` says for which pieces the two agree on the framed body, and `size_limit_iff` for
which the limit on the size is a limit on that body.
-/

namespace WirelessProgrammer

/-! ### Complete responses -/

/-- `Framing head message body`: behind the header block, the body is framed as the message. -/
inductive Framing (head : List UInt8) : List UInt8 → List UInt8 → Prop
  | chunked {message body : List UInt8} (h : isChunked head = true) (hbody : WholeBody message body) :
      Framing head message body
  | sized {body : List UInt8} (h : isChunked head = false) (hlen : parseContentLength head = some body.length) :
      Framing head body body

namespace Framing

variable {head message body : List UInt8}

private theorem chunked_or_sized (h : Framing head message body) :
    (isChunked head = true ∧ WholeBody message body) ∨
      (isChunked head = false ∧ parseContentLength head = some message.length ∧ message = body) := by
  cases h with
  | chunked hc hbody => exact .inl ⟨hc, hbody⟩
  | sized hc hlen => exact .inr ⟨hc, hlen, rfl⟩

private theorem length_le (h : Framing head message body) : body.length ≤ message.length := by
  cases h with
  | chunked hc hbody => exact hbody.length_le
  | sized hc hlen => exact Nat.le_refl _

end Framing

/-- A complete response with a status of success, and what comes behind it. -/
structure CompleteResponse (stream : List UInt8) where
  head : List UInt8
  message : List UInt8
  body : List UInt8
  rest : List UInt8
  stream_eq : stream = head ++ (message ++ rest)
  located : locateBody head = .ok head.length
  framing : Framing head message body
  success : ∃ status, parseStatus head = .ok status ∧ IsSuccess status
  /-- What is received is a byte slice. -/
  length_lt : stream.length < 2 ^ 63

namespace CompleteResponse

variable {stream : List UInt8} (resp : CompleteResponse stream)

/-- From how many bytes on the client takes the response to be complete. -/
def need : Nat := resp.head.length + (parseContentLength resp.head).getD resp.message.length

/-- How many bytes have been received when the client looks at the response. -/
def stop (pieces : List (List UInt8)) : Nat := stopAt resp.need 0 pieces

private theorem need_of_sized (h : isChunked resp.head = false) :
    resp.need = resp.head.length + resp.message.length := by
  rcases resp.framing.chunked_or_sized with ⟨hc, -⟩ | ⟨-, hlen, -⟩
  · exact absurd (hc.symm.trans h) Bool.noConfusion
  · rw [need, hlen, Option.getD_some]

private theorem drop_take_message :
    (stream.take (resp.head.length + resp.message.length)).drop resp.head.length = resp.message := by
  have htake : stream.take (resp.head.length + resp.message.length) = resp.head ++ resp.message := by
    calc stream.take (resp.head.length + resp.message.length)
        = (resp.head ++ (resp.message ++ resp.rest)).take (resp.head.length + resp.message.length) :=
          congrArg (List.take _) resp.stream_eq
      _ = resp.head ++ resp.message := by rw [List.take_length_add_append, List.take_left]
  rw [htake, List.drop_left]

/-- A part of the stream that is not shorter than the header block. -/
theorem split {buf : List UInt8} (h : buf <+: stream) (hle : resp.head.length ≤ buf.length) :
    ∃ q, buf = resp.head ++ q ∧ q <+: resp.message ++ resp.rest := by
  rw [resp.stream_eq] at h
  rcases prefix_append_cases h with ⟨hshort, hne⟩ | hlong
  · exact absurd (hshort.eq_of_length_le hle) hne
  · exact hlong

/-- A part of the stream is taken to be complete from `need` bytes on. -/
theorem complete {buf : List UInt8} (h : buf <+: stream) :
    httpMessageComplete buf = .ok (resp.need ≤ buf.length) := by
  by_cases hle : resp.head.length ≤ buf.length
  · obtain ⟨q, rfl, hq⟩ := resp.split h hle
    have hlt := resp.length_lt
    have hlen := congrArg List.length resp.stream_eq
    simp only [List.length_append] at hlen
    rw [httpMessageComplete_located (locateBody_append resp.located q), List.take_left, List.drop_left, List.length_append,
      need]
    cases hcl : parseContentLength resp.head with
    | some len => simp
    | none =>
      obtain ⟨hchunked, hbody⟩ : isChunked resp.head = true ∧ WholeBody resp.message resp.body := by
        rcases resp.framing.chunked_or_sized with hchunked | ⟨-, hsize, -⟩
        · exact hchunked
        · exact absurd (hcl.symm.trans hsize) nofun
      simp only [hchunked, if_true, Option.getD_none]
      rcases prefix_append_cases hq with ⟨hshort, hne⟩ | ⟨q', rfl, -⟩
      · obtain ⟨message, -, he⟩ := hbody.refuses_short hshort hne (by omega)
        have hless : ¬ resp.message.length ≤ q.length := fun hle => hne (hshort.eq_of_length_le hle)
        rw [he, decide_eq_false (by omega)]
      · rw [hbody.decodes q' (by omega), decide_eq_true (by rw [List.length_append]; omega)]
  · -- without the whole header block there is no blank line
    have hneed : resp.head.length ≤ resp.need := Nat.le_add_right ..
    rw [decide_eq_false (by omega)]
    cases hl : locateBody buf with
    | error e => simp [httpMessageComplete, hl]
    | ok start =>
      have hbuf : buf <+: resp.head := by
        rcases List.prefix_or_prefix_of_prefix h ⟨_, resp.stream_eq.symm⟩ with hshort | hlong
        · exact hshort
        · exact absurd hlong.length_le hle
      obtain ⟨m, hm⟩ := hbuf
      have hstart := locateBody_append hl m
      rw [hm, resp.located] at hstart
      have := locateBody_le hl
      cases hstart
      omega

private theorem stop_le (pieces : List (List UInt8)) (h : pieces.flatten = stream) :
    resp.stop pieces ≤ stream.length := by
  have := stopAt_le resp.need 0 pieces
  rw [h, Nat.zero_add] at this
  exact this

/-- Short of a complete response everything has been received. -/
theorem stop_of_lt {pieces : List (List UInt8)} (h : resp.stop pieces < resp.need) :
    resp.stop pieces = pieces.flatten.length := by
  rw [stop, stopAt_of_lt h, Nat.zero_add]

private theorem length_le : resp.head.length + resp.message.length ≤ stream.length := by
  have hlength := congrArg List.length resp.stream_eq
  simp only [List.length_append] at hlength
  omega

/-- When less than the body has been received at that point, it is a chunked one that looked complete before its end. -/
theorem chunked_of_short (pieces : List (List UInt8)) (h : pieces.flatten = stream)
    (hshort : resp.stop pieces < resp.body.length) :
    isChunked resp.head = true ∧ resp.need ≤ resp.stop pieces ∧
      resp.stop pieces < resp.head.length + resp.message.length := by
  have hbody := resp.framing.length_le
  have hlength := resp.length_le
  have hall : resp.stop pieces < resp.need → resp.stop pieces = stream.length := fun hlt => h ▸ resp.stop_of_lt hlt
  cases hc : isChunked resp.head with
  | true => exact ⟨rfl, by omega, by omega⟩
  | false =>
    have hsized := resp.need_of_sized hc
    omega

end CompleteResponse

/-! ### Errors about the size -/

def bodyTooLarge : IoError := invalidData "response body exceeds max body size"

/-- The errors that speak of the size of a response. -/
def IsSizeError (e : IoError) : Prop := e = tooLarge ∨ e = bodyTooLarge

private theorem IsSizeError.kind_eq {e : IoError} (h : IsSizeError e) : e.kind = .invalidData := by
  rcases h with rfl | rfl <;> rfl

/-- An error of the socket is none: its text starts with the call. -/
theorem not_isSizeError_read (e : IoError) : ¬ IsSizeError (e.within "read") := by
  intro h
  have hthird : (e.within "read").message.toList[2]? = some 'a' := by
    simp only [IoError.within, String.toList_append, List.append_assoc]
    exact List.getElem?_append_left (by decide)
  rcases h with h | h
  · rw [h] at hthird
    exact absurd hthird (by decide)
  · rw [h] at hthird
    exact absurd hthird (by decide)

private theorem not_isSizeError_truncated {message : String}
    (h : message ∈ ["truncated chunk size", "truncated chunk data"]) : ¬ IsSizeError (invalidData message) := by
  rintro (heq | heq)
  all_goals
    obtain rfl : message = _ := congrArg IoError.message heq
    exact absurd h (by decide)

/-! ### The response that the client looks at -/

section Client

variable (c : BoundedHttpClient) {stream : List UInt8} (resp : CompleteResponse stream) {buf : List UInt8}

namespace CompleteResponse

/-- Within the limit, a body that passes the decoder passes the checks on it. -/
private theorem checkBody_prefix (h : buf <+: stream) (hle : resp.head.length ≤ buf.length) {body : List UInt8}
    (hsize : body.length ≤ c.maxBody) : c.checkBody buf body = .ok body := by
  obtain ⟨q, rfl, -⟩ := resp.split h hle
  obtain ⟨status, hstatus, hok⟩ := resp.success
  rw [← parseStatus_append (cr_mem_of_locateBody resp.located) q] at hstatus
  exact c.checkBody_eq_ok hsize hstatus hok

/-- The whole chunked body is there. -/
theorem responseBody_chunked (hc : isChunked resp.head = true) (h : buf <+: stream) (hsmall : buf.length ≤ c.maxBody)
    (hmessage : resp.head.length + resp.message.length ≤ buf.length) : c.responseBody buf = .ok resp.body := by
  have hle : resp.head.length ≤ buf.length := by omega
  obtain ⟨q, hq, hpre⟩ := resp.split h hle
  have hlt := resp.length_lt
  have hlen := congrArg List.length resp.stream_eq
  rcases resp.framing.chunked_or_sized with ⟨-, hbody⟩ | ⟨hnot, -⟩
  · have hbound := hbody.length_le
    rw [c.responseBody_located (hq ▸ locateBody_append resp.located q)]
    rw [hq, List.length_append] at hmessage
    simp only [List.length_append] at hlen
    rcases prefix_append_cases hpre with ⟨hshort, hne⟩ | ⟨q', hq', -⟩
    · exact absurd (hshort.eq_of_length_le (by omega)) hne
    · have hdecode : decodeChunked (buf.drop resp.head.length) = .ok resp.body := by
        rw [hq, List.drop_left, hq']
        exact hbody.decodes q' (by omega)
      have htake : buf.take resp.head.length = resp.head := by rw [hq, List.take_left]
      rw [htake, if_pos hc, hdecode, Checked.ok_bind]
      refine resp.checkBody_prefix c h hle ?_
      rw [hq, List.length_append] at hsmall
      omega
  · exact absurd (hc.symm.trans hnot) Bool.noConfusion

/-- A part of the chunked body. -/
theorem responseBody_short (hc : isChunked resp.head = true) (h : buf <+: stream) (hle : resp.head.length ≤ buf.length)
    (hmessage : buf.length < resp.head.length + resp.message.length) :
    ∃ message ∈ ["truncated chunk size", "truncated chunk data"], c.responseBody buf = .err (invalidData message) := by
  obtain ⟨q, rfl, hpre⟩ := resp.split h hle
  have hlt := resp.length_lt
  have hlen := congrArg List.length resp.stream_eq
  simp only [List.length_append] at hlen hmessage
  rcases resp.framing.chunked_or_sized with ⟨-, hbody⟩ | ⟨hnot, -⟩
  · rw [c.responseBody_located (locateBody_append resp.located q), List.take_left, List.drop_left, if_pos hc]
    rcases prefix_append_cases hpre with ⟨hshort, hne⟩ | ⟨q', rfl, -⟩
    · obtain ⟨message, hmem, he⟩ := hbody.refuses_short hshort hne (by omega)
      exact ⟨message, hmem, by rw [he, Checked.err_bind]⟩
    · rw [List.length_append] at hmessage
      omega
  · exact absurd (hc.symm.trans hnot) Bool.noConfusion

/-- Without chunks it is everything behind the header block. -/
theorem responseBody_sized (hc : isChunked resp.head = false) (h : buf <+: stream) (hsmall : buf.length ≤ c.maxBody)
    (hle : resp.head.length ≤ buf.length) : c.responseBody buf = .ok (buf.drop resp.head.length) := by
  obtain ⟨q, hq, -⟩ := resp.split h hle
  have htake : buf.take resp.head.length = resp.head := by rw [hq, List.take_left]
  rw [c.responseBody_located (hq ▸ locateBody_append resp.located q), htake, hc, if_neg Bool.false_ne_true,
    Checked.ok_bind]
  refine resp.checkBody_prefix c h hle ?_
  rw [List.length_drop]
  omega

/-- Within the limit, the client takes the body out of a part of the stream exactly if the message is there and, unless it
is chunked, nothing else. -/
theorem responseBody_eq_ok_iff (h : buf <+: stream) (hsmall : buf.length ≤ c.maxBody)
    (hle : resp.head.length ≤ buf.length) :
    Io.ofChecked (c.responseBody buf) = .ok resp.body ↔
      resp.head.length + resp.message.length ≤ buf.length ∧
        (isChunked resp.head = false → buf.length = resp.head.length + resp.message.length) := by
  cases hc : isChunked resp.head with
  | true =>
    by_cases hwhole : resp.head.length + resp.message.length ≤ buf.length
    · rw [resp.responseBody_chunked c hc h hsmall hwhole]
      exact iff_of_true rfl ⟨hwhole, Bool.noConfusion⟩
    · obtain ⟨message, -, he⟩ := resp.responseBody_short c hc h hle (Nat.not_le.1 hwhole)
      rw [he]
      exact iff_of_false nofun fun hbody => hwhole hbody.1
  | false =>
    have hmessage : resp.message = resp.body := by
      rcases resp.framing.chunked_or_sized with ⟨hchunked, -⟩ | ⟨-, -, hmessage⟩
      · exact absurd (hchunked.symm.trans hc) Bool.noConfusion
      · exact hmessage
    rw [resp.responseBody_sized c hc h hsmall hle, ← hmessage]
    constructor
    · intro hbody
      have hlength := congrArg List.length (Io.ok.inj hbody)
      rw [List.length_drop] at hlength
      exact ⟨by omega, fun _ => by omega⟩
    · rintro ⟨-, hexact⟩
      rw [List.prefix_iff_eq_take.1 h, hexact rfl, resp.drop_take_message]
      rfl

/-- Within the limit, looking at a part of the stream never fails for the size. -/
theorem no_size_error (h : buf <+: stream) (hsmall : buf.length ≤ c.maxBody) (hle : resp.head.length ≤ buf.length)
    {e : IoError} (he : Io.ofChecked (c.responseBody buf) = .err e) : ¬ IsSizeError e := by
  cases hc : isChunked resp.head with
  | true =>
    by_cases hwhole : resp.head.length + resp.message.length ≤ buf.length
    · rw [resp.responseBody_chunked c hc h hsmall hwhole] at he
      cases he
    · obtain ⟨message, hmem, hshort⟩ := resp.responseBody_short c hc h hle (Nat.not_le.1 hwhole)
      rw [hshort] at he
      cases he
      exact not_isSizeError_truncated hmem
  | false =>
    rw [resp.responseBody_sized c hc h hsmall hle] at he
    cases he

end CompleteResponse

end Client

/-! ### Requests -/

/-- The client stops within the limit, with the whole message, and, unless the body is chunked, with nothing more. -/
structure CompleteResponse.StopsWhole {stream : List UInt8} (resp : CompleteResponse stream) (limit : Nat)
    (pieces : List (List UInt8)) : Prop where
  small : resp.stop pieces ≤ limit
  enough : resp.need ≤ resp.stop pieces
  whole : resp.head.length + resp.message.length ≤ resp.stop pieces
  exact : isChunked resp.head = false → resp.stop pieces = resp.head.length + resp.message.length

/-- The passes after the stream bring no data; the first of them is not cancelled. -/
def Silent (armed : Bool) (tail : List ReadPoll) : Prop :=
  GoesOn armed tail ∧ ∀ p ∈ tail, p.setTimeout = .ok () ∧ ∀ b data, p.call ≠ .ok (b :: data)

/-- Passes that bring no data leave what there is, or fail for a reason of their own. -/
theorem BoundedHttpClient.readLoop_silent (c : BoundedHttpClient) {tail : List ReadPoll} {buf : List UInt8}
    (htail : ∀ p ∈ tail, p.setTimeout = .ok () ∧ ∀ b data, p.call ≠ .ok (b :: data)) (hsmall : buf.length ≤ c.maxBody)
    (hcomplete : httpMessageComplete buf = .ok false) :
    (∃ e, c.readLoop tail buf = .err e ∧ ¬ IsSizeError e) ∨ c.readLoop tail buf = .running ∨
      c.readLoop tail buf = .ok .reboot ∨ c.readLoop tail buf = .ok (.response buf) := by
  have hclosed : ∀ e, (∃ e', c.closed buf e = .err e' ∧ ¬ IsSizeError e') ∨ c.closed buf e = .ok .reboot ∨
      c.closed buf e = .ok (.response buf) := by
    intro e
    simp only [closed, hcomplete, Io.ofChecked, Io.ok_bind, Bool.false_eq_true, if_false]
    by_cases hflag : c.successOnResetAfterWrite = true
    · exact .inr (.inl (by rw [if_pos hflag]; rfl))
    · rw [if_neg hflag]
      cases e with
      | none => exact .inr (.inr rfl)
      | some e => exact .inl ⟨_, rfl, not_isSizeError_read e⟩
  have htimed : ∀ message, ¬ IsSizeError (timedOut message) := by
    intro message h
    cases h.kind_eq
  induction tail with
  | nil => exact .inr (.inl rfl)
  | cons p tail ih =>
    obtain ⟨htimeout, hcall⟩ := htail p List.mem_cons_self
    have ih := ih fun q hq => htail q (List.mem_cons_of_mem p hq)
    by_cases hcancelled : (c.cancel && p.cancelled) = true
    · refine .inl ⟨ioCancelled, ?_, ?_⟩
      swap
      · intro h
        cases h.kind_eq
      rw [readLoop, if_pos hcancelled]
    rw [readLoop, if_neg hcancelled, if_neg (Nat.not_lt.2 hsmall)]
    simp only [hcomplete, htimeout]
    by_cases hexpired : p.expired = true
    · exact .inl ⟨_, if_pos hexpired, htimed _⟩
    rw [if_neg hexpired]
    split
    · exact (hclosed none).imp_right .inr
    · rename_i b data hdata
      exact absurd hdata (hcall b data)
    · rename_i e _
      by_cases hagain : (e.isTimeout && c.cancel && !p.expiredAfter) = true
      · rw [if_pos hagain]
        exact ih
      rw [if_neg hagain]
      by_cases htime : e.isTimeout = true
      · exact .inl ⟨_, if_pos htime, htimed _⟩
      rw [if_neg htime]
      by_cases hreset : e.isReset = true
      · rw [if_pos hreset]
        exact (hclosed (some e)).imp_right .inr
      · exact .inl ⟨_, if_neg hreset, not_isSizeError_read e⟩

/-- A pass at which the deadline has passed. -/
private def late : List ReadPoll := [⟨⟨false, true, .ok (), .ok []⟩, false⟩]

private theorem silent_late (armed : Bool) : Silent armed late := by
  refine ⟨⟨_, [], rfl, Bool.and_false _⟩, fun p hp => ?_⟩
  obtain rfl := List.mem_singleton.1 hp
  exact ⟨rfl, fun _ _ => nofun⟩

section Requests

variable (c : BoundedHttpClient) {r : HttpRequest} {a : Attempt} (hsent : c.sendRequest r a = .ok ())
  {polls : List ReadPoll} {pieces : List (List UInt8)} (hreads : Gives c.cancel polls pieces)
  (resp : CompleteResponse pieces.flatten)

/-- What has been received when the client looks at the response. -/
theorem take_stop : pieces.flatten.take (resp.stop pieces) <+: pieces.flatten := List.take_prefix ..

private theorem length_take_stop : (pieces.flatten.take (resp.stop pieces)).length = resp.stop pieces := by
  rw [List.length_take]
  exact Nat.min_eq_left (resp.stop_le pieces rfl)

include hsent hreads

/-- What a request comes to that reads the pieces, and then goes through the passes of the tail. -/
theorem requestOnce_pieces {tail : List ReadPoll} (htail : GoesOn c.cancel tail) :
    c.requestOnce r { a with reads := polls ++ tail } =
      if c.maxBody < resp.stop pieces then .err tooLarge
      else if resp.need ≤ resp.stop pieces then .ofChecked (c.responseBody (pieces.flatten.take (resp.stop pieces)))
      else c.readLoop tail pieces.flatten >>= fun e =>
        match e with
        | .reboot => .ok []
        | .response buf => .ofChecked (c.responseBody buf) := by
  have hsent' : c.sendRequest r { a with reads := polls ++ tail } = .ok () := hsent
  have hstop : stopAt resp.need ([] : List UInt8).length pieces = resp.stop pieces := rfl
  rw [c.requestOnce_of_sent hsent', c.readLoop_pieces (fun buf h _ => resp.complete h) (List.nil_append _) hreads htail,
    hstop]
  by_cases hlarge : c.maxBody < resp.stop pieces
  · rw [if_pos hlarge, if_pos hlarge]
    rfl
  rw [if_neg hlarge, if_neg hlarge]
  by_cases hneed : resp.need ≤ resp.stop pieces
  · rw [if_pos hneed, if_pos hneed]
    rfl
  · rw [if_neg hneed]
    exact (if_neg hneed).symm

/-- For pieces of a stream with a complete response, whatever comes after them: the request returns the framed body exactly
if the client stops with it. -/
theorem requestOnce_body_iff :
    (∀ tail, GoesOn c.cancel tail → c.requestOnce r { a with reads := polls ++ tail } = .ok resp.body) ↔
      resp.StopsWhole c.maxBody pieces := by
  have hlength := length_take_stop resp
  have hhead : resp.head.length ≤ resp.need := Nat.le_add_right ..
  constructor
  · intro h
    have hok := h late (silent_late _).1
    rw [requestOnce_pieces c hsent hreads resp (silent_late _).1] at hok
    by_cases hlarge : c.maxBody < resp.stop pieces
    · rw [if_pos hlarge] at hok
      cases hok
    rw [if_neg hlarge] at hok
    by_cases hneed : resp.need ≤ resp.stop pieces
    · rw [if_pos hneed, resp.responseBody_eq_ok_iff c (take_stop resp) (by omega) (by omega), hlength] at hok
      exact ⟨Nat.not_lt.1 hlarge, hneed, hok.1, hok.2⟩
    · -- the deadline passes before the response looks complete
      rw [if_neg hneed] at hok
      have hall := resp.stop_of_lt (Nat.not_le.1 hneed)
      have hlook := resp.complete List.prefix_rfl
      rw [← hall, decide_eq_false hneed] at hlook
      have hloop : c.readLoop late pieces.flatten = .err (timedOut "request deadline elapsed") := by
        rw [late, BoundedHttpClient.readLoop, if_neg (by simp), if_neg (by omega)]
        simp only [hlook]
        rfl
      rw [hloop] at hok
      cases hok
  · intro h tail htail
    have hsmall := h.small
    have henough := h.enough
    rw [requestOnce_pieces c hsent hreads resp htail, if_neg (Nat.not_lt.2 hsmall), if_pos henough,
      resp.responseBody_eq_ok_iff c (take_stop resp) (by omega) (by omega), hlength]
    exact ⟨h.whole, h.exact⟩

/-- The size of the body decides whether the request fails for the size exactly if what the client has received of a body
within the limit is within the limit itself. -/
theorem size_limit_iff :
    (∀ tail, Silent c.cancel tail →
        (resp.body.length ≤ c.maxBody →
          ∀ e, c.requestOnce r { a with reads := polls ++ tail } = .err e → ¬ IsSizeError e) ∧
        (c.maxBody < resp.body.length → ∃ e, c.requestOnce r { a with reads := polls ++ tail } = .err e)) ↔
      (resp.body.length ≤ c.maxBody → resp.stop pieces ≤ c.maxBody) := by
  have hpre := take_stop resp
  have hlength := length_take_stop resp
  have hhead : resp.head.length ≤ resp.need := Nat.le_add_right ..
  constructor
  · intro h hsize
    by_contra hlarge
    refine (h late (silent_late _)).1 hsize tooLarge ?_ (.inl rfl)
    rw [requestOnce_pieces c hsent hreads resp (silent_late _).1, if_pos (Nat.not_le.1 hlarge)]
  · intro h tail htail
    rw [requestOnce_pieces c hsent hreads resp htail.1]
    constructor
    · intro hsize e he
      have hsmall := h hsize
      rw [if_neg (Nat.not_lt.2 hsmall)] at he
      by_cases hneed : resp.need ≤ resp.stop pieces
      · rw [if_pos hneed] at he
        exact resp.no_size_error c hpre (by omega) (by omega) he
      rw [if_neg hneed] at he
      -- the stream is all there, and the response does not look complete
      have hall := resp.stop_of_lt (Nat.not_le.1 hneed)
      have hlook := resp.complete List.prefix_rfl
      have hstream := resp.length_le
      rw [← hall, decide_eq_false hneed] at hlook
      rcases c.readLoop_silent htail.2 (hall ▸ hsmall) hlook with ⟨e', hloop, hsize'⟩ | hloop | hloop | hloop
      · rw [hloop] at he
        cases he
        exact hsize'
      · rw [hloop] at he
        cases he
      · rw [hloop] at he
        cases he
      · rw [hloop] at he
        exact resp.no_size_error c List.prefix_rfl (by omega) (by omega) he
    · intro hsize
      by_cases hlarge : c.maxBody < resp.stop pieces
      · exact ⟨_, if_pos hlarge⟩
      -- what has been received is shorter than the body, so it is a part of a chunked one
      obtain ⟨hc, hneed, hshort⟩ := resp.chunked_of_short pieces rfl (by omega)
      obtain ⟨message, -, he⟩ := resp.responseBody_short c hc hpre (by omega) (by omega)
      exact ⟨_, by rw [if_neg hlarge, if_pos hneed, he]; rfl⟩

end Requests

/-! ### One response, two splittings -/

def readStatus : HttpRequest := ⟨"GET", "/api/status", none⟩

private def okHead : List UInt8 := Text.utf8Bytes "HTTP/1.1 200 OK\r\nContent-Length: 2\r\n\r\n"

private def okBody : List UInt8 := Text.utf8Bytes "ok"

private def behind : List UInt8 := Text.utf8Bytes "!!"

private def smallResponse {stream : List UInt8} (rest : List UInt8) (h : stream = okHead ++ (okBody ++ rest))
    (hlt : stream.length < 2 ^ 63) : CompleteResponse stream where
  head := okHead
  message := okBody
  body := okBody
  rest := rest
  stream_eq := h
  located := by decide +kernel
  framing := .sized (by decide +kernel) (by decide +kernel)
  success := ⟨200, by decide +kernel, by simp [IsSuccess]⟩
  length_lt := hlt

abbrev deviceClient : BoundedHttpClient := .new "192.168.4.1" 80

def readsOf (pieces : List (List UInt8)) : List ReadPoll := pieces.map fun piece => readPass (.ok piece)

def closing : List ReadPoll := [readPass (.ok [])]

/-- The bytes behind a body with a length become part of it if they come in the same read, and do not if they come in the
next one. -/
theorem requestOnce_depends_on_pieces :
    ∃ (c : BoundedHttpClient) (r : HttpRequest) (a : Attempt) (pieces pieces' : List (List UInt8))
      (polls polls' tail : List ReadPoll) (resp : CompleteResponse pieces.flatten),
      c.sendRequest r a = .ok () ∧ Gives c.cancel polls pieces ∧ Gives c.cancel polls' pieces' ∧ GoesOn c.cancel tail ∧
      pieces.flatten = pieces'.flatten ∧ pieces.flatten.length ≤ c.maxBody ∧ isChunked resp.head = false ∧
      c.requestOnce r { a with reads := polls ++ tail } = .ok (resp.body ++ resp.rest) ∧ resp.rest ≠ [] ∧
      c.requestOnce r { a with reads := polls' ++ tail } = .ok resp.body := by
  have hsent : ∀ reads, deviceClient.sendRequest readStatus
      { deviceClient.smooth readStatus [] with reads := reads } = .ok () :=
    fun reads => deviceClient.sendRequest_smooth readStatus reads
  refine ⟨deviceClient, readStatus, deviceClient.smooth readStatus [], [okHead ++ (okBody ++ behind)],
    [okHead ++ okBody, behind], readsOf [okHead ++ (okBody ++ behind)], readsOf [okHead ++ okBody, behind], closing,
    smallResponse behind (List.append_nil _) (by decide +kernel), hsent [], reads_readPass _ (by decide +kernel),
    reads_readPass _ (by decide +kernel), ⟨_, _, rfl, rfl⟩, by decide +kernel, by decide +kernel, by decide +kernel, ?_,
    by decide +kernel, ?_⟩
  · rw [deviceClient.requestOnce_of_sent (hsent _)]
    decide +kernel
  · rw [deviceClient.requestOnce_of_sent (hsent _)]
    decide +kernel

/-- With the header block and the body in reads of their own the body comes back whatever follows. -/
theorem requestOnce_body_exact :
    CompleteResponse.StopsWhole (@smallResponse [okHead, okBody].flatten [] rfl (by decide +kernel)) MAX_BODY_BYTES
        [okHead, okBody] ∧
      ∀ tail, GoesOn false tail → deviceClient.requestOnce readStatus
        { deviceClient.smooth readStatus [] with reads := readsOf [okHead, okBody] ++ tail } = .ok okBody := by
  have hwhole : CompleteResponse.StopsWhole
      (@smallResponse [okHead, okBody].flatten [] rfl (by decide +kernel)) MAX_BODY_BYTES [okHead, okBody] :=
    ⟨by decide +kernel, by decide +kernel, by decide +kernel, fun _ => by decide +kernel⟩
  exact ⟨hwhole, (requestOnce_body_iff deviceClient (deviceClient.sendRequest_smooth readStatus [])
    (reads_readPass _ (by decide +kernel)) _).2 hwhole⟩

private theorem silent_closing (armed : Bool) : Silent armed closing := by
  refine ⟨⟨_, [], rfl, Bool.and_false _⟩, fun p hp => ?_⟩
  obtain rfl := List.mem_singleton.1 hp
  exact ⟨rfl, fun _ _ => nofun⟩

private def fullHead : List UInt8 := Text.utf8Bytes "HTTP/1.1 200 OK\r\nContent-Length: 65536\r\n\r\n"

private def fullPieces : List (List UInt8) := fullHead :: List.replicate 16 (List.replicate 4096 0)

private theorem fullPieces_flatten : fullPieces.flatten = fullHead ++ List.replicate 65536 0 := by
  rw [fullPieces, List.flatten_cons, List.flatten_replicate_replicate]

private def fullResponse : CompleteResponse fullPieces.flatten where
  head := fullHead
  message := List.replicate 65536 0
  body := List.replicate 65536 0
  rest := []
  stream_eq := by rw [fullPieces_flatten, List.append_nil]
  located := by decide +kernel
  framing := .sized (by decide +kernel) (by rw [List.length_replicate]; decide +kernel)
  success := ⟨200, by decide +kernel, by simp [IsSuccess]⟩
  length_lt := by
    rw [fullPieces_flatten, List.length_append, List.length_replicate]
    decide +kernel

/-- A body of exactly 64 KiB is refused for its size. -/
theorem full_body_too_large :
    ∃ (c : BoundedHttpClient) (r : HttpRequest) (a : Attempt) (pieces : List (List UInt8)) (polls tail : List ReadPoll)
      (resp : CompleteResponse pieces.flatten),
      c.sendRequest r a = .ok () ∧ Gives c.cancel polls pieces ∧ Silent c.cancel tail ∧
      c.maxBody = MAX_BODY_BYTES ∧ resp.body.length ≤ c.maxBody ∧
      c.requestOnce r { a with reads := polls ++ tail } = .err tooLarge := by
  have hsent := deviceClient.sendRequest_smooth readStatus []
  have hreads : Gives deviceClient.cancel (readsOf fullPieces) fullPieces := by
    refine reads_readPass _ fun piece hpiece => ?_
    rcases List.mem_cons.1 hpiece with rfl | hpiece
    · decide +kernel
    · obtain rfl := List.eq_of_mem_replicate hpiece
      exact List.replicate_succ_ne_nil
  have hstop : MAX_BODY_BYTES < fullResponse.stop fullPieces := by
    have hneed : fullResponse.need = fullHead.length + 65536 := by
      rw [CompleteResponse.need_of_sized _ (by decide +kernel)]
      exact congrArg _ List.length_replicate
    have hlength : fullPieces.flatten.length = fullHead.length + 65536 := by
      rw [fullPieces_flatten, List.length_append, List.length_replicate]
    have : fullResponse.need ≤ stopAt fullResponse.need 0 fullPieces := need_le_stopAt (by omega)
    have hhead : 0 < fullHead.length := by decide +kernel
    rw [CompleteResponse.stop]
    simp only [MAX_BODY_BYTES]
    omega
  refine ⟨deviceClient, readStatus, deviceClient.smooth readStatus [], fullPieces, readsOf fullPieces, closing,
    fullResponse, hsent, hreads, silent_closing _, rfl, Nat.le_of_eq List.length_replicate, ?_⟩
  rw [requestOnce_pieces deviceClient hsent hreads fullResponse (silent_closing _).1]
  exact if_pos hstop

/-- A body within the limit that comes with its header block is not refused for its size. -/
theorem small_body_not_too_large :
    ¬ ∃ e, deviceClient.requestOnce readStatus
      { deviceClient.smooth readStatus [] with reads := readsOf [okHead, okBody] ++ closing } = .err e ∧ IsSizeError e := by
  have hreads : Gives deviceClient.cancel (readsOf [okHead, okBody]) [okHead, okBody] := reads_readPass _ (by decide +kernel)
  have hlimits := (size_limit_iff deviceClient (deviceClient.sendRequest_smooth readStatus []) hreads
    (smallResponse [] rfl (by decide +kernel))).2 (fun _ => by decide +kernel) closing (silent_closing _)
  rintro ⟨e, he, hsize⟩
  exact hlimits.1 (by decide +kernel) e he hsize

end WirelessProgrammer
