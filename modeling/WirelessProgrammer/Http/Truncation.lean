import WirelessProgrammer.Http.BodyFraming

/-!
# Truncated responses

A response whose header block declares more bytes than arrive before the connection ends.  No part of it looks complete,
so the read loop goes on to the end of the connection: a reset is an error, but after an orderly close the loop hands over
what it has, and nothing behind it compares that with the declared length.
-/

namespace WirelessProgrammer

/-- A complete header block that declares more bytes than there are behind it. -/
structure Truncated (stream : List UInt8) where
  start : Nat
  declared : Nat
  located : locateBody stream = .ok start
  length : parseContentLength (stream.take start) = some declared
  short : (stream.drop start).length < declared
  /-- What is received is a byte slice. -/
  length_lt : stream.length < 2 ^ 63

namespace Truncated

variable {stream : List UInt8} (t : Truncated stream)

include t in
/-- No part of the stream looks complete. -/
theorem incomplete {buf : List UInt8} (h : buf <+: stream) : httpMessageComplete buf = .ok false := by
  obtain ⟨m, rfl⟩ := h
  cases hl : locateBody buf with
  | error e => simp [httpMessageComplete, hl]
  | ok start =>
    have hle := locateBody_le hl
    have hstart : start = t.start := Except.ok.inj ((locateBody_append hl m).symm.trans t.located)
    have hlength := t.length
    have hshort := t.short
    rw [← hstart, List.take_append_of_le_length hle] at hlength
    rw [← hstart, List.length_drop, List.length_append] at hshort
    have hless : ¬ t.declared ≤ buf.length - start := by omega
    simp only [httpMessageComplete_located hl, hlength, List.length_drop, decide_eq_false hless]

end Truncated

/-! ### The end of the connection -/

/-- The passes read up to an orderly close: none is cancelled or late, and a read only times out while a cancel flag is
armed. -/
def Orderly (armed : Bool) : List ReadPoll → Prop
  | [] => False
  | p :: polls =>
    p.Quiet armed ∧
      match p.call with
      | .ok [] => True
      | .ok (_ :: _) => Orderly armed polls
      | .error e => e.isTimeout = true ∧ armed = true ∧ p.expiredAfter = false ∧ Orderly armed polls

section Client

variable (c : BoundedHttpClient) {stream : List UInt8}

/-- A pass that does not come to its read ends the request. -/
theorem BoundedHttpClient.readLoop_not_quiet {p : ReadPoll} (hp : ¬ p.Quiet c.cancel) {buf : List UInt8}
    (hcomplete : httpMessageComplete buf = .ok false) (polls : List ReadPoll) :
    ∃ e, c.readLoop (p :: polls) buf = .err e := by
  by_cases hcancelled : (c.cancel && p.cancelled) = true
  · exact ⟨ioCancelled, by rw [readLoop, if_pos hcancelled]⟩
  by_cases hsize : c.maxBody < buf.length
  · exact ⟨tooLarge, by rw [readLoop, if_neg hcancelled, if_pos hsize]; rfl⟩
  rw [readLoop, if_neg hcancelled, if_neg hsize]
  simp only [hcomplete]
  by_cases hexpired : p.expired = true
  · exact ⟨_, if_pos hexpired⟩
  rw [if_neg hexpired]
  cases htimeout : p.setTimeout with
  | error e => exact ⟨e, rfl⟩
  | ok u => exact absurd ⟨Bool.eq_false_iff.2 hcancelled, Bool.eq_false_iff.2 hexpired, htimeout⟩ hp

/-- Within the limit, a body is refused for the status alone. -/
theorem BoundedHttpClient.checkBody_eq_err_iff {buf body : List UInt8} (hsize : body.length ≤ c.maxBody) :
    (∃ e, c.checkBody buf body = .err e) ↔ ¬ ∃ status, parseStatus buf = .ok status ∧ IsSuccess status := by
  constructor
  · rintro ⟨e, he⟩ ⟨status, hstatus, hok⟩
    rw [c.checkBody_eq_ok hsize hstatus hok] at he
    cases he
  · intro h
    cases hbody : c.checkBody buf body with
    | ok body' =>
      unfold checkBody at hbody
      rw [if_neg (Nat.not_lt.2 hsize)] at hbody
      obtain ⟨status, hstatus, hbody⟩ := Checked.bind_eq_ok hbody
      cases hparse : parseStatus buf with
      | error e => simp [hparse, Checked.ofExcept] at hstatus
      | ok s =>
        obtain rfl : s = status := by simpa [hparse, Checked.ofExcept] using hstatus
        by_cases hok : IsSuccess s
        · exact absurd ⟨s, rfl, hok⟩ (hparse ▸ h)
        · unfold IsSuccess at hok
          rw [if_pos hok] at hbody
          cases hbody
    | err e => exact ⟨e, rfl⟩
    | panic => exact absurd hbody (c.checkBody_ne_panic buf body)

/-- Within the limit, a response is refused for its chunks or for its status. -/
theorem BoundedHttpClient.responseBody_eq_err_iff {start : Nat} (hlocated : locateBody stream = .ok start)
    (hsize : stream.length ≤ c.maxBody) :
    (∃ e, c.responseBody stream = .err e) ↔
      (isChunked (stream.take start) = true ∧ ∃ e, decodeChunked (stream.drop start) = .err e) ∨
        (¬ OversizedChunk stream ∧ ¬ ∃ status, parseStatus stream = .ok status ∧ IsSuccess status) := by
  have hlimit := c.maxBody_lt
  have hdrop : (stream.drop start).length ≤ stream.length := by
    rw [List.length_drop]
    omega
  have hoversized : OversizedChunk stream ↔
      isChunked (stream.take start) = true ∧ decodeChunked (stream.drop start) = .panic := by
    have hpanic := decodeChunked_ne_panic ⟨stream.drop start, by omega⟩
    constructor
    · rintro ⟨start', hl, hc, hs⟩
      obtain rfl : start' = start := Except.ok.inj (hl.symm.trans hlocated)
      exact ⟨hc, not_not.1 (mt hpanic.1 hs)⟩
    · rintro ⟨hc, hp⟩
      exact ⟨start, hlocated, hc, fun hs => hpanic.2 hs hp⟩
  rw [c.responseBody_located hlocated]
  by_cases hc : isChunked (stream.take start) = true
  · rw [if_pos hc]
    cases hd : decodeChunked (stream.drop start) with
    | ok body =>
      obtain ⟨bytes, rest, heq, hwhole⟩ := (decodeChunked_eq_ok_iff (by omega)).1 hd
      have hle := hwhole.length_le
      have hlen := congrArg List.length heq
      rw [List.length_append] at hlen
      rw [Checked.ok_bind, c.checkBody_eq_err_iff (by omega), hoversized, hd]
      simp
    | err e => simp [hc]
    | panic => simp [hoversized, hc, hd]
  · rw [if_neg hc, Checked.ok_bind, c.checkBody_eq_err_iff (by omega), hoversized]
    simp [hc]

variable (hflag : c.successOnResetAfterWrite = false) (t : Truncated stream)

include hflag t

/-- The loop hands over the stream after an orderly close, and fails after any other end. -/
theorem readLoop_truncated {polls : List ReadPoll} (hends : Ends polls) {buf : List UInt8}
    (hstream : buf ++ received polls = stream) :
    (Orderly c.cancel polls ∧ stream.length ≤ c.maxBody ∧ c.readLoop polls buf = .ok (.response stream)) ∨
      (¬ (Orderly c.cancel polls ∧ stream.length ≤ c.maxBody) ∧ ∃ e, c.readLoop polls buf = .err e) := by
  induction polls generalizing buf with
  | nil => exact hends.elim
  | cons p polls ih =>
    have hlook : httpMessageComplete buf = .ok false := t.incomplete ⟨_, hstream⟩
    by_cases hp : p.Quiet c.cancel
    swap
    · exact .inr ⟨fun h => hp h.1.1, c.readLoop_not_quiet hp hlook polls⟩
    by_cases hsize : c.maxBody < buf.length
    · refine .inr ⟨fun h => ?_, tooLarge, (c.readLoop_stops ⟨p, polls, rfl, hp.cancelled⟩).1 hsize⟩
      have hle := h.2
      rw [← hstream, List.length_append] at hle
      omega
    rw [c.readLoop_reads hp (Nat.not_lt.1 hsize) hlook, Orderly, and_iff_right hp]
    rw [Ends] at hends
    rw [received] at hstream
    cases hcall : p.call with
    | ok data =>
      cases data with
      | nil =>
        simp only [hcall, List.append_nil] at hstream ⊢
        subst hstream
        refine .inl ⟨trivial, Nat.not_lt.1 hsize, ?_⟩
        simp [BoundedHttpClient.closed, hlook, hflag, Io.ofChecked]
      | cons b data =>
        simp only [hcall] at hends hstream ⊢
        rw [← List.append_assoc] at hstream
        exact ih hends hstream
    | error e =>
      simp only [hcall] at hends hstream ⊢
      by_cases htime : e.isTimeout = true
      · rw [if_pos htime] at hends hstream
        by_cases hagain : c.cancel = true ∧ p.expiredAfter = false
        · rw [if_pos (by simp [htime, hagain])]
          simpa only [htime, hagain, true_and] using ih hends hstream
        · refine .inr ⟨fun h => hagain ⟨h.1.2.1, h.1.2.2.1⟩, timedOut "read deadline elapsed", ?_⟩
          rw [if_neg, if_pos htime]
          simpa [htime] using hagain
      · rw [if_neg htime] at hends
        refine .inr ⟨fun h => htime h.1.1, e.within "read", ?_⟩
        rw [if_neg (by simp [htime]), if_neg htime, if_pos hends]
        simp [BoundedHttpClient.closed, hlook, hflag, Io.ofChecked]

/-! ### Requests -/

/-- A truncated response is an error exactly if the connection does not end with an orderly close, or what has arrived is
refused for another reason: its size, its chunks or its status. -/
theorem requestOnce_truncated_iff {r : HttpRequest} {a : Attempt} (hsent : c.sendRequest r a = .ok ())
    (hends : Ends a.reads) (hreceived : received a.reads = stream) :
    (∃ e, c.requestOnce r a = .err e) ↔
      ¬ Orderly c.cancel a.reads ∨ c.maxBody < stream.length ∨
        (isChunked (stream.take t.start) = true ∧ ∃ e, decodeChunked (stream.drop t.start) = .err e) ∨
        (¬ OversizedChunk stream ∧ ¬ ∃ status, parseStatus stream = .ok status ∧ IsSuccess status) := by
  rw [c.requestOnce_of_sent hsent]
  rcases readLoop_truncated c hflag t hends ((List.nil_append _).trans hreceived) with
    ⟨horderly, hsize, hloop⟩ | ⟨hfails, e, hloop⟩
  · have hanswer : (∃ e, Io.ofChecked (c.responseBody stream) = .err e) ↔ ∃ e, c.responseBody stream = .err e := by
      cases c.responseBody stream <;> simp [Io.ofChecked]
    rw [hloop, Io.ok_bind, hanswer, c.responseBody_eq_err_iff t.located hsize, or_iff_right (not_not.2 horderly),
      or_iff_right (Nat.not_lt.2 hsize)]
  · rw [hloop, Io.err_bind]
    refine iff_of_true ⟨e, rfl⟩ ?_
    by_cases horderly : Orderly c.cancel a.reads
    · exact .inr (.inl (Nat.not_le.1 fun hsize => hfails ⟨horderly, hsize⟩))
    · exact .inl horderly

end Client

private def partOfTen : List UInt8 := Text.utf8Bytes "HTTP/1.1 200 OK\r\nContent-Length: 10\r\n\r\npart"

private def truncatedPart : Truncated partOfTen where
  start := 39
  declared := 10
  located := by decide +kernel
  length := by decide +kernel
  short := by decide +kernel
  length_lt := by decide +kernel

/-- Four of ten bytes and an orderly close are a body. -/
theorem truncated_body_accepted :
    ∃ (c : BoundedHttpClient) (r : HttpRequest) (a : Attempt) (stream : List UInt8) (t : Truncated stream),
      c.successOnResetAfterWrite = false ∧ c.sendRequest r a = .ok () ∧ Ends a.reads ∧ received a.reads = stream ∧
      c.requestOnce r a = .ok (stream.drop t.start) := by
  have hsent := deviceClient.sendRequest_smooth readStatus (readPass (.ok partOfTen) :: closing)
  refine ⟨deviceClient, readStatus, _, partOfTen, truncatedPart, rfl, hsent, trivial, List.append_nil _, ?_⟩
  rw [deviceClient.requestOnce_of_sent hsent]
  decide +kernel

/-- Four of ten bytes and a reset are an error. -/
theorem truncated_body_reset :
    ∃ e, deviceClient.requestOnce readStatus
      (deviceClient.smooth readStatus [readPass (.ok partOfTen), readPass (.error ⟨.connectionReset, "reset"⟩)]) =
        .err e := by
  refine (requestOnce_truncated_iff deviceClient rfl truncatedPart (deviceClient.sendRequest_smooth readStatus _) ?_
    (List.append_nil _)).2 (.inl fun h => ?_)
  · exact (by decide : IoError.isReset ⟨.connectionReset, "reset"⟩ = true)
  · exact absurd h.2.2.1 (by decide)

end WirelessProgrammer
