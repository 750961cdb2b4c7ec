import WirelessProgrammer.Http.Refusal
import WirelessProgrammer.Http.ChunkedCodec

/-!
# A stream in pieces

The read loop looks at what it has received before every read.  So it stops at the first piece with which a response has
become complete, wherever that piece ends; `stopAt` is the number of bytes received by then, and `readLoop_pieces` says
that nothing else about the pieces counts.
-/

namespace WirelessProgrammer

/-! ### Where the loop stops -/

/-- How many bytes have been received, `got` before the pieces, when there are `need` or the pieces have run out. -/
def stopAt (need : Nat) : Nat → List (List UInt8) → Nat
  | got, [] => got
  | got, piece :: pieces => if need ≤ got then got else stopAt need (got + piece.length) pieces

private theorem le_stopAt (need got : Nat) (pieces : List (List UInt8)) : got ≤ stopAt need got pieces := by
  induction pieces generalizing got with
  | nil => exact Nat.le_refl got
  | cons piece pieces ih =>
    unfold stopAt
    split
    · exact Nat.le_refl got
    · have := ih (got + piece.length)
      omega

theorem stopAt_le (need got : Nat) (pieces : List (List UInt8)) :
    stopAt need got pieces ≤ got + pieces.flatten.length := by
  induction pieces generalizing got with
  | nil => exact Nat.le_add_right got _
  | cons piece pieces ih =>
    unfold stopAt
    rw [List.flatten_cons, List.length_append]
    split
    · omega
    · have := ih (got + piece.length)
      omega

private theorem stopAt_of_le {need got : Nat} (h : need ≤ got) (pieces : List (List UInt8)) :
    stopAt need got pieces = got := by
  cases pieces with
  | nil => rfl
  | cons piece pieces => exact if_pos h

/-- Pieces that run out before there is enough have all been received. -/
theorem stopAt_of_lt {need got : Nat} {pieces : List (List UInt8)} (h : stopAt need got pieces < need) :
    stopAt need got pieces = got + pieces.flatten.length := by
  induction pieces generalizing got with
  | nil => rfl
  | cons piece pieces ih =>
    unfold stopAt at h ⊢
    split at h
    · omega
    · rename_i hgot
      rw [if_neg hgot, ih h, List.flatten_cons, List.length_append]
      omega

/-- If the pieces are enough, the loop stops with enough. -/
theorem need_le_stopAt {need got : Nat} {pieces : List (List UInt8)} (h : need ≤ got + pieces.flatten.length) :
    need ≤ stopAt need got pieces := by
  by_contra hlt
  have := stopAt_of_lt (Nat.not_le.1 hlt)
  omega

/-! ### Passes of the loop -/

/-- Nothing keeps the pass from its read. -/
structure ReadPoll.Quiet (armed : Bool) (p : ReadPoll) : Prop where
  cancelled : (armed && p.cancelled) = false
  expired : p.expired = false
  setTimeout : p.setTimeout = .ok ()

/-- The passes read the pieces one after the other; while a cancel flag is armed a read can time out in between. -/
inductive Gives (armed : Bool) : List ReadPoll → List (List UInt8) → Prop
  | nil : Gives armed [] []
  | piece {p : ReadPoll} {data : List UInt8} {polls : List ReadPoll} {pieces : List (List UInt8)} (hp : p.Quiet armed)
      (hcall : p.call = .ok data) (hdata : data ≠ []) (h : Gives armed polls pieces) :
      Gives armed (p :: polls) (data :: pieces)
  | wait {p : ReadPoll} {e : IoError} {polls : List ReadPoll} {pieces : List (List UInt8)} (hp : p.Quiet armed)
      (hcall : p.call = .error e) (he : e.isTimeout = true) (harmed : armed = true) (hafter : p.expiredAfter = false)
      (h : Gives armed polls pieces) : Gives armed (p :: polls) pieces

/-- There is a further pass, which is not cancelled. -/
def GoesOn (armed : Bool) (polls : List ReadPoll) : Prop :=
  ∃ p rest, polls = p :: rest ∧ (armed && p.cancelled) = false

/-- Nothing is no complete message. -/
theorem httpMessageComplete_nil : httpMessageComplete [] = .ok false := by
  simp [httpMessageComplete, locateBody, Text.windowPosition]

def tooLarge : IoError := invalidData "response exceeds max body size"

namespace BoundedHttpClient

variable (c : BoundedHttpClient)

/-- A pass that finds too many bytes, or a complete message. -/
theorem readLoop_stops {polls : List ReadPoll} (hpolls : GoesOn c.cancel polls) {buf : List UInt8} :
    (c.maxBody < buf.length → c.readLoop polls buf = .err tooLarge) ∧
      (buf.length ≤ c.maxBody → httpMessageComplete buf = .ok true → c.readLoop polls buf = .ok (.response buf)) := by
  obtain ⟨p, rest, rfl, hcancelled⟩ := hpolls
  have hgoes : ¬ (c.cancel && p.cancelled) = true := by
    rw [hcancelled]
    exact Bool.false_ne_true
  constructor
  · intro hlarge
    rw [readLoop, if_neg hgoes, if_pos hlarge]
    rfl
  · intro hsmall hcomplete
    rw [readLoop, if_neg hgoes, if_neg (Nat.not_lt.2 hsmall)]
    simp only [hcomplete]

/-- A pass that comes to its read. -/
theorem readLoop_reads {p : ReadPoll} (hp : p.Quiet c.cancel) {buf : List UInt8} (hsmall : buf.length ≤ c.maxBody)
    (hcomplete : httpMessageComplete buf = .ok false) (polls : List ReadPoll) :
    c.readLoop (p :: polls) buf =
      match p.call with
      | .ok [] => c.closed buf none
      | .ok (b :: data) => c.readLoop polls (buf ++ b :: data)
      | .error e =>
        if e.isTimeout && c.cancel && !p.expiredAfter then c.readLoop polls buf
        else if e.isTimeout then .err (timedOut "read deadline elapsed")
        else if e.isReset then c.closed buf (some e)
        else .err (e.within "read") := by
  rw [readLoop, if_neg (by rw [hp.cancelled]; exact Bool.false_ne_true), if_neg (Nat.not_lt.2 hsmall)]
  rcases p.call with e | _ | ⟨b, data⟩ <;>
    simp only [hcomplete, hp.expired, hp.setTimeout, Bool.false_eq_true, if_false]

section Pieces

variable {stream : List UInt8} {need : Nat}
  (hcomplete : ∀ buf, buf <+: stream → buf.length ≤ c.maxBody → httpMessageComplete buf = .ok (need ≤ buf.length))
  {polls tail : List ReadPoll} {pieces : List (List UInt8)} {buf : List UInt8} (hstream : buf ++ pieces.flatten = stream)

include hcomplete hstream

/-- There are too many bytes already, or there is the whole response. -/
private theorem readLoop_enough (hpolls : GoesOn c.cancel polls) (h : c.maxBody < buf.length ∨ need ≤ buf.length) :
    c.readLoop polls buf =
      if c.maxBody < stopAt need buf.length pieces then .err tooLarge
      else if need ≤ stopAt need buf.length pieces then .ok (.response (stream.take (stopAt need buf.length pieces)))
      else c.readLoop tail stream := by
  obtain ⟨hlarge, hdone⟩ := @readLoop_stops c polls hpolls buf
  by_cases hsize : c.maxBody < buf.length
  · have := le_stopAt need buf.length pieces
    rw [if_pos (by omega), hlarge hsize]
  · have hneed := h.resolve_left hsize
    have hlook := hcomplete buf ⟨_, hstream⟩ (Nat.not_lt.1 hsize)
    rw [decide_eq_true hneed] at hlook
    rw [stopAt_of_le hneed, if_neg hsize, if_pos hneed, hdone (Nat.not_lt.1 hsize) hlook, ← hstream, List.take_left]

/-- What the loop does with a stream whose response is complete from `need` bytes on: it depends on the pieces only through
the place at which it stops. -/
theorem readLoop_pieces (hreads : Gives c.cancel polls pieces) (htail : GoesOn c.cancel tail) :
    c.readLoop (polls ++ tail) buf =
      if c.maxBody < stopAt need buf.length pieces then .err tooLarge
      else if need ≤ stopAt need buf.length pieces then .ok (.response (stream.take (stopAt need buf.length pieces)))
      else c.readLoop tail stream := by
  induction hreads generalizing buf with
  | nil =>
    by_cases henough : c.maxBody < buf.length ∨ need ≤ buf.length
    · exact c.readLoop_enough hcomplete hstream htail henough
    · rw [not_or] at henough
      rw [List.flatten_nil, List.append_nil] at hstream
      rw [stopAt, if_neg henough.1, if_neg henough.2, hstream]
      rfl
  | @piece p data polls pieces hp hcall hdata h ih =>
    by_cases henough : c.maxBody < buf.length ∨ need ≤ buf.length
    · exact c.readLoop_enough hcomplete hstream ⟨p, polls ++ tail, rfl, hp.cancelled⟩ henough
    · rw [not_or] at henough
      have hlook := hcomplete buf ⟨_, hstream⟩ (Nat.not_lt.1 henough.1)
      rw [decide_eq_false henough.2] at hlook
      obtain ⟨b, data, rfl⟩ := List.exists_cons_of_ne_nil hdata
      rw [List.cons_append, c.readLoop_reads hp (Nat.not_lt.1 henough.1) hlook, hcall, stopAt, if_neg henough.2,
        ← List.length_append]
      exact ih (by rw [← hstream, List.flatten_cons, List.append_assoc])
  | @wait p e polls pieces hp hcall he harmed hafter h ih =>
    by_cases henough : c.maxBody < buf.length ∨ need ≤ buf.length
    · exact c.readLoop_enough hcomplete hstream ⟨p, polls ++ tail, rfl, hp.cancelled⟩ henough
    · rw [not_or] at henough
      have hlook := hcomplete buf ⟨_, hstream⟩ (Nat.not_lt.1 henough.1)
      rw [decide_eq_false henough.2] at hlook
      rw [List.cons_append, c.readLoop_reads hp (Nat.not_lt.1 henough.1) hlook, hcall]
      simp only [he, harmed, hafter, Bool.not_false, Bool.and_self, if_true]
      exact ih hstream

end Pieces

/-! ### A request that is taken at once -/

/-- An attempt with nothing in its way before the reads. -/
def smooth (r : HttpRequest) (reads : List ReadPoll) : Attempt where
  connect := ⟨.ok (c.host, false), .ok (), .ok (), .ok (), .ok (), .ok (), .ok ()⟩
  cancelled := false
  head := [⟨false, false, .ok (), .ok (Text.utf8Bytes (c.requestHead r)).length⟩]
  body := r.body.toList.map fun b => ⟨false, false, .ok (), .ok b.2.length⟩
  flush := [⟨false, false, .ok (), .ok ()⟩]
  reads := reads

/-- A pass that writes with nothing in its way. -/
theorem ready_smooth {α : Type} (armed : Bool) (call : Except IoError α) :
    Poll.ready armed ⟨false, false, .ok (), call⟩ = .ok () := by
  cases armed <;> rfl

theorem sendHead_smooth (r : HttpRequest) (reads : List ReadPoll) : c.sendHead r (c.smooth r reads) = .ok () := by
  have hconnect : c.connectSocket (c.smooth r reads).connect = .ok () := by
    unfold connectSocket smooth
    cases c.device <;> cases c.source <;> rfl
  unfold sendHead
  rw [hconnect]
  show (if (c.cancel && false) = true then _ else _) = _
  rw [Bool.and_false, if_neg Bool.false_ne_true]
  show Io.within _ (writeAllInterruptible c.cancel _ _).1 = _
  rw [smooth, writeAllInterruptible_whole (ready_smooth ..) rfl]
  rfl

theorem sendRequest_smooth (r : HttpRequest) (reads : List ReadPoll) : c.sendRequest r (c.smooth r reads) = .ok () := by
  have hflush : flushInterruptible c.cancel (c.smooth r reads).flush = .ok () := by
    rw [smooth, flushInterruptible, ready_smooth]
  rw [sendRequest, sendHead_smooth, Io.ok_bind, hflush]
  cases hbody : r.body with
  | none => rfl
  | some b =>
    have hwrite : writeAllInterruptible c.cancel (c.smooth r reads).body b.2 = (.ok (), b.2.length) := by
      rw [smooth, hbody]
      exact writeAllInterruptible_whole (ready_smooth ..) rfl []
    obtain ⟨contentType, bytes⟩ := b
    simp only [hwrite]
    rfl

end BoundedHttpClient

/-- A pass of the read loop with nothing in its way. -/
def readPass (call : Except IoError (List UInt8)) : ReadPoll := ⟨⟨false, false, .ok (), call⟩, false⟩

theorem quiet_readPass (armed : Bool) (call : Except IoError (List UInt8)) : (readPass call).Quiet armed :=
  ⟨Bool.and_false armed, rfl, rfl⟩

theorem reads_readPass (armed : Bool) {pieces : List (List UInt8)} (h : ∀ piece ∈ pieces, piece ≠ []) :
    Gives armed (pieces.map fun piece => readPass (.ok piece)) pieces := by
  induction pieces with
  | nil => exact .nil
  | cons piece pieces ih =>
    exact .piece (quiet_readPass armed _) rfl (h piece (by simp)) (ih fun q hq => h q (by simp [hq]))

end WirelessProgrammer
