import Mathlib.Data.Nat.Find
import WirelessProgrammer.Http.Retry
import WirelessProgrammer.Http.Splitting

/-!
# Failed attempts

What the network has to do for an attempt of the bounded client to end in an error that is retried, read off the passes of
the attempt's loops: a write, a flush or a read that fails or comes too late, or a response that is refused.  A cancel is
no such error.  `sentOnce_request` says in these terms when the body of a request goes out on one connection only.
-/

namespace WirelessProgrammer

/-! ### Passes that write -/

section Pass

variable {α : Type}

/-- A pass comes to its call, and the call times out: the loop goes on to the next pass. -/
def Poll.Waits (armed : Bool) (p : Poll α) : Prop := p.ready armed = .ok () ∧ ∃ e, p.call = .error e ∧ e.isTimeout = true

/-- A pass that is not cancelled ends the loop: it is too late, or the socket fails. -/
inductive Poll.Fails (armed : Bool) (p : Poll α) : Prop
  | late (hlive : (armed && p.cancelled) = false) (h : p.expired = true)
  | setTimeout {e : IoError} (hlive : (armed && p.cancelled) = false) (hexpired : p.expired = false)
      (h : p.setTimeout = .error e) (he : e.kind ≠ .interrupted)
  | call {e : IoError} (hready : p.ready armed = .ok ()) (h : p.call = .error e) (ht : e.isTimeout = false)
      (he : e.kind ≠ .interrupted)

/-- The first pass that does not wait. -/
inductive AfterWaits (armed : Bool) (P : Poll α → Prop) : List (Poll α) → Prop
  | here {p : Poll α} {polls : List (Poll α)} (h : P p) : AfterWaits armed P (p :: polls)
  | waits {p : Poll α} {polls : List (Poll α)} (hp : p.Waits armed) (h : AfterWaits armed P polls) :
      AfterWaits armed P (p :: polls)

end Pass

/-- The socket takes all of `len` bytes. -/
inductive WriteDone (armed : Bool) : Nat → List (Poll Nat) → Prop
  | nothing {polls : List (Poll Nat)} : WriteDone armed 0 polls
  | waits {len : Nat} {p : Poll Nat} {polls : List (Poll Nat)} (hp : p.Waits armed)
      (h : WriteDone armed (len + 1) polls) : WriteDone armed (len + 1) (p :: polls)
  | takes {len n : Nat} {p : Poll Nat} {polls : List (Poll Nat)} (hready : p.ready armed = .ok ())
      (hcall : p.call = .ok (n + 1)) (h : WriteDone armed len polls) : WriteDone armed (len + (n + 1)) (p :: polls)

/-- Writing `len` bytes fails before the socket has taken them all. -/
inductive WriteFails (armed : Bool) : Nat → List (Poll Nat) → Prop
  | fails {len : Nat} {p : Poll Nat} {polls : List (Poll Nat)} (h : p.Fails armed) : WriteFails armed (len + 1) (p :: polls)
  | zero {len : Nat} {p : Poll Nat} {polls : List (Poll Nat)} (hready : p.ready armed = .ok ()) (hcall : p.call = .ok 0) :
      WriteFails armed (len + 1) (p :: polls)
  | waits {len : Nat} {p : Poll Nat} {polls : List (Poll Nat)} (hp : p.Waits armed)
      (h : WriteFails armed (len + 1) polls) : WriteFails armed (len + 1) (p :: polls)
  | takes {len n : Nat} {p : Poll Nat} {polls : List (Poll Nat)} (hready : p.ready armed = .ok ())
      (hcall : p.call = .ok (n + 1)) (h : WriteFails armed len polls) : WriteFails armed (len + (n + 1)) (p :: polls)

/-- The socket takes a byte of `len`, after passes that wait. -/
def TakesByte (armed : Bool) (len : Nat) : List (Poll Nat) → Prop :=
  AfterWaits armed fun p => p.ready armed = .ok () ∧ ∃ n, p.call = .ok n ∧ 0 < n ∧ n ≤ len

/-- An error that the client retries. -/
def Io.Fails {α : Type} (x : Io α) : Prop := ∃ e, x = .err e ∧ e.kind ≠ .interrupted

namespace Io

variable {α β : Type}

private theorem fails_err (e : IoError) : (err e : Io α).Fails ↔ e.kind ≠ .interrupted := by simp [Fails]

private theorem not_fails_ok (a : α) : ¬ (ok a).Fails := by simp [Fails]

private theorem not_fails_panic : ¬ (panic : Io α).Fails := by simp [Fails]

private theorem not_fails_running : ¬ (running : Io α).Fails := by simp [Fails]

private theorem running_ne_ok (a : α) : (running : Io α) ≠ ok a := nofun

private theorem fails_within {context : String} {x : Io α} : (x.within context).Fails ↔ x.Fails := by
  cases x <;> simp [within, Fails, IoError.within]

private theorem fails_bind {x : Io α} {f : α → Io β} : (x >>= f).Fails ↔ x.Fails ∨ ∃ a, x = ok a ∧ (f a).Fails := by
  cases x <;> simp [Fails]

private theorem within_eq_ok_iff {context : String} {x : Io α} {a : α} : x.within context = ok a ↔ x = ok a := by
  cases x <;> simp [within]

end Io

section Writing

variable {armed : Bool}

private theorem Poll.fails_of_ready {α : Type} {p : Poll α} {e : IoError} (h : p.ready armed = .error e) :
    p.Fails armed ↔ e.kind ≠ .interrupted := by
  unfold Poll.ready at h
  constructor
  · rintro (⟨hlive, hlate⟩ | ⟨hlive, hexpired, hset, he⟩ | ⟨hready, -, -, -⟩)
    · rw [hlive, hlate] at h
      cases h
      simp [timedOut]
    · rw [hlive, hexpired, hset] at h
      cases h
      exact he
    · unfold Poll.ready at hready
      rw [hready] at h
      cases h
  · intro he
    split at h
    · cases h
      exact absurd rfl he
    rename_i hlive
    split at h
    · exact .late (Bool.eq_false_iff.2 hlive) ‹_›
    · rename_i hexpired
      exact .setTimeout (Bool.eq_false_iff.2 hlive) (Bool.eq_false_iff.2 hexpired) h he

/-- A pass that comes to its call fails by the call. -/
theorem Poll.fails_of_call {α : Type} {p : Poll α} (hready : p.ready armed = .ok ()) :
    p.Fails armed ↔ ∃ e, p.call = .error e ∧ e.isTimeout = false ∧ e.kind ≠ .interrupted := by
  constructor
  · rintro (⟨hlive, hlate⟩ | ⟨hlive, hexpired, hset, he⟩ | ⟨-, hcall, ht, he⟩)
    · simp [Poll.ready, hlive, hlate] at hready
    · simp [Poll.ready, hlive, hexpired, hset] at hready
    · exact ⟨_, hcall, ht, he⟩
  · rintro ⟨e, hcall, ht, he⟩
    exact .call hready hcall ht he

private theorem afterWaits_cons {α : Type} {P : Poll α → Prop} {p : Poll α} {polls : List (Poll α)} :
    AfterWaits armed P (p :: polls) ↔ P p ∨ p.Waits armed ∧ AfterWaits armed P polls := by
  constructor
  · rintro (h | ⟨hp, h⟩)
    · exact .inl h
    · exact .inr ⟨hp, h⟩
  · rintro (h | ⟨hp, h⟩)
    · exact .here h
    · exact .waits hp h

section Pass

variable {len : Nat} {p : Poll Nat} {polls : List (Poll Nat)}

private theorem writeDone_cons : WriteDone armed (len + 1) (p :: polls) ↔
    p.Waits armed ∧ WriteDone armed (len + 1) polls ∨
      p.ready armed = .ok () ∧ ∃ n, p.call = .ok (n + 1) ∧ n ≤ len ∧ WriteDone armed (len - n) polls := by
  constructor
  · intro h
    cases h with
    | waits hp h => exact .inl ⟨hp, h⟩
    | @takes len n _ _ hready hcall h =>
      refine .inr ⟨hready, n, hcall, Nat.le_add_left .., ?_⟩
      show WriteDone armed (len + n - n) polls
      rwa [Nat.add_sub_cancel]
  · rintro (⟨hp, h⟩ | ⟨hready, n, hcall, hn, h⟩)
    · exact .waits hp h
    · have hlen : len + 1 = len - n + (n + 1) := by omega
      rw [hlen]
      exact .takes hready hcall h

private theorem writeFails_cons : WriteFails armed (len + 1) (p :: polls) ↔
    p.Fails armed ∨ (p.ready armed = .ok () ∧ p.call = .ok 0) ∨ p.Waits armed ∧ WriteFails armed (len + 1) polls ∨
      p.ready armed = .ok () ∧ ∃ n, p.call = .ok (n + 1) ∧ n ≤ len ∧ WriteFails armed (len - n) polls := by
  constructor
  · intro h
    cases h with
    | fails h => exact .inl h
    | zero hready hcall => exact .inr (.inl ⟨hready, hcall⟩)
    | waits hp h => exact .inr (.inr (.inl ⟨hp, h⟩))
    | @takes len n _ _ hready hcall h =>
      refine .inr (.inr (.inr ⟨hready, n, hcall, Nat.le_add_left .., ?_⟩))
      show WriteFails armed (len + n - n) polls
      rwa [Nat.add_sub_cancel]
  · rintro (h | ⟨hready, hcall⟩ | ⟨hp, h⟩ | ⟨hready, n, hcall, hn, h⟩)
    · exact .fails h
    · exact .zero hready hcall
    · exact .waits hp h
    · have hlen : len + 1 = len - n + (n + 1) := by omega
      rw [hlen]
      exact .takes hready hcall h

end Pass

private theorem not_writeDone_nil {len : Nat} : ¬ WriteDone armed (len + 1) [] := nofun

private theorem not_writeFails_nil {len : Nat} : ¬ WriteFails armed (len + 1) [] := nofun

private theorem not_takesByte_nil {len : Nat} : ¬ TakesByte armed len [] := nofun

private theorem not_writeFails_zero {polls : List (Poll Nat)} : ¬ WriteFails armed 0 polls := by
  intro h
  generalize hlen : 0 = len at h
  cases h <;> omega

private theorem not_takesByte_zero {polls : List (Poll Nat)} : ¬ TakesByte armed 0 polls := by
  intro h
  induction h with
  | here h =>
    obtain ⟨-, n, -, hpos, hle⟩ := h
    omega
  | waits _ _ ih => exact ih

/-- What a write loop comes to, by its passes. -/
theorem writeAllInterruptible_passes (polls : List (Poll Nat)) (bytes : List UInt8) :
    ((writeAllInterruptible armed polls bytes).1 = .ok () ↔ WriteDone armed bytes.length polls) ∧
      ((writeAllInterruptible armed polls bytes).1.Fails ↔ WriteFails armed bytes.length polls) ∧
        (0 < (writeAllInterruptible armed polls bytes).2 ↔ TakesByte armed bytes.length polls) := by
  induction polls generalizing bytes with
  | nil =>
    cases bytes with
    | nil => simp [writeAllInterruptible, Io.not_fails_ok, not_writeFails_zero, not_takesByte_zero, WriteDone.nothing]
    | cons b bytes =>
      exact ⟨iff_of_false (Io.running_ne_ok ()) not_writeDone_nil, iff_of_false Io.not_fails_running not_writeFails_nil,
        iff_of_false (Nat.lt_irrefl 0) not_takesByte_nil⟩
  | cons p polls ih =>
    cases bytes with
    | nil => simp [writeAllInterruptible, Io.not_fails_ok, not_writeFails_zero, not_takesByte_zero, WriteDone.nothing]
    | cons b bytes =>
      rw [List.length_cons, writeDone_cons, writeFails_cons, TakesByte, afterWaits_cons, ← TakesByte, writeAllInterruptible]
      cases hready : p.ready armed with
      | error e =>
        -- the pass does not come to its call
        simp [Poll.Waits, hready, Poll.fails_of_ready hready, Io.fails_err]
      | ok u =>
        cases hcall : p.call with
        | error e =>
          have hfails : p.Fails armed ↔ e.isTimeout = false ∧ e.kind ≠ .interrupted := by
            simp [Poll.fails_of_call hready, hcall]
          cases ht : e.isTimeout with
          | true => simpa [Poll.Waits, hready, hcall, ht, hfails] using ih (b :: bytes)
          | false => simp [Poll.Waits, hready, hcall, ht, hfails, Io.fails_err]
        | ok n =>
          have hfails : ¬ p.Fails armed := by simp [Poll.fails_of_call hready, hcall]
          cases n with
          | zero => simp [Poll.Waits, hready, hcall, hfails, Io.fails_err]
          | succ n =>
            by_cases hn : n ≤ bytes.length
            · have hslice : sliceFrom (b :: bytes) (n + 1) = .ok (bytes.drop n) := if_pos (Nat.succ_le_succ hn)
              obtain ⟨hdone, hfail, -⟩ := ih (bytes.drop n)
              rw [List.length_drop] at hdone hfail
              have hpos : 0 < n + 1 + (writeAllInterruptible armed polls (bytes.drop n)).2 := by omega
              simp only [Poll.Waits, hready, hcall, hfails, hslice, hdone, hfail]
              simp [hn, hpos]
            · have hslice : sliceFrom (b :: bytes) (n + 1) = .panic := if_neg fun h => hn (Nat.le_of_succ_le_succ h)
              simp [Poll.Waits, hready, hcall, hfails, hslice, hn, Io.not_fails_panic]

/-- What a flush comes to, by its passes. -/
theorem flushInterruptible_passes (polls : List (Poll Unit)) :
    (flushInterruptible armed polls = .ok () ↔
        AfterWaits armed (fun p => p.ready armed = .ok () ∧ p.call = .ok ()) polls) ∧
      ((flushInterruptible armed polls).Fails ↔ AfterWaits armed (·.Fails armed) polls) := by
  induction polls with
  | nil => exact ⟨iff_of_false nofun nofun, iff_of_false Io.not_fails_running nofun⟩
  | cons p polls ih =>
    rw [afterWaits_cons, afterWaits_cons, flushInterruptible]
    cases hready : p.ready armed with
    | error e => simp [Poll.Waits, hready, Poll.fails_of_ready hready, Io.fails_err]
    | ok u =>
      cases hcall : p.call with
      | error e =>
        have hfails : p.Fails armed ↔ e.isTimeout = false ∧ e.kind ≠ .interrupted := by
          simp [Poll.fails_of_call hready, hcall]
        cases ht : e.isTimeout with
        | true => simpa [Poll.Waits, hready, hcall, ht, hfails] using ih
        | false => simp [Poll.Waits, hready, hcall, ht, hfails, Io.fails_err]
      | ok u =>
        have hfails : ¬ p.Fails armed := by simp [Poll.fails_of_call hready, hcall]
        simp [Poll.Waits, hready, hcall, hfails, Io.not_fails_ok]

end Writing

/-! ### Responses -/

/-- No error of a computation is a cancel. -/
def Checked.NoCancel {α : Type} (x : Checked α) : Prop := ∀ e, x = .err e → e.kind ≠ .interrupted

namespace Checked

variable {α β : Type}

private theorem noCancel_ok (a : α) : (ok a).NoCancel := nofun

private theorem noCancel_panic : (panic : Checked α).NoCancel := nofun

private theorem noCancel_err {e : IoError} (h : e.kind ≠ .interrupted) : (err e : Checked α).NoCancel := by
  rintro _ ⟨⟩
  exact h

private theorem NoCancel.bind {x : Checked α} {f : α → Checked β} (hx : x.NoCancel) (hf : ∀ a, (f a).NoCancel) :
    (x >>= f).NoCancel := by
  cases x with
  | ok a => exact hf a
  | err e => exact noCancel_err (hx e rfl)
  | panic => exact noCancel_panic

end Checked

open Checked in
private theorem usizeAdd_noCancel (a b : Nat) : (usizeAdd a b).NoCancel := by
  unfold usizeAdd
  split
  · exact noCancel_ok _
  · exact noCancel_panic

open Checked in
private theorem sliceFrom_noCancel (l : List UInt8) (i : Nat) : (sliceFrom l i).NoCancel := by
  unfold sliceFrom
  split
  · exact noCancel_ok _
  · exact noCancel_panic

open Checked in
private theorem sliceRange_noCancel (l : List UInt8) (i j : Nat) : (sliceRange l i j).NoCancel := by
  unfold sliceRange
  split
  · exact noCancel_ok _
  · exact noCancel_panic

open Checked in
private theorem chunkSize_noCancel (line : List UInt8) : (ofExcept (chunkSize line)).NoCancel := by
  unfold chunkSize
  split
  · exact noCancel_err nofun
  · split
    · exact noCancel_err nofun
    · exact noCancel_ok _

open Checked in
private theorem chunkStep_noCancel (body : List UInt8) (pos : Nat) (out : List UInt8) : (chunkStep body pos out).NoCancel := by
  unfold chunkStep
  refine .bind (sliceFrom_noCancel _ _) fun tail => ?_
  split
  · refine .bind (usizeAdd_noCancel _ _) fun nl => .bind (sliceRange_noCancel _ _ _) fun line =>
      .bind (chunkSize_noCancel line) fun size => .bind (usizeAdd_noCancel _ _) fun pos => ?_
    split
    · exact noCancel_ok _
    refine .bind (usizeAdd_noCancel _ _) fun dataEnd => .bind (usizeAdd_noCancel _ _) fun chunkEnd => ?_
    split
    · exact noCancel_err nofun
    refine .bind (sliceRange_noCancel _ _ _) fun data => .bind (usizeAdd_noCancel _ _) fun afterCrlf => ?_
    split
    · exact noCancel_err nofun
    · exact noCancel_ok _
  · exact noCancel_err nofun

open Checked in
private theorem decodeFromPos_noCancel (body : List UInt8) (pos : Nat) (out : List UInt8) :
    (decodeFromPos body pos out).NoCancel := by
  fun_induction decodeFromPos body pos out with
  | case1 => exact noCancel_panic
  | case2 pos out e h => exact noCancel_err (chunkStep_noCancel _ _ _ e h)
  | case3 => exact noCancel_ok _
  | case4 _ _ _ _ _ ih => exact ih

namespace BoundedHttpClient

variable (c : BoundedHttpClient)

private theorem checkBody_noCancel (buf body : List UInt8) : (c.checkBody buf body).NoCancel := by
  unfold checkBody
  split
  · exact Checked.noCancel_err nofun
  refine .bind ?_ fun status => ?_
  · unfold parseStatus
    repeat' split
    all_goals first
      | exact Checked.noCancel_err nofun
      | exact Checked.noCancel_ok _
  · split
    · exact Checked.noCancel_err nofun
    · exact Checked.noCancel_ok _

private theorem responseBody_noCancel (buf : List UInt8) : (c.responseBody buf).NoCancel := by
  cases hl : locateBody buf with
  | error e =>
    rw [responseBody, hl]
    refine Checked.noCancel_err ?_
    unfold locateBody at hl
    split at hl
    · cases hl
    · cases hl
      decide
  | ok start =>
    rw [c.responseBody_located hl]
    refine .bind ?_ fun body => c.checkBody_noCancel buf body
    split
    · exact decodeFromPos_noCancel _ _ _
    · exact Checked.noCancel_ok _

/-- A response that is accepted: its body can be decoded and is within the limit, and its status says success. -/
def Accepts (buf : List UInt8) : Prop :=
  ∃ start body status, locateBody buf = .ok start ∧
    (if isChunked (buf.take start) then decodeChunked (buf.drop start) else .ok (buf.drop start)) = .ok body ∧
      body.length ≤ c.maxBody ∧ parseStatus buf = .ok status ∧ IsSuccess status

/-- A response that is refused.  One whose chunk sizes overflow is neither accepted nor refused: the client panics. -/
def Refuses (buf : List UInt8) : Prop := ¬ c.Accepts buf ∧ ¬ OversizedChunk buf

private theorem responseBody_ok_iff {buf : List UInt8} : (∃ body, c.responseBody buf = .ok body) ↔ c.Accepts buf := by
  constructor
  · rintro ⟨body, h⟩
    obtain ⟨status, hstatus, hok⟩ := c.responseBody_success h
    cases hl : locateBody buf with
    | error e =>
      rw [responseBody, hl] at h
      cases h
    | ok start =>
      rw [c.responseBody_located hl] at h
      obtain ⟨decoded, hdecoded, h⟩ := Checked.bind_eq_ok h
      refine ⟨start, decoded, status, hl, hdecoded, ?_, hstatus, hok⟩
      by_contra hsize
      rw [checkBody, if_pos (Nat.not_le.1 hsize)] at h
      cases h
  · rintro ⟨start, body, status, hl, hbody, hsize, hstatus, hok⟩
    refine ⟨body, ?_⟩
    rw [c.responseBody_located hl, hbody, Checked.ok_bind, c.checkBody_eq_ok hsize hstatus hok]

private theorem responseBody_panic_iff {buf : List UInt8} (hb : buf.length < 2 ^ 63) :
    c.responseBody buf = .panic ↔ OversizedChunk buf := by
  refine ⟨c.oversizedChunk_of_panic ⟨buf, hb⟩, ?_⟩
  rintro ⟨start, hl, hchunked, hsized⟩
  have hdrop : (buf.drop start).length < 2 ^ 63 := by
    rw [List.length_drop]
    omega
  have hpanic : decodeChunked (buf.drop start) = .panic := not_not.1 (mt (decodeChunked_ne_panic ⟨_, hdrop⟩).1 hsized)
  rw [c.responseBody_located hl, if_pos hchunked, hpanic, Checked.panic_bind]

private theorem responseBody_fails_iff {buf : List UInt8} (hb : buf.length < 2 ^ 63) :
    (Io.ofChecked (c.responseBody buf)).Fails ↔ c.Refuses buf := by
  rw [Refuses, ← c.responseBody_ok_iff, ← c.responseBody_panic_iff hb]
  cases h : c.responseBody buf with
  | ok body => simp [Io.ofChecked, Io.not_fails_ok]
  | err e => simpa [Io.ofChecked, Io.fails_err] using c.responseBody_noCancel buf e h
  | panic => simp [Io.ofChecked, Io.not_fails_panic]

/-- The client goes on reading: it has neither too many bytes nor a complete response. -/
def Unfinished (buf : List UInt8) : Prop := buf.length ≤ c.maxBody ∧ httpMessageComplete buf = .ok false

/-- A pass of the read loop, with `buf` received, that is not cancelled and ends the attempt in an error. -/
inductive PassFails (buf : List UInt8) (p : ReadPoll) : Prop
  | tooLarge (hlive : (c.cancel && p.cancelled) = false) (h : c.maxBody < buf.length)
  | refused (hlive : (c.cancel && p.cancelled) = false) (hsize : buf.length ≤ c.maxBody)
      (hcomplete : httpMessageComplete buf = .ok true) (h : c.Refuses buf)
  | late (hlive : (c.cancel && p.cancelled) = false) (hopen : c.Unfinished buf) (h : p.expired = true)
  | setTimeout {e : IoError} (hlive : (c.cancel && p.cancelled) = false) (hopen : c.Unfinished buf)
      (hexpired : p.expired = false) (h : p.setTimeout = .error e) (he : e.kind ≠ .interrupted)
  | closed (hopen : c.Unfinished buf) (hp : p.Quiet c.cancel) (hcall : p.call = .ok [])
      (hflag : c.successOnResetAfterWrite = false) (h : c.Refuses buf)
  | timedOut {e : IoError} (hopen : c.Unfinished buf) (hp : p.Quiet c.cancel) (hcall : p.call = .error e)
      (ht : e.isTimeout = true) (h : c.cancel = false ∨ p.expiredAfter = true)
  | reset {e : IoError} (hopen : c.Unfinished buf) (hp : p.Quiet c.cancel) (hcall : p.call = .error e)
      (hr : e.isReset = true) (hflag : c.successOnResetAfterWrite = false)
  | broken {e : IoError} (hopen : c.Unfinished buf) (hp : p.Quiet c.cancel) (hcall : p.call = .error e)
      (ht : e.isTimeout = false) (hr : e.isReset = false) (he : e.kind ≠ .interrupted)

/-- The read loop, with `buf` received, comes to a pass that fails. -/
inductive ReadsFail : List UInt8 → List ReadPoll → Prop
  | fails {buf : List UInt8} {p : ReadPoll} {polls : List ReadPoll} (h : c.PassFails buf p) : ReadsFail buf (p :: polls)
  | data {buf data : List UInt8} {p : ReadPoll} {polls : List ReadPoll} (hopen : c.Unfinished buf) (hp : p.Quiet c.cancel)
      (hcall : p.call = .ok data) (hdata : data ≠ []) (h : ReadsFail (buf ++ data) polls) : ReadsFail buf (p :: polls)
  | waits {buf : List UInt8} {e : IoError} {p : ReadPoll} {polls : List ReadPoll} (hopen : c.Unfinished buf)
      (hp : p.Quiet c.cancel) (hcall : p.call = .error e) (ht : e.isTimeout = true) (harmed : c.cancel = true)
      (hafter : p.expiredAfter = false) (h : ReadsFail buf polls) : ReadsFail buf (p :: polls)

/-- The answer of an attempt, at the end of its read loop. -/
def answer : ReadEnd → Io (List UInt8)
  | .reboot => .ok []
  | .response buf => .ofChecked (c.responseBody buf)

section Reading

variable {c} {buf : List UInt8} {p : ReadPoll} {polls : List ReadPoll}

/-- A pass that comes to its read. -/
theorem passFails_iff (hopen : c.Unfinished buf) (hp : p.Quiet c.cancel) : c.PassFails buf p ↔
    (p.call = .ok [] ∧ c.successOnResetAfterWrite = false ∧ c.Refuses buf) ∨
      ∃ e, p.call = .error e ∧ ((e.isTimeout = true ∧ (c.cancel = false ∨ p.expiredAfter = true)) ∨
        (e.isReset = true ∧ c.successOnResetAfterWrite = false) ∨
          (e.isTimeout = false ∧ e.isReset = false ∧ e.kind ≠ .interrupted)) := by
  have hsize := hopen.1
  have hcomplete := hopen.2
  have hexpired := hp.expired
  have hset := hp.setTimeout
  constructor
  · rintro (h | h | h | h | ⟨-, -, hcall, hflag, h⟩ | ⟨-, -, hcall, ht, h⟩ | ⟨-, -, hcall, hr, hflag⟩ |
      ⟨-, -, hcall, ht, hr, he⟩)
    · omega
    · simp_all
    · simp_all
    · simp_all
    · exact .inl ⟨hcall, hflag, h⟩
    · exact .inr ⟨_, hcall, .inl ⟨ht, h⟩⟩
    · exact .inr ⟨_, hcall, .inr (.inl ⟨hr, hflag⟩)⟩
    · exact .inr ⟨_, hcall, .inr (.inr ⟨ht, hr, he⟩)⟩
  · rintro (⟨hcall, hflag, h⟩ | ⟨e, hcall, ⟨ht, h⟩ | ⟨hr, hflag⟩ | ⟨ht, hr, he⟩⟩)
    · exact .closed hopen hp hcall hflag h
    · exact .timedOut hopen hp hcall ht h
    · exact .reset hopen hp hcall hr hflag
    · exact .broken hopen hp hcall ht hr he

/-- The next pass fails, or it leads on to the one behind it. -/
private theorem not_readsFail_nil {buf : List UInt8} : ¬ c.ReadsFail buf [] := nofun

theorem readsFail_cons : c.ReadsFail buf (p :: polls) ↔
    c.PassFails buf p ∨ c.Unfinished buf ∧ p.Quiet c.cancel ∧
      ((∃ data, p.call = .ok data ∧ data ≠ [] ∧ c.ReadsFail (buf ++ data) polls) ∨
        ∃ e, p.call = .error e ∧ e.isTimeout = true ∧ c.cancel = true ∧ p.expiredAfter = false ∧
          c.ReadsFail buf polls) := by
  constructor
  · rintro (h | ⟨hopen, hp, hcall, hdata, h⟩ | ⟨hopen, hp, hcall, ht, harmed, hafter, h⟩)
    · exact .inl h
    · exact .inr ⟨hopen, hp, .inl ⟨_, hcall, hdata, h⟩⟩
    · exact .inr ⟨hopen, hp, .inr ⟨_, hcall, ht, harmed, hafter, h⟩⟩
  · rintro (h | ⟨hopen, hp, ⟨data, hcall, hdata, h⟩ | ⟨e, hcall, ht, harmed, hafter, h⟩⟩)
    · exact .fails h
    · exact .data hopen hp hcall hdata h
    · exact .waits hopen hp hcall ht harmed hafter h

private theorem PassFails.live (h : c.PassFails buf p) : (c.cancel && p.cancelled) = false := by
  rcases h with ⟨hlive, -⟩ | ⟨hlive, -⟩ | ⟨hlive, -⟩ | ⟨hlive, -⟩ | ⟨-, hp⟩ | ⟨-, hp⟩ | ⟨-, hp⟩ | ⟨-, hp⟩
  all_goals first
    | exact hlive
    | exact hp.cancelled

/-- The pass has too many bytes, or a complete response that is refused, or none. -/
theorem PassFails.looks (h : c.PassFails buf p) : c.maxBody < buf.length ∨ c.Unfinished buf ∨
    (httpMessageComplete buf = .ok true ∧ c.Refuses buf) := by
  rcases h with ⟨-, hsize⟩ | ⟨-, -, hcomplete, h⟩ | ⟨-, h⟩ | ⟨-, h⟩ | ⟨h⟩ | ⟨h⟩ | ⟨h⟩ | ⟨h⟩
  · exact .inl hsize
  · exact .inr (.inr ⟨hcomplete, h⟩)
  all_goals exact .inr (.inl h)

private theorem httpMessageComplete_ne_err (buf : List UInt8) (e : IoError) : httpMessageComplete buf ≠ .err e := by
  cases hl : locateBody buf with
  | error e => simp [httpMessageComplete, hl]
  | ok start =>
    rw [httpMessageComplete_located hl]
    repeat' split
    all_goals simp

/-- A pass that looks at what has been received and does not go on to its read. -/
private theorem readLoop_fails_looked (hlive : (c.cancel && p.cancelled) = false) (hsize : buf.length ≤ c.maxBody)
    (hcomplete : httpMessageComplete buf ≠ .ok false) :
    (c.readLoop (p :: polls) buf >>= c.answer).Fails ↔ c.ReadsFail buf (p :: polls) := by
  have hopen : ¬ c.Unfinished buf := fun h => hcomplete h.2
  rw [readsFail_cons, readLoop, if_neg (Bool.not_eq_true _ ▸ hlive), if_neg (Nat.not_lt.2 hsize)]
  cases hc : httpMessageComplete buf with
  | panic =>
    refine iff_of_false Io.not_fails_panic ?_
    rintro (h | ⟨h, -⟩)
    · rcases h.looks with h | h | ⟨h, -⟩
      · omega
      · exact hopen h
      · rw [hc] at h
        cases h
    · exact hopen h
  | err e => exact absurd hc (httpMessageComplete_ne_err buf e)
  | ok complete =>
    cases complete with
    | false => exact absurd hc hcomplete
    | true =>
      have hb : buf.length < 2 ^ 63 := by
        have := c.maxBody_lt
        omega
      refine (c.responseBody_fails_iff hb).trans ⟨fun h => .inl (.refused hlive hsize hc h), ?_⟩
      rintro (h | ⟨h, -⟩)
      · rcases h.looks with h | h | ⟨-, h⟩
        · omega
        · exact absurd h hopen
        · exact h
      · exact absurd h hopen

/-- A pass that is kept from its read. -/
private theorem readLoop_fails_kept (hlive : (c.cancel && p.cancelled) = false) (hopen : c.Unfinished buf)
    (hp : ¬ p.Quiet c.cancel) :
    (c.readLoop (p :: polls) buf >>= c.answer).Fails ↔ c.ReadsFail buf (p :: polls) := by
  rw [readsFail_cons, readLoop, if_neg (Bool.not_eq_true _ ▸ hlive), if_neg (Nat.not_lt.2 hopen.1)]
  simp only [hopen.2]
  cases hexpired : p.expired with
  | true => exact iff_of_true ⟨_, rfl, by decide⟩ (.inl (.late hlive hopen hexpired))
  | false =>
    cases hset : p.setTimeout with
    | ok u => exact absurd ⟨hlive, hexpired, hset⟩ hp
    | error e =>
      refine (Io.fails_err e).trans ⟨fun he => .inl (.setTimeout hlive hopen hexpired hset he), ?_⟩
      rintro (h | ⟨-, hp', -⟩)
      · rcases h with ⟨-, h⟩ | ⟨-, -, h, -⟩ | ⟨-, -, h⟩ | ⟨-, -, -, h, he⟩ | ⟨-, hp', -⟩ | ⟨-, hp', -⟩ | ⟨-, hp', -⟩ |
          ⟨-, hp', -⟩
        · exact absurd hopen.1 (Nat.not_le.2 h)
        · rw [hopen.2] at h
          cases h
        · rw [hexpired] at h
          cases h
        · rw [hset] at h
          cases h
          exact he
        all_goals exact absurd hp' hp
      · exact absurd hp' hp

private theorem isReset_kind {e : IoError} (h : e.isReset = true) : e.isTimeout = false ∧ e.kind ≠ .interrupted := by
  simp only [IoError.isReset, Bool.or_eq_true, decide_eq_true_eq] at h
  rcases h with (h | h) | h <;> simp [IoError.isTimeout, h]

/-- The end of the stream with an unfinished response. -/
private theorem closed_fails_iff (hopen : c.Unfinished buf) (e : Option IoError)
    (he : ∀ e', e = some e' → e'.kind ≠ .interrupted) :
    (c.closed buf e >>= c.answer).Fails ↔ c.successOnResetAfterWrite = false ∧ (e = none → c.Refuses buf) := by
  have hb : buf.length < 2 ^ 63 := lt_of_le_of_lt hopen.1 c.maxBody_lt
  have hresponse := c.responseBody_fails_iff hb
  simp only [closed, hopen.2, Io.ofChecked, Io.ok_bind, Bool.false_eq_true, if_false]
  cases hflag : c.successOnResetAfterWrite with
  | true => simp [answer, Io.not_fails_ok]
  | false =>
    cases e with
    | none => simpa [answer] using hresponse
    | some e => simpa [Io.fails_err, IoError.within] using he e rfl

/-- What the read loop comes to, by its passes. -/
theorem readLoop_fails_iff (polls : List ReadPoll) (buf : List UInt8) :
    (c.readLoop polls buf >>= c.answer).Fails ↔ c.ReadsFail buf polls := by
  induction polls generalizing buf with
  | nil => exact iff_of_false Io.not_fails_running not_readsFail_nil
  | cons p polls ih =>
    by_cases hlive : (c.cancel && p.cancelled) = true
    · rw [readsFail_cons, readLoop, if_pos hlive]
      refine iff_of_false (by simp [Io.Fails, ioCancelled]) ?_
      rintro (h | ⟨-, hp, -⟩)
      · exact absurd hlive (Bool.not_eq_true _ ▸ h.live)
      · exact absurd hlive (Bool.not_eq_true _ ▸ hp.cancelled)
    rw [Bool.not_eq_true] at hlive
    by_cases hsize : c.maxBody < buf.length
    · rw [readLoop, if_neg (Bool.not_eq_true _ ▸ hlive), if_pos hsize]
      exact iff_of_true ⟨_, rfl, by decide⟩ (.fails (.tooLarge hlive hsize))
    by_cases hcomplete : httpMessageComplete buf = .ok false
    · have hopen : c.Unfinished buf := ⟨Nat.not_lt.1 hsize, hcomplete⟩
      by_cases hp : p.Quiet c.cancel
      · rw [readsFail_cons, passFails_iff hopen hp, c.readLoop_reads hp hopen.1 hcomplete]
        cases hcall : p.call with
        | ok data =>
          cases data with
          | nil => simpa using closed_fails_iff hopen none (by simp)
          | cons b data => simpa [hopen, hp] using ih (buf ++ b :: data)
        | error e =>
          cases hr : e.isReset with
          | true =>
            obtain ⟨ht, he⟩ := isReset_kind hr
            have hclosed := closed_fails_iff hopen (some e) (by rintro _ ⟨⟩; exact he)
            simpa [ht, hr] using hclosed
          | false =>
            cases ht : e.isTimeout with
            | false => simp [ht, hr, Io.fails_err, IoError.within]
            | true =>
              -- a read that times out is the last one unless a cancel flag is armed and there is time left
              cases harmed : c.cancel with
              | false => simp [ht, hr, Io.fails_err, timedOut]
              | true =>
                have hquiet : p.Quiet true := harmed ▸ hp
                cases hafter : p.expiredAfter with
                | true => simp [ht, hr, Io.fails_err, timedOut]
                | false => simpa [hopen, hquiet, ht, hr] using ih buf
      · exact readLoop_fails_kept hlive hopen hp
    · exact readLoop_fails_looked hlive (Nat.not_lt.1 hsize) hcomplete

end Reading

/-! ### Attempts -/

/-- The number of bytes of a request's body. -/
def bodyLength (r : HttpRequest) : Nat := (r.body.map (·.2.length)).getD 0

/-- The attempt gets to the body: the socket is connected, no cancel is seen, and the network takes the whole head. -/
structure GetsToBody (r : HttpRequest) (a : Attempt) : Prop where
  connected : c.connectSocket a.connect = .ok ()
  live : (c.cancel && a.cancelled) = false
  head : WriteDone c.cancel (Text.utf8Bytes (c.requestHead r)).length a.head

/-- The attempt fails before it gets to the body. -/
inductive FailsBefore (r : HttpRequest) (a : Attempt) : Prop
  | connect {e : IoError} (h : c.connectSocket a.connect = .error e) (he : e.kind ≠ .interrupted)
  | head (connected : c.connectSocket a.connect = .ok ()) (live : (c.cancel && a.cancelled) = false)
      (h : WriteFails c.cancel (Text.utf8Bytes (c.requestHead r)).length a.head)

/-- The attempt fails behind the head: on the body, on the flush, or on the response. -/
inductive FailsAfter (r : HttpRequest) (a : Attempt) : Prop
  | body (h : WriteFails c.cancel (bodyLength r) a.body)
  | flush (hbody : WriteDone c.cancel (bodyLength r) a.body) (h : AfterWaits c.cancel (·.Fails c.cancel) a.flush)
  | response (hbody : WriteDone c.cancel (bodyLength r) a.body)
      (hflush : AfterWaits c.cancel (fun p => p.ready c.cancel = .ok () ∧ p.call = .ok ()) a.flush)
      (h : c.ReadsFail [] a.reads)

/-- The network makes the attempt fail. -/
def Fails (r : HttpRequest) (a : Attempt) : Prop := c.FailsBefore r a ∨ c.GetsToBody r a ∧ c.FailsAfter r a

/-- The network takes a byte of the body. -/
def TakesBody (r : HttpRequest) (a : Attempt) : Prop := c.GetsToBody r a ∧ TakesByte c.cancel (bodyLength r) a.body

section Attempts

variable {c} {r : HttpRequest} {a : Attempt}

/-- Writing the head, by the passes of the attempt. -/
theorem sendHead_passes : (c.sendHead r a = .ok () ↔ c.GetsToBody r a) ∧ ((c.sendHead r a).Fails ↔ c.FailsBefore r a) := by
  obtain ⟨hdone, hfails, -⟩ :=
    @writeAllInterruptible_passes c.cancel a.head (Text.utf8Bytes (c.requestHead r))
  unfold sendHead
  cases hconn : c.connectSocket a.connect with
  | error e =>
    constructor
    · exact iff_of_false nofun fun h => nomatch hconn.symm.trans h.connected
    · refine (Io.fails_err e).trans ⟨fun he => .connect hconn he, ?_⟩
      rintro (⟨h, he⟩ | ⟨h, -, -⟩)
      · cases hconn.symm.trans h
        exact he
      · cases hconn.symm.trans h
  | ok u =>
    cases hlive : c.cancel && a.cancelled with
    | true =>
      constructor
      · exact iff_of_false nofun fun h => nomatch hlive.symm.trans h.live
      · refine iff_of_false (fun ⟨e, he, hkind⟩ => ?_) ?_
        · cases he
          exact hkind rfl
        · rintro (⟨h, -⟩ | ⟨-, h, -⟩)
          · cases hconn.symm.trans h
          · cases hlive.symm.trans h
    | false =>
      simp only [Io.ofExcept, Io.ok_bind, Bool.false_eq_true, if_false]
      rw [Io.within_eq_ok_iff, Io.fails_within, hdone, hfails]
      constructor
      · exact ⟨fun h => ⟨hconn, hlive, h⟩, fun h => h.head⟩
      · refine ⟨fun h => .head hconn hlive h, ?_⟩
        rintro (⟨h, -⟩ | ⟨-, -, h⟩)
        · cases hconn.symm.trans h
        · exact h

/-- The part of `request_once` that writes the body. -/
private def sendBody (c : BoundedHttpClient) (r : HttpRequest) (a : Attempt) : Io Unit :=
  match r.body with
  | some (_, bytes) => (writeAllInterruptible c.cancel a.body bytes).1.within "write body"
  | none => .ok ()

private theorem sendBody_passes : (sendBody c r a = .ok () ↔ WriteDone c.cancel (bodyLength r) a.body) ∧
    ((sendBody c r a).Fails ↔ WriteFails c.cancel (bodyLength r) a.body) := by
  unfold sendBody bodyLength
  cases r.body with
  | none => exact ⟨iff_of_true rfl .nothing, iff_of_false (Io.not_fails_ok ()) not_writeFails_zero⟩
  | some body =>
    obtain ⟨hdone, hfails, -⟩ := @writeAllInterruptible_passes c.cancel a.body body.2
    exact ⟨Io.within_eq_ok_iff.trans hdone, Io.fails_within.trans hfails⟩

private theorem requestOnce_eq : c.requestOnce r a = c.sendHead r a >>= fun _ => sendBody c r a >>= fun _ =>
    (flushInterruptible c.cancel a.flush).within "flush" >>= fun _ => c.readLoop a.reads [] >>= c.answer := by
  unfold requestOnce sendRequest sendBody
  cases c.sendHead r a <;> try rfl
  rcases r.body with _ | ⟨contentType, bytes⟩
  · simp only [Io.ok_bind]
    cases (flushInterruptible c.cancel a.flush).within "flush" <;> rfl
  · simp only [Io.ok_bind]
    cases (writeAllInterruptible c.cancel a.body bytes).1.within "write body" <;> rfl

/-- The errors that are retried are those of attempts that the network makes fail. -/
theorem retried_iff : c.Retried r a ↔ c.Fails r a := by
  obtain ⟨hhead, hbefore⟩ := sendHead_passes (c := c) (r := r) (a := a)
  obtain ⟨hbody, hbodyFails⟩ := sendBody_passes (c := c) (r := r) (a := a)
  obtain ⟨hflush, hflushFails⟩ := @flushInterruptible_passes c.cancel a.flush
  have hreads := readLoop_fails_iff (c := c) a.reads []
  show (c.requestOnce r a).Fails ↔ _
  rw [requestOnce_eq, Io.fails_bind, Io.fails_bind, Io.fails_bind, Io.fails_within, hbefore, hbodyFails, hflushFails]
  constructor
  · rintro (h | ⟨u, hsent, h | ⟨v, hwritten, h | ⟨w, hflushed, h⟩⟩⟩)
    · exact .inl h
    · exact .inr ⟨hhead.1 hsent, .body h⟩
    · exact .inr ⟨hhead.1 hsent, .flush (hbody.1 hwritten) h⟩
    · exact .inr ⟨hhead.1 hsent, .response (hbody.1 hwritten) (hflush.1 (Io.within_eq_ok_iff.1 hflushed)) (hreads.1 h)⟩
  · rintro (h | ⟨hsent, h | ⟨hwritten, h⟩ | ⟨hwritten, hflushed, h⟩⟩)
    · exact .inl h
    · exact .inr ⟨(), hhead.2 hsent, .inl h⟩
    · exact .inr ⟨(), hhead.2 hsent, .inr ⟨(), hbody.2 hwritten, .inl h⟩⟩
    · exact .inr ⟨(), hhead.2 hsent, .inr ⟨(), hbody.2 hwritten, .inr ⟨(), Io.within_eq_ok_iff.2 (hflush.2 hflushed),
        hreads.2 h⟩⟩⟩

/-- The bytes that an attempt sends are those that the network takes of the body. -/
theorem bodyBytesSent_pos : 0 < c.bodyBytesSent r a ↔ c.TakesBody r a := by
  have hhead := (sendHead_passes (c := c) (r := r) (a := a)).1
  unfold bodyBytesSent TakesBody bodyLength
  rw [← hhead]
  cases c.sendHead r a with
  | ok u =>
    cases r.body with
    | none => simp [not_takesByte_zero]
    | some body =>
      obtain ⟨-, -, hpos⟩ := @writeAllInterruptible_passes c.cancel a.body body.2
      simpa using hpos
  | err e => simp
  | panic => simp
  | running => simp

private theorem fails_iff_of_takesBody (h : c.TakesBody r a) : c.Fails r a ↔ c.FailsAfter r a := by
  refine ⟨?_, fun hafter => .inr ⟨h.1, hafter⟩⟩
  rintro (hbefore | ⟨-, hafter⟩)
  · obtain ⟨hhead, hfails⟩ := sendHead_passes (c := c) (r := r) (a := a)
    obtain ⟨e, he, -⟩ := hfails.2 hbefore
    cases (hhead.2 h.1).symm.trans he
  · exact hafter

end Attempts

/-! ### Attempts after the body has gone out -/

section Requests

variable (r : HttpRequest) (net : Nat → Attempt)

/-- The attempts in between fail before the network takes a byte of the body. -/
def FailWithout (i k : Nat) : Prop := ∀ m, i ≤ m → m < k → c.Fails r (net m) ∧ ¬ c.TakesBody r (net m)

/-- The first attempt on which the network takes a byte of the body. -/
structure FirstTaken (j : Nat) : Prop where
  budget : j ≤ c.retries
  before : c.FailWithout r net 0 j
  taken : c.TakesBody r (net j)

/-- The first attempt after number `j` on which the network takes a byte of the body. -/
structure NextTaken (j k : Nat) : Prop where
  later : j < k
  budget : k ≤ c.retries
  between : c.FailWithout r net (j + 1) k
  taken : c.TakesBody r (net k)

/-- The first attempt that has bytes of the body taken from it does not fail afterwards, or no retry comes as far. -/
def TakenOnce : Prop := ∀ j, c.FirstTaken r net j → c.FailsAfter r (net j) → ∀ k, ¬ c.NextTaken r net j k

variable {r net}

/-- The body of a request goes out once exactly when the network takes it once. -/
theorem sentOnce_request (hretries : c.retries + 1 < 2 ^ 32) : SentOnce (c.request r net).2 ↔ c.TakenOnce r net := by
  rw [c.sentOnce_request_iff hretries]
  simp only [retried_iff, bodyBytesSent_pos]
  constructor
  · intro h j hj hafter k hk
    refine h j k hk.later hk.budget (fun m hm => ?_) hj.taken hk.taken
    rcases lt_trichotomy m j with hmj | rfl | hmj
    · exact (hj.before m m.zero_le hmj).1
    · exact .inr ⟨hj.taken.1, hafter⟩
    · exact (hk.between m hmj hm).1
  · intro h j k hjk hk hfails hj hsk
    -- of the attempts that take bytes, the first and the one after it
    classical
    have hfirst : ∃ i, c.TakesBody r (net i) := ⟨j, hj⟩
    have hle : Nat.find hfirst ≤ j := Nat.find_min' hfirst hj
    have hnext : ∃ i, Nat.find hfirst < i ∧ c.TakesBody r (net i) := ⟨k, by omega, hsk⟩
    have hnextle : Nat.find hnext ≤ k := Nat.find_min' hnext ⟨by omega, hsk⟩
    obtain ⟨hlater, htaken⟩ := Nat.find_spec hnext
    refine h (Nat.find hfirst) ⟨by omega, fun m _ hm => ⟨hfails m (by omega), Nat.find_min hfirst hm⟩,
      Nat.find_spec hfirst⟩ ?_ (Nat.find hnext) ⟨hlater, by omega, fun m hm hmk => ⟨hfails m (by omega), ?_⟩, htaken⟩
    · exact (fails_iff_of_takesBody (Nat.find_spec hfirst)).1 (hfails _ (by omega))
    · exact fun hm' => Nat.find_min hnext hmk ⟨hm, hm'⟩

end Requests

end BoundedHttpClient

end WirelessProgrammer
