import WirelessProgrammer.Http.Message

/-!
# The bounded HTTP client

`BoundedHttpClient` of `wp-link/src/http.rs`.  The socket, the clock and the cancel flag are read through `Poll`s: what
one pass of a loop finds when it looks at them.  A loop works through a list of polls, and `Io.running` is the result of
a loop whose polls have run out, so the lists are exactly the finite prefixes of what the network can do.
-/

namespace WirelessProgrammer

/-! ### Results of socket code -/

/-- The outcome of socket code, or that it is still inside a loop. -/
inductive Io (α : Type)
  | ok (a : α)
  | err (e : IoError)
  | panic
  | running
  deriving DecidableEq, Repr

namespace Io

variable {α β : Type}

def bind : Io α → (α → Io β) → Io β
  | ok a, f => f a
  | err e, _ => err e
  | panic, _ => panic
  | running, _ => running

instance : Monad Io where
  pure := ok
  bind := bind

@[simp] theorem pure_eq (a : α) : (pure a : Io α) = ok a := rfl

@[simp] theorem ok_bind (a : α) (f : α → Io β) : (ok a >>= f) = f a := rfl

@[simp] theorem err_bind (e : IoError) (f : α → Io β) : (err e >>= f) = err e := rfl

@[simp] theorem panic_bind (f : α → Io β) : (panic >>= f) = panic := rfl

@[simp] theorem running_bind (f : α → Io β) : (running >>= f) = running := rfl

def ofChecked : Checked α → Io α
  | .ok a => ok a
  | .err e => err e
  | .panic => panic

def ofExcept : Except IoError α → Io α
  | .ok a => ok a
  | .error e => err e

/-- Prefix the text of an error. -/
def within (context : String) : Io α → Io α
  | err e => err (e.within context)
  | x => x

theorem bind_eq_ok {x : Io α} {f : α → Io β} {b : β} (h : (x >>= f) = ok b) : ∃ a, x = ok a ∧ f a = ok b := by
  cases x with
  | ok a => exact ⟨a, rfl, h⟩
  | err e => exact nomatch h
  | panic => exact nomatch h
  | running => exact nomatch h

end Io

def timedOut (message : String) : IoError := ⟨.timedOut, message⟩

def ioCancelled : IoError := ⟨.interrupted, "cancelled"⟩

/-! ### Configuration -/

/-- Maximum response body: 64 KiB. -/
def MAX_BODY_BYTES : Nat := 64 * 1024

/-- The client's settings.  Durations are in milliseconds; `cancel` says whether a cancel flag is armed, and socket
addresses are in their displayed form. -/
structure BoundedHttpClient where
  host : String
  port : UInt16
  source : Option String
  device : Option String
  deadline : Nat
  connectDeadline : Nat
  retries : Nat
  retryDelay : Nat
  maxBody : Nat
  cancel : Bool
  successOnResetAfterWrite : Bool
  /-- A `usize` that counts bytes of a buffer. -/
  maxBody_lt : maxBody < 2 ^ 63

theorem MAX_BODY_BYTES_lt : MAX_BODY_BYTES < 2 ^ 63 := by decide

namespace BoundedHttpClient

/-- Construct a client targeting `host:port`. -/
def new (host : String) (port : UInt16) : BoundedHttpClient where
  host := host
  port := port
  source := none
  device := none
  deadline := 5000
  connectDeadline := 3000
  retries := 3
  retryDelay := 500
  maxBody := MAX_BODY_BYTES
  cancel := false
  successOnResetAfterWrite := false
  maxBody_lt := MAX_BODY_BYTES_lt

end BoundedHttpClient

/-! ### What the code finds when it looks at the socket -/

/-- One pass of a loop: the cancel flag, whether the deadline has passed, setting the socket timeout, and the call. -/
structure Poll (α : Type) where
  cancelled : Bool
  expired : Bool
  setTimeout : Except IoError Unit
  call : Except IoError α

/-- A pass of the read loop; an empty read is the end of the stream, and a read that times out looks at the deadline
again. -/
structure ReadPoll extends Poll (List UInt8) where
  expiredAfter : Bool

/-- Opening the connection: the parsed destination (as displayed, and whether it is a local address), and the calls on
the new socket. -/
structure ConnectPoll where
  addr : Except String (String × Bool)
  socket : Except IoError Unit
  bindDevice : Except IoError Unit
  bind : Except IoError Unit
  connect : Except IoError Unit
  setReadTimeout : Except IoError Unit
  setWriteTimeout : Except IoError Unit

/-- What the network does on one connection attempt. -/
structure Attempt where
  connect : ConnectPoll
  cancelled : Bool
  head : List (Poll Nat)
  body : List (Poll Nat)
  flush : List (Poll Unit)
  reads : List ReadPoll

/-! ### Writing -/

def IoError.isTimeout (e : IoError) : Bool := e.kind = .timedOut || e.kind = .wouldBlock

/-- The checks at the head of a pass that writes. -/
def Poll.ready {α : Type} (armed : Bool) (p : Poll α) : Except IoError Unit :=
  if armed && p.cancelled then .error ioCancelled
  else if p.expired then .error (timedOut "write deadline elapsed")
  else p.setTimeout

/-- `write_all_interruptible`, with the number of bytes the socket has taken. -/
def writeAllInterruptible (armed : Bool) : List (Poll Nat) → List UInt8 → Io Unit × Nat
  | _, [] => (.ok (), 0)
  | [], _ :: _ => (.running, 0)
  | p :: polls, b :: bytes =>
    match p.ready armed with
    | .error e => (.err e, 0)
    | .ok () =>
      match p.call with
      | .ok 0 => (.err ⟨.writeZero, "write zero"⟩, 0)
      | .ok (n + 1) =>
        match sliceFrom (b :: bytes) (n + 1) with
        | .ok rest =>
          let r := writeAllInterruptible armed polls rest
          (r.1, n + 1 + r.2)
        | _ => (.panic, 0)
      | .error e => if e.isTimeout then writeAllInterruptible armed polls (b :: bytes) else (.err e, 0)

/-- The socket takes all the bytes at once. -/
theorem writeAllInterruptible_whole {armed : Bool} {p : Poll Nat} {bytes : List UInt8}
    (hready : p.ready armed = .ok ()) (hcall : p.call = .ok bytes.length) (polls : List (Poll Nat)) :
    writeAllInterruptible armed (p :: polls) bytes = (.ok (), bytes.length) := by
  cases bytes with
  | nil => rfl
  | cons b bytes =>
    rw [writeAllInterruptible, hready, hcall]
    simp [sliceFrom, writeAllInterruptible]

def flushInterruptible (armed : Bool) : List (Poll Unit) → Io Unit
  | [] => .running
  | p :: polls =>
    match p.ready armed with
    | .error e => .err e
    | .ok () =>
      match p.call with
      | .ok () => .ok ()
      | .error e => if e.isTimeout then flushInterruptible armed polls else .err e

/-! ### Reading -/

/-- How the read loop ends without an error: at a response to look at, or at a reboot of the device. -/
inductive ReadEnd
  | response (buf : List UInt8)
  | reboot
  deriving DecidableEq, Repr

/-- The connection was reset or closed under the reader. -/
def IoError.isReset (e : IoError) : Bool :=
  e.kind = .connectionReset || e.kind = .connectionAborted || e.kind = .unexpectedEof

namespace BoundedHttpClient

variable (c : BoundedHttpClient)

/-- The end of the stream (`e` absent) or a reset (`e`), with `buf` received. -/
def closed (buf : List UInt8) (e : Option IoError) : Io ReadEnd := do
  if ← .ofChecked (httpMessageComplete buf) then return .response buf
  if c.successOnResetAfterWrite then return .reboot
  match e with
  | none => return .response buf
  | some e => .err (e.within "read")

/-- The read loop with `buf` received so far. -/
def readLoop : List ReadPoll → List UInt8 → Io ReadEnd
  | [], _ => .running
  | p :: polls, buf =>
    if c.cancel && p.cancelled then .err ioCancelled
    else if buf.length > c.maxBody then .err (invalidData "response exceeds max body size")
    else
      match httpMessageComplete buf with
      | .panic => .panic
      | .err e => .err e
      | .ok true => .ok (.response buf)
      | .ok false =>
        if p.expired then .err (timedOut "request deadline elapsed")
        else
          match p.setTimeout with
          | .error e => .err e
          | .ok () =>
            match p.call with
            | .ok [] => c.closed buf none
            | .ok (b :: data) => readLoop polls (buf ++ b :: data)
            | .error e =>
              if e.isTimeout && c.cancel && !p.expiredAfter then readLoop polls buf
              else if e.isTimeout then .err (timedOut "read deadline elapsed")
              else if e.isReset then c.closed buf (some e)
              else .err (e.within "read")

/-- The checks on a decoded response: the size of its body and its status. -/
def checkBody (buf body : List UInt8) : Checked (List UInt8) := do
  if body.length > c.maxBody then .err (invalidData "response body exceeds max body size")
  let status ← .ofExcept (parseStatus buf)
  if ¬ (200 ≤ status ∧ status < 300) then .err ⟨.unexpectedEof, s!"unexpected HTTP status {status}"⟩
  return body

/-- The body of a response, if its status is a success. -/
def responseBody (buf : List UInt8) : Checked (List UInt8) := do
  let bodyStart ← .ofExcept (locateBody buf)
  let rawBody ← sliceFrom buf bodyStart
  let headers ← sliceRange buf 0 bodyStart
  let body ← (if isChunked headers then decodeChunked rawBody else .ok rawBody)
  c.checkBody buf body

/-! ### A request -/

/-- The socket is opened, bound and connected. -/
def connectSocket (p : ConnectPoll) : Except IoError Unit := do
  let (addr, destIsLocal) ← p.addr.mapError (⟨.invalidInput, ·⟩)
  p.socket
  if c.device.isSome && !destIsLocal then p.bindDevice
  if let some src := c.source then p.bind.mapError (IoError.within s!"bind {src}")
  p.connect.mapError (IoError.within s!"connect {addr}")
  p.setReadTimeout
  p.setWriteTimeout

/-- The request line and the headers. -/
def requestHead (r : HttpRequest) : String :=
  s!"{r.method} {r.path} HTTP/1.1\r\nHost: {c.host}:{c.port}\r\nConnection: close\r\n" ++
    (match r.body with
      | some (contentType, bytes) => s!"Content-Type: {contentType}\r\nContent-Length: {bytes.length}\r\n"
      | none => "") ++ "\r\n"

/-- `request_once` up to the end of the headers. -/
def sendHead (r : HttpRequest) (a : Attempt) : Io Unit := do
  .ofExcept (c.connectSocket a.connect)
  if c.cancel && a.cancelled then .err ioCancelled
  (writeAllInterruptible c.cancel a.head (Text.utf8Bytes (c.requestHead r))).1.within "write headers"

/-- `request_once` up to the end of the request, body and flush included. -/
def sendRequest (r : HttpRequest) (a : Attempt) : Io Unit := do
  c.sendHead r a
  if let some (_, bytes) := r.body then
    (writeAllInterruptible c.cancel a.body bytes).1.within "write body"
  (flushInterruptible c.cancel a.flush).within "flush"

/-- Issue a single request, returning the raw body. -/
def requestOnce (r : HttpRequest) (a : Attempt) : Io (List UInt8) := do
  c.sendRequest r a
  match ← c.readLoop a.reads [] with
  | .reboot => return []
  | .response buf => .ofChecked (c.responseBody buf)

/-- How many bytes of the body a single request has handed to the network. -/
def bodyBytesSent (r : HttpRequest) (a : Attempt) : Nat :=
  match c.sendHead r a, r.body with
  | .ok (), some (_, bytes) => (writeAllInterruptible c.cancel a.body bytes).2
  | _, _ => 0

end BoundedHttpClient

end WirelessProgrammer
