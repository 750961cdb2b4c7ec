import WirelessProgrammer.Proto.Decode

/-!
# The Rust client's side of a watch

`wp-client/src/watch.rs`: the reader of a `job.watch` stream.  The connection delivers one payload after the other, and
nothing more once the daemon has closed it.
-/

namespace WirelessProgrammer

/-- What a read from the connection comes to. -/
inductive FrameRead
  | payload (v : Json)
  /-- Nothing at all was read before the end. -/
  | closed
  | timedOut
  | failed (e : String)

inductive ClientError
  | frame (e : String)
  | codec (e : Serde.DeError)
  | unexpectedResponse
  | server (code message : String)
  | busy (message : String)
  | notFound (message : String)
  | noCandidates (message : String)
  | watchIdle
  deriving DecidableEq, Repr

/-- Map a wire error to a typed one. -/
def ClientError.fromErrorBody (e : ErrorBody) : ClientError :=
  if e.code = "busy" then .busy e.message
  else if e.code = "notFound" ∨ e.code = "candidateNotFound" then .notFound e.message
  else if e.code = "noCandidates" then .noCandidates e.message
  else .server e.code e.message

namespace WatchStream

variable (bodies : Bodies)

/-- The next progress frame, or `none` when the stream closes. -/
def nextFrame : FrameRead → Except ClientError (Option JobFrame)
  | .closed => .ok none
  | .timedOut => .error .watchIdle
  | .failed e => .error (.frame e)
  | .payload v =>
    match Response.fromJson bodies v with
    | .error e => .error (.codec e)
    | .ok resp =>
      match resp.error with
      | some e => .error (.fromErrorBody e)
      | none =>
        if resp.kind ≠ .jobWatch then .error .unexpectedResponse
        else
          match resp.result with
          | some (.jobWatch f) => .ok (some f)
          | _ => .error .unexpectedResponse

end WatchStream

/-- The response that carries a frame. -/
def frameResponse (f : JobFrame) : Response := ⟨.jobWatch, some (.jobWatch f), none⟩

namespace WatchStream

variable {bodies : Bodies}

theorem nextFrame_errResponse (hb : bodies.ReadBack) (code message : String) :
    nextFrame bodies (.payload (errResponse .jobWatch code message).toJson) =
      .error (.fromErrorBody ⟨code, message⟩) := by
  have hread : Response.fromJson bodies (errResponse .jobWatch code message).toJson =
      .ok (errResponse .jobWatch code message) :=
    Response.fromJson_toJson hb (.error .jobWatch ⟨code, message⟩)
  simp only [nextFrame, hread]
  rfl

end WatchStream

end WirelessProgrammer
