import WirelessProgrammer.WatchStream

/-!
# The Rust client

`wp-client/src/client.rs`: the methods of `Client` that wait for one response, each of them the decoding of the frame that
is read.
-/

namespace WirelessProgrammer.RustClient

open Serde

variable (bodies : Bodies)

/-- `round_trip`, given the frame that is read. -/
def roundTrip (frame : Json) : Except ClientError Response := (Response.fromJson bodies frame).mapError .codec

/-- `expect_result`: an error first, then the type, then the result. -/
def expectResult (resp : Response) (expected : RequestKind) : Except ClientError ResultBody :=
  match resp.error with
  | some e => .error (.fromErrorBody e)
  | none => if resp.kind ≠ expected then .error .unexpectedResponse else (resp.result).elim (.error .unexpectedResponse) .ok

/-- A method that takes the bodies of its kind. -/
def expecting {α : Type} (expected : RequestKind) (take : ResultBody → Option α) (frame : Json) :
    Except ClientError α := do
  let resp ← roundTrip bodies frame
  let body ← expectResult resp expected
  (take body).elim (.error .unexpectedResponse) .ok

def hello : Json → Except ClientError HelloResult := expecting bodies .hello fun
  | .hello h => some h
  | _ => none

def scanMode : Json → Except ClientError (List CandidateWire) := expecting bodies .scan fun
  | .scan c => some c
  | _ => none

/-- The only method that takes two bodies. -/
def updateFirmware : Json → Except ClientError ProgramResult := expecting bodies .updateFirmware fun
  | .updateFirmware p => some p
  | .program p => some p
  | _ => none

def probe : Json → Except ClientError DeviceInfoWire := expecting bodies .probe fun
  | .probe d => some d
  | _ => none

def program : Json → Except ClientError ProgramResult := expecting bodies .program fun
  | .program p => some p
  | _ => none

def jobGet : Json → Except ClientError JobSnapshotWire := expecting bodies .jobGet fun
  | .job j => some j
  | _ => none

def jobCancel : Json → Except ClientError JobSnapshotWire := expecting bodies .jobCancel fun
  | .jobCancelled j => some j
  | _ => none

def identify : Json → Except ClientError Unit := expecting bodies .identify fun
  | .identify => some ()
  | _ => none

def linkStatus : Json → Except ClientError LinkStatusWire := expecting bodies .linkStatus fun
  | .linkStatus s => some s
  | _ => none

/-! ### Error responses -/

variable {bodies}

/-- An error response is an error of every method, by its code, whatever the type; `identify` is read with a result, and
its error comes first. -/
theorem expecting_errResponse {α : Type} (hb : bodies.ReadBack) (kind expected : RequestKind) (take : ResultBody → Option α)
    (code message : String) :
    expecting bodies expected take (errResponse kind code message).toJson = .error (.fromErrorBody ⟨code, message⟩) := by
  have hbuilt : Response.Built (errResponse kind code message) := .error kind ⟨code, message⟩
  have hread : roundTrip bodies (errResponse kind code message).toJson =
      .ok ⟨kind, if kind = .identify then some .identify else none, some ⟨code, message⟩⟩ := by
    rw [roundTrip, Response.fromJson_toJson hb hbuilt]
    cases kind <;> rfl
  rw [expecting, hread]
  rfl

end WirelessProgrammer.RustClient
