import WirelessProgrammer.Http.FailedAttempts
import WirelessProgrammer.Drivers.Registry

/-!
# Firmware uploads over HTTP

The work of `firmware_http_with_heartbeats`: a driver's `update_firmware` over the client that
`make_firmware_http_client` builds, for a Soft-AP or a LAN host.  Its log has the bytes of the image that each connection
was handed.  `firmwareHttp_sentOnce` says for which behaviour of the network the image goes out on one connection only: an
attempt that has begun to send it must not fail, or no retry may come as far.
-/

namespace WirelessProgrammer

open Effect

/-- Firmware POST deadline, in milliseconds. -/
def FIRMWARE_DEADLINE : Nat := 120 * 1000

def makeFirmwareHttpClient (host : String) (port : UInt16) (source device : Option String) (cancel : Bool)
    (successOnResetAfterWrite : Bool) : BoundedHttpClient where
  host := host
  port := port
  source := source
  device := device
  deadline := FIRMWARE_DEADLINE
  connectDeadline := 5000
  retries := 3
  retryDelay := 1000
  maxBody := MAX_BODY_BYTES
  cancel := cancel
  successOnResetAfterWrite := successOnResetAfterWrite
  maxBody_lt := MAX_BODY_BYTES_lt

namespace BoundedHttpClient

variable {α : Type} (c : BoundedHttpClient)

/-- Driver code over the client, from its request number `i` on; `net i` is what the network does on the attempts of that
request.  A panic or a loop of the client does not come back to the driver. -/
def runDriver (net : Nat → Nat → Attempt) : Nat → Prog DriverOp DriverOp.Res α → Io α × List Nat
  | _, .ret a => (.ok a, [])
  | i, .op (.request r) k =>
    let sent := c.request r (net i)
    match sent.1 with
    | .ok body =>
      let rest := runDriver net (i + 1) (k (.ok body))
      (rest.1, sent.2 ++ rest.2)
    | .err e =>
      let rest := runDriver net (i + 1) (k (.error e))
      (rest.1, sent.2 ++ rest.2)
    | .panic => (.panic, sent.2)
    | .running => (.running, sent.2)
  | i, .op (.step _) k => runDriver net i (k ())
  | i, .op (.progress _) k => runDriver net i (k ())
  | i, .op (.detail _) k => runDriver net i (k ())

/-- After its last request driver code sends nothing. -/
theorem runDriver_request_last {r : HttpRequest} {k : Except IoError (List UInt8) → Prog DriverOp DriverOp.Res α}
    {net : Nat → Nat → Attempt} {i : Nat} (hk : ∀ answer, (c.runDriver net (i + 1) (k answer)).2 = []) :
    (c.runDriver net i (.op (.request r) k)).2 = (c.request r (net i)).2 := by
  rw [runDriver]
  cases (c.request r (net i)).1 with
  | ok body => simp [hk]
  | err e => simp [hk]
  | panic => rfl
  | running => rfl

/-- An upload sends what its one request sends. -/
theorem runDriver_upload (net : Nat → Nat → Attempt) (name path contentType : String) (image : List UInt8) :
    (c.runDriver net 0 (DriverM.upload name .http path contentType image).run).2 =
      (c.request ⟨"POST", path, some (contentType, image)⟩ (net 0)).2 := by
  refine c.runDriver_request_last fun answer => ?_
  cases answer with
  | ok body => rfl
  | error e => rfl

end BoundedHttpClient

/-- The client of a driver's upload: its cancel flag is armed. -/
def Driver.firmwareClient (d : Driver) (host : String) (port : UInt16) (source device : Option String) :
    BoundedHttpClient :=
  makeFirmwareHttpClient host port source device true (d.capabilities.firmware.any (·.successOnResetAfterWrite))

/-- The work of `firmware_http_with_heartbeats`. -/
def Driver.firmwareHttp (d : Driver) (image : List UInt8) (filename host : String) (port : UInt16)
    (source device : Option String) (net : Nat → Nat → Attempt) : Io (Except DriverError Outcome) × List Nat :=
  (d.firmwareClient host port source device).runDriver net 0 (d.updateFirmware .http image filename).run

/-- The request that carries the image. -/
def Driver.uploadRequest (image : List UInt8) (filename : String) : Driver → Option HttpRequest
  | .longFred => some ⟨"POST", LongFred.FIRMWARE_PATH, some (LongFred.FIRMWARE_CONTENT_TYPE, image)⟩
  | .rb23xx => some ⟨"POST", Rb23xx.uploadPath filename, some (Rb23xx.UPLOAD_CONTENT_TYPE, image)⟩
  | .wiFred => none
  | .fred => none

/-- An upload sends what its request sends, and without one it sends nothing. -/
theorem Driver.firmwareHttp_log (d : Driver) (image : List UInt8) (filename host : String) (port : UInt16)
    (source device : Option String) (net : Nat → Nat → Attempt) :
    (d.firmwareHttp image filename host port source device net).2 =
      match d.uploadRequest image filename with
      | some r => ((d.firmwareClient host port source device).request r (net 0)).2
      | none => [] := by
  cases d with
  | wiFred => rfl
  | fred => rfl
  | longFred => exact BoundedHttpClient.runDriver_upload ..
  | rb23xx => exact BoundedHttpClient.runDriver_upload ..

/-- For every driver, image and target, the image goes out on one connection only, exactly when the first attempt on which
the network takes a byte of it does not fail afterwards (on the rest of the body, on the flush, while reading or by a
response that is refused), or on no retry the network takes a byte of it again. -/
theorem Driver.firmwareHttp_sentOnce (d : Driver) (image : List UInt8) (filename host : String) (port : UInt16)
    (source device : Option String) (net : Nat → Nat → Attempt) :
    SentOnce (d.firmwareHttp image filename host port source device net).2 ↔
      ∀ r, d.uploadRequest image filename = some r → (d.firmwareClient host port source device).TakenOnce r (net 0) := by
  rw [d.firmwareHttp_log]
  cases hr : d.uploadRequest image filename with
  | none => simp [SentOnce]
  | some r =>
    have hretries : (d.firmwareClient host port source device).retries + 1 < 2 ^ 32 := by
      show 3 + 1 < 2 ^ 32
      decide
    rw [BoundedHttpClient.sentOnce_request _ hretries]
    simp

/-! ### An image sent twice -/

private def appImage : HttpRequest := ⟨"POST", LongFred.FIRMWARE_PATH, some (LongFred.FIRMWARE_CONTENT_TYPE, [0xE9])⟩

private def lanClient : BoundedHttpClient := Driver.longFred.firmwareClient "10.0.0.9" 80 none none

/-- The network takes the whole request and resets the connection before it answers. -/
private def resetAfterWrite : Attempt where
  connect := ⟨.ok ("10.0.0.9:80", false), .ok (), .ok (), .ok (), .ok (), .ok (), .ok ()⟩
  cancelled := false
  head := [⟨false, false, .ok (), .ok (Text.utf8Bytes (lanClient.requestHead appImage)).length⟩]
  body := [⟨false, false, .ok (), .ok 1⟩]
  flush := [⟨false, false, .ok (), .ok ()⟩]
  reads := [⟨⟨false, false, .ok (), .error ⟨.connectionReset, "reset"⟩⟩, false⟩]

private theorem getsToBody_resetAfterWrite : lanClient.GetsToBody appImage resetAfterWrite where
  connected := rfl
  live := rfl
  head := by
    refine (writeAllInterruptible_passes ..).1.1 ?_
    rw [resetAfterWrite, writeAllInterruptible_whole rfl rfl]

private theorem failsAfter_resetAfterWrite : lanClient.FailsAfter appImage resetAfterWrite := by
  have hbody : WriteDone true 1 resetAfterWrite.body :=
    @WriteDone.takes true 0 0 _ _ rfl rfl .nothing
  refine .response hbody (.here ⟨rfl, rfl⟩) (.fails (.reset ⟨by decide, rfl⟩ ⟨rfl, rfl, rfl⟩ rfl rfl rfl))

private theorem firmwareHttp_lan (net : Nat → Nat → Attempt) :
    (Driver.longFred.firmwareHttp [0xE9] "a.app.bin" "10.0.0.9" 80 none none net).2 =
      (lanClient.request appImage (net 0)).2 := by
  have hupload : Driver.longFred.uploadRequest [0xE9] "a.app.bin" = some appImage := rfl
  rw [Driver.firmwareHttp_log, hupload]
  rfl

/-- A throttle that takes the image and resets the connection gets the image again. -/
theorem Driver.firmwareHttp_sends_again :
    ∃ net, ¬ SentOnce (Driver.longFred.firmwareHttp [0xE9] "a.app.bin" "10.0.0.9" 80 none none net).2 := by
  refine ⟨fun _ _ => resetAfterWrite, ?_⟩
  rw [firmwareHttp_lan]
  have hiff : SentOnce (lanClient.request appImage fun _ => resetAfterWrite).2 ↔
      lanClient.TakenOnce appImage fun _ => resetAfterWrite := lanClient.sentOnce_request (by decide)
  have htaken : lanClient.TakesBody appImage resetAfterWrite :=
    ⟨getsToBody_resetAfterWrite, .here ⟨rfl, 1, rfl, by decide, by decide⟩⟩
  refine fun h => hiff.1 h 0 ⟨by decide, fun m _ hm => ?_, htaken⟩ failsAfter_resetAfterWrite 1
    ⟨by decide, by decide, fun m hm hm1 => ?_, htaken⟩
  · omega
  · omega

end WirelessProgrammer
