import WirelessProgrammer.Drivers.FirmwareUpload
import WirelessProgrammer.Fake.WiFredOverSockets

/-!
# Uploading to the fake RailBOX over sockets

The RailBOX takes an image and closes the connection without a reply, since it restarts.  The upload ends well for a client
that counts a close after the request as success; for any other client it fails, although the device has the image, and
however often the client has sent it.
-/

namespace WirelessProgrammer

open Text Effect

namespace Rb23xx

variable {readJson : List UInt8 → Except String Json} {writeJson : Json → List UInt8} {c : BoundedHttpClient}
  {image : List UInt8} {filename : String}

/-- The request of an upload. -/
def uploadRequest (image : List UInt8) (filename : String) : HttpRequest :=
  ⟨"POST", uploadPath filename, some (UPLOAD_CONTENT_TYPE, image)⟩

private theorem beforeQuery_uploadPath (filename : String) :
    beforeQuery (uploadPath filename).toList = "/upload".toList := by
  have hpath : (uploadPath filename).toList =
      "/upload".toList ++ '?' :: ("p=/".toList ++ (percentEncode (uploadName filename)).toList) := by
    unfold uploadPath
    rw [String.toList_append]
    rfl
  rw [beforeQuery, hpath, splitOnce_append_cons (by decide)]
  rfl

/-- An image is taken without a reply. -/
theorem handle_upload (himage : image ≠ []) (d : Rb23xxFake) :
    d.handle (.ofHttp (uploadRequest image filename)) = (⟨200, "text/plain", [], true⟩, ⟨some image.length⟩) := by
  have hpath := beforeQuery_uploadPath filename
  rw [← Rb23xxFake.splitQuery_fst] at hpath
  have hne : image.length ≠ 0 := fun hzero => himage (List.length_eq_zero_iff.1 hzero)
  unfold Rb23xxFake.handle
  simp only [FakeRequest.ofHttp, uploadRequest, hpath, Option.map_some, Option.getD_some]
  rw [if_neg (by decide), if_pos ⟨trivial, trivial⟩]
  exact if_neg hne

private theorem knows_upload (himage : image ≠ []) (d : Rb23xxFake) :
    Knows Rb23xxFake.handle d (.ofHttp (uploadRequest image filename)) := by
  unfold Knows
  rw [handle_upload himage]
  exact (by decide : (200 : UInt16) ≠ 404)

/-- A client that waits for the restart takes the missing reply for success. -/
theorem resultFor_dropped (hflag : c.successOnResetAfterWrite = true) :
    FakeResponse.resultFor c ⟨200, "text/plain", [], true⟩ = .ok [] := by
  simp [FakeResponse.resultFor, hflag]

private theorem served_upload (hhost : '\r' ∉ c.host.toList) (himage : image ≠ []) (hsmall : image.length < 2 ^ 63) :
    Served Rb23xxFake.handle c (fun _ => True) (uploadRequest image filename) := by
  have hpath : IsWord (uploadPath filename) :=
    ⟨by simp [uploadPath], WiFred.unspaced_literal (by decide) _⟩
  have hpost : IsWord "POST" := by decide
  have hsend : c.Sendable (uploadRequest image filename) := by
    refine ⟨hpost, hpath, hhost, fun b hb => ?_, fun b hb => ?_⟩
    · obtain rfl := Option.some.inj hb
      show '\r' ∉ UPLOAD_CONTENT_TYPE.toList
      decide
    · obtain rfl := Option.some.inj hb
      exact hsmall
  refine .of_handle hsend (fun b hb => ?_) (fun d _ => handle_upload himage d) (fun _ _ => ?_) (fun _ _ => trivial)
    fun _ _ => ⟨rfl, rfl⟩
  · obtain rfl := Option.some.inj hb
    exact himage
  · show '\r' ∉ "text/plain".toList
    decide

/-- What the client makes of the missing reply. -/
theorem updateFirmware_direct (himage : image ≠ []) (d : Rb23xxFake) :
    (updateFirmware .http image filename).run.serve (clientAnswer Rb23xxFake.handle c) d =
      (if c.successOnResetAfterWrite then .ok ⟨true, []⟩ else .error (.http "no header/body separator"),
        ⟨some image.length⟩) := by
  have hclient : (DriverM.httpClient "rb23xx" .http).run.serve (clientAnswer Rb23xxFake.handle c) d = (.ok (), d) := rfl
  have hrequest := serve_request Rb23xxFake.handle c DriverM.uploadError (uploadRequest image filename) d
  rw [handle_upload himage] at hrequest
  unfold updateFirmware DriverM.upload
  rw [Prog.serve_except_bind hclient, Prog.serve_except_bind (serve_step _ c "write" d),
    Prog.serve_except_bind (serve_detail _ c _ d)]
  by_cases hflag : c.successOnResetAfterWrite = true
  · rw [resultFor_dropped hflag] at hrequest
    rw [if_pos hflag]
    refine (Prog.serve_except_bind hrequest).trans ?_
    rw [Prog.serve_except_bind (serve_step _ c "restart" _)]
    rfl
  · have herror : FakeResponse.resultFor c ⟨200, "text/plain", [], true⟩ =
        .error (invalidData "no header/body separator") := by
      simp [FakeResponse.resultFor, FakeResponse.result, hflag]
    rw [herror] at hrequest
    rw [if_neg hflag]
    exact Prog.serve_except_bind_error hrequest

private theorem embeds_rb23xx : Embeds (AnyFake.handle readJson writeJson) Rb23xxFake.handle .rb23xx := fun _ _ => rfl

private theorem updateFirmware_issues : Issues (updateFirmware .http image filename) [uploadRequest image filename] :=
  (Issues.httpClient _ _).bind fun _ => (Issues.step _).bind fun _ => (Issues.detail _).bind fun _ =>
    (Issues.request _ _).bind fun _ => (Issues.step _).bind fun _ => .pure _

/-- Over connections that do not fail, against a composite of fakes of different kinds: the RailBOX has the image and the
other fakes are as they were, and whether the upload ends well is up to the client alone. -/
theorem updateFirmware_overSockets {d : Rb23xxFake} {before after devices : List AnyFake}
    {tr : List (Event DriverOp DriverOp.Res)} {result : Except DriverError Outcome} (hhost : '\r' ∉ c.host.toList)
    (himage : image ≠ []) (hsmall : image.length < 2 ^ 63)
    (hkinds : ((before ++ .rb23xx d :: after).map AnyFake.driverId).Nodup)
    (hrun : Prog.Run (updateFirmware .http image filename).run tr result)
    (hserved : Prog.ServedBy (overSockets c fun r => Answered (compositeHandle (AnyFake.handle readJson writeJson)) c r)
      (before ++ .rb23xx d :: after) tr devices) :
    devices = before ++ .rb23xx ⟨some image.length⟩ :: after ∧
      result = if c.successOnResetAfterWrite then .ok ⟨true, []⟩ else .error (.http "no header/body separator") := by
  have hreq : ∀ r ∈ requestsOf tr, Served Rb23xxFake.handle c (fun _ => True) r ∧
      GetsTo (AnyFake.handle readJson writeJson) Rb23xxFake.handle before (fun _ => True) (.ofHttp r) := by
    intro r hr
    obtain rfl := List.mem_singleton.1 ((updateFirmware_issues _ _ hrun).1.subset hr)
    have hserves : (AnyFake.rb23xx d).Serves (.ofHttp (uploadRequest image filename)) :=
      .inr ⟨rfl, beforeQuery_uploadPath filename⟩
    refine ⟨served_upload hhost himage hsmall, AnyFake.not_knows_before hkinds hserves, fun s _ => knows_upload himage s⟩
  have hsize : ∀ r ∈ requestsOf tr, ∀ s : Rb23xxFake, True → (s.handle (.ofHttp r)).1.written.length ≤ c.maxBody := by
    intro r hr s _
    obtain rfl := List.mem_singleton.1 ((updateFirmware_issues _ _ hrun).1.subset hr)
    rw [handle_upload himage]
    exact Nat.zero_le _
  obtain ⟨hresult, hdevices⟩ := overSockets_part_exact embeds_rb23xx AnyFake.refusesQuietly_handle
    (J := fun _ => True) trivial hrun hserved hreq hsize
  rw [updateFirmware_direct himage] at hresult hdevices
  exact ⟨hdevices, hresult.symm⟩

private def uploadClient : BoundedHttpClient := Driver.rb23xx.firmwareClient "192.168.4.1" 80 none none

/-- A small image, sent by the client that the daemon builds for an upload. -/
theorem updateFirmware_overSockets_image : ∃ tr devices result,
    Prog.Run (updateFirmware .http [233, 1] "image.bin").run tr result ∧
      Prog.ServedBy (overSockets uploadClient fun r =>
        Answered (compositeHandle (AnyFake.handle (fun _ => .error "no JSON") fun _ => [])) uploadClient r)
          AnyFake.all tr devices ∧
      devices = [.wifred .new, .longfred .new] ++ .rb23xx ⟨some 2⟩ :: [] ∧ result = .ok ⟨true, []⟩ := by
  have hhost : '\r' ∉ uploadClient.host.toList := by decide
  have hkinds : (([AnyFake.wifred .new, .longfred .new] ++ AnyFake.rb23xx .new :: []).map AnyFake.driverId).Nodup := by decide
  have hserves : (AnyFake.rb23xx .new).Serves (.ofHttp (uploadRequest [233, 1] "image.bin")) :=
    .inr ⟨rfl, beforeQuery_uploadPath _⟩
  have hshort : (uploadClient.requestBytes (uploadRequest [233, 1] "image.bin")).length ≤ 512 := by
    rw [BoundedHttpClient.length_requestBytes]
    decide +kernel
  have hrequest : requestOver uploadClient
      (fun r => Answered (compositeHandle (AnyFake.handle (fun _ => .error "no JSON") fun _ => [])) uploadClient r)
      (uploadRequest [233, 1] "image.bin") (.ok []) ([.wifred .new, .longfred .new] ++ .rb23xx .new :: [])
        ([.wifred .new, .longfred .new] ++ .rb23xx ⟨some 2⟩ :: []) :=
    Served.requested_part (J := fun _ => True) [] embeds_rb23xx AnyFake.refusesQuietly_handle trivial hshort
      (handle_upload (by decide) _) (Nat.zero_le _) (served_upload hhost (by decide) (by decide))
      ⟨AnyFake.not_knows_before hkinds hserves, fun s _ => knows_upload (by decide) s⟩ (by decide)
  have hupload : Completes (requestOver uploadClient fun r =>
      Answered (compositeHandle (AnyFake.handle (fun _ => .error "no JSON") fun _ => [])) uploadClient r)
        (updateFirmware .http [233, 1] "image.bin") ([.wifred .new, .longfred .new] ++ .rb23xx .new :: []) (.ok ⟨true, []⟩)
          ([.wifred .new, .longfred .new] ++ .rb23xx ⟨some 2⟩ :: []) := by
    refine (Completes.pure () _).bind ((Completes.step "write" _).bind ((Completes.detail _ _).bind ?_))
    exact (Completes.request hrequest).bind ((Completes.step "restart" _).bind (.pure _ _))
  obtain ⟨tr, hrun, hserved⟩ := hupload
  obtain ⟨hdevices, hresult⟩ := updateFirmware_overSockets hhost
    (by decide) (by decide) hkinds hrun hserved
  exact ⟨tr, _, _, hrun, hserved, hdevices, hresult⟩

end Rb23xx

end WirelessProgrammer
