import WirelessProgrammer.Daemon.System

/-!
# What is uploaded

The checks that a firmware job passes before its image is uploaded over HTTP, and what they say about the image.  An image
that has to be an ESP app image is recognised by the name of its file before its content is looked at, and a merged dump by
name and size alone.
-/

namespace WirelessProgrammer

open Effect

/-! ### Images -/

section Images

variable {path : String} {image : List UInt8}

/-- The name of the file, in lower case. -/
def lowerName (path : String) : List Char := ((fileName path).getD "").toList.map Char.toLower

def NamedAppBin (path : String) : Prop := ".app.bin".toList.isSuffixOf (lowerName path) = true

def IsElf (image : List UInt8) : Prop := image.take 4 = [0x7f, 0x45, 0x4c, 0x46]

def NamedBin (path : String) : Prop := ".bin".toList.isSuffixOf (lowerName path) = true

/-- What `classify_image` takes for a merged dump among the files that begin as an ESP image does: the name of an image
that is not an app image, and a size beyond the offset of the app. -/
def TakenForDump (path : String) (size : Nat) : Prop :=
  NamedBin path ∧ ¬ NamedAppBin path ∧ OTA0_OFFSET < size

/-- A dump of the flash from its first byte on, by its content: an ESP image, the bootloader, at the start, and another one
where the app goes. -/
def IsMergedDump (image : List UInt8) : Prop :=
  image.head? = some 0xE9 ∧ image[OTA0_OFFSET]? = some 0xE9

/-- What an upload is allowed for: the mode, the size and the kind of image.  Which images are merged dumps is up to their
content and the tool that writes them, not to the name of the file. -/
structure Acceptable (merged : List UInt8 → Prop) (fw : FirmwareCapabilities) (job : FirmwareJob) (image : List UInt8) :
    Prop where
  mode : fw.allows job.mode = true
  nonempty : 1 ≤ image.length
  size : image.length ≤ fw.maxBytes
  kind (h : fw.requireEspAppBin = true) : image.head? = some 0xE9 ∧ ¬ IsElf image ∧ ¬ merged image

/-- An image is taken for an app image by its name, or by its first byte. -/
theorem classifyImage_appBin_iff :
    (∃ offset, classifyImage path (image.take 16) image.length = .ok (.appBin offset)) ↔
      ¬ IsElf image ∧ (NamedAppBin path ∨ image.head? = some 0xE9 ∧ ¬ TakenForDump path image.length) := by
  have htake : (image.take 16).take 4 = image.take 4 := by rw [List.take_take]; rfl
  have hhead : (image.take 16).head? = image.head? := by cases image <;> rfl
  simp only [classifyImage, TakenForDump, NamedAppBin, NamedBin, htake, hhead,
    show ((fileName path).getD "").toList.map Char.toLower = lowerName path from rfl]
  unfold IsElf
  generalize ".app.bin".toList.isSuffixOf (lowerName path) = app
  generalize ".bin".toList.isSuffixOf (lowerName path) = bin
  by_cases helf : image.take 4 = [0x7f, 0x45, 0x4c, 0x46]
  · simp [helf]
  rw [if_neg helf]
  cases app with
  | true => simp [helf]
  | false =>
    by_cases hmagic : image.head? = some 0xE9
    · by_cases hlong : OTA0_OFFSET < image.length <;> cases bin <;> simp [helf, hmagic, hlong]
    · simp [hmagic]

/-- What the checks on a job and its image have established by the time of an upload. -/
structure GatePassed (fw : FirmwareCapabilities) (job : FirmwareJob) (image : List UInt8) : Prop where
  mode : fw.allows job.mode = true
  nonempty : 1 ≤ image.length
  size : image.length ≤ fw.maxBytes
  kind (h : fw.requireEspAppBin = true) :
    ∃ offset, classifyImage job.path (image.take 16) image.length = .ok (.appBin offset)

variable {fw : FirmwareCapabilities} {job : FirmwareJob}

private theorem checkImage_ok (h : checkImage fw path image = .ok ()) :
    image.length ≤ fw.maxBytes ∧ (fw.requireEspAppBin = true →
      ∃ offset, classifyImage path (image.take 16) image.length = .ok (.appBin offset)) := by
  unfold checkImage at h
  split at h
  · cases h
  rename_i hsize
  refine ⟨not_lt.1 hsize, fun hesp => ?_⟩
  rw [if_pos hesp] at h
  split at h
  · exact ⟨_, ‹_›⟩
  · cases h
  · cases h

/-- What the checks let through although it is not acceptable: a file that is no ESP image under the name of an app image,
and a merged dump that its name and size do not give away. -/
def SlipsThrough (merged : List UInt8 → Prop) (path : String) (image : List UInt8) : Prop :=
  NamedAppBin path ∧ image.head? ≠ some 0xE9 ∨ merged image ∧ ¬ TakenForDump path image.length

/-- An image that has passed the checks is acceptable unless it slips through them. -/
theorem GatePassed.acceptable_iff {merged : List UInt8 → Prop} (h : GatePassed fw job image) :
    Acceptable merged fw job image ↔ ¬ (fw.requireEspAppBin = true ∧ SlipsThrough merged job.path image) := by
  constructor
  · rintro hacc ⟨hesp, ⟨-, hmagic⟩ | ⟨hmerged, -⟩⟩
    · exact hmagic (hacc.kind hesp).1
    · exact (hacc.kind hesp).2.2 hmerged
  · intro hslips
    refine ⟨h.mode, h.nonempty, h.size, fun hesp => ?_⟩
    obtain ⟨helf, hkind⟩ := classifyImage_appBin_iff.1 (h.kind hesp)
    have hmagic : image.head? = some 0xE9 := by
      by_contra hmagic
      rcases hkind with happ | ⟨hmagic', -⟩
      · exact hslips ⟨hesp, .inl ⟨happ, hmagic⟩⟩
      · exact hmagic hmagic'
    have htaken : ¬ TakenForDump job.path image.length := by
      rcases hkind with happ | ⟨-, htaken⟩
      · exact fun h => h.2.1 happ
      · exact htaken
    exact ⟨hmagic, helf, fun hmerged => hslips ⟨hesp, .inr ⟨hmerged, htaken⟩⟩⟩

end Images

/-! ### Uploads -/

/-- Only images that have passed are uploaded. -/
def Uploads (passed : Driver → List UInt8 → Prop) : Op → Prop
  | .world (.spawnBlocking (.firmwareHttp driver image ..)) => passed driver image
  | _ => True

section Worker

variable {id : String} {passed : Driver → List UInt8 → Prop}

private theorem transition_uploads (state : JobState) (step : Option String) (progress : Option UInt8)
    (detail : Option String) : (transition id state step progress detail).All (Uploads passed) := .perform trivial

private theorem detail_uploads (detail : String) : (JobProgressSink.detail id detail).All (Uploads passed) :=
  .bind (.bind (.perform trivial) fun _ => .ret _) fun _ => transition_uploads ..

private theorem awaitBlocking_uploads (label : String) {work : BlockingWork}
    (h : Uploads passed (.world (.spawnBlocking work))) :
    (awaitBlockingWithHeartbeats id label work).All (Uploads passed) := by
  refine .bind (.perform h) fun _ => .bind (.perform trivial) fun beats => ?_
  refine .bind (.forM fun secs _ => .bind (.perform trivial) fun cancelled => ?_) fun _ => ?_
  · split
    · exact .perform trivial
    · exact detail_uploads _
  refine .bind (.perform trivial) fun joined => ?_
  cases joined <;> exact .ret _

private theorem uploadFirmware_uploads {driver : Driver} {image : List UInt8} (h : passed driver image)
    (filename host : String) (port : UInt16) (source device : Option String) :
    (uploadFirmware id driver image filename host port source device).All (Uploads passed) :=
  .bind (transition_uploads ..) fun _ => .bind (detail_uploads _) fun _ => awaitBlocking_uploads _ h

private theorem targetKey_uploads (given : Option String) (snap : JobSnapshot) :
    (targetKey given snap).All (Uploads passed) := by
  cases given with
  | some target => exact .ret _
  | none => exact .bind (.perform trivial) fun _ => .ret _

private theorem firmwareUsb_uploads (snap : JobSnapshot) (job : FirmwareJob) :
    (firmwareUsb id snap job).All (Uploads passed) := by
  refine .bind (targetKey_uploads ..) fun port => ?_
  split
  · exact .bind (transition_uploads ..) fun _ => .ret _
  refine .bind (transition_uploads ..) fun _ => .bind (detail_uploads _) fun _ => .bind (.perform trivial) fun header => ?_
  have hflash : Uploads passed (.world (.spawnBlocking (.flashUsb port job.path job.partitionTable))) := trivial
  split
  · exact .bind (detail_uploads _) fun _ => .bind (awaitBlocking_uploads _ hflash) fun _ => .ret _
  · exact .bind (awaitBlocking_uploads _ hflash) fun _ => .ret _

private theorem firmwareLan_uploads {driver : Driver} {image : List UInt8} (h : passed driver image)
    (snap : JobSnapshot) (job : FirmwareJob) (filename : String) :
    (firmwareLan id snap job driver image filename).All (Uploads passed) := by
  refine .bind (targetKey_uploads ..) fun host => ?_
  split
  · exact .bind (uploadFirmware_uploads h ..) fun _ => .ret _
  · exact .bind (transition_uploads ..) fun _ => .ret _

private theorem abandonJoin_uploads (e : DriverError) : (abandonJoin id e).All (Uploads passed) :=
  .bind (transition_uploads ..) fun _ => .bind (.perform trivial) fun _ => .ret _

private theorem prepareLink_uploads (net : CommissioningNet) (associated : Except DriverError Unit) :
    (prepareLink id net associated).All (Uploads passed) := by
  rcases associated with e | ⟨⟩
  · exact abandonJoin_uploads e
  refine .bind (.perform trivial) fun addressed => ?_
  rcases addressed with e | ⟨⟩
  · exact abandonJoin_uploads e
  refine .bind (.perform trivial) fun up => ?_
  rcases up with e | ⟨⟩
  · exact abandonJoin_uploads e
  refine .bind (.perform trivial) fun prepared => ?_
  rcases prepared with e | ⟨⟩
  · exact abandonJoin_uploads e
  · exact .ret _

private theorem joinForFirmware_uploads (candidate : CachedCandidate) (net : CommissioningNet) (driver : Driver) :
    (joinForFirmware id candidate net driver).All (Uploads passed) := by
  refine .bind ?_ fun _ => .bind (.perform trivial) fun beats => ?_
  · unfold connect
    split <;> exact .perform trivial
  refine .bind (.forM fun _ _ => detail_uploads _) fun _ => .bind (.perform trivial) fun associated => ?_
  exact prepareLink_uploads net associated

private theorem withRadio_uploads {α : Type} {p : DaemonM α} (h : p.All (Uploads passed)) :
    (withRadio p).All (Uploads passed) :=
  .bind (.perform trivial) fun _ => .bind h fun _ => .bind (.perform trivial) fun _ => .ret _

private theorem firmwareSoftAp_uploads (cfg : Config) {driver : Driver} {image : List UInt8} (h : passed driver image)
    (snap : JobSnapshot) (filename : String) :
    (firmwareSoftAp cfg id snap driver image filename).All (Uploads passed) := by
  refine .bind (.perform trivial) fun candidate => ?_
  cases candidate with
  | none => exact .bind (transition_uploads ..) fun _ => .ret _
  | some candidate =>
    refine .bind (transition_uploads ..) fun _ => .bind (.perform trivial) fun _ => .bind ?_ fun _ =>
      .bind (.perform trivial) fun _ => .ret _
    refine .bind (withRadio_uploads (joinForFirmware_uploads ..)) fun ready => ?_
    split
    · refine .bind (transition_uploads ..) fun _ => .bind (uploadFirmware_uploads h ..) fun _ => ?_
      exact .bind (withRadio_uploads (.bind (.perform trivial) fun _ => .ret _)) fun _ => .ret _
    · exact .ret _

/-- The branches that upload do so with the image they are given. -/
theorem firmwareOutcome_uploads (cfg : Config) {driver : Driver} {image : List UInt8} {job : FirmwareJob}
    (h : job.mode ≠ .usb → passed driver image) (snap : JobSnapshot) :
    (firmwareOutcome cfg id snap job driver image).All (Uploads passed) := by
  unfold firmwareOutcome
  cases hm : job.mode with
  | usb => exact firmwareUsb_uploads ..
  | lan => exact firmwareLan_uploads (h (by rw [hm]; decide)) ..
  | z21 => exact .bind (transition_uploads ..) fun _ => .ret _
  | ap => exact firmwareSoftAp_uploads cfg (h (by rw [hm]; decide)) ..

private theorem finishFirmwareJob_uploads (outcome : Except DriverError Outcome) :
    (finishFirmwareJob id outcome).All (Uploads passed) := by
  refine .bind (.perform trivial) fun snap => ?_
  split
  · exact .ret _
  refine .bind (.perform trivial) fun cancelled => ?_
  split
  · exact transition_uploads ..
  · cases outcome <;> exact transition_uploads ..

/-- The image of a job that is not a USB job has passed the checks. -/
theorem loadImage_gatePassed {fw : FirmwareCapabilities} {job : FirmwareJob} (hmode : fw.allows job.mode = true) :
    (loadImage fw job).Follows (Prog.within (Uploads passed))
      (fun loaded _ => ∀ image, loaded = .ok image → job.mode ≠ .usb → GatePassed fw job image) () := by
  unfold loadImage
  split
  · rename_i husb
    exact fun _ _ hm => absurd husb hm
  refine Prog.follows_perform.2 ⟨trivial, fun size _ => ?_⟩
  split
  · exact fun _ h => nomatch h
  refine Prog.follows_perform.2 ⟨trivial, fun image _ => ?_⟩
  rcases image with e | (_ | ⟨b, image⟩)
  · exact fun _ h => nomatch h
  · exact fun _ h => nomatch h
  · intro image' h hm
    cases hcheck : checkImage fw job.path (b :: image) with
    | error e =>
      rw [hcheck] at h
      cases h
    | ok u =>
      rw [hcheck] at h
      cases h
      obtain ⟨hsize, hkind⟩ := checkImage_ok hcheck
      exact ⟨hmode, Nat.le_add_left .., hsize, hkind⟩

/-- Whatever is uploaded by a firmware job has passed the checks. -/
theorem runFirmwareJob_uploads (cfg : Config) (job : FirmwareJob) :
    (runFirmwareJob cfg id job).Follows (Prog.within (Uploads fun driver image =>
      ∃ fw, driver.capabilities.firmware = some fw ∧ GatePassed fw job image)) (fun _ _ => True) () := by
  refine Prog.follows_perform.2 ⟨trivial, fun snap _ => ?_⟩
  cases snap with
  | none => trivial
  | some snap =>
    dsimp only
    cases Driver.fromId snap.driver with
    | none => exact (transition_uploads ..).within
    | some driver =>
      dsimp only
      cases hfw : driver.capabilities.firmware with
      | none => exact (transition_uploads ..).within
      | some fw =>
        show Prog.Follows _ _ (if fw.allows job.mode then _ else _) ()
        split
        · rename_i hmode
          refine (loadImage_gatePassed hmode).bind fun image _ hpassed => ?_
          cases image with
          | error detail => exact (transition_uploads ..).within
          | ok image =>
            have hgate (hm : job.mode ≠ .usb) :
                ∃ fw, driver.capabilities.firmware = some fw ∧ GatePassed fw job image :=
              ⟨fw, hfw, hpassed image rfl hm⟩
            refine Prog.All.within (.bind (transition_uploads ..) fun _ =>
              .bind (firmwareOutcome_uploads cfg hgate snap) fun outcome => ?_)
            cases outcome with
            | none => exact .ret _
            | some outcome => exact finishFirmwareJob_uploads outcome
        · exact (transition_uploads ..).within

end Worker

/-- An image that a firmware job uploads is acceptable, whatever a merged dump is, exactly if it has not slipped through the
checks of a driver that wants an app image: the name of the file is enough for it to be uploaded. -/
theorem uploaded_acceptable_iff (merged : List UInt8 → Prop) {cfg : Config} {id : String} {job : FirmwareJob}
    {tr : List (Event Op Op.Res)} {u : Unit} (h : Prog.Run (runFirmwareJob cfg id job) tr u) {driver : Driver}
    {image : List UInt8} {filename host : String} {port : UInt16} {source device : Option String} {r : Unit}
    (hup : ⟨.world (.spawnBlocking (.firmwareHttp driver image filename host port source device)), r⟩ ∈ tr) :
    ∃ fw, driver.capabilities.firmware = some fw ∧ (Acceptable merged fw job image ↔
      ¬ (fw.requireEspAppBin = true ∧ SlipsThrough merged job.path image)) := by
  obtain ⟨fw, hfw, hpassed⟩ := (runFirmwareJob_uploads cfg job).run_within h _ hup
  exact ⟨fw, hfw, hpassed.acceptable_iff⟩

section Runs

variable {cfg : Config} {id : String} {job : FirmwareJob} {snap : JobSnapshot} {driver : Driver}
  {fw : FirmwareCapabilities} {image : List UInt8} {filename : String} {outcome : Except DriverError Outcome}
  {t₁ t₂ t₃ : List (Event Op Op.Res)}

private theorem run_loadImage (hmode : job.mode ≠ .usb) (hne : image ≠ []) (h : checkImage fw job.path image = .ok ()) :
    Prog.Run (loadImage fw job) [⟨.world (.fileSize job.path), some image.length⟩,
      ⟨.world (.readFile job.path), .ok image⟩] (.ok image) := by
  have hsize : ¬ (some image.length).any (· > fw.maxBytes) = true := by simpa using (checkImage_ok h).1
  unfold loadImage
  rw [if_neg hmode]
  refine .op ?_
  show Prog.Run (if (some image.length).any (· > fw.maxBytes) then pure _ else
    perform (.world (.readFile job.path)) >>= _) _ _
  rw [if_neg hsize]
  refine .op ?_
  cases image with
  | nil => exact absurd rfl hne
  | cons b image =>
    show Prog.Run (.ret ((checkImage fw job.path (b :: image)).map fun _ => b :: image)) _ _
    rw [h]
    exact .ret _

/-- A job whose image is loaded goes on to its mode's branch, and to its end. -/
theorem run_runFirmwareJob (hdriver : Driver.fromId snap.driver = some driver)
    (hfw : driver.capabilities.firmware = some fw) (hmode : fw.allows job.mode = true)
    (hload : Prog.Run (loadImage fw job) t₁ (.ok image))
    (hout : Prog.Run (firmwareOutcome cfg id snap job driver image) t₂ (some outcome))
    (hend : Prog.Run (finishFirmwareJob id outcome) t₃ ()) :
    Prog.Run (runFirmwareJob cfg id job) (⟨.jobs (.snapshot id), some snap⟩ :: (t₁ ++
      ⟨.jobs (.transition id .writing (some "write") (some 0) none), ()⟩ :: (t₂ ++ t₃))) () := by
  unfold runFirmwareJob
  refine Prog.run_bind.2 ⟨[⟨.jobs (.snapshot id), some snap⟩], _, some snap, rfl, .op (.ret _), ?_⟩
  simp only [hdriver, hfw]
  show Prog.Run (if fw.allows job.mode then _ else failJob ..) _ _
  rw [if_pos hmode]
  refine Prog.run_bind.2 ⟨_, _, _, rfl, hload, .op ?_⟩
  show Prog.Run (firmwareOutcome cfg id snap job driver image >>= _) _ _
  exact Prog.run_bind.2 ⟨_, _, _, rfl, hout, hend⟩

private theorem run_firmwareLan {host : String} (hhost : job.host = some host) (hip : isIpv4 host = true)
    (hout : Prog.Run (uploadFirmware id driver image filename host 80 none none) t₁ outcome) :
    Prog.Run (firmwareLan id snap job driver image filename) t₁ (some outcome) := by
  have hlan : firmwareLan id snap job driver image filename =
      uploadFirmware id driver image filename host 80 none none >>= fun outcome => .ret (some outcome) := by
    simp only [firmwareLan, targetKey, hhost, Prog.pure_eq, Prog.ret_bind, hip, if_true]
  rw [hlan, ← List.append_nil t₁]
  exact Prog.run_bind.2 ⟨_, _, _, rfl, hout, .ret _⟩

end Runs

/-- A firmware job for a LongFRED on the LAN. -/
def lanUpdate : FirmwareJob := ⟨.lan, "longfred.app.bin", some "192.168.1.42", none, none⟩

/-- The upload of an image by this job. -/
def lanUpload (image : List UInt8) : Event Op Op.Res :=
  ⟨.world (.spawnBlocking (.firmwareHttp .longFred image "longfred.app.bin" "192.168.1.42" 80 none none)), ()⟩

private theorem namedAppBin_lanUpdate : NamedAppBin lanUpdate.path := by
  show ".app.bin".toList.isSuffixOf (lowerName lanUpdate.path) = true
  decide

/-- The name of its file is enough for its image to be uploaded. -/
private theorem run_lanUpdate {image : List UInt8} (hne : image ≠ []) (hsize : image.length ≤ LongFred.MAX_FIRMWARE_BYTES)
    (helf : ¬ IsElf image) : ∃ tr, Prog.Run (runFirmwareJob .plain "j-1" lanUpdate) tr () ∧ lanUpload image ∈ tr := by
  let fw : FirmwareCapabilities := ⟨LongFred.MAX_FIRMWARE_BYTES, "LongFred OTA slot (3.75 MiB)", .AP_LAN_USB, true, false⟩
  let snap (state : JobState) : JobSnapshot := ⟨"j-1", state, "longfred", "192.168.1.42", none, 0⟩
  have hcheck : checkImage fw lanUpdate.path image = .ok () := by
    obtain ⟨offset, hkind⟩ := classifyImage_appBin_iff.2 ⟨helf, .inl namedAppBin_lanUpdate⟩
    unfold checkImage
    rw [if_neg (not_lt.2 hsize), if_pos rfl, hkind]
  have hupload : Prog.Run (uploadFirmware "j-1" .longFred image "longfred.app.bin" "192.168.1.42" 80 none none)
      [⟨.jobs (.transition "j-1" .writing (some "write") none none), ()⟩, ⟨.jobs (.snapshot "j-1"), some (snap .writing)⟩,
        ⟨.jobs (.transition "j-1" .writing none none (some s!"{image.length} bytes")), ()⟩, lanUpload image,
        ⟨.world .heartbeats, []⟩, ⟨.world .joinBlocking, .ok (.ok ⟨true, []⟩)⟩] (.ok ⟨true, []⟩) :=
    .op (.op (.op (.op (.op (.op (.ret _))))))
  have hend : Prog.Run (finishFirmwareJob "j-1" (.ok ⟨true, []⟩)) [⟨.jobs (.snapshot "j-1"), some (snap .done)⟩] () :=
    .op (.ret _)
  have hlan : Prog.Run (firmwareOutcome .plain "j-1" (snap .queued) lanUpdate .longFred image) _ _ :=
    run_firmwareLan rfl (by decide) hupload
  exact ⟨_, run_runFirmwareJob rfl rfl rfl (run_loadImage (by decide) hne hcheck) hlan hend, by simp⟩

/-- An app image is uploaded, and acceptable. -/
theorem esp_image_uploaded : ∃ tr, Prog.Run (runFirmwareJob .plain "j-1" lanUpdate) tr () ∧ lanUpload [0xE9] ∈ tr ∧
    ∃ fw, LongFred.capabilities.firmware = some fw ∧ Acceptable IsMergedDump fw lanUpdate [0xE9] := by
  obtain ⟨tr, hrun, hup⟩ := run_lanUpdate (List.cons_ne_nil (0xE9 : UInt8) []) (by decide)
    (show ¬ List.take 4 [(0xE9 : UInt8)] = _ by decide)
  obtain ⟨fw, hfw, hiff⟩ := uploaded_acceptable_iff IsMergedDump hrun hup
  refine ⟨tr, hrun, hup, fw, hfw, hiff.2 ?_⟩
  rintro ⟨-, ⟨-, hmagic⟩ | ⟨⟨-, happ⟩, -⟩⟩
  · exact hmagic rfl
  · rw [List.getElem?_eq_none (by decide)] at happ
    cases happ

/-- A file that does not begin as an ESP image is uploaded under the name of one. -/
theorem other_image_uploaded : ∃ tr, Prog.Run (runFirmwareJob .plain "j-1" lanUpdate) tr () ∧ lanUpload [0x00] ∈ tr ∧
    ∃ fw, LongFred.capabilities.firmware = some fw ∧ fw.requireEspAppBin = true ∧ ([0x00] : List UInt8).head? ≠ some 0xE9 ∧
      ∀ merged, ¬ Acceptable merged fw lanUpdate [0x00] := by
  obtain ⟨tr, hrun, hup⟩ := run_lanUpdate (List.cons_ne_nil (0x00 : UInt8) []) (by decide)
    (show ¬ List.take 4 [(0x00 : UInt8)] = _ by decide)
  refine ⟨tr, hrun, hup, _, rfl, rfl, by decide, fun merged hacc => ?_⟩
  exact absurd (hacc.kind rfl).1 (by decide)

/-- A dump of the flash: a bootloader, and an app image of one byte at its offset. -/
def smallDump : List UInt8 := 0xE9 :: (List.replicate 0xFFFF 0xFF ++ [0xE9])

/-- So is a merged dump. -/
theorem merged_dump_uploaded : ∃ tr, Prog.Run (runFirmwareJob .plain "j-1" lanUpdate) tr () ∧ lanUpload smallDump ∈ tr ∧
    IsMergedDump smallDump ∧ ∃ fw, LongFred.capabilities.firmware = some fw ∧
    ¬ Acceptable IsMergedDump fw lanUpdate smallDump := by
  have hlen : smallDump.length = 0x10001 := by
    rw [smallDump, List.length_cons, List.length_append, List.length_replicate, List.length_singleton]
  have helf : ¬ IsElf smallDump := by
    intro h
    have hfirst : (0xE9 : UInt8) = 0x7f := (List.cons.inj h).1
    exact absurd hfirst (by decide)
  have hdump : IsMergedDump smallDump := by
    refine ⟨rfl, ?_⟩
    rw [show OTA0_OFFSET = 0xFFFF + 1 from rfl, smallDump, List.getElem?_cons_succ,
      List.getElem?_append_right List.length_replicate.le, List.length_replicate, Nat.sub_self]
    rfl
  have hne : smallDump ≠ [] := List.cons_ne_nil _ _
  obtain ⟨tr, hrun, hup⟩ := run_lanUpdate hne (by rw [hlen]; decide) helf
  exact ⟨tr, hrun, hup, hdump, _, rfl, fun hacc => (hacc.kind rfl).2.2 hdump⟩

end WirelessProgrammer
