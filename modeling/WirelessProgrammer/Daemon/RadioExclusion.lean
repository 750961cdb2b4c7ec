import WirelessProgrammer.Daemon.RadioRelease

/-!
# Sessions on the radio

A session lasts from a successful association to the release by the same operation.  The radio is called under its mutex
only, but a job gives the mutex back while its session goes on, and what keeps the others away then is a flag that they
have looked at before they wait for the mutex; `job_disturbed` is a run in which that is too early.
-/

namespace WirelessProgrammer

open Effect

/-- The association succeeds. -/
def Joined : Event Op Op.Res → Prop
  | ⟨.radio .connected, .ok _⟩ => True
  | _ => False

/-- The operation has been associated, and has not released the radio since. -/
def InSession (tr : List (Event Op Op.Res)) : Prop :=
  ∃ t₁ e t₂, tr = t₁ ++ e :: t₂ ∧ Joined e ∧ ∀ e' ∈ t₂, ¬ Releases e'

/-- The calls that disturb a session. -/
def Disturbs : Op → Prop
  | .radio .connected => False
  | .radio .linkUp => False
  | .radio _ => True
  | _ => False

/-- The step does not disturb the session of another operation. -/
def Undisturbing (tr : List (Label Op Op.Res Tag)) : Label Op Op.Res Tag → Prop
  | .act m e => Disturbs e.1 → ∀ n, n ≠ m → ¬ InSession (eventsOf n tr)
  | _ => True

theorem next_session (g : RadioUse) (e : Event Op Op.Res) :
    (radioProtocol.next g e.1 e.2).session = true ↔ Joined e ∨ g.session = true ∧ ¬ Releases e := by
  obtain ⟨o, r⟩ := e
  cases o with
  | radio o =>
    cases o with
    | connected =>
      cases r with
      | error e => exact iff_keep id nofun
      | ok u => exact ⟨fun _ => .inl trivial, fun _ => rfl⟩
    | release => exact iff_of_false nofun fun h => h.elim id fun h => h.2 rfl
    | connectOpen | connectPsk => exact iff_keep id nofun
    | _ => cases r <;> exact iff_keep id nofun
  | _ => exact iff_keep id nofun

theorem inSession_iff {tr : List (Event Op Op.Res)} :
    InSession tr ↔ (radioProtocol.after .idle tr).session = true :=
  (radioProtocol.after_pending (·.session) Joined Releases next_session rfl tr).symm

/-- What operation `n` has done with the radio so far. -/
def useOf (n : Nat) (tr : List (Label Op Op.Res Tag)) : RadioUse := radioProtocol.after .idle (eventsOf n tr)

@[simp] theorem useOf_spawn (n m : Nat) (t : Tag) (tr : List (Label Op Op.Res Tag)) :
    useOf n (tr ++ [.spawn m t]) = useOf n tr := by rw [useOf, eventsOf_spawn]; rfl

@[simp] theorem useOf_env (n : Nat) (tr : List (Label Op Op.Res Tag)) : useOf n (tr ++ [.env]) = useOf n tr := by
  rw [useOf, eventsOf_env]; rfl

@[simp] theorem useOf_act_self (n : Nat) (e : Event Op Op.Res) (tr : List (Label Op Op.Res Tag)) :
    useOf n (tr ++ [.act n e]) = radioProtocol.next (useOf n tr) e.1 e.2 := by
  rw [useOf, eventsOf_act_self, Protocol.after_concat]; rfl

theorem useOf_act_of_ne {n m : Nat} (h : m ≠ n) (e : Event Op Op.Res) (tr : List (Label Op Op.Res Tag)) :
    useOf n (tr ++ [.act m e]) = useOf n tr := by
  rw [useOf, eventsOf_act_of_ne h]; rfl

/-! ### A scan during a job -/

/-- A valid request without locomotives. -/
def throttle : ProgramRequestWire :=
  ⟨"122145", ⟨"layout", some "secret"⟩, ⟨"10.0.0.1", 12090, none⟩, [], none, none⟩

def apScan : Request := ⟨.scan, some (.scan .ap)⟩

/-- What a scan returns when there is one device. -/
def seen : List ScanResult := [⟨some "wiFred-config12", none, none⟩]

def seenEntry : CachedCandidate :=
  ⟨"wiFred-config12", none, "wifred", "wiFred-config12", "wiFred-config12", none, .ap, false⟩

def programThrottle : Request := ⟨.program, some (.program ⟨"wifred", "wiFred-config12"⟩ throttle)⟩

/-- The device is found. -/
def deviceFound : List (Label Op Op.Res Tag) :=
  [.spawn 0 (.request apScan), .act 0 ⟨.radioHeld, false⟩, .act 0 ⟨.lock, ()⟩, .act 0 ⟨.radio (.scan 64), .ok seen⟩,
    .act 0 ⟨.unlock, ()⟩, .act 0 ⟨.store (.scanned .ap (seen.filterMap claimScanned)), ()⟩]

/-- A job for it is accepted, and the worker takes it. -/
def jobAccepted : List (Label Op Op.Res Tag) :=
  [.spawn 2 (.request programThrottle),
    .act 2 ⟨.jobs (.submit "wifred" "wiFred-config12" (some (.program throttle))), .ok "job-1"⟩,
    .act 2 ⟨.send "job-1", .ok ()⟩, .spawn 3 (.job "job-1")]

/-- The job joins the device and gives the mutex back. -/
def jobJoins : List (Label Op Op.Res Tag) :=
  [.act 3 ⟨.jobs (.isCancelled "job-1"), false⟩, .act 3 ⟨.jobs (.takePayload "job-1"), some (.program throttle)⟩,
    .act 3 ⟨.jobs (.snapshot "job-1"), some ⟨"job-1", .queued, "wifred", "wiFred-config12", none, 0⟩⟩,
    .act 3 ⟨.cached "wifred" "wiFred-config12", some seenEntry⟩,
    .act 3 ⟨.jobs (.transition "job-1" .joining (some "join") none none), ()⟩,
    .act 3 ⟨.jobs (.isCancelled "job-1"), false⟩, .act 3 ⟨.setHeld true, ()⟩, .act 3 ⟨.lock, ()⟩,
    .act 3 ⟨.radio (.connectOpen "wiFred-config12" none), ()⟩, .act 3 ⟨.radio .connected, .ok ()⟩,
    .act 3 ⟨.radio (.setAddress "192.168.4.2" 24), .ok ()⟩, .act 3 ⟨.radio .linkUp, .ok ()⟩,
    .act 3 ⟨.radio (.prepareSoftap "192.168.4.2" "192.168.4.1"), .ok ()⟩,
    .act 3 ⟨.jobs (.isCancelled "job-1"), false⟩, .act 3 ⟨.unlock, ()⟩]

/-- Before the job a second scan has seen that the radio is not held. -/
private def beforeJob : List (Label Op Op.Res Tag) :=
  deviceFound ++ [.spawn 1 (.request apScan), .act 1 ⟨.radioHeld, false⟩] ++ jobAccepted

private theorem run_disturbed : ∃ c, Runs (daemon .plain) (.init (.init 0))
    (beforeJob ++ jobJoins ++ [.act 1 ⟨.lock, ()⟩, .act 1 ⟨.radio (.scan 64), .ok []⟩]) c := by
  refine ⟨_, .cons (.spawn rfl ⟨rfl, rfl⟩) <| .cons (.act rfl ⟨rfl, rfl⟩) <| .cons (.act rfl ⟨rfl, rfl⟩) <|
    .cons (.act rfl rfl) <| .cons (.act rfl ⟨rfl, rfl⟩) <| .cons (.act rfl rfl) <| .cons (.spawn rfl ⟨rfl, rfl⟩) <|
    .cons (.act rfl ⟨rfl, rfl⟩) <| .cons (.spawn rfl ⟨rfl, rfl⟩) <| .cons (.act rfl ⟨?_, rfl, rfl⟩) <|
    .cons (.act rfl ⟨?_, rfl⟩) <| .cons (.spawn rfl ⟨rfl, rfl, _, rfl, rfl⟩) <| .cons (.act rfl ⟨trivial, rfl, rfl⟩) <|
    .cons (.act rfl ⟨trivial, rfl, rfl⟩) <| .cons (.act rfl ⟨trivial, rfl, rfl⟩) <| .cons (.act rfl ⟨?_, rfl⟩) <|
    .cons (.act rfl ⟨trivial, rfl, rfl⟩) <| .cons (.act rfl ⟨trivial, rfl, rfl⟩) <| .cons (.act rfl rfl) <|
    .cons (.act rfl ⟨rfl, rfl⟩) <| .cons (.act rfl rfl) <| .cons (.act rfl rfl) <| .cons (.act rfl rfl) <|
    .cons (.act rfl rfl) <| .cons (.act rfl rfl) <| .cons (.act rfl ⟨trivial, rfl, rfl⟩) <|
    .cons (.act rfl ⟨rfl, rfl⟩) <| .cons (.act rfl ⟨rfl, rfl⟩) <| .cons (.act rfl rfl) .refl⟩
  · show 0 + 1 < 2 ^ 64
    omega
  · decide
  · rfl

/-- A client that has seen that the radio is not held scans while a job talks to its device. -/
theorem job_disturbed : ∃ tr c, Runs (daemon .plain) (.init (.init 0)) tr c ∧ ¬ Along Undisturbing tr := by
  obtain ⟨c, hrun⟩ := run_disturbed
  refine ⟨_, c, hrun, fun h => ?_⟩
  have hscan := h (beforeJob ++ jobJoins ++ [.act 1 ⟨.lock, ()⟩]) (.act 1 ⟨.radio (.scan 64), .ok []⟩) [] rfl
  exact hscan trivial 3 (by decide) (inSession_iff.2 rfl)

end WirelessProgrammer
