import WirelessProgrammer.Daemon.RadioRequests

/-!
# The radio is released

Which of the operations that associate release the radio, whatever the radio and the device answer: the jobs always do,
`probe` and `identify` only when the steps that they leave with `?` succeed.
-/

namespace WirelessProgrammer

open Effect

/-! ### Events of a run -/

/-- The SSID that an operation associates to. -/
def Op.ssid? : Op → Option String
  | .radio o => o.ssid?
  | _ => none

/-- The call of `connect_open` or `connect_psk`. -/
def Associates (e : Event Op Op.Res) : Prop := e.1.ssid?.isSome = true

def Releases (e : Event Op Op.Res) : Prop := e.1 = .radio .release

/-- The association fails. -/
def Refused : Event Op Op.Res → Prop
  | ⟨.radio .connected, .error _⟩ => True
  | _ => False

/-- A step between the association and the exchange with the device fails. -/
def PrepareFailed : Event Op Op.Res → Prop
  | ⟨.radio (.setAddress ..), .error _⟩ => True
  | ⟨.radio .linkUp, .error _⟩ => True
  | ⟨.radio (.prepareSoftap ..), .error _⟩ => True
  | _ => False

/-- After every association the radio is released. -/
def Released (tr : List (Event Op Op.Res)) : Prop :=
  ∀ t₁ e t₂, tr = t₁ ++ e :: t₂ → Associates e → ∃ e' ∈ t₂, Releases e'

theorem iff_keep {p sets clears : Prop} (hs : ¬ sets) (hc : ¬ clears) : p ↔ sets ∨ p ∧ ¬ clears :=
  ⟨fun h => .inr ⟨h, hc⟩, fun h => (h.resolve_left hs).1⟩

private theorem next_joining (g : RadioUse) (e : Event Op Op.Res) :
    (radioProtocol.next g e.1 e.2).joining = true ↔ Associates e ∨ g.joining = true ∧ ¬ Releases e := by
  obtain ⟨o, r⟩ := e
  cases o with
  | radio o =>
    cases o with
    | connectOpen | connectPsk => exact ⟨fun _ => .inl rfl, fun _ => rfl⟩
    | release => exact iff_of_false nofun fun h => h.elim nofun fun h => h.2 rfl
    | _ => cases r <;> exact iff_keep nofun nofun
  | _ => exact iff_keep nofun nofun

private theorem next_failed (g : RadioUse) (e : Event Op Op.Res) :
    (radioProtocol.next g e.1 e.2).failed = true ↔ g.failed = true ∨ PrepareFailed e := by
  obtain ⟨o, r⟩ := e
  cases o with
  | radio o =>
    cases o with
    | connectOpen | connectPsk | release => exact (or_iff_left id).symm
    | setAddress | linkUp | prepareSoftap =>
      cases r with
      | error e => exact ⟨fun _ => .inr trivial, fun _ => rfl⟩
      | ok u => exact (or_iff_left id).symm
    | scan | connected => cases r <;> exact (or_iff_left id).symm
  | _ => exact (or_iff_left id).symm

private theorem next_refused (g : RadioUse) (e : Event Op Op.Res) :
    (radioProtocol.next g e.1 e.2).refused = true ↔ g.refused = true ∨ Refused e := by
  obtain ⟨o, r⟩ := e
  cases o with
  | radio o =>
    cases o with
    | connectOpen | connectPsk | release => exact (or_iff_left id).symm
    | connected =>
      cases r with
      | error e => exact ⟨fun _ => .inr trivial, fun _ => rfl⟩
      | ok u => exact (or_iff_left id).symm
    | scan | setAddress | linkUp | prepareSoftap => cases r <;> exact (or_iff_left id).symm
  | _ => exact (or_iff_left id).symm

variable {tr : List (Event Op Op.Res)}

theorem released_iff : Released tr ↔ (radioProtocol.after .idle tr).joining = false := by
  rw [← Bool.not_eq_true, radioProtocol.after_pending (·.joining) Associates Releases next_joining rfl]
  constructor
  · rintro h ⟨t₁, e, t₂, rfl, he, hkept⟩
    obtain ⟨e', he', hrel⟩ := h t₁ e t₂ rfl he
    exact hkept e' he' hrel
  · intro h t₁ e t₂ htr he
    by_contra hnone
    exact h ⟨t₁, e, t₂, htr, he, fun e' he' hrel => hnone ⟨e', he', hrel⟩⟩

private theorem failed_iff : (radioProtocol.after .idle tr).failed = true ↔ ∃ e ∈ tr, PrepareFailed e := by
  rw [radioProtocol.after_flag (·.failed) PrepareFailed next_failed]
  exact or_iff_right nofun

private theorem refused_iff : (radioProtocol.after .idle tr).refused = true ↔ ∃ e ∈ tr, Refused e := by
  rw [radioProtocol.after_flag (·.refused) Refused next_refused]
  exact or_iff_right nofun

/-- Nothing is assumed about the answers, so every run counts. -/
theorem radioProtocol_answered (g : RadioUse) (tr : List (Event Op Op.Res)) : radioProtocol.Answered g tr := by
  induction tr generalizing g with
  | nil => trivial
  | cons e tr ih => exact ⟨trivial, ih _⟩

private theorem released_of_away {α : Type} {p : DaemonM α} (h : p.Follows radioProtocol (fun _ => Away) .idle) {a : α}
    (hr : Prog.Run p tr a) : Released tr :=
  released_iff.2 (h.run hr (radioProtocol_answered _ _)).2.2

/-- Whatever the radio, the device and the clients do: a job always releases the radio that it has called to associate;
`probe` releases it exactly when no step between the association and the exchange fails, and `identify` exactly when
neither the association nor such a step fails. -/
theorem radio_released (cfg : Config) :
    (∀ driver key tr r, Prog.Run (probe cfg driver key) tr r → (Released tr ↔ ¬ ∃ e ∈ tr, PrepareFailed e)) ∧
    (∀ driver key count tr r, Prog.Run (identify cfg driver key count) tr r →
      (Released tr ↔ ¬ ∃ e ∈ tr, Refused e ∨ PrepareFailed e)) ∧
    (∀ id wire tr u, Prog.Run (runProgramJob cfg id wire) tr u → Released tr) ∧
    (∀ id job tr u, Prog.Run (runFirmwareJob cfg id job) tr u → Released tr) := by
  refine ⟨fun driver key tr r hr => ?_, fun driver key count tr r hr => ?_, fun id wire tr u hr => ?_,
    fun id job tr u hr => ?_⟩
  · have hend := ((probe_follows cfg driver key).run hr (radioProtocol_answered _ _)).2.2
    rw [released_iff, hend, ← Bool.not_eq_true, failed_iff]
  · have hend := ((identify_follows cfg driver key count).run hr (radioProtocol_answered _ _)).2.2
    rw [released_iff, hend, ← Bool.not_eq_true, Bool.or_eq_true, refused_iff, failed_iff]
    simp only [and_or_left, exists_or]
  · exact released_of_away (runProgramJob_away cfg ⟨rfl, rfl⟩ wire) hr
  · exact released_of_away (runFirmwareJob_away cfg ⟨rfl, rfl⟩ job) hr

/-! ### Probes that fail -/

private def probed : CachedCandidate :=
  ⟨"wiFred-config12", none, "wifred", "wiFred-config12", "wiFred-config12", none, .ap, false⟩

/-- A probe that the device does not let in, up to the given rest. -/
private def probing (rest : List (Event Op Op.Res)) : List (Event Op Op.Res) :=
  [⟨.cached "wifred" "wiFred-config12", some probed⟩, ⟨.setHeld true, ()⟩, ⟨.lock, ()⟩,
    ⟨.radio (.connectOpen "wiFred-config12" none), ()⟩] ++ rest ++ [⟨.unlock, ()⟩, ⟨.setHeld false, ()⟩]

/-- A probe whose association fails. -/
private theorem run_refused : Prog.Run (probe .plain .wiFred "wiFred-config12")
    (probing [⟨.radio .connected, .error .associationTimedOut⟩, ⟨.radio .release, .ok ()⟩])
    (.error .associationTimedOut) :=
  .op (.op (.op (.op (.op (.op (.op (.op (.ret _))))))))

theorem probe_released : ∃ tr, Prog.Run (probe .plain .wiFred "wiFred-config12") tr (.error .associationTimedOut) ∧
    Released tr := by
  refine ⟨_, run_refused, ((radio_released .plain).1 _ _ _ _ run_refused).2 ?_⟩
  rintro ⟨e, he, hfailed⟩
  simp only [probing, List.cons_append, List.nil_append, List.mem_cons, List.not_mem_nil, or_false] at he
  rcases he with rfl | rfl | rfl | rfl | rfl | rfl | rfl | rfl <;> exact hfailed

/-- A probe that can give the device no address keeps the radio. -/
private theorem run_unaddressed : Prog.Run (probe .plain .wiFred "wiFred-config12")
    (probing [⟨.radio .connected, .ok ()⟩, ⟨.radio (.setAddress "192.168.4.2" 24), .error (.other "netlink")⟩])
    (.error (.other "netlink")) :=
  .op (.op (.op (.op (.op (.op (.op (.op (.ret _))))))))

theorem probe_not_released : ∃ tr r, Prog.Run (probe .plain .wiFred "wiFred-config12") tr r ∧ ¬ Released tr := by
  refine ⟨_, _, run_unaddressed, fun h => ?_⟩
  obtain ⟨e, he, hreleases⟩ := h ((probing []).take 3) _ [⟨.radio .connected, .ok ()⟩,
    ⟨.radio (.setAddress "192.168.4.2" 24), .error (.other "netlink")⟩, ⟨.unlock, ()⟩, ⟨.setHeld false, ()⟩] rfl rfl
  simp only [List.mem_cons, List.not_mem_nil, or_false] at he
  rcases he with rfl | rfl | rfl | rfl <;> exact nomatch hreleases

end WirelessProgrammer
