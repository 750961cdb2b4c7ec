import WirelessProgrammer.Daemon.RadioExclusion

/-!
# The `radio_held` flag

Every `RadioHold` sets the flag when it is taken and clears it when it is dropped.  The flag is a plain boolean, so it is
right as long as no hold is dropped while another one is alive.
-/

namespace WirelessProgrammer

open Effect

/-- Whether an operation has a `RadioHold` after an event. -/
def holdAfter (alive : Bool) : Event Op Op.Res → Bool
  | ⟨.setHeld held, _⟩ => held
  | _ => alive

/-- The `RadioHold` of operation `n` is alive. -/
def HoldAlive (n : Nat) (tr : List (Label Op Op.Res Tag)) : Prop := (eventsOf n tr).foldl holdAfter false = true

/-- `radio_held` is true when a hold is alive, and false when none is. -/
def ReportsHolds (tr : List (Label Op Op.Res Tag)) (c : Effect.Config Op Op.Res Shared) : Prop :=
  c.shared.held = true ↔ ∃ n, HoldAlive n tr

/-- If the step drops a hold, no other hold is alive. -/
def DropsOnlyHold (tr : List (Label Op Op.Res Tag)) : Label Op Op.Res Tag → Prop
  | .act n e => e.1 = .setHeld false → ∀ m, m ≠ n → ¬ HoldAlive m tr
  | _ => True

variable {tr : List (Label Op Op.Res Tag)} {n m : Nat}

@[simp] theorem holdAlive_spawn {t : Tag} : HoldAlive n (tr ++ [.spawn m t]) ↔ HoldAlive n tr := by
  rw [HoldAlive, eventsOf_spawn]; rfl

@[simp] theorem holdAlive_env : HoldAlive n (tr ++ [.env]) ↔ HoldAlive n tr := by
  rw [HoldAlive, eventsOf_env]; rfl

private theorem holdAlive_setHeld {held : Bool} : HoldAlive n (tr ++ [.act n ⟨.setHeld held, ()⟩]) ↔ held = true := by
  rw [HoldAlive, eventsOf_act_self, List.foldl_append]; rfl

theorem holdAlive_act_of_ne (h : m ≠ n) {e : Event Op Op.Res} :
    HoldAlive n (tr ++ [.act m e]) ↔ HoldAlive n tr := by
  rw [HoldAlive, eventsOf_act_of_ne h]; rfl

/-- Holds are taken and dropped by `setHeld` only. -/
theorem holdAlive_other {o : Op} {r : o.Res} (ho : ∀ held, o ≠ .setHeld held) :
    HoldAlive n (tr ++ [.act m ⟨o, r⟩]) ↔ HoldAlive n tr := by
  by_cases hm : m = n
  · subst hm
    rw [HoldAlive, eventsOf_act_self, List.foldl_append]
    cases o with
    | setHeld held => exact absurd rfl (ho held)
    | _ => rfl
  · exact holdAlive_act_of_ne hm

private theorem sem_held {s s' : Shared} {o : Op} {r : o.Res} (ho : ∀ held, o ≠ .setHeld held) (h : Sem n s o r s') :
    s'.held = s.held := by
  cases o with
  | setHeld held => exact absurd rfl (ho held)
  | jobs => exact h.2.2 ▸ rfl
  | cached | radioHeld | lock | unlock => exact h.2 ▸ rfl
  | send => cases r <;> [exact h ▸ rfl; exact h.2 ▸ rfl]
  | _ => exact h ▸ rfl

variable {cfg : Config} {now : Nat} {c c' : Effect.Config Op Op.Res Shared}

private theorem spawn_held {s s' : Shared} {t : Tag} {p : DaemonM Unit} (h : Spawn cfg s t p s') :
    s'.held = s.held := by
  cases t with
  | request req => exact h.2 ▸ rfl
  | job id =>
    obtain ⟨-, -, queue, -, rfl⟩ := h
    rfl

/-- One step keeps the flag right if it drops no hold while another one is alive. -/
theorem ReportsHolds.step (h : ReportsHolds tr c) {l : Label Op Op.Res Tag} (hl : DropsOnlyHold tr l)
    (hs : Step (daemon cfg) c l c') : ReportsHolds (tr ++ [l]) c' := by
  unfold ReportsHolds at h ⊢
  cases hs with
  | spawn hn hsp =>
    rw [spawn_held hsp]
    simpa using h
  | env he =>
    obtain ⟨_, _, -, -, rfl⟩ := he
    simpa using h
  | @act s s' pool n o r k hn hsem =>
    by_cases ho : ∃ held, o = .setHeld held
    · obtain ⟨held, rfl⟩ := ho
      have hheld : s'.held = held := hsem ▸ rfl
      show s'.held = true ↔ _
      rw [hheld]
      constructor
      · exact fun h => ⟨n, holdAlive_setHeld.2 h⟩
      · rintro ⟨m, hm⟩
        by_cases hne : n = m
        · exact holdAlive_setHeld.1 (hne ▸ hm)
        · rw [holdAlive_act_of_ne hne] at hm
          by_contra hdrop
          rw [Bool.not_eq_true] at hdrop
          exact hl (hdrop ▸ rfl) m (Ne.symm hne) hm
    · have ho : ∀ held, o ≠ .setHeld held := fun held h => ho ⟨held, h⟩
      simp only [holdAlive_other ho, sem_held ho hsem]
      exact h

private theorem reports_of_along (h : Runs (daemon cfg) (.init (.init now)) tr c) (hdrops : Along DropsOnlyHold tr) :
    ReportsHolds tr c := by
  induction h with
  | refl => exact ⟨nofun, fun ⟨_, h⟩ => h⟩
  | snoc _ _ hs ih => exact (ih (along_concat.1 hdrops).1).step (along_concat.1 hdrops).2 hs

/-- A hold that is dropped while another one is alive clears the flag. -/
theorem not_reports_of_drop {l : Label Op Op.Res Tag} (hs : Step (daemon cfg) c l c') (hl : ¬ DropsOnlyHold tr l) :
    ¬ ReportsHolds (tr ++ [l]) c' := by
  cases hs with
  | spawn => exact absurd trivial hl
  | env => exact absurd trivial hl
  | @act s s' pool n o r k hn hsem =>
    simp only [DropsOnlyHold, Classical.not_imp, not_forall, not_not] at hl
    obtain ⟨rfl, m, hne, hm⟩ := hl
    have hheld : s'.held = false := hsem ▸ rfl
    intro h
    have : s'.held = true := h.2 ⟨m, (holdAlive_act_of_ne (Ne.symm hne)).2 hm⟩
    rw [hheld] at this
    cases this

/-- In every run, `radio_held` is right in all the states that the run goes through exactly when no hold is dropped while
another one is alive. -/
theorem radio_held_reports (h : Runs (daemon cfg) (.init (.init now)) tr c) :
    (∀ t₁ t₂ c₁, tr = t₁ ++ t₂ → Runs (daemon cfg) (.init (.init now)) t₁ c₁ → Runs (daemon cfg) c₁ t₂ c →
      ReportsHolds t₁ c₁) ↔ Along DropsOnlyHold tr := by
  constructor
  · rintro hreports t₁ l t₂ rfl
    by_contra hl
    obtain ⟨c₁, c₂, h₁, hs, h₂⟩ := h.split_at
    refine not_reports_of_drop hs hl (hreports (t₁ ++ [l]) t₂ c₂ (by simp) (.snoc h₁ trivial hs) h₂)
  · rintro hdrops t₁ t₂ c₁ rfl h₁ -
    exact reports_of_along h₁ fun t l t' htr => hdrops t l (t' ++ t₂) (by simp [htr])

/-! ### Holds that overlap, and one that is alone -/

private def probeDevice : Request := ⟨.probe, some (.probe ⟨"wifred", "wiFred-config12"⟩)⟩

/-- The device is found, and two clients ask for a probe while the radio is not held. -/
private def probesAdmitted : List (Label Op Op.Res Tag) :=
  [.spawn 0 (.request apScan), .act 0 ⟨.radioHeld, false⟩, .act 0 ⟨.lock, ()⟩, .act 0 ⟨.radio (.scan 64), .ok seen⟩,
    .act 0 ⟨.unlock, ()⟩, .act 0 ⟨.store (.scanned .ap (seen.filterMap claimScanned)), ()⟩,
    .spawn 1 (.request probeDevice), .act 1 ⟨.radioHeld, false⟩,
    .act 1 ⟨.cached "wifred" "wiFred-config12", some seenEntry⟩, .spawn 2 (.request probeDevice),
    .act 2 ⟨.radioHeld, false⟩, .act 2 ⟨.cached "wifred" "wiFred-config12", some seenEntry⟩,
    .act 1 ⟨.setHeld true, ()⟩]

/-- One of them is alone on the radio. -/
theorem probe_reports : ∃ c, Runs (daemon .plain) (.init (.init 0)) probesAdmitted c ∧ c.shared.held = true := by
  have hrun : Runs (daemon .plain) (.init (.init 0)) probesAdmitted _ :=
    .cons (.spawn rfl ⟨rfl, rfl⟩) <| .cons (.act rfl ⟨rfl, rfl⟩) <| .cons (.act rfl ⟨rfl, rfl⟩) <|
      .cons (.act rfl rfl) <| .cons (.act rfl ⟨rfl, rfl⟩) <| .cons (.act rfl rfl) <| .cons (.spawn rfl ⟨rfl, rfl⟩) <|
      .cons (.act rfl ⟨rfl, rfl⟩) <| .cons (.act rfl ⟨rfl, rfl⟩) <| .cons (.spawn rfl ⟨rfl, rfl⟩) <|
      .cons (.act rfl ⟨rfl, rfl⟩) <| .cons (.act rfl ⟨rfl, rfl⟩) <| .cons (.act rfl rfl) .refl
  have hdrops : Along DropsOnlyHold probesAdmitted := by
    intro t₁ l t₂ htr
    have hl : l ∈ probesAdmitted := by simp [htr]
    simp only [probesAdmitted, List.mem_cons, List.not_mem_nil, or_false] at hl
    rcases hl with rfl | rfl | rfl | rfl | rfl | rfl | rfl | rfl | rfl | rfl | rfl | rfl | rfl <;>
      first | trivial | exact nofun
  have hreports := (radio_held_reports hrun).2 hdrops _ [] _ (by simp) hrun .refl
  exact ⟨_, hrun, hreports.2 ⟨1, rfl⟩⟩

/-- The other one waits for the mutex with its hold while the first one finishes and clears the flag. -/
private def probesOverlap : List (Label Op Op.Res Tag) :=
  [.act 1 ⟨.lock, ()⟩, .act 2 ⟨.setHeld true, ()⟩, .act 1 ⟨.radio (.connectOpen "wiFred-config12" none), ()⟩,
    .act 1 ⟨.radio .connected, .error .associationTimedOut⟩, .act 1 ⟨.radio .release, .ok ()⟩, .act 1 ⟨.unlock, ()⟩,
    .act 1 ⟨.setHeld false, ()⟩]

theorem hold_not_reported : ∃ c, Runs (daemon .plain) (.init (.init 0)) (probesAdmitted ++ probesOverlap) c ∧
    HoldAlive 2 (probesAdmitted ++ probesOverlap) ∧ ¬ ReportsHolds (probesAdmitted ++ probesOverlap) c := by
  have hrun : Runs (daemon .plain) (.init (.init 0)) (probesAdmitted ++ probesOverlap) _ :=
    .cons (.spawn rfl ⟨rfl, rfl⟩) <| .cons (.act rfl ⟨rfl, rfl⟩) <| .cons (.act rfl ⟨rfl, rfl⟩) <|
      .cons (.act rfl rfl) <| .cons (.act rfl ⟨rfl, rfl⟩) <| .cons (.act rfl rfl) <| .cons (.spawn rfl ⟨rfl, rfl⟩) <|
      .cons (.act rfl ⟨rfl, rfl⟩) <| .cons (.act rfl ⟨rfl, rfl⟩) <| .cons (.spawn rfl ⟨rfl, rfl⟩) <|
      .cons (.act rfl ⟨rfl, rfl⟩) <| .cons (.act rfl ⟨rfl, rfl⟩) <| .cons (.act rfl rfl) <|
      .cons (.act rfl ⟨rfl, rfl⟩) <| .cons (.act rfl rfl) <| .cons (.act rfl rfl) <| .cons (.act rfl rfl) <|
      .cons (.act rfl rfl) <| .cons (.act rfl ⟨rfl, rfl⟩) <| .cons (.act rfl rfl) .refl
  refine ⟨_, hrun, rfl, fun h => ?_⟩
  have hheld := h.2 ⟨2, rfl⟩
  cases hheld

end WirelessProgrammer
