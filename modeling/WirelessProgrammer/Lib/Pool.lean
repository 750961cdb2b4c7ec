import WirelessProgrammer.Lib.Prog

/-!
# Interleavings of programs over shared state

A pool of operations, numbered by `Nat`, works on one shared state: every operation is a program, and one step of
the pool starts an operation, performs the next event of one running operation, or lets the environment act.  The
steps are in any order, so a trace is an arbitrary interleaving.

`Steps.invariant` is the proof rule: an invariant over the trace, the shared state and one protocol state per
operation holds in every reachable configuration when every started program follows the protocol, and every event
that the protocol allows keeps the invariant and is answered as the protocol says.
-/

namespace Effect

/-- What the pool runs on: the meaning of an operation performed by operation number `n`, the programs that may be
started (with the tag they carry in the trace), and the steps of the environment. -/
structure System (Op : Type) (Res : Op → Type) (S Tag : Type) where
  sem : Nat → S → (o : Op) → Res o → S → Prop
  spawn : S → Tag → Prog Op Res Unit → S → Prop
  env : S → S → Prop

inductive Label (Op : Type) (Res : Op → Type) (Tag : Type)
  | spawn (n : Nat) (t : Tag)
  | act (n : Nat) (e : Event Op Res)
  | env

structure Config (Op : Type) (Res : Op → Type) (S : Type) where
  shared : S
  pool : Nat → Option (Prog Op Res Unit)

variable {Op : Type} {Res : Op → Type} {S Tag G : Type}

/-- A configuration in which nothing has been started. -/
def Config.init (s : S) : Config Op Res S := ⟨s, fun _ => none⟩

/-- The events of operation `n` in a trace. -/
def eventsOf (n : Nat) (tr : List (Label Op Res Tag)) : List (Event Op Res) :=
  tr.filterMap fun
    | .act m e => if m = n then some e else none
    | _ => none

@[simp] theorem eventsOf_nil (n : Nat) : eventsOf n ([] : List (Label Op Res Tag)) = [] := rfl

theorem eventsOf_append (n : Nat) (t₁ t₂ : List (Label Op Res Tag)) :
    eventsOf n (t₁ ++ t₂) = eventsOf n t₁ ++ eventsOf n t₂ := List.filterMap_append ..

@[simp] theorem eventsOf_spawn (n m : Nat) (t : Tag) (tr : List (Label Op Res Tag)) :
    eventsOf n (tr ++ [.spawn m t]) = eventsOf n tr := by
  rw [eventsOf_append]; simp [eventsOf]

@[simp] theorem eventsOf_env (n : Nat) (tr : List (Label Op Res Tag)) :
    eventsOf n (tr ++ [.env]) = eventsOf n tr := by
  rw [eventsOf_append]; simp [eventsOf]

@[simp] theorem eventsOf_act_self (n : Nat) (e : Event Op Res) (tr : List (Label Op Res Tag)) :
    eventsOf n (tr ++ [.act n e]) = eventsOf n tr ++ [e] := by
  rw [eventsOf_append]; simp [eventsOf]

theorem eventsOf_act_of_ne {n m : Nat} (h : m ≠ n) (e : Event Op Res) (tr : List (Label Op Res Tag)) :
    eventsOf n (tr ++ [.act m e]) = eventsOf n tr := by
  rw [eventsOf_append]; simp [eventsOf, h]

theorem mem_eventsOf {n : Nat} {e : Event Op Res} {tr : List (Label Op Res Tag)} :
    e ∈ eventsOf n tr ↔ .act n e ∈ tr := by
  rw [eventsOf, List.mem_filterMap]
  constructor
  · rintro ⟨_ | ⟨m, e'⟩ | _, hl, he⟩
    · cases he
    · by_cases hm : m = n
      · obtain rfl := Option.some.inj ((if_pos hm).symm.trans he)
        exact hm ▸ hl
      · exact absurd ((if_neg hm).symm.trans he) nofun
    · cases he
  · exact fun hl => ⟨_, hl, if_pos rfl⟩

section Mem

variable {m n : Nat} {t t' : Tag} {e e' : Event Op Res} {tr : List (Label Op Res Tag)}

@[simp] theorem act_mem_spawn : .act n e ∈ tr ++ [.spawn m t] ↔ .act n e ∈ tr := by simp

@[simp] theorem act_mem_env : .act n e ∈ tr ++ [.env] ↔ .act n e ∈ tr := by simp

@[simp] theorem spawn_mem_act : .spawn n t ∈ tr ++ [.act m e] ↔ .spawn n t ∈ tr := by simp

@[simp] theorem spawn_mem_env : .spawn n t ∈ tr ++ [.env] ↔ .spawn n t ∈ tr := by simp

theorem act_mem_act : .act n e ∈ tr ++ [.act m e'] ↔ .act n e ∈ tr ∨ n = m ∧ e = e' := by
  rw [List.mem_append, List.mem_singleton, Label.act.injEq]

theorem spawn_mem_spawn : .spawn n t ∈ tr ++ [.spawn m t'] ↔ .spawn n t ∈ tr ∨ n = m ∧ t = t' := by
  rw [List.mem_append, List.mem_singleton, Label.spawn.injEq]

end Mem

/-- The protocol states read off a trace follow its events. -/
theorem after_eventsOf_act (P : Protocol Op Res G) (g : G) (n : Nat) (e : Event Op Res)
    (tr : List (Label Op Res Tag)) :
    (fun m => P.after g (eventsOf m (tr ++ [.act n e]))) =
      Function.update (fun m => P.after g (eventsOf m tr)) n (P.next (P.after g (eventsOf n tr)) e.1 e.2) := by
  funext m
  by_cases h : m = n
  · subst h; simp [P.after_append]
  · simp [eventsOf_act_of_ne (Ne.symm h), h]

/-- One step of the pool. -/
inductive Step (sys : System Op Res S Tag) : Config Op Res S → Label Op Res Tag → Config Op Res S → Prop
  | spawn {s s' : S} {pool : Nat → Option (Prog Op Res Unit)} {n : Nat} {t : Tag} {p : Prog Op Res Unit}
      (hn : pool n = none) (h : sys.spawn s t p s') :
      Step sys ⟨s, pool⟩ (.spawn n t) ⟨s', Function.update pool n (some p)⟩
  | act {s s' : S} {pool : Nat → Option (Prog Op Res Unit)} {n : Nat} {o : Op} {r : Res o}
      {k : Res o → Prog Op Res Unit} (hn : pool n = some (.op o k)) (h : sys.sem n s o r s') :
      Step sys ⟨s, pool⟩ (.act n ⟨o, r⟩) ⟨s', Function.update pool n (some (k r))⟩
  | env {s s' : S} {pool : Nat → Option (Prog Op Res Unit)} (h : sys.env s s') :
      Step sys ⟨s, pool⟩ .env ⟨s', pool⟩

/-- The runs from `c` all of whose steps meet the condition `C` (on the trace before the step and its label). -/
inductive Steps (sys : System Op Res S Tag) (C : List (Label Op Res Tag) → Label Op Res Tag → Prop)
    (c : Config Op Res S) : List (Label Op Res Tag) → Config Op Res S → Prop
  | refl : Steps sys C c [] c
  | snoc {tr : List (Label Op Res Tag)} {c' c'' : Config Op Res S} {l : Label Op Res Tag}
      (h : Steps sys C c tr c') (hl : C tr l) (hs : Step sys c' l c'') : Steps sys C c (tr ++ [l]) c''

/-- The runs without a condition. -/
abbrev Runs (sys : System Op Res S Tag) : Config Op Res S → List (Label Op Res Tag) → Config Op Res S → Prop :=
  Steps sys fun _ _ => True

variable {sys : System Op Res S Tag} {C : List (Label Op Res Tag) → Label Op Res Tag → Prop}

theorem Steps.mono {C' : List (Label Op Res Tag) → Label Op Res Tag → Prop} (hC : ∀ tr l, C tr l → C' tr l)
    {c c' : Config Op Res S} {tr : List (Label Op Res Tag)} (h : Steps sys C c tr c') : Steps sys C' c tr c' := by
  induction h with
  | refl => exact .refl
  | snoc _ hl hs ih => exact .snoc ih (hC _ _ hl) hs

theorem Runs.trans {c c' c'' : Config Op Res S} {t₁ t₂ : List (Label Op Res Tag)} (h₁ : Runs sys c t₁ c')
    (h₂ : Runs sys c' t₂ c'') : Runs sys c (t₁ ++ t₂) c'' := by
  induction h₂ with
  | refl => simpa using h₁
  | snoc _ hl hs ih => rw [← List.append_assoc]; exact .snoc ih hl hs

theorem Runs.cons {c c' c'' : Config Op Res S} {l : Label Op Res Tag} {tr : List (Label Op Res Tag)}
    (hs : Step sys c l c') (h : Runs sys c' tr c'') : Runs sys c (l :: tr) c'' :=
  Runs.trans (.snoc .refl trivial hs) h

/-- What holds of every label along a trace, with the trace before it. -/
def Along (P : List (Label Op Res Tag) → Label Op Res Tag → Prop) (tr : List (Label Op Res Tag)) : Prop :=
  ∀ t₁ l t₂, tr = t₁ ++ l :: t₂ → P t₁ l

theorem along_nil (P : List (Label Op Res Tag) → Label Op Res Tag → Prop) : Along P [] :=
  fun t₁ l t₂ h => by simp at h

theorem along_concat {P : List (Label Op Res Tag) → Label Op Res Tag → Prop} {tr : List (Label Op Res Tag)}
    {l : Label Op Res Tag} : Along P (tr ++ [l]) ↔ Along P tr ∧ P tr l := by
  constructor
  · intro h
    exact ⟨fun t₁ l' t₂ htr => h t₁ l' (t₂ ++ [l]) (by simp [htr]), h tr l [] rfl⟩
  · rintro ⟨htr, hl⟩ t₁ l' t₂ heq
    rcases concat_eq_append_cons.1 heq with ⟨rfl, rfl, rfl⟩ | ⟨t₃, rfl, rfl⟩
    · exact hl
    · exact htr t₁ l' t₃ rfl

theorem along_append {P : List (Label Op Res Tag) → Label Op Res Tag → Prop} {t₁ t₂ : List (Label Op Res Tag)}
    (h₁ : Along P t₁) (h₂ : Along (fun t => P (t₁ ++ t)) t₂) : Along P (t₁ ++ t₂) := by
  induction t₂ using List.reverseRecOn with
  | nil => simpa using h₁
  | append_singleton t₂ l ih =>
    obtain ⟨h₂, hl⟩ := along_concat.1 h₂
    rw [← List.append_assoc]
    exact along_concat.2 ⟨ih h₂, hl⟩

/-- A run whose steps all meet a condition. -/
theorem Runs.of_along {c c' : Config Op Res S} {tr : List (Label Op Res Tag)} (h : Runs sys c tr c') (hC : Along C tr) :
    Steps sys C c tr c' := by
  induction h with
  | refl => exact .refl
  | snoc _ _ hs ih =>
    have hC := along_concat.1 hC
    exact .snoc (ih hC.1) hC.2 hs

theorem runs_concat {c c' : Config Op Res S} {tr : List (Label Op Res Tag)} {l : Label Op Res Tag} :
    Runs sys c (tr ++ [l]) c' ↔ ∃ c₁, Runs sys c tr c₁ ∧ Step sys c₁ l c' := by
  constructor
  · intro h
    generalize htr : tr ++ [l] = tr' at h
    cases h with
    | refl => simp at htr
    | snoc h _ hs =>
      obtain ⟨rfl, hlast⟩ := List.append_inj' htr rfl
      obtain rfl : l = _ := by simpa using hlast
      exact ⟨_, h, hs⟩
  · rintro ⟨c₁, h, hs⟩
    exact .snoc h trivial hs

theorem runs_nil {c c' : Config Op Res S} : Runs sys c [] c' ↔ c' = c := by
  constructor
  · intro h
    generalize htr : ([] : List (Label Op Res Tag)) = tr at h
    cases h with
    | refl => rfl
    | snoc => simp at htr
  · rintro rfl
    exact .refl

/-- A run is a run of its first part followed by a run of the rest. -/
theorem Runs.split {c c' : Config Op Res S} {t₁ t₂ : List (Label Op Res Tag)} (h : Runs sys c (t₁ ++ t₂) c') :
    ∃ c₁, Runs sys c t₁ c₁ ∧ Runs sys c₁ t₂ c' := by
  induction t₂ using List.reverseRecOn generalizing c' with
  | nil => exact ⟨c', by simpa using h, .refl⟩
  | append_singleton t₂ l ih =>
    rw [← List.append_assoc] at h
    obtain ⟨c₂, h, hs⟩ := runs_concat.1 h
    obtain ⟨c₁, h₁, h₂⟩ := ih h
    exact ⟨c₁, h₁, .snoc h₂ trivial hs⟩

/-- The step in the middle of a run. -/
theorem Runs.split_at {c c' : Config Op Res S} {t₁ t₂ : List (Label Op Res Tag)} {l : Label Op Res Tag}
    (h : Runs sys c (t₁ ++ l :: t₂) c') :
    ∃ c₁ c₂, Runs sys c t₁ c₁ ∧ Step sys c₁ l c₂ ∧ Runs sys c₂ t₂ c' := by
  rw [List.append_cons] at h
  obtain ⟨c₂, h, h₂⟩ := h.split
  obtain ⟨c₁, h₁, hs⟩ := runs_concat.1 h
  exact ⟨c₁, c₂, h₁, hs, h₂⟩

theorem runs_cons {c c' : Config Op Res S} {l : Label Op Res Tag} {tr : List (Label Op Res Tag)} :
    Runs sys c (l :: tr) c' ↔ ∃ c₁, Step sys c l c₁ ∧ Runs sys c₁ tr c' := by
  constructor
  · intro h
    rw [← List.nil_append (l :: tr)] at h
    obtain ⟨c₀, c₁, h₀, hs, hrest⟩ := h.split_at
    obtain rfl := runs_nil.1 h₀
    exact ⟨c₁, hs, hrest⟩
  · rintro ⟨c₁, hs, hrest⟩
    exact .cons hs hrest

/-! ### An operation that is not interrupted -/

/-- A program runs from a state to another one, with nothing between its events. -/
inductive RunsFrom (sem : S → (o : Op) → Res o → S → Prop) {α : Type} :
    Prog Op Res α → S → List (Event Op Res) → α → S → Prop
  | ret (a : α) (s : S) : RunsFrom sem (.ret a) s [] a s
  | op {o : Op} {k : Res o → Prog Op Res α} {r : Res o} {s s₁ s' : S} {tr : List (Event Op Res)} {a : α}
      (h : sem s o r s₁) (hk : RunsFrom sem (k r) s₁ tr a s') : RunsFrom sem (.op o k) s (⟨o, r⟩ :: tr) a s'

section RunsFrom

variable {sem : S → (o : Op) → Res o → S → Prop} {α β : Type} {s s' : S} {tr : List (Event Op Res)} {a : α} {b : β}

theorem runsFrom_ret {a' : α} : RunsFrom sem (.ret a) s tr a' s' ↔ tr = [] ∧ a' = a ∧ s' = s := by
  constructor
  · rintro ⟨⟩
    exact ⟨rfl, rfl, rfl⟩
  · rintro ⟨rfl, rfl, rfl⟩
    exact .ret _ _

theorem runsFrom_perform {o : Op} {f : Res o → Prog Op Res α} :
    RunsFrom sem (Prog.perform o >>= f) s tr a s' ↔
      ∃ r s₁ tr', tr = ⟨o, r⟩ :: tr' ∧ sem s o r s₁ ∧ RunsFrom sem (f r) s₁ tr' a s' := by
  constructor
  · rintro (_ | ⟨h, hk⟩)
    exact ⟨_, _, _, rfl, h, hk⟩
  · rintro ⟨r, s₁, tr', rfl, h, hk⟩
    exact .op h hk

theorem runsFrom_bind {p : Prog Op Res α} {f : α → Prog Op Res β} :
    RunsFrom sem (p >>= f) s tr b s' ↔
      ∃ t₁ t₂ a s₁, tr = t₁ ++ t₂ ∧ RunsFrom sem p s t₁ a s₁ ∧ RunsFrom sem (f a) s₁ t₂ b s' := by
  constructor
  · intro h
    induction p generalizing s tr with
    | ret a => exact ⟨[], tr, a, s, rfl, .ret a s, h⟩
    | op o k ih =>
      rcases h with _ | ⟨h, hk⟩
      obtain ⟨t₁, t₂, a, s₁, rfl, h₁, h₂⟩ := ih _ hk
      exact ⟨_ :: t₁, t₂, a, s₁, rfl, .op h h₁, h₂⟩
  · rintro ⟨t₁, t₂, a, s₁, rfl, h₁, h₂⟩
    induction h₁ with
    | ret a s => exact h₂
    | op h _ ih => exact .op h (ih h₂)

/-- An operation whose events follow each other in the pool runs from the state before them to the state after. -/
theorem Runs.runsFrom {c c' : Config Op Res S} {n : Nat} {p : Prog Op Res α} (hrun : Prog.Run p tr a)
    (h : Runs sys c (tr.map (.act n)) c') : RunsFrom (sys.sem n) p c.shared tr a c'.shared := by
  induction hrun generalizing c with
  | ret a =>
    obtain rfl := runs_nil.1 h
    exact .ret a _
  | op _ ih =>
    obtain ⟨c₁, hs, hrest⟩ := runs_cons.1 h
    cases hs with
    | act hn hsem => exact .op hsem (ih hrest)

end RunsFrom

/-! ### The invariant rule -/

/-- What is known of operation `n` in state `g`: it has not started and `g` is the idle state, or its remaining
program follows the protocol from `g`. -/
def Tracked (P : Protocol Op Res G) (g₀ : G) (p : Option (Prog Op Res Unit)) (g : G) : Prop :=
  match p with
  | none => g = g₀
  | some p => p.Follows P (fun _ _ => True) g

theorem Tracked.update {P : Protocol Op Res G} {g₀ : G} {pool : Nat → Option (Prog Op Res Unit)} {gs : Nat → G}
    (h : ∀ m, Tracked P g₀ (pool m) (gs m)) {n : Nat} {p : Prog Op Res Unit} {g : G}
    (hp : p.Follows P (fun _ _ => True) g) (m : Nat) :
    Tracked P g₀ (Function.update pool n (some p) m) (Function.update gs n g m) := by
  by_cases hm : m = n
  · subst hm; simpa [Tracked] using hp
  · simpa [hm] using h m

theorem Tracked.allowed {P : Protocol Op Res G} {g₀ g : G} {o : Op} {k : Res o → Prog Op Res Unit}
    (h : Tracked P g₀ (some (.op o k)) g) : P.allowed g o := And.left h

/-- Invariant rule for interleavings. -/
theorem Steps.invariant (P : Protocol Op Res G) (g₀ : G) (I : List (Label Op Res Tag) → S → (Nat → G) → Prop)
    (hspawn : ∀ tr s gs n t p s', I tr s gs → gs n = g₀ → C tr (.spawn n t) → sys.spawn s t p s' →
      ∃ g, I (tr ++ [.spawn n t]) s' (Function.update gs n g) ∧ p.Follows P (fun _ _ => True) g)
    (hact : ∀ tr s gs n o r s', I tr s gs → P.allowed (gs n) o → C tr (.act n ⟨o, r⟩) → sys.sem n s o r s' →
      P.answers (gs n) o r ∧ I (tr ++ [.act n ⟨o, r⟩]) s' (Function.update gs n (P.next (gs n) o r)))
    (henv : ∀ tr s gs s', I tr s gs → sys.env s s' → I (tr ++ [.env]) s' gs)
    {s₀ : S} (h₀ : I [] s₀ fun _ => g₀) {tr : List (Label Op Res Tag)} {c : Config Op Res S}
    (h : Steps sys C (.init s₀) tr c) :
    ∃ gs, I tr c.shared gs ∧ ∀ n, Tracked P g₀ (c.pool n) (gs n) := by
  induction h with
  | refl => exact ⟨fun _ => g₀, h₀, fun _ => rfl⟩
  | snoc _ hl hs ih =>
    obtain ⟨gs, hI, hT⟩ := ih
    cases hs with
    | @spawn s s' pool n t p hn hsp =>
      have hg : gs n = g₀ := by have := hT n; simpa [hn, Tracked] using this
      obtain ⟨g, hI', hp⟩ := hspawn _ _ _ _ _ _ _ hI hg hl hsp
      exact ⟨_, hI', Tracked.update hT hp⟩
    | @act s s' pool n o r k hn hsem =>
      have hf : Prog.Follows P (fun _ _ => True) (.op o k) (gs n) := by
        have := hT n; simpa only [hn, Tracked] using this
      obtain ⟨ha, hI'⟩ := hact _ _ _ _ _ _ _ hI hf.1 hl hsem
      exact ⟨_, hI', Tracked.update hT (hf.2 r ha)⟩
    | env he => exact ⟨gs, henv _ _ _ _ hI he, hT⟩

/-- The invariant rule when every program starts in the idle state: the protocol states are read off the trace. -/
theorem Steps.invariant_after (P : Protocol Op Res G) (g₀ : G) (I : List (Label Op Res Tag) → S → Prop)
    (hspawn : ∀ tr s n t p s', I tr s → C tr (.spawn n t) → sys.spawn s t p s' →
      I (tr ++ [.spawn n t]) s' ∧ p.Follows P (fun _ _ => True) g₀)
    (hact : ∀ tr s n o r s', I tr s → P.allowed (P.after g₀ (eventsOf n tr)) o → C tr (.act n ⟨o, r⟩) →
      sys.sem n s o r s' → P.answers (P.after g₀ (eventsOf n tr)) o r ∧ I (tr ++ [.act n ⟨o, r⟩]) s')
    (henv : ∀ tr s s', I tr s → sys.env s s' → I (tr ++ [.env]) s')
    {s₀ : S} (h₀ : I [] s₀) {tr : List (Label Op Res Tag)} {c : Config Op Res S} (h : Steps sys C (.init s₀) tr c) :
    I tr c.shared := by
  obtain ⟨gs, ⟨hI, -⟩, -⟩ := h.invariant P g₀
    (fun tr s gs => I tr s ∧ gs = fun n => P.after g₀ (eventsOf n tr))
    (by
      rintro tr s _ n t p s' ⟨hI, rfl⟩ hg hC hsp
      obtain ⟨hI', hp⟩ := hspawn tr s n t p s' hI hC hsp
      refine ⟨g₀, ⟨hI', ?_⟩, hp⟩
      simp only [eventsOf_spawn]
      exact Function.update_eq_self_iff.2 hg.symm)
    (by
      rintro tr s _ n o r s' ⟨hI, rfl⟩ ho hC hsem
      obtain ⟨ha, hI'⟩ := hact tr s n o r s' hI ho hC hsem
      exact ⟨ha, hI', (after_eventsOf_act P g₀ n ⟨o, r⟩ tr).symm⟩)
    (by
      rintro tr s _ s' ⟨hI, rfl⟩ he
      exact ⟨henv tr s s' hI he, by simp only [eventsOf_env]⟩)
    ⟨h₀, rfl⟩
  exact hI

/-- An operation that has not started has done nothing. -/
theorem Steps.eventsOf_unstarted {s₀ : S} {tr : List (Label Op Res Tag)} {c : Config Op Res S}
    (h : Steps sys C (.init s₀) tr c) {n : Nat} (hn : c.pool n = none) : eventsOf n tr = [] := by
  have hpool : ∀ {pool : Nat → Option (Prog Op Res Unit)} {m : Nat} {p : Prog Op Res Unit},
      Function.update pool m (some p) n = none → m ≠ n ∧ pool n = none := by
    intro pool m p hn
    by_cases hm : m = n
    · subst hm
      rw [Function.update_self] at hn
      cases hn
    · exact ⟨hm, by rwa [Function.update_of_ne (Ne.symm hm)] at hn⟩
  induction h with
  | refl => rfl
  | snoc _ _ hs ih =>
    cases hs with
    | spawn => rw [eventsOf_spawn, ih (hpool hn).2]
    | act => rw [eventsOf_act_of_ne (hpool hn).1, ih (hpool hn).2]
    | env => rw [eventsOf_env, ih hn]

/-! ### States read off a trace -/

/-- The state of operation `n` after a trace: `g₀` before it starts, then what its events make of the state in which its
tag starts it. -/
def stateOf (P : Protocol Op Res G) (g₀ : G) (start : Tag → G) (n : Nat) (tr : List (Label Op Res Tag)) : G :=
  tr.foldl (fun g l => match l with
    | .spawn m t => if m = n then start t else g
    | .act m e => if m = n then P.next g e.1 e.2 else g
    | .env => g) g₀

section StateOf

variable {P : Protocol Op Res G} {g₀ : G} {start : Tag → G} {n m : Nat} {tr : List (Label Op Res Tag)}

@[simp] theorem stateOf_spawn_self (t : Tag) : stateOf P g₀ start n (tr ++ [.spawn n t]) = start t := by
  simp [stateOf]

theorem stateOf_spawn_of_ne (h : m ≠ n) (t : Tag) :
    stateOf P g₀ start n (tr ++ [.spawn m t]) = stateOf P g₀ start n tr := by
  simp [stateOf, h]

@[simp] theorem stateOf_act_self (e : Event Op Res) :
    stateOf P g₀ start n (tr ++ [.act n e]) = P.next (stateOf P g₀ start n tr) e.1 e.2 := by
  simp [stateOf]

theorem stateOf_act_of_ne (h : m ≠ n) (e : Event Op Res) :
    stateOf P g₀ start n (tr ++ [.act m e]) = stateOf P g₀ start n tr := by
  simp [stateOf, h]

@[simp] theorem stateOf_env : stateOf P g₀ start n (tr ++ [.env]) = stateOf P g₀ start n tr := by
  simp [stateOf]

theorem stateOf_update_spawn (t : Tag) (tr : List (Label Op Res Tag)) :
    (fun m => stateOf P g₀ start m (tr ++ [.spawn n t])) =
      Function.update (fun m => stateOf P g₀ start m tr) n (start t) := by
  funext m
  by_cases h : m = n
  · subst h; simp
  · simp [stateOf_spawn_of_ne (Ne.symm h), h]

theorem stateOf_update_act (e : Event Op Res) (tr : List (Label Op Res Tag)) :
    (fun m => stateOf P g₀ start m (tr ++ [.act n e])) =
      Function.update (fun m => stateOf P g₀ start m tr) n (P.next (stateOf P g₀ start n tr) e.1 e.2) := by
  funext m
  by_cases h : m = n
  · subst h; simp
  · simp [stateOf_act_of_ne (Ne.symm h), h]

end StateOf

/-- The invariant rule when the tag of an operation says in which state it starts. -/
theorem Steps.invariant_stateOf (P : Protocol Op Res G) (g₀ : G) (start : Tag → G)
    (I : List (Label Op Res Tag) → S → Prop)
    (hspawn : ∀ tr s n t p s', I tr s → stateOf P g₀ start n tr = g₀ → C tr (.spawn n t) → sys.spawn s t p s' →
      I (tr ++ [.spawn n t]) s' ∧ p.Follows P (fun _ _ => True) (start t))
    (hact : ∀ tr s n o r s', I tr s → P.allowed (stateOf P g₀ start n tr) o → C tr (.act n ⟨o, r⟩) →
      sys.sem n s o r s' → P.answers (stateOf P g₀ start n tr) o r ∧ I (tr ++ [.act n ⟨o, r⟩]) s')
    (henv : ∀ tr s s', I tr s → sys.env s s' → I (tr ++ [.env]) s')
    {s₀ : S} (h₀ : I [] s₀) {tr : List (Label Op Res Tag)} {c : Config Op Res S} (h : Steps sys C (.init s₀) tr c) :
    I tr c.shared ∧ ∀ n, Tracked P g₀ (c.pool n) (stateOf P g₀ start n tr) := by
  obtain ⟨gs, ⟨hI, rfl⟩, hT⟩ := h.invariant P g₀
    (fun tr s gs => I tr s ∧ gs = fun n => stateOf P g₀ start n tr)
    (by
      rintro tr s _ n t p s' ⟨hI, rfl⟩ hg hC hsp
      obtain ⟨hI', hp⟩ := hspawn tr s n t p s' hI hg hC hsp
      exact ⟨start t, ⟨hI', (stateOf_update_spawn t tr).symm⟩, hp⟩)
    (by
      rintro tr s _ n o r s' ⟨hI, rfl⟩ ho hC hsem
      obtain ⟨ha, hI'⟩ := hact tr s n o r s' hI ho hC hsem
      exact ⟨ha, hI', (stateOf_update_act ⟨o, r⟩ tr).symm⟩)
    (by
      rintro tr s _ s' ⟨hI, rfl⟩ he
      exact ⟨henv tr s s' hI he, by simp only [stateOf_env]⟩)
    ⟨h₀, rfl⟩
  exact ⟨hI, hT⟩

end Effect
