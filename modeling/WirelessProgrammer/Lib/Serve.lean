import WirelessProgrammer.Lib.Prog

/-!
# Programs served by a relation

`Prog.serve` runs a program against a server that is a function of its state.  A server that is not one (a network that
loses things, a scheduler) is a relation; `ServedBy` says that it has answered the events of a run.  Where it answers as the
function does in related states, the run is the one of the function (`serve_of_simulates`).  `Returns` is what a program
returns whatever the server does.
-/

namespace Effect

namespace Prog

variable {Op : Type} {Res : Op → Type} {α σ : Type}

/-- The relation answers the events one after the other, taking its state from the first to the last. -/
inductive ServedBy (R : σ → (o : Op) → Res o → σ → Prop) : σ → List (Event Op Res) → σ → Prop
  | nil (s : σ) : ServedBy R s [] s
  | cons {s s₁ s₂ : σ} {o : Op} {r : Res o} {tr : List (Event Op Res)} (h : R s o r s₁) (rest : ServedBy R s₁ tr s₂) :
      ServedBy R s (⟨o, r⟩ :: tr) s₂

/-- Forward simulation: where each answer of the relation is the answer of a function in the related state, and the states
are related after it, a run that the relation has served is the run of the function. -/
theorem serve_of_simulates {τ : Type} {R : σ → (o : Op) → Res o → σ → Prop} {answer : τ → (o : Op) → Res o × τ}
    {A : σ → τ → Prop} {p : Prog Op Res α} {tr : List (Event Op Res)} {a : α} {s s' : σ} {t : τ} (hrun : Run p tr a)
    (hserved : ServedBy R s tr s') (hA : A s t)
    (hstep : ∀ e ∈ tr, ∀ s s' t, A s t → R s e.1 e.2 s' → (answer t e.1).1 = e.2 ∧ A s' (answer t e.1).2) :
    (p.serve answer t).1 = a ∧ A s' (p.serve answer t).2 := by
  induction hrun generalizing s t with
  | ret a =>
    cases hserved
    exact ⟨rfl, hA⟩
  | @op o k r tr a hk ih =>
    cases hserved with
    | cons h rest =>
      obtain ⟨heq, hA⟩ := hstep ⟨o, r⟩ (by simp) _ _ _ hA h
      rw [serve, heq]
      exact ih rest hA fun e he => hstep e (by simp [he])

/-- The relation has answered the events of both parts. -/
theorem ServedBy.append {R : σ → (o : Op) → Res o → σ → Prop} {t₁ t₂ : List (Event Op Res)} {s s₁ s₂ : σ}
    (h₁ : ServedBy R s t₁ s₁) (h₂ : ServedBy R s₁ t₂ s₂) : ServedBy R s (t₁ ++ t₂) s₂ := by
  induction h₁ with
  | nil => exact h₂
  | cons h _ ih => exact .cons h (ih h₂)

/-! ### What a program returns -/

section

variable {β : Type} {P : α → Prop} {Q : β → Prop}

/-- Whatever its operations are answered, the program returns a value with the property. -/
def Returns (P : α → Prop) : Prog Op Res α → Prop
  | ret a => P a
  | op _ k => ∀ r, Returns P (k r)

theorem Returns.pure {a : α} (h : P a) : (pure a : Prog Op Res α).Returns P := h

theorem Returns.bind {p : Prog Op Res α} {f : α → Prog Op Res β} (hp : p.Returns P) (hf : ∀ a, P a → (f a).Returns Q) :
    (p >>= f).Returns Q := by
  induction p with
  | ret a => exact hf a hp
  | op o k ih =>
    intro r
    exact ih r (hp r)

/-- Nothing is known of what the first part returns. -/
theorem Returns.bind_any {p : Prog Op Res α} {f : α → Prog Op Res β} (hf : ∀ a, (f a).Returns Q) : (p >>= f).Returns Q := by
  induction p with
  | ret a => exact hf a
  | op o k ih =>
    intro r
    exact ih r

theorem Returns.run {p : Prog Op Res α} {tr : List (Event Op Res)} {a : α} (h : p.Returns P) (hrun : Run p tr a) : P a := by
  induction hrun with
  | ret a => exact h
  | op _ ih => exact ih (h _)

/-- A program that ends with a function of what its first part returns runs as that part does. -/
theorem run_bind_pure {p : Prog Op Res α} {f : α → β} {tr : List (Event Op Res)} {b : β} :
    Run (p >>= fun a => pure (f a)) tr b ↔ ∃ a, Run p tr a ∧ b = f a := by
  rw [run_bind]
  constructor
  · rintro ⟨t₁, t₂, a, rfl, hp, hret⟩
    obtain ⟨rfl, rfl⟩ := run_ret.1 hret
    rw [List.append_nil]
    exact ⟨a, hp, rfl⟩
  · rintro ⟨a, hp, rfl⟩
    exact ⟨tr, [], a, (List.append_nil tr).symm, hp, .ret _⟩

end

/-! Programs that stop at the first error. -/

theorem serve_except_bind {ε β : Type} {answer : σ → (o : Op) → Res o × σ} {x : ExceptT ε (Prog Op Res) α}
    {f : α → ExceptT ε (Prog Op Res) β} {s s' : σ} {a : α} (hx : x.run.serve answer s = (.ok a, s')) :
    (x >>= f).run.serve answer s = (f a).run.serve answer s' := by
  rw [ExceptT.run_bind, serve_bind, hx]

theorem serve_except_bind_error {ε β : Type} {answer : σ → (o : Op) → Res o × σ} {x : ExceptT ε (Prog Op Res) α}
    {f : α → ExceptT ε (Prog Op Res) β} {s s' : σ} {e : ε} (hx : x.run.serve answer s = (.error e, s')) :
    (x >>= f).run.serve answer s = (.error e, s') := by
  rw [ExceptT.run_bind, serve_bind, hx]
  rfl

end Prog

end Effect
