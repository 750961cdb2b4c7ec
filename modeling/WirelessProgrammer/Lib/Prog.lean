import Mathlib.Data.List.Induction
import Mathlib.Logic.Function.Basic

/-!
# Programs over an effect signature

A program performs operations `o : Op`, each answered by its environment with a value of type `Res o`, and finally
returns.  A run of a program is the list of its events (operation and answer) with the value returned; nothing is
assumed about the answers.

A `Protocol` is an automaton read along the events of one program: in state `g` it says which operations are
allowed, which answers may be given to them, and what the state is afterwards.  `Prog.Follows` is the weakest
precondition of a program for a protocol; it is what the theorems about interleavings (`Pool`) and about single
runs (`Follows.run`) ask of a program.
-/

namespace Effect

/-- The positions in a list with one more element. -/
theorem concat_eq_append_cons {α : Type} {l l₁ l₂ : List α} {a b : α} :
    l ++ [b] = l₁ ++ a :: l₂ ↔ (l = l₁ ∧ b = a ∧ l₂ = []) ∨ ∃ l₃, l₂ = l₃ ++ [b] ∧ l = l₁ ++ a :: l₃ := by
  constructor
  · intro h
    rcases List.eq_nil_or_concat l₂ with rfl | ⟨l₃, b', rfl⟩
    · obtain ⟨rfl, hlast⟩ := List.append_inj' h rfl
      exact .inl ⟨rfl, by simpa using hlast, rfl⟩
    · rw [List.concat_eq_append, ← List.cons_append, ← List.append_assoc] at h
      obtain ⟨rfl, hlast⟩ := List.append_inj' h rfl
      obtain rfl : b = b' := by simpa using hlast
      exact .inr ⟨l₃, List.concat_eq_append, rfl⟩
  · rintro (⟨rfl, rfl, rfl⟩ | ⟨l₃, rfl, rfl⟩)
    · rfl
    · simp

/-- The last element of a kind is at one place. -/
theorem last_split_unique {α : Type} {p : α → Prop} {l₁ l₂ m₁ m₂ : List α} {a b : α}
    (h : l₁ ++ a :: l₂ = m₁ ++ b :: m₂) (ha : p a) (hb : p b) (hl : ∀ x ∈ l₂, ¬ p x) (hm : ∀ x ∈ m₂, ¬ p x) :
    l₁ = m₁ ∧ l₂ = m₂ := by
  rcases List.append_eq_append_iff.1 h with ⟨as, rfl, has⟩ | ⟨as, rfl, has⟩
  · cases as with
    | nil =>
      cases has
      exact ⟨by simp, rfl⟩
    | cons x as =>
      cases has
      exact absurd hb (hl b (by simp))
  · cases as with
    | nil =>
      cases has
      exact ⟨by simp, rfl⟩
    | cons x as =>
      cases has
      exact absurd ha (hm a (by simp))

/-- A program with operations `Op` answered in `Res`, returning an `α`. -/
inductive Prog (Op : Type) (Res : Op → Type) (α : Type) : Type
  | ret (a : α)
  | op (o : Op) (k : Res o → Prog Op Res α)

/-- An operation together with the answer it got. -/
abbrev Event (Op : Type) (Res : Op → Type) := (o : Op) × Res o

namespace Prog

variable {Op Op' : Type} {Res : Op → Type} {Res' : Op' → Type} {α β γ : Type}

/-- Sequential composition. -/
def bind : Prog Op Res α → (α → Prog Op Res β) → Prog Op Res β
  | ret a, f => f a
  | op o k, f => op o fun r => bind (k r) f

instance : Monad (Prog Op Res) where
  pure := ret
  bind := bind

/-- The program that performs one operation and returns its answer. -/
def perform (o : Op) : Prog Op Res (Res o) := op o ret

@[simp] theorem pure_eq (a : α) : (pure a : Prog Op Res α) = ret a := rfl

@[simp] theorem ret_bind (a : α) (f : α → Prog Op Res β) : (ret a >>= f) = f a := rfl

@[simp] theorem op_bind (o : Op) (k : Res o → Prog Op Res α) (f : α → Prog Op Res β) :
    (op o k >>= f) = op o fun r => k r >>= f := rfl

/-- Replace every operation by a program over another signature. -/
def translate (h : (o : Op) → Prog Op' Res' (Res o)) : Prog Op Res α → Prog Op' Res' α
  | ret a => ret a
  | op o k => h o >>= fun r => translate h (k r)

/-- `Run p tr a`: the program can perform exactly the events `tr` and then return `a`. -/
inductive Run : Prog Op Res α → List (Event Op Res) → α → Prop
  | ret (a : α) : Run (ret a) [] a
  | op {o : Op} {k : Res o → Prog Op Res α} {r : Res o} {tr : List (Event Op Res)} {a : α}
      (h : Run (k r) tr a) : Run (op o k) (⟨o, r⟩ :: tr) a

theorem run_ret {a b : α} {tr : List (Event Op Res)} : Run (ret a) tr b ↔ tr = [] ∧ b = a := by
  constructor
  · intro h; cases h; exact ⟨rfl, rfl⟩
  · rintro ⟨rfl, rfl⟩; exact .ret _

theorem run_op {o : Op} {k : Res o → Prog Op Res α} {tr : List (Event Op Res)} {a : α} :
    Run (op o k) tr a ↔ ∃ r tr', tr = ⟨o, r⟩ :: tr' ∧ Run (k r) tr' a := by
  constructor
  · intro h; cases h with | op h => exact ⟨_, _, rfl, h⟩
  · rintro ⟨r, tr', rfl, h⟩; exact .op h

/-- A run of a composition is a run of the first part followed by a run of the second. -/
theorem run_bind {p : Prog Op Res α} {f : α → Prog Op Res β} {tr : List (Event Op Res)} {b : β} :
    Run (p >>= f) tr b ↔ ∃ t₁ t₂ a, tr = t₁ ++ t₂ ∧ Run p t₁ a ∧ Run (f a) t₂ b := by
  induction p generalizing tr with
  | ret a =>
    simp only [ret_bind, run_ret]
    constructor
    · intro h; exact ⟨[], tr, a, rfl, ⟨rfl, rfl⟩, h⟩
    · rintro ⟨t₁, t₂, a', rfl, ⟨rfl, rfl⟩, h⟩; exact h
  | op o k ih =>
    simp only [op_bind, run_op]
    constructor
    · rintro ⟨r, tr', rfl, h⟩
      obtain ⟨t₁, t₂, a, rfl, h₁, h₂⟩ := (ih r).1 h
      exact ⟨⟨o, r⟩ :: t₁, t₂, a, rfl, ⟨r, t₁, rfl, h₁⟩, h₂⟩
    · rintro ⟨_, t₂, a, rfl, ⟨r, t₁, rfl, h₁⟩, h₂⟩
      exact ⟨r, t₁ ++ t₂, rfl, (ih r).2 ⟨t₁, t₂, a, rfl, h₁, h₂⟩⟩

/-- The run in which every operation gets the answer a function gives. -/
def exec (answer : (o : Op) → Res o) : Prog Op Res α → List (Event Op Res) × α
  | ret a => ([], a)
  | op o k =>
    let rest := exec answer (k (answer o))
    (⟨o, answer o⟩ :: rest.1, rest.2)

theorem run_exec (answer : (o : Op) → Res o) (p : Prog Op Res α) : Run p (p.exec answer).1 (p.exec answer).2 := by
  induction p with
  | ret a => exact .ret a
  | op o k ih => exact .op (ih (answer o))

theorem exec_bind (answer : (o : Op) → Res o) (p : Prog Op Res α) (f : α → Prog Op Res β) :
    ((p >>= f).exec answer).2 = ((f (p.exec answer).2).exec answer).2 := by
  induction p with
  | ret a => rfl
  | op o k ih => exact ih (answer o)

/-- The run in which an environment with a state answers: the value returned and the state at the end. -/
def serve {σ : Type} (answer : σ → (o : Op) → Res o × σ) : Prog Op Res α → σ → α × σ
  | ret a, s => (a, s)
  | op o k, s => serve answer (k (answer s o).1) (answer s o).2

theorem serve_bind {σ : Type} (answer : σ → (o : Op) → Res o × σ) (p : Prog Op Res α) (f : α → Prog Op Res β) (s : σ) :
    (p >>= f).serve answer s = (f (p.serve answer s).1).serve answer (p.serve answer s).2 := by
  induction p generalizing s with
  | ret a => rfl
  | op o k ih => exact ih (answer s o).1 (answer s o).2

/-! Programs that stop at the first error are programs in `ExceptT`. -/

theorem run_except_bind {ε : Type} {x : ExceptT ε (Prog Op Res) α} {f : α → ExceptT ε (Prog Op Res) β}
    {tr : List (Event Op Res)} {r : Except ε β} :
    Run (x >>= f).run tr r ↔ (∃ e, Run x.run tr (.error e) ∧ r = .error e) ∨
      ∃ t₁ t₂ a, tr = t₁ ++ t₂ ∧ Run x.run t₁ (.ok a) ∧ Run (f a).run t₂ r := by
  rw [ExceptT.run_bind, run_bind]
  constructor
  · rintro ⟨t₁, t₂, e | a, rfl, h₁, h₂⟩
    · obtain ⟨rfl, rfl⟩ := run_ret.1 h₂
      exact .inl ⟨e, by simpa using h₁, rfl⟩
    · exact .inr ⟨t₁, t₂, a, rfl, h₁, h₂⟩
  · rintro (⟨e, h, rfl⟩ | ⟨t₁, t₂, a, rfl, h₁, h₂⟩)
    · exact ⟨tr, [], .error e, by simp, h, .ret _⟩
    · exact ⟨t₁, t₂, .ok a, rfl, h₁, h₂⟩

end Prog

/-! ### Protocols -/

/-- An automaton along the events of one program: the operations allowed in a state, the answers they may get,
and the next state. -/
structure Protocol (Op : Type) (Res : Op → Type) (G : Type) where
  allowed : G → Op → Prop
  answers : G → (o : Op) → Res o → Prop
  next : G → (o : Op) → Res o → G

namespace Protocol

variable {Op : Type} {Res : Op → Type} {G : Type}

/-- The state of the automaton after a list of events. -/
def after (P : Protocol Op Res G) (g : G) (tr : List (Event Op Res)) : G :=
  tr.foldl (fun g e => P.next g e.1 e.2) g

@[simp] theorem after_nil (P : Protocol Op Res G) (g : G) : P.after g [] = g := rfl

@[simp] theorem after_cons (P : Protocol Op Res G) (g : G) (e : Event Op Res) (tr : List (Event Op Res)) :
    P.after g (e :: tr) = P.after (P.next g e.1 e.2) tr := rfl

theorem after_append (P : Protocol Op Res G) (g : G) (t₁ t₂ : List (Event Op Res)) :
    P.after g (t₁ ++ t₂) = P.after (P.after g t₁) t₂ := List.foldl_append ..

@[simp] theorem after_concat (P : Protocol Op Res G) (g : G) (tr : List (Event Op Res)) (e : Event Op Res) :
    P.after g (tr ++ [e]) = P.next (P.after g tr) e.1 e.2 := by
  rw [after_append, after_cons, after_nil]

/-- A flag of the state that events can only set. -/
theorem after_flag (P : Protocol Op Res G) (flag : G → Bool) (sets : Event Op Res → Prop)
    (h : ∀ g e, flag (P.next g e.1 e.2) = true ↔ flag g = true ∨ sets e) (g : G) (tr : List (Event Op Res)) :
    flag (P.after g tr) = true ↔ flag g = true ∨ ∃ e ∈ tr, sets e := by
  induction tr generalizing g with
  | nil => simp
  | cons e tr ih =>
    rw [after_cons, ih, h, or_assoc]
    simp only [List.mem_cons, exists_eq_or_imp]

/-- A flag of the state that some events set and others clear: it is set by an event after which none clears it. -/
theorem after_pending (P : Protocol Op Res G) (flag : G → Bool) (sets clears : Event Op Res → Prop)
    (h : ∀ g e, flag (P.next g e.1 e.2) = true ↔ sets e ∨ flag g = true ∧ ¬ clears e) {g : G} (hg : flag g = false)
    (tr : List (Event Op Res)) :
    flag (P.after g tr) = true ↔ ∃ t₁ e t₂, tr = t₁ ++ e :: t₂ ∧ sets e ∧ ∀ e' ∈ t₂, ¬ clears e' := by
  induction tr using List.reverseRecOn with
  | nil => simp [hg]
  | append_singleton tr e ih =>
    rw [after_concat, h, ih]
    constructor
    · rintro (hset | ⟨⟨t₁, e₀, t₂, rfl, hset, hkept⟩, hclear⟩)
      · exact ⟨tr, e, [], rfl, hset, nofun⟩
      · refine ⟨t₁, e₀, t₂ ++ [e], by simp, hset, fun e' he' => ?_⟩
        rcases List.mem_append.1 he' with he' | he'
        · exact hkept e' he'
        · exact List.mem_singleton.1 he' ▸ hclear
    · rintro ⟨t₁, e₀, t₂, heq, hset, hkept⟩
      -- either the event that sets the flag is the last one, or it is in `tr`
      rcases concat_eq_append_cons.1 heq with ⟨rfl, rfl, rfl⟩ | ⟨t₃, rfl, rfl⟩
      · exact .inl hset
      · exact .inr ⟨⟨t₁, e₀, t₃, rfl, hset, fun e' he' => hkept e' (by simp [he'])⟩, hkept _ (by simp)⟩

/-- Every answer along the events is one the protocol admits. -/
def Answered (P : Protocol Op Res G) : G → List (Event Op Res) → Prop
  | _, [] => True
  | g, e :: tr => P.answers g e.1 e.2 ∧ P.Answered (P.next g e.1 e.2) tr

/-- Every operation along the events is allowed where it is performed. -/
def Respected (P : Protocol Op Res G) : G → List (Event Op Res) → Prop
  | _, [] => True
  | g, e :: tr => P.allowed g e.1 ∧ P.Respected (P.next g e.1 e.2) tr

theorem answered_of_forall {P : Protocol Op Res G} (h : ∀ g o r, P.answers g o r) (g : G) (tr : List (Event Op Res)) :
    P.Answered g tr := by
  induction tr generalizing g with
  | nil => trivial
  | cons e tr ih => exact ⟨h g e.1 e.2, ih _⟩

/-- Each operation is allowed in the state before it. -/
theorem Respected.allowed {P : Protocol Op Res G} {g : G} {t₁ t₂ : List (Event Op Res)} {e : Event Op Res}
    (h : P.Respected g (t₁ ++ e :: t₂)) : P.allowed (P.after g t₁) e.1 := by
  induction t₁ generalizing g with
  | nil => exact h.1
  | cons e' t₁ ih => exact ih h.2

end Protocol

namespace Prog

variable {Op Op' : Type} {Res : Op → Type} {Res' : Op' → Type} {α β G : Type}

/-- From state `g` the program performs only allowed operations as long as it gets admitted answers, and when it
returns `a` in state `g'` then `Q a g'`. -/
def Follows (P : Protocol Op Res G) (Q : α → G → Prop) : Prog Op Res α → G → Prop
  | ret a, g => Q a g
  | op o k, g => P.allowed g o ∧ ∀ r, P.answers g o r → Follows P Q (k r) (P.next g o r)

variable {P : Protocol Op Res G} {Q Q' : α → G → Prop}

theorem Follows.mono (hQ : ∀ a g, Q a g → Q' a g) {p : Prog Op Res α} {g : G} (h : Follows P Q p g) :
    Follows P Q' p g := by
  induction p generalizing g with
  | ret a => exact hQ a g h
  | op o k ih => exact ⟨h.1, fun r hr => ih r (h.2 r hr)⟩

/-- The rule of sequential composition. -/
theorem follows_bind {R : β → G → Prop} {p : Prog Op Res α} {f : α → Prog Op Res β} {g : G} :
    Follows P R (p >>= f) g ↔ Follows P (fun a g' => Follows P R (f a) g') p g := by
  induction p generalizing g with
  | ret a => exact Iff.rfl
  | op o k ih => exact and_congr_right fun _ => forall_congr' fun r => imp_congr_right fun _ => ih r

theorem Follows.bind {R : β → G → Prop} {p : Prog Op Res α} {f : α → Prog Op Res β} {g : G}
    (hp : Follows P Q p g) (hf : ∀ a g', Q a g' → Follows P R (f a) g') : Follows P R (p >>= f) g :=
  follows_bind.2 (hp.mono hf)

/-- The rule of an operation. -/
theorem follows_perform {o : Op} {f : Res o → Prog Op Res β} {R : β → G → Prop} {g : G} :
    Follows P R (perform o >>= f) g ↔ P.allowed g o ∧ ∀ r, P.answers g o r → Follows P R (f r) (P.next g o r) :=
  Iff.rfl

/-- The rule of sequential composition for programs that stop at the first error. -/
theorem Follows.except_bind {ε : Type} {R : Except ε β → G → Prop} {x : ExceptT ε (Prog Op Res) α}
    {f : α → ExceptT ε (Prog Op Res) β} {g : G}
    (hx : Follows P (fun r g' => match r with
      | .ok a => Follows P R (f a).run g'
      | .error e => R (.error e) g') x.run g) : Follows P R (x >>= f).run g := by
  rw [ExceptT.run_bind]
  refine hx.bind fun r g' hr => ?_
  cases r with
  | ok a => exact hr
  | error e => exact hr

/-- A loop keeps what its passes keep. -/
theorem Follows.forM {I : G → Prop} {l : List β} {f : β → Prog Op Res PUnit}
    (h : ∀ b ∈ l, ∀ g, I g → Follows P (fun _ => I) (f b) g) {g : G} (hg : I g) :
    Follows P (fun _ => I) (l.forM f) g := by
  induction l generalizing g with
  | nil => exact hg
  | cons b l ih =>
    show Follows P (fun _ => I) (f b >>= fun _ => l.forM f) g
    exact (h b (by simp) g hg).bind fun _ g' hg' => ih (fun b hb => h b (by simp [hb])) hg'

/-- If every handler keeps `I`, the translated program keeps it. -/
theorem Follows.translate {Op₀ : Type} {Res₀ : Op₀ → Type} {h : (o : Op₀) → Prog Op Res (Res₀ o)} {I : G → Prop}
    (hh : ∀ o g, I g → Follows P (fun _ => I) (h o) g) (p : Prog Op₀ Res₀ α) {g : G} (hg : I g) :
    Follows P (fun _ => I) (p.translate h) g := by
  induction p generalizing g with
  | ret a => exact hg
  | op o k ih => exact (hh o g hg).bind fun r g' hg' => ih r hg'

/-- A complete run of a program that follows the protocol respects it and ends in the postcondition. -/
theorem Follows.run {p : Prog Op Res α} {g : G} (h : Follows P Q p g) {tr : List (Event Op Res)} {a : α}
    (hr : Run p tr a) (ha : P.Answered g tr) : P.Respected g tr ∧ Q a (P.after g tr) := by
  induction hr generalizing g with
  | ret a => exact ⟨trivial, h⟩
  | op _ ih =>
    have := ih (h.2 _ ha.1) ha.2
    exact ⟨⟨h.1, this.1⟩, this.2⟩

/-- Every operation passes the check when each gets the answer that a function gives for the state before it. -/
def passes (P : Protocol Op Res G) (answer : G → (o : Op) → Res o) (check : G → Op → Bool) : Prog Op Res α → G → Bool
  | ret _, _ => true
  | op o k, g => check g o && passes P answer check (k (answer g o)) (P.next g o (answer g o))

theorem exists_run_of_passes {answer : G → (o : Op) → Res o} {check : G → Op → Bool}
    (hcheck : ∀ g o, check g o = true → P.answers g o (answer g o)) {p : Prog Op Res α} {g : G}
    (h : p.passes P answer check g = true) : ∃ tr a, Run p tr a ∧ P.Answered g tr := by
  induction p generalizing g with
  | ret a => exact ⟨[], a, .ret a, trivial⟩
  | op o k ih =>
    obtain ⟨ho, hk⟩ := Bool.and_eq_true_iff.1 h
    obtain ⟨tr, a, hrun, ha⟩ := ih _ hk
    exact ⟨⟨o, answer g o⟩ :: tr, a, .op hrun, hcheck g o ho, ha⟩

/-! ### Programs that stay within a class of operations -/

/-- Every operation the program can perform is in the class. -/
def All (C : Op → Prop) : Prog Op Res α → Prop
  | ret _ => True
  | op o k => C o ∧ ∀ r, All C (k r)

namespace All

variable {C : Op → Prop}

theorem ret (a : α) : All C (ret a : Prog Op Res α) := trivial

theorem perform {o : Op} (h : C o) : All C (perform o : Prog Op Res (Res o)) := ⟨h, fun _ => trivial⟩

theorem bind {p : Prog Op Res α} {f : α → Prog Op Res β} (hp : All C p) (hf : ∀ a, All C (f a)) :
    All C (p >>= f) := by
  induction p with
  | ret a => exact hf a
  | op o k ih => exact ⟨hp.1, fun r => ih r (hp.2 r)⟩

theorem mono {C' : Op → Prop} (hC : ∀ o, C o → C' o) {p : Prog Op Res α} (h : All C p) : All C' p := by
  induction p with
  | ret a => trivial
  | op o k ih => exact ⟨hC o h.1, fun r => ih r (h.2 r)⟩

theorem forM {l : List β} {f : β → Prog Op Res PUnit} (h : ∀ b ∈ l, All C (f b)) : All C (l.forM f) := by
  induction l with
  | nil => trivial
  | cons b l ih =>
    show All C (f b >>= fun _ => l.forM f)
    exact (h b (by simp)).bind fun _ => ih fun b hb => h b (by simp [hb])

theorem translate {Op₀ : Type} {Res₀ : Op₀ → Type} {h : (o : Op₀) → Prog Op Res (Res₀ o)} (hh : ∀ o, All C (h o))
    (p : Prog Op₀ Res₀ α) : All C (p.translate h) := by
  induction p with
  | ret a => trivial
  | op o k ih => exact (hh o).bind ih

/-- A program within a class of operations keeps what each of them keeps. -/
theorem keeps {I : G → Prop} (hC : ∀ o, C o → ∀ g, I g → P.allowed g o ∧ ∀ r, I (P.next g o r))
    {p : Prog Op Res α} (h : All C p) {g : G} (hg : I g) : Follows P (fun _ => I) p g := by
  induction p generalizing g with
  | ret a => exact hg
  | op o k ih => exact ⟨(hC o h.1 g hg).1, fun r _ => ih r (h.2 r) ((hC o h.1 g hg).2 r)⟩

/-- A program within a class of operations that the protocol does not look at leaves its state alone. -/
theorem follows (hC : ∀ o, C o → ∀ g, P.allowed g o ∧ ∀ r, P.next g o r = g) {p : Prog Op Res α} (h : All C p)
    (g : G) : Follows P (fun _ g' => g' = g) p g :=
  h.keeps (fun o ho g' hg' => ⟨(hC o ho g').1, fun r => ((hC o ho g').2 r).trans hg'⟩) rfl

end All

/-! ### Triples for programs that stop at the first error -/

/-- From a state with `I` the program follows the protocol; it returns with `Q` or stops with `E`. -/
def Triple {ε : Type} (P : Protocol Op Res G) (E : ε → G → Prop) (I : G → Prop) (x : ExceptT ε (Prog Op Res) α)
    (Q : α → G → Prop) : Prop :=
  ∀ g, I g → Follows P (fun r g' => match r with
    | .ok a => Q a g'
    | .error e => E e g') x.run g

namespace Triple

variable {ε : Type} {E : ε → G → Prop} {I : G → Prop} {Q : α → G → Prop}

theorem pure {a : α} (h : ∀ g, I g → Q a g) : Triple P E I (pure a) Q := h

theorem throw {e : ε} (h : ∀ g, I g → E e g) : Triple P E I (throw e : ExceptT ε (Prog Op Res) α) Q := h

theorem bind {R : β → G → Prop} {x : ExceptT ε (Prog Op Res) α} {f : α → ExceptT ε (Prog Op Res) β}
    (hx : Triple P E I x Q) (hf : ∀ a, Triple P E (Q a) (f a) R) : Triple P E I (x >>= f) R := by
  intro g hg
  refine Follows.except_bind ((hx g hg).mono fun r g' hr => ?_)
  cases r with
  | ok a => exact hf a g' hr
  | error e => exact hr

theorem ite {c : Prop} [Decidable c] {x y : ExceptT ε (Prog Op Res) α} (hx : c → Triple P E I x Q)
    (hy : ¬ c → Triple P E I y Q) : Triple P E I (if c then x else y) Q := by
  split
  · exact hx ‹_›
  · exact hy ‹_›

/-- A loop keeps what its passes keep. -/
theorem forM {l : List β} {f : β → ExceptT ε (Prog Op Res) PUnit} (h : ∀ b ∈ l, Triple P E I (f b) fun _ => I) :
    Triple P E I (l.forM f) fun _ => I := by
  induction l with
  | nil => exact pure fun _ hg => hg
  | cons b l ih =>
    show Triple P E I (f b >>= fun _ => l.forM f) fun _ => I
    exact (h b (by simp)).bind fun _ => ih fun b hb => h b (by simp [hb])

end Triple

/-! ### Programs that perform only some operations -/

/-- The protocol of a class of operations. -/
def within (C : Op → Prop) : Protocol Op Res Unit where
  allowed _ := C
  answers _ _ _ := True
  next _ _ _ := ()

theorem All.within {C : Op → Prop} {p : Prog Op Res α} (h : All C p) : Follows (within C) (fun _ _ => True) p () := by
  induction p with
  | ret a => trivial
  | op o k ih => exact ⟨h.1, fun r _ => ih r (h.2 r)⟩

/-- Every event of a run is in the class. -/
theorem Follows.run_within {C : Op → Prop} {Q : α → Unit → Prop} {p : Prog Op Res α} (h : Follows (Prog.within C) Q p ())
    {tr : List (Event Op Res)} {a : α} (hr : Run p tr a) : ∀ e ∈ tr, C e.1 := by
  induction hr with
  | ret a => exact nofun
  | op _ ih =>
    intro e he
    rcases List.mem_cons.1 he with rfl | he
    · exact h.1
    · exact ih (h.2 _ trivial) e he

end Prog

end Effect
