import Mathlib.Data.List.Induction
import Mathlib.Order.Basic

/-!
# Undoing with one record

Actions on a state come with a record of how to undo them, and there is room for one record only: an action replaces
the record of the action before it.  A release undoes the action of the record that is there.  `Undoing.released_iff` says
for which sequences of calls a release brings back what was observed at the start, when an action that changes what is
observed moves it up in some order: an action whose record is lost is then never undone by another one.
-/

/-- Actions `A` on states `S` with their records `U`, and what is observed of a state. -/
structure Undoing (S A U O : Type) where
  act : A → S → S
  record : A → S → U
  undo : U → S → S
  idle : U
  obs : S → O
  undo_act (a : A) (s : S) : obs (undo (record a s) (act a s)) = obs s
  undo_idle (s : S) : undo idle s = s

namespace Undoing

/-- Acting, or undoing by the record. -/
inductive Call (A : Type)
  | act (a : A)
  | release

variable {S A U O : Type} (M : Undoing S A U O)

def call : Call A → S × U → S × U
  | .act a, x => (M.act a x.1, M.record a x.1)
  | .release, x => (M.undo x.2 x.1, M.idle)

def run (cs : List (Call A)) (x : S × U) : S × U := cs.foldl (fun x c => M.call c x) x

@[simp] theorem run_nil (x : S × U) : M.run [] x = x := rfl

theorem run_cons (c : Call A) (cs : List (Call A)) (x : S × U) : M.run (c :: cs) x = M.run cs (M.call c x) := rfl

theorem run_append (cs ds : List (Call A)) (x : S × U) : M.run (cs ++ ds) x = M.run ds (M.run cs x) :=
  List.foldl_append ..

@[simp] theorem run_concat (cs : List (Call A)) (c : Call A) (x : S × U) :
    M.run (cs ++ [c]) x = M.call c (M.run cs x) := M.run_append cs [c] x

/-- What a release would bring back. -/
def base (x : S × U) : O := M.obs (M.undo x.2 x.1)

theorem base_idle (s : S) : M.base (s, M.idle) = M.obs s := congrArg M.obs (M.undo_idle s)

theorem base_release (x : S × U) : M.base (M.call .release x) = M.base x := M.base_idle _

theorem base_act (a : A) (x : S × U) : M.base (M.call (.act a) x) = M.obs x.1 := M.undo_act a x.1

theorem base_of_release (x : S × U) : M.obs (M.call .release x).1 = M.base x := rfl

/-- No action that changes what is observed is followed by another action. -/
def Kept (x : S × U) (cs : List (Call A)) : Prop :=
  ∀ cs₁ a b cs₂, cs = cs₁ ++ .act a :: .act b :: cs₂ → M.obs (M.act a (M.run cs₁ x).1) = M.obs (M.run cs₁ x).1

theorem Kept.of_append {M : Undoing S A U O} {x : S × U} {cs ds : List (Call A)} (h : M.Kept x (cs ++ ds)) :
    M.Kept x cs := fun cs₁ a b cs₂ hcs => h cs₁ a b (cs₂ ++ ds) (by rw [hcs]; simp)

/-- As long as no change is lost, a release brings back the start. -/
theorem base_of_kept {x : S × U} {cs : List (Call A)} (hx : M.base x = M.obs x.1) (h : M.Kept x cs) :
    M.base (M.run cs x) = M.base x := by
  induction cs using List.reverseRecOn with
  | nil => rfl
  | append_singleton cs c ih =>
    have hcs := ih h.of_append
    rw [run_concat]
    cases c with
    | release => rwa [base_release]
    | act b =>
      rw [base_act, ← hcs]
      rcases List.eq_nil_or_concat cs with rfl | ⟨cs, c, rfl⟩
      · exact hx.symm
      rw [List.concat_eq_append, run_concat]
      cases c with
      | release => exact (M.base_idle _).symm
      | act a =>
        rw [base_act]
        exact h cs a b [] (by simp)

section Order

variable {P : Type} [Preorder P] {φ : O → P}
  (hφ : ∀ a s, M.obs (M.act a s) = M.obs s ∨ φ (M.obs s) < φ (M.obs (M.act a s)))

include hφ

/-- A release brings back what is there, or something lower. -/
theorem base_le_obs {x : S × U} (hx : M.base x = M.obs x.1) (cs : List (Call A)) :
    M.base (M.run cs x) = M.obs (M.run cs x).1 ∨ φ (M.base (M.run cs x)) < φ (M.obs (M.run cs x).1) := by
  rcases List.eq_nil_or_concat cs with rfl | ⟨cs, c, rfl⟩
  · exact .inl hx
  rw [List.concat_eq_append, run_concat]
  cases c with
  | act a =>
    rw [base_act]
    rcases hφ a (M.run cs x).1 with heq | hlt
    · exact .inl heq.symm
    · exact .inr hlt
  | release => exact .inl (M.base_idle _)

/-- What a release would bring back never goes down. -/
theorem base_le_base {x : S × U} (hx : M.base x = M.obs x.1) (cs ds : List (Call A)) :
    M.base (M.run (cs ++ ds) x) = M.base (M.run cs x) ∨ φ (M.base (M.run cs x)) < φ (M.base (M.run (cs ++ ds) x)) := by
  induction ds using List.reverseRecOn with
  | nil => exact .inl (by rw [List.append_nil])
  | append_singleton ds c ih =>
    rw [← List.append_assoc, run_concat]
    cases c with
    | release => rwa [base_release]
    | act b =>
      rw [base_act]
      rcases M.base_le_obs hφ hx (cs ++ ds) with heq | hlt
      · rwa [← heq]
      · rcases ih with heq | hlt'
        · exact .inr (heq ▸ hlt)
        · exact .inr (hlt'.trans hlt)

/-- Once a change is lost, a release brings back something higher than the start. -/
theorem kept_of_base {x : S × U} {cs : List (Call A)} (hx : M.base x = M.obs x.1)
    (h : M.base (M.run cs x) = M.base x) : M.Kept x cs := by
  rintro cs₁ a b cs₂ rfl
  by_contra hchanged
  have hlt := (hφ a (M.run cs₁ x).1).resolve_left hchanged
  have hstart : M.base (M.run cs₁ x) = M.base x ∨ φ (M.base x) < φ (M.base (M.run cs₁ x)) :=
    M.base_le_base hφ hx [] cs₁
  have hbefore : M.base (M.run cs₁ x) = M.obs (M.run cs₁ x).1 ∨ φ (M.base (M.run cs₁ x)) < φ (M.obs (M.run cs₁ x).1) :=
    M.base_le_obs hφ hx cs₁
  have hlost : M.base (M.run (cs₁ ++ [.act a, .act b]) x) = M.obs (M.act a (M.run cs₁ x).1) := by
    rw [run_append]
    exact M.base_act b _
  have hend := M.base_le_base hφ hx (cs₁ ++ [.act a, .act b]) cs₂
  rw [hlost, List.append_assoc, List.cons_append, List.cons_append, List.nil_append, h] at hend
  have hup : φ (M.base x) < φ (M.obs (M.act a (M.run cs₁ x).1)) := by
    rcases hstart with heq | hlt₁ <;> rcases hbefore with heq' | hlt₂
    · rwa [← heq, heq']
    · exact heq ▸ hlt₂.trans hlt
    · exact hlt₁.trans (heq' ▸ hlt)
    · exact (hlt₁.trans hlt₂).trans hlt
  rcases hend with heq | hlt'
  · exact lt_irrefl _ (heq ▸ hup)
  · exact lt_irrefl _ (hup.trans hlt')

/-- A release at the end brings back what was observed at the start if and only if no change is lost. -/
theorem released_iff (s : S) (cs : List (Call A)) :
    M.obs (M.run (cs ++ [.release]) (s, M.idle)).1 = M.obs s ↔ M.Kept (s, M.idle) cs := by
  have hstart : M.base (s, M.idle) = M.obs s := M.base_idle s
  rw [run_concat, base_of_release, ← hstart]
  exact ⟨M.kept_of_base hφ hstart, M.base_of_kept hstart⟩

end Order

end Undoing
