import WirelessProgrammer.Lib.Prog
import Mathlib.Data.Option.Basic

/-!
# A cell that is overwritten or cleared

Each write gives a cell a new value, or clears it, or leaves it alone, depending on the value it holds.  What a cell holds
after a sequence of writes is what the last write with a value gave it, if no write since has cleared it (`foldl_eq_some_iff`).
-/

namespace Cell

open Effect

variable {W E : Type} (given : W → Option E) (keeps : W → E → Bool)

/-- What the cell holds after one write. -/
def write (e : Option E) (w : W) : Option E := (given w).or (e.filter (keeps w))

/-- A write that gives the cell no value and leaves `e` in it. -/
def Spares (e : E) (w : W) : Prop := given w = none ∧ keeps w e = true

variable {given keeps}

theorem write_of_given {w : W} {e : E} (h : given w = some e) (x : Option E) : write given keeps x w = some e := by
  rw [write, h]
  rfl

theorem write_eq_some_iff {w : W} {x : Option E} {e : E} :
    write given keeps x w = some e ↔ given w = some e ∨ x = some e ∧ Spares given keeps e w := by
  unfold write Spares
  cases given w with
  | some e' => simp
  | none => simp [Option.filter_eq_some_iff]

/-- The cell holds what the last write with a value gave it, or what it held at the start. -/
theorem foldl_eq_some_iff {ws : List W} {x : Option E} {e : E} :
    ws.foldl (write given keeps) x = some e ↔
      (∃ ws₁ w ws₂, ws = ws₁ ++ w :: ws₂ ∧ given w = some e ∧ ∀ v ∈ ws₂, Spares given keeps e v) ∨
        x = some e ∧ ∀ v ∈ ws, Spares given keeps e v := by
  induction ws using List.reverseRecOn with
  | nil => simp
  | append_singleton ws w ih =>
    rw [List.foldl_append, List.foldl_cons, List.foldl_nil, write_eq_some_iff, ih]
    constructor
    · rintro (hw | ⟨⟨ws₁, u, ws₂, rfl, hu, hspared⟩ | ⟨hx, hspared⟩, hw⟩)
      · exact .inl ⟨ws, w, [], rfl, hw, nofun⟩
      · exact .inl ⟨ws₁, u, ws₂ ++ [w], by simp, hu, List.forall_mem_append.2 ⟨hspared, by simpa using hw⟩⟩
      · exact .inr ⟨hx, List.forall_mem_append.2 ⟨hspared, by simpa using hw⟩⟩
    · rintro (⟨ws₁, u, ws₂, heq, hu, hspared⟩ | ⟨hx, hspared⟩)
      · rcases concat_eq_append_cons.1 heq with ⟨rfl, rfl, rfl⟩ | ⟨ws₃, rfl, rfl⟩
        · exact .inl hu
        · obtain ⟨hbefore, hw⟩ := List.forall_mem_append.1 hspared
          exact .inr ⟨.inl ⟨ws₁, u, ws₃, rfl, hu, hbefore⟩, hw w (by simp)⟩
      · obtain ⟨hbefore, hw⟩ := List.forall_mem_append.1 hspared
        exact .inr ⟨.inr ⟨hx, hbefore⟩, hw w (by simp)⟩

end Cell
