import Mathlib.Data.List.Induction
import Mathlib.Data.List.Nodup

/-!
# Lists with one entry for each key

An entry is added to such a list by merging it into the entry with its key, or at the end if there is none.  Whatever is
added, the list keeps one entry for each key (`Merge.nodup_pushAll`, `Merge.mem_keys_pushAll`), and the entry is what the
entries that were added with its key come to, merged in the order in which they came (`Merge.combine_of_mem`).
-/

namespace KeyedMerge

/-- Entries with a key, and how an entry takes up another one with the same key. -/
structure Merge (α κ : Type) where
  key : α → κ
  merge : α → α → α
  key_merge (e a : α) : key (merge e a) = key e

namespace Merge

variable {α κ : Type} (M : Merge α κ)

/-- What entries with one key come to. -/
def combine : List α → Option α
  | [] => none
  | a :: as => some (as.foldl M.merge a)

theorem combine_concat (l : List α) (a : α) : M.combine (l ++ [a]) = some ((M.combine l).elim a fun e => M.merge e a) := by
  cases l with
  | nil => rfl
  | cons b l =>
    rw [List.cons_append, combine, List.foldl_append]
    rfl

variable [DecidableEq κ]

def push : List α → α → List α
  | [], a => [a]
  | e :: l, a => if M.key e = M.key a then M.merge e a :: l else e :: push l a

/-- The list of the entries that come in. -/
def pushAll (as : List α) : List α := as.foldl M.push []

/-- The entries with a key. -/
def ofKey (k : κ) (l : List α) : List α := l.filter fun a => M.key a = k

theorem pushAll_concat (as : List α) (a : α) : M.pushAll (as ++ [a]) = M.push (M.pushAll as) a := by
  rw [pushAll, List.foldl_append]
  rfl

theorem ofKey_append (k : κ) (l m : List α) : M.ofKey k (l ++ m) = M.ofKey k l ++ M.ofKey k m :=
  List.filter_append l m

theorem mem_ofKey {k : κ} {l : List α} {a : α} : a ∈ M.ofKey k l ↔ a ∈ l ∧ M.key a = k := by
  rw [ofKey, List.mem_filter, decide_eq_true_iff]

/-- A known key stays where it is, a new one comes last. -/
theorem keys_push (l : List α) (a : α) :
    (M.push l a).map M.key = if M.key a ∈ l.map M.key then l.map M.key else l.map M.key ++ [M.key a] := by
  induction l with
  | nil => rfl
  | cons e l ih =>
    rw [push]
    by_cases h : M.key e = M.key a
    · have hmem : M.key a ∈ (e :: l).map M.key := by
        rw [← h]
        exact List.mem_cons_self
      rw [if_pos h, if_pos hmem, List.map_cons, M.key_merge]
      rfl
    · have hiff : M.key a ∈ (e :: l).map M.key ↔ M.key a ∈ l.map M.key := by
        rw [List.map_cons, List.mem_cons]
        exact or_iff_right (Ne.symm h)
      rw [if_neg h, List.map_cons, ih, if_congr hiff rfl rfl]
      split <;> rfl

theorem nodup_pushAll (as : List α) : ((M.pushAll as).map M.key).Nodup := by
  induction as using List.reverseRecOn with
  | nil => exact List.nodup_nil
  | append_singleton as a ih =>
    rw [pushAll_concat, keys_push]
    split
    · exact ih
    · rename_i h
      exact List.nodup_append.2 ⟨ih, List.nodup_singleton _, by simpa using h⟩

theorem mem_keys_pushAll {as : List α} {k : κ} : k ∈ (M.pushAll as).map M.key ↔ k ∈ as.map M.key := by
  induction as using List.reverseRecOn with
  | nil => rfl
  | append_singleton as a ih =>
    rw [pushAll_concat, keys_push, List.map_append, List.mem_append, ← ih]
    split
    · rename_i h
      constructor
      · exact Or.inl
      · rintro (hk | hk)
        · exact hk
        · rw [List.map_cons, List.map_nil, List.mem_singleton] at hk
          rwa [hk]
    · rw [List.mem_append]
      rfl

/-- Only the first entry with the key takes up the new one. -/
theorem ofKey_push_of_ne {k : κ} (l : List α) {a : α} (h : M.key a ≠ k) : M.ofKey k (M.push l a) = M.ofKey k l := by
  induction l with
  | nil => simp [push, ofKey, h]
  | cons e l ih =>
    rw [push]
    split
    · rename_i he
      have hek : M.key e ≠ k := by rwa [he]
      have hmk : M.key (M.merge e a) ≠ k := by rwa [M.key_merge]
      simp [ofKey, hek, hmk]
    · unfold ofKey at ih ⊢
      rw [List.filter_cons, List.filter_cons, ih]

theorem ofKey_push_self (l : List α) (a : α) :
    M.ofKey (M.key a) (M.push l a) = (M.ofKey (M.key a) l).head?.elim [a] fun e =>
      M.merge e a :: (M.ofKey (M.key a) l).tail := by
  induction l with
  | nil => simp [push, ofKey]
  | cons e l ih =>
    rw [push]
    split
    · rename_i he
      have hm : M.key (M.merge e a) = M.key a := by rwa [M.key_merge]
      simp [ofKey, he, hm]
    · rename_i he
      unfold ofKey at ih ⊢
      simp only [List.filter_cons, he, decide_false, Bool.false_eq_true, if_false, ih]

/-- The entry with a key is what came in with the key. -/
theorem ofKey_pushAll (as : List α) (k : κ) : M.ofKey k (M.pushAll as) = (M.combine (M.ofKey k as)).toList := by
  induction as using List.reverseRecOn with
  | nil => rfl
  | append_singleton as a ih =>
    rw [pushAll_concat, ofKey_append]
    by_cases h : M.key a = k
    · subst h
      have hone : M.ofKey (M.key a) [a] = [a] := by simp [ofKey]
      rw [ofKey_push_self, ih, hone, combine_concat]
      cases M.combine (M.ofKey (M.key a) as) <;> rfl
    · have hnone : M.ofKey k [a] = [] := by simp [ofKey, h]
      rw [M.ofKey_push_of_ne _ h, ih, hnone, List.append_nil]

theorem combine_of_mem {as : List α} {e : α} (h : e ∈ M.pushAll as) : M.combine (M.ofKey (M.key e) as) = some e := by
  have hmem : e ∈ M.ofKey (M.key e) (M.pushAll as) := M.mem_ofKey.2 ⟨h, rfl⟩
  rw [ofKey_pushAll, Option.mem_toList] at hmem
  exact hmem

end Merge

end KeyedMerge
