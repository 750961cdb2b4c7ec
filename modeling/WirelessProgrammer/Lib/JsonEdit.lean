import Mathlib.Init
import WirelessProgrammer.Lib.Json

/-!
# JSON values that are changed in place

Setting a member of an object and changing the one that is there.  What is written is what is read, other members stay, and
writing what is there already changes nothing.
-/

namespace Json

/-- `Map::insert`: the value is replaced where its name stands, or comes last. -/
def insertMember (name : String) (v : Json) : List (String × Json) → List (String × Json)
  | [] => [(name, v)]
  | m :: members => if m.1 = name then (name, v) :: members else m :: insertMember name v members

/-- Set a member of an object; a value that is none stays. -/
def insert (w : Json) (name : String) (v : Json) : Json :=
  match w with
  | obj members => obj (insertMember name v members)
  | w => w

/-- Change the member with the name, if there is one. -/
def modifyMember (name : String) (f : Json → Json) : List (String × Json) → List (String × Json)
  | [] => []
  | m :: members => if m.1 = name then (m.1, f m.2) :: members else m :: modifyMember name f members

/-- Change a member of an object, if it has it; a value that is none stays. -/
def modify (name : String) (f : Json → Json) : Json → Json
  | obj members => obj (modifyMember name f members)
  | w => w

def IsObject (v : Json) : Prop := ∃ members, v = obj members

theorem lookup_cons (name : String) (m : String × Json) (members : List (String × Json)) :
    (m :: members).lookup name = if m.1 = name then some m.2 else members.lookup name := by
  obtain ⟨n, v⟩ := m
  rw [List.lookup_cons]
  by_cases h : n = name
  · simp [h]
  · have hne : (name == n) = false := by simpa using Ne.symm h
    simp [h, hne]

section Members

variable {name other : String} {v : Json} {f : Json → Json} {members : List (String × Json)}

theorem lookup_insertMember_self : (insertMember name v members).lookup name = some v := by
  induction members with
  | nil => simp [insertMember]
  | cons m members ih =>
    rw [insertMember]
    split
    · rw [lookup_cons, if_pos rfl]
    · rw [lookup_cons, if_neg ‹_›, ih]

theorem lookup_insertMember_ne (h : other ≠ name) : (insertMember name v members).lookup other = members.lookup other := by
  induction members with
  | nil => rw [insertMember, lookup_cons, if_neg h.symm]
  | cons m members ih =>
    rw [insertMember]
    split
    · rename_i hm
      rw [lookup_cons, lookup_cons, if_neg h.symm, if_neg (hm ▸ h.symm)]
    · rw [lookup_cons, lookup_cons, ih]

theorem insertMember_eq_self (h : members.lookup name = some v) : insertMember name v members = members := by
  induction members with
  | nil => exact nomatch h
  | cons m members ih =>
    rw [lookup_cons] at h
    rw [insertMember]
    split at h
    · rename_i hm
      rw [if_pos hm, ← hm, ← Option.some.inj h]
    · rename_i hm
      rw [if_neg hm, ih h]

theorem lookup_modifyMember_self : (modifyMember name f members).lookup name = (members.lookup name).map f := by
  induction members with
  | nil => rfl
  | cons m members ih =>
    rw [modifyMember]
    split
    · rename_i hm
      rw [lookup_cons, lookup_cons, if_pos hm, if_pos hm]
      rfl
    · rename_i hm
      rw [lookup_cons, lookup_cons, if_neg hm, if_neg hm, ih]

theorem lookup_modifyMember_ne (h : other ≠ name) :
    (modifyMember name f members).lookup other = members.lookup other := by
  induction members with
  | nil => rfl
  | cons m members ih =>
    rw [modifyMember]
    split
    · rename_i hm
      rw [lookup_cons, lookup_cons, if_neg (hm ▸ h.symm), if_neg (hm ▸ h.symm)]
    · rw [lookup_cons, lookup_cons, ih]

theorem modifyMember_eq_self (h : ∀ v, members.lookup name = some v → f v = v) :
    modifyMember name f members = members := by
  induction members with
  | nil => rfl
  | cons m members ih =>
    rw [modifyMember]
    split
    · rename_i hm
      rw [h m.2 (by rw [lookup_cons, if_pos hm])]
    · rename_i hm
      rw [ih fun v hv => h v (by rw [lookup_cons, if_neg hm, hv])]

end Members

/-! ### Objects -/

section Objects

variable {name other : String} {v w : Json} {f : Json → Json}

theorem IsObject.insert (h : IsObject w) : IsObject (w.insert name v) := by
  obtain ⟨members, rfl⟩ := h
  exact ⟨_, rfl⟩

theorem get?_insert_self (h : IsObject w) : (w.insert name v).get? name = some v := by
  obtain ⟨members, rfl⟩ := h
  exact lookup_insertMember_self

theorem get?_insert_ne (h : other ≠ name) : (w.insert name v).get? other = w.get? other := by
  cases w with
  | obj members => exact lookup_insertMember_ne h
  | _ => rfl

/-- A member that has the value already. -/
theorem insert_eq_self (h : w.get? name = some v) : w.insert name v = w := by
  cases w with
  | obj members => exact congrArg obj (insertMember_eq_self h)
  | _ => rfl

theorem get?_modify_self : (w.modify name f).get? name = (w.get? name).map f := by
  cases w with
  | obj members => exact lookup_modifyMember_self
  | _ => rfl

theorem get?_modify_ne (h : other ≠ name) : (w.modify name f).get? other = w.get? other := by
  cases w with
  | obj members => exact lookup_modifyMember_ne h
  | _ => rfl

/-- A change that leaves the member as it is. -/
theorem modify_eq_self (h : ∀ v, w.get? name = some v → f v = v) : w.modify name f = w := by
  cases w with
  | obj members => exact congrArg obj (modifyMember_eq_self h)
  | _ => rfl

theorem pointer_pair (first second : String) (v : Json) :
    v.pointer [first, second] = (v.get? first).bind (·.get? second) := by
  unfold pointer
  cases h : v.get? first with
  | none => simp [h]
  | some w => simp [h]

end Objects

end Json
