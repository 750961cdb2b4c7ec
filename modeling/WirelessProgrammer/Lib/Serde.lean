import Mathlib.Algebra.Group.Int.Defs
import Mathlib.Algebra.Group.Nat.Defs
import Mathlib.Data.List.Basic
import WirelessProgrammer.Lib.Json

/-!
# Reading structs back from JSON

Deserialisers in the manner of derived code: a struct is read member by member, by name, where a member may be required,
optional or given a default.  Unknown members are ignored and repeated ones are an error.

`Reads dec enc` says that `dec` reads back whatever `enc` writes.  For a struct that is written with `Json.object` it
follows from its members: `values_present_some` and its siblings compute what is there under a name, and `required_eq`,
`optional_eq` and `defaulted_eq` with its siblings read it.
-/

namespace Serde

inductive DeError
  | missingField (name : String)
  | duplicateField (name : String)
  | unknownVariant (name : String)
  | invalidType
  | outOfRange
  deriving DecidableEq, Repr

abbrev Deserializer (α : Type) := Json → Except DeError α

/-- What `enc` writes is read back by `dec`. -/
def Reads {α : Type} (dec : Deserializer α) (enc : α → Json) : Prop := ∀ a, dec (enc a) = .ok a

/-! ### Values -/

section Values

variable {α : Type}

def string : Deserializer String
  | .str s => .ok s
  | _ => .error .invalidType

def bool : Deserializer Bool
  | .bool b => .ok b
  | _ => .error .invalidType

/-- An integer of a type with the given range. -/
def integer (lo hi : Int) (ofInt : Int → α) : Deserializer α
  | .num n => if lo ≤ n ∧ n ≤ hi then .ok (ofInt n) else .error .outOfRange
  | _ => .error .invalidType

def uint8 : Deserializer UInt8 := integer 0 (2 ^ 8 - 1) fun n => .ofNat n.toNat

def uint16 : Deserializer UInt16 := integer 0 (2 ^ 16 - 1) fun n => .ofNat n.toNat

def uint32 : Deserializer UInt32 := integer 0 (2 ^ 32 - 1) fun n => .ofNat n.toNat

def uint64 : Deserializer UInt64 := integer 0 (2 ^ 64 - 1) fun n => .ofNat n.toNat

def int32 : Deserializer Int32 := integer (-2 ^ 31) (2 ^ 31 - 1) .ofInt

def list (dec : Deserializer α) : Deserializer (List α)
  | .arr items => items.mapM dec
  | _ => .error .invalidType

/-- A unit variant, by its name or as the only member of an object. -/
def variant (ofName : String → Option α) : Deserializer α
  | .str s => (ofName s).elim (.error (.unknownVariant s)) .ok
  | .obj [(s, .null)] => (ofName s).elim (.error (.unknownVariant s)) .ok
  | _ => .error .invalidType

theorem string_reads : Reads string .str := fun _ => rfl

theorem bool_reads : Reads bool .bool := fun _ => rfl

theorem integer_reads {lo hi : Int} {ofInt : Int → α} {toInt : α → Int} (hrange : ∀ a, lo ≤ toInt a ∧ toInt a ≤ hi)
    (hof : ∀ a, ofInt (toInt a) = a) : Reads (integer lo hi ofInt) fun a => .num (toInt a) := by
  intro a
  show (if lo ≤ toInt a ∧ toInt a ≤ hi then Except.ok (ofInt (toInt a)) else Except.error DeError.outOfRange) = _
  rw [if_pos (hrange a), hof]

theorem uint8_reads : Reads uint8 fun n => .num n.toNat := by
  refine integer_reads (fun n => ?_) fun n => UInt8.ofNat_toNat
  have := n.toNat_lt
  omega

theorem uint16_reads : Reads uint16 fun n => .num n.toNat := by
  refine integer_reads (fun n => ?_) fun n => UInt16.ofNat_toNat
  have := n.toNat_lt
  omega

theorem uint32_reads : Reads uint32 fun n => .num n.toNat := by
  refine integer_reads (fun n => ?_) fun n => UInt32.ofNat_toNat
  have := n.toNat_lt
  omega

theorem uint64_reads : Reads uint64 fun n => .num n.toNat := by
  refine integer_reads (fun n => ?_) fun n => UInt64.ofNat_toNat
  have := n.toNat_lt
  omega

theorem int32_reads : Reads int32 fun n => .num n.toInt := by
  refine integer_reads (fun n => ?_) fun n => Int32.ofInt_toInt n
  have hlo := n.le_toInt
  have hhi := n.toInt_lt
  omega

theorem list_reads {dec : Deserializer α} {enc : α → Json} (h : Reads dec enc) :
    Reads (list dec) fun l => .arr (l.map enc) := by
  intro l
  show (l.map enc).mapM dec = _
  induction l with
  | nil => rfl
  | cons a l ih => simp [h a, ih, bind, Except.bind, pure, Except.pure]

theorem variant_reads {ofName : String → Option α} {name : α → String} (h : ∀ a, ofName (name a) = some a) :
    Reads (variant ofName) fun a => .str (name a) := by
  intro a
  simp [variant, h a]

end Values

/-! ### Structs -/

section Structs

variable {α : Type}

def struct (dec : List (String × Json) → Except DeError α) : Deserializer α
  | .obj members => dec members
  | _ => .error .invalidType

/-- What is there under a name. -/
def values (name : String) (members : List (String × Json)) : List Json :=
  members.filterMap fun m => if m.1 = name then some m.2 else none

/-- The value under a name, if there is one. -/
def value? (members : List (String × Json)) (name : String) : Except DeError (Option Json) :=
  match values name members with
  | [] => .ok none
  | [v] => .ok (some v)
  | _ => .error (.duplicateField name)

def required (members : List (String × Json)) (name : String) (dec : Deserializer α) : Except DeError α :=
  match value? members name with
  | .ok (some v) => dec v
  | .ok none => .error (.missingField name)
  | .error e => .error e

/-- An `Option`: nothing, and `null`, are `None`. -/
def optional (members : List (String × Json)) (name : String) (dec : Deserializer α) : Except DeError (Option α) :=
  match value? members name with
  | .ok (some .null) => .ok none
  | .ok (some v) => some <$> dec v
  | .ok none => .ok none
  | .error e => .error e

def defaulted (members : List (String × Json)) (name : String) (default : α) (dec : Deserializer α) :
    Except DeError α :=
  match value? members name with
  | .ok (some v) => dec v
  | .ok none => .ok default
  | .error e => .error e

variable {name name' : String} {members : List (Option (String × Json))} {enc : α → Json} {dec : Deserializer α}

/-- The members that are present. -/
def present (members : List (Option (String × Json))) : List (String × Json) := members.filterMap id

theorem struct_object (dec : List (String × Json) → Except DeError α) :
    struct dec (Json.object members) = dec (present members) := rfl

@[simp] theorem values_nil (name : String) : values name [] = [] := rfl

@[simp] theorem values_cons (v : Json) (ms : List (String × Json)) :
    values name ((name', v) :: ms) = (if name' = name then [v] else []) ++ values name ms := by
  unfold values
  by_cases h : name' = name <;> simp [h]

@[simp] theorem values_present_nil (name : String) : values name (present []) = [] := rfl

@[simp] theorem values_present_some (v : Json) : values name (present (some (name', v) :: members)) =
    (if name' = name then [v] else []) ++ values name (present members) := values_cons v _

@[simp] theorem values_present_member (a : Option α) : values name (present (Json.member name' enc a :: members)) =
    (if name' = name then (a.map enc).toList else []) ++ values name (present members) := by
  cases a with
  | none => simp [Json.member, present]
  | some a => exact values_present_some (enc a)

@[simp] theorem values_present_skipped (c : Prop) [Decidable c] (v : Json) :
    values name (present ((if c then none else some (name', v)) :: members)) =
      (if name' = name then if c then [] else [v] else []) ++ values name (present members) := by
  by_cases hc : c
  · simp [hc, present]
  · simp only [if_neg hc, values_present_some]

@[simp] theorem values_present_flag (b : Bool) (v : Json) :
    values name (present ((if b then some (name', v) else none) :: members)) =
      (if name' = name then if b then [v] else [] else []) ++ values name (present members) := by
  cases b with
  | false => simp [present]
  | true => exact values_present_some v

variable {ms : List (String × Json)} {a : α}

theorem required_eq (hr : Reads dec enc) (h : values name ms = [enc a]) : required ms name dec = .ok a := by
  simp only [required, value?, h, hr a]

theorem optional_eq {a : Option α} (hr : Reads dec enc) (hnull : ∀ a, enc a ≠ .null)
    (h : values name ms = (a.map enc).toList) : optional ms name dec = .ok a := by
  cases a with
  | none => simp [optional, value?, h]
  | some a =>
    simp only [optional, value?, h, Option.map_some, Option.toList_some]
    have ha := hr a
    have hn := hnull a
    split
    · next heq => exact absurd (Option.some.inj (Except.ok.inj heq)) hn
    · next v _ heq =>
      cases heq
      rw [ha]
      rfl
    · next heq => cases heq
    · next heq => cases heq

/-- A value that is kept as it is. -/
theorem optional_value_eq {v : Option Json} (hnull : v ≠ some .null) (h : values name ms = v.toList) :
    optional ms name .ok = .ok v := by
  cases v with
  | none => simp [optional, value?, h]
  | some v =>
    cases v with
    | null => exact absurd rfl hnull
    | _ =>
      simp only [optional, value?, h, Option.toList_some]
      rfl

theorem defaulted_eq {default : α} (hr : Reads dec enc) (h : values name ms = [enc a]) :
    defaulted ms name default dec = .ok a := by
  simp only [defaulted, value?, h, hr a]

/-- A list that is left out when it is empty. -/
theorem defaulted_list_eq {l : List α} [Decidable (l = [])] (hr : Reads dec enc)
    (h : values name ms = if l = [] then [] else [.arr (l.map enc)]) : defaulted ms name [] (list dec) = .ok l := by
  by_cases hl : l = []
  · rw [if_pos hl] at h
    simp only [defaulted, value?, h, hl]
  · rw [if_neg hl] at h
    exact defaulted_eq (list_reads hr) h

/-- A flag that is left out when it is not set. -/
theorem defaulted_flag_eq {b : Bool} (h : values name ms = if b then [.bool true] else []) :
    defaulted ms name false bool = .ok b := by
  cases b with
  | false => simp [defaulted, value?, h]
  | true => exact defaulted_eq bool_reads h

end Structs

end Serde
