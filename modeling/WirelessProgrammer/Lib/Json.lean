import Mathlib.Init

/-!
# JSON values

The value type of a JSON library, with the accessors protocol code uses.  A number is an integer, or the text of a
number that is none; the members of an object are in the order they were inserted.
-/

inductive Json
  | null
  | bool (b : Bool)
  | num (n : Int)
  | real (text : String)
  | str (s : String)
  | arr (items : List Json)
  | obj (members : List (String × Json))
  deriving Repr

namespace Json

/-- The member of an object with the given name. -/
def get? (name : String) : Json → Option Json
  | obj members => members.lookup name
  | _ => none

/-- Follow a path of member names. -/
def pointer (path : List String) (v : Json) : Option Json := path.foldlM (fun v name => v.get? name) v

def asStr? : Json → Option String
  | str s => some s
  | _ => none

def asArray? : Json → Option (List Json)
  | arr items => some items
  | _ => none

/-- The members that are present. -/
def object (members : List (Option (String × Json))) : Json := obj (members.filterMap id)

/-- A member that is left out when it has no value. -/
def member {α : Type} (name : String) (toJson : α → Json) (value : Option α) : Option (String × Json) :=
  value.map fun a => (name, toJson a)

/-- A member that is always there, `null` when it has no value. -/
def nullable {α : Type} (name : String) (toJson : α → Json) (value : Option α) : Option (String × Json) :=
  some (name, (value.map toJson).getD null)

theorem bool_ne_null (b : Bool) : bool b ≠ null := nofun

theorem num_ne_null (n : Int) : num n ≠ null := nofun

theorem str_ne_null (s : String) : str s ≠ null := nofun

theorem arr_ne_null (items : List Json) : arr items ≠ null := nofun

theorem obj_ne_null (members : List (String × Json)) : obj members ≠ null := nofun

end Json
