import WirelessProgrammer.Lib.Text

/-!
# Results of the daemon's code

`std::io::Error`, and the outcome of a computation of the release profile, in which an arithmetic overflow or a slice
out of range panics and a panic aborts the process.
-/

namespace WirelessProgrammer

/-- `std::io::ErrorKind`: the kinds the code names, and the others by number. -/
inductive ErrorKind
  | invalidInput
  | invalidData
  | timedOut
  | wouldBlock
  | interrupted
  | writeZero
  | connectionReset
  | connectionAborted
  | connectionRefused
  | unexpectedEof
  | other
  | uncategorized (code : Nat)
  deriving DecidableEq, Repr

structure IoError where
  kind : ErrorKind
  message : String
  deriving DecidableEq, Repr

/-- `io::Error::new(e.kind(), format!("{context}: {e}"))`. -/
def IoError.within (context : String) (e : IoError) : IoError := ⟨e.kind, s!"{context}: {e.message}"⟩

/-- The arguments of `HttpClient::request`: method, path, and the content type and bytes of a body. -/
structure HttpRequest where
  method : String
  path : String
  body : Option (String × List UInt8)
  deriving DecidableEq, Repr

/-- A value, an `io::Error`, or a panic. -/
inductive Checked (α : Type)
  | ok (a : α)
  | err (e : IoError)
  | panic
  deriving DecidableEq, Repr

namespace Checked

variable {α β : Type}

def bind : Checked α → (α → Checked β) → Checked β
  | ok a, f => f a
  | err e, _ => err e
  | panic, _ => panic

instance : Monad Checked where
  pure := ok
  bind := bind

@[simp] theorem pure_eq (a : α) : (pure a : Checked α) = ok a := rfl

@[simp] theorem ok_bind (a : α) (f : α → Checked β) : (ok a >>= f) = f a := rfl

@[simp] theorem err_bind (e : IoError) (f : α → Checked β) : (err e >>= f) = err e := rfl

@[simp] theorem panic_bind (f : α → Checked β) : (panic >>= f) = panic := rfl

theorem bind_eq_ok {x : Checked α} {f : α → Checked β} {b : β} (h : (x >>= f) = ok b) :
    ∃ a, x = ok a ∧ f a = ok b := by
  cases x with
  | ok a => exact ⟨a, rfl, h⟩
  | err e => exact nomatch h
  | panic => exact nomatch h

def ofExcept : Except IoError α → Checked α
  | .ok a => ok a
  | .error e => err e

end Checked

/-! ### Paths -/

/-- `Path::file_name`: the last component, unless it is `..`. -/
def fileName (path : String) : Option String :=
  match ((Text.splitBy (· == '/') path.toList).filter fun c => c ≠ [] ∧ c ≠ ['.']).getLast? with
  | some name => if name = ['.', '.'] then none else some (String.ofList name)
  | none => none

/-! ### Checked arithmetic and slices on a 64-bit target -/

/-- `a + b` on `usize`. -/
def usizeAdd (a b : Nat) : Checked Nat := if a + b < 2 ^ 64 then .ok (a + b) else .panic

/-- `l[i]`. -/
def byteAt (l : List UInt8) (i : Nat) : Checked UInt8 :=
  match l[i]? with
  | some b => .ok b
  | none => .panic

/-- `&l[i..]`. -/
def sliceFrom (l : List UInt8) (i : Nat) : Checked (List UInt8) := if i ≤ l.length then .ok (l.drop i) else .panic

/-- `&l[i..j]`. -/
def sliceRange (l : List UInt8) (i j : Nat) : Checked (List UInt8) :=
  if i ≤ j ∧ j ≤ l.length then .ok ((l.drop i).take (j - i)) else .panic

/-- `l.get(i..j)`. -/
def sliceGet (l : List UInt8) (i j : Nat) : Option (List UInt8) :=
  if i ≤ j ∧ j ≤ l.length then some ((l.drop i).take (j - i)) else none

/-- A byte slice; no slice is longer than `isize::MAX` bytes. -/
abbrev Slice := { l : List UInt8 // l.length < 2 ^ 63 }

theorem usizeAdd_of_lt {a b : Nat} (h : a + b < 2 ^ 64) : usizeAdd a b = .ok (a + b) := if_pos h

theorem usizeAdd_ok {a b c : Nat} (h : usizeAdd a b = .ok c) : c = a + b := by
  unfold usizeAdd at h
  split at h
  · exact (Checked.ok.inj h).symm
  · exact nomatch h

theorem usizeAdd_bind_usizeAdd {β : Type} (a b c : Nat) (f : Nat → Nat → Checked β) :
    (usizeAdd a b >>= fun x => usizeAdd x c >>= f x) = if a + b + c < 2 ^ 64 then f (a + b) (a + b + c) else .panic := by
  unfold usizeAdd
  by_cases hb : a + b < 2 ^ 64
  · rw [if_pos hb, Checked.ok_bind]
    by_cases hc : a + b + c < 2 ^ 64
    · rw [if_pos hc, if_pos hc, Checked.ok_bind]
    · rw [if_neg hc, if_neg hc, Checked.panic_bind]
  · have hc : ¬ a + b + c < 2 ^ 64 := by omega
    rw [if_neg hb, if_neg hc, Checked.panic_bind]

theorem byteAt_append {buf l m : List UInt8} {b : UInt8} {i : Nat} (h : buf = l ++ b :: m) (hi : l.length = i) :
    byteAt buf i = .ok b := by
  subst h hi
  simp [byteAt]

theorem sliceFrom_append (l m : List UInt8) : sliceFrom (l ++ m) l.length = .ok m := by
  simp [sliceFrom]

theorem sliceRange_append {body l m n : List UInt8} {i j : Nat} (h : body = l ++ m ++ n) (hi : l.length = i)
    (hj : i + m.length = j) : sliceRange body i j = .ok m := by
  subst h hi hj
  simp [sliceRange]

theorem sliceGet_append {body l m n : List UInt8} {i j : Nat} (h : body = l ++ m ++ n) (hi : l.length = i)
    (hj : i + m.length = j) : sliceGet body i j = some m := by
  subst h hi hj
  simp [sliceGet]

end WirelessProgrammer
