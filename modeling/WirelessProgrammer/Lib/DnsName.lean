import Mathlib.Algebra.Group.Nat.Defs
import Mathlib.Data.List.Basic

/-!
# Domain names in a message

A name on the wire is a sequence of labels, each after a byte with its length, up to a zero byte or to a pointer to the
place where the rest of the name is.  `At` says which name is at an offset, where it ends and how many pointers lead
through it.  A name that is written out is at the place where it stands (`at_encode`).
-/

namespace DnsName

/-- A label has 1 to 63 bytes. -/
abbrev Label := { l : List UInt8 // 1 ≤ l.length ∧ l.length ≤ 63 }

def labelBytes (l : Label) : List UInt8 := UInt8.ofNat l.1.length :: l.1

/-- A name without pointers. -/
def encode (name : List Label) : List UInt8 := name.flatMap labelBytes ++ [0]

def lower (b : UInt8) : UInt8 := if 65 ≤ b ∧ b ≤ 90 then b + 32 else b

/-- Names are the same if they fold to the same bytes: the case of ASCII letters does not count. -/
def fold (name : List Label) : List (List UInt8) := name.map fun l => l.1.map lower

/-- `name` is at `off` in a message; it ends at `stop`, and `jumps` pointers lead through it. -/
inductive At (pkt : List UInt8) : Nat → List Label → Nat → Nat → Prop
  | root {off : Nat} (h : pkt[off]? = some 0) : At pkt off [] (off + 1) 0
  | label {off stop jumps : Nat} {l : Label} {name : List Label} (hlen : pkt[off]? = some (UInt8.ofNat l.1.length))
    (hbytes : (pkt.drop (off + 1)).take l.1.length = l.1) (hrest : At pkt (off + 1 + l.1.length) name stop jumps) :
    At pkt off (l :: name) stop jumps
  | pointer {off stop jumps : Nat} {high low : UInt8} {name : List Label} (hhigh : pkt[off]? = some high)
    (hlow : pkt[off + 1]? = some low) (hmark : high &&& 0xc0 = 0xc0)
    (hrest : At pkt (256 * (high &&& 0x3f).toNat + low.toNat) name stop jumps) : At pkt off name (off + 2) (jumps + 1)

@[simp] theorem encode_nil : encode [] = [0] := rfl

theorem encode_cons (l : Label) (name : List Label) : encode (l :: name) = labelBytes l ++ encode name := by
  rw [encode, encode, List.flatMap_cons, List.append_assoc]

@[simp] theorem length_labelBytes (l : Label) : (labelBytes l).length = l.1.length + 1 := rfl

theorem toNat_length (l : Label) : (UInt8.ofNat l.1.length).toNat = l.1.length := by
  have h := l.2.2
  apply UInt8.toNat_ofNat_of_lt'
  show l.1.length < 256
  omega

theorem length_ne_zero (l : Label) : UInt8.ofNat l.1.length ≠ 0 := by
  intro h
  have hn := toNat_length l
  have hpos := l.2.1
  rw [h] at hn
  change 0 = l.1.length at hn
  omega

/-- No length of a label is the start of a pointer. -/
theorem length_not_pointer (l : Label) : UInt8.ofNat l.1.length &&& 0xc0 ≠ 0xc0 := by
  have hall : ∀ n : Fin 64, UInt8.ofNat n &&& 0xc0 ≠ 0xc0 := by decide
  have h := l.2.2
  exact hall ⟨l.1.length, by omega⟩

/-- A name takes at least one byte of the message. -/
theorem At.lt_stop {pkt : List UInt8} {off stop jumps : Nat} {name : List Label} (h : At pkt off name stop jumps) :
    off < stop := by
  induction h with
  | root => omega
  | label _ _ _ ih => omega
  | pointer => omega

theorem At.stop_le {pkt : List UInt8} {off stop jumps : Nat} {name : List Label} (h : At pkt off name stop jumps) :
    stop ≤ pkt.length := by
  induction h with
  | root h =>
    obtain ⟨hlt, -⟩ := List.getElem?_eq_some_iff.1 h
    omega
  | label _ _ _ ih => exact ih
  | pointer _ hlow =>
    obtain ⟨hlt, -⟩ := List.getElem?_eq_some_iff.1 hlow
    omega

/-- A name that is written out. -/
theorem at_encode (pre rest : List UInt8) (name : List Label) :
    At (pre ++ encode name ++ rest) pre.length name (pre.length + (encode name).length) 0 := by
  induction name generalizing pre with
  | nil =>
    apply At.root
    simp
  | cons l name ih =>
    have hpkt : pre ++ encode (l :: name) ++ rest = (pre ++ labelBytes l) ++ encode name ++ rest := by
      rw [encode_cons]
      simp only [List.append_assoc]
    have hpos : (pre ++ labelBytes l).length = pre.length + 1 + l.1.length := by
      rw [List.length_append, length_labelBytes]
      omega
    have hstop : pre.length + (encode (l :: name)).length = (pre ++ labelBytes l).length + (encode name).length := by
      rw [encode_cons, List.length_append, List.length_append]
      omega
    rw [hpkt, hstop]
    apply At.label
    · simp [labelBytes]
    · rw [labelBytes, List.append_assoc, List.append_assoc, List.drop_length_add_append]
      simp
    · rw [← hpos]
      exact ih _

end DnsName
