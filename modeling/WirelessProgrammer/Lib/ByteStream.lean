import Mathlib.Algebra.Group.Int.Defs
import Mathlib.Algebra.Group.Nat.Defs
import Mathlib.Data.List.Basic

/-!
# Byte streams

Writers take as many of the bytes as they like at each call, readers give as many as they like, and both may report an
error.  `Writer.writeAll` and `Reader.readFull` are the loops over such calls: whatever the sizes of the pieces, the one
hands over all the bytes (`Writer.writeAll_accepting`), and the other gets the bytes that come first, and leaves what is
behind them (`Reader.readFull_delivering`).
-/

namespace ByteStream

variable {σ ε : Type}

/-! ### Writers -/

/-- A writer with states `σ` and errors `ε`: a call takes the first bytes it is given, and says how many. -/
structure Writer (σ ε : Type) where
  write : σ → List UInt8 → (Nat × Option ε) × σ
  /-- The bytes that it has taken. -/
  written : σ → List UInt8
  le_length (s : σ) (p : List UInt8) : (write s p).1.1 ≤ p.length
  written_write (s : σ) (p : List UInt8) : written (write s p).2 = written s ++ p.take (write s p).1.1

namespace Writer

/-- Every call takes a byte, and none fails. -/
def Accepting (w : Writer σ ε) : Prop := ∀ s p, p ≠ [] → 0 < (w.write s p).1.1 ∧ (w.write s p).1.2 = none

/-- Write until nothing is left; `short` is the error of a call that has taken nothing. -/
def writeAll (w : Writer σ ε) (short : ε) (s : σ) (p : List UInt8) : Option ε × σ :=
  if p = [] then (none, s)
  else
    match w.write s p with
    | ((_, some e), s') => (some e, s')
    | ((n, none), s') => if 0 < n then writeAll w short s' (p.drop n) else (some short, s')
termination_by p.length
decreasing_by
  have : 0 < p.length := List.length_pos_iff.2 ‹_›
  rw [List.length_drop]
  omega

@[simp] theorem writeAll_nil (w : Writer σ ε) (short : ε) (s : σ) : w.writeAll short s [] = (none, s) := by
  rw [writeAll, if_pos rfl]

/-- However a writer splits the bytes, it has taken all of them in the end. -/
theorem writeAll_accepting {w : Writer σ ε} (hw : w.Accepting) (short : ε) (s : σ) (p : List UInt8) :
    (w.writeAll short s p).1 = none ∧ w.written (w.writeAll short s p).2 = w.written s ++ p := by
  fun_induction writeAll w short s p with
  | case1 s => exact ⟨rfl, (List.append_nil _).symm⟩
  | case2 s p hp n e s' he =>
    have := (hw s p hp).2
    rw [he] at this
    cases this
  | case3 s p hp n s' he hpos ih =>
    have htaken := w.written_write s p
    rw [he] at htaken
    refine ⟨ih.1, ?_⟩
    rw [ih.2, htaken, List.append_assoc, List.take_append_drop]
  | case4 s p hp n s' he hpos =>
    have := (hw s p hp).1
    rw [he] at this
    exact absurd this hpos

end Writer

/-! ### Readers -/

/-- A reader with states `σ` and errors `ε`: a call gives some of the bytes that come next, perhaps with an error.  It does
not give nothing, without an error, for ever: `stall` bounds how often. -/
structure Reader (σ ε : Type) where
  read : σ → Nat → (List UInt8 × Option ε) × σ
  /-- The bytes that are still to come. -/
  pending : σ → List UInt8
  stall : σ → Nat
  length_le (s : σ) (len : Nat) : (read s len).1.1.length ≤ len
  pending_read (s : σ) (len : Nat) : pending s = (read s len).1.1 ++ pending (read s len).2
  stall_lt (s : σ) {len : Nat} (hlen : 0 < len) (hchunk : (read s len).1.1 = []) (herror : (read s len).1.2 = none) :
    stall (read s len).2 < stall s

namespace Reader

/-- There is an error only where the bytes end. -/
def Delivering (r : Reader σ ε) : Prop := ∀ s len, (r.read s len).1.2 ≠ none → r.pending (r.read s len).2 = []

/-- Read until there are `len` bytes; an error that comes with the last of them is dropped. -/
def readFull (r : Reader σ ε) (s : σ) (len : Nat) : (List UInt8 × Option ε) × σ :=
  if len = 0 then (([], none), s)
  else
    match _hread : r.read s len with
    | ((chunk, some e), s') => ((chunk, if len ≤ chunk.length then none else some e), s')
    | ((chunk, none), s') =>
      match readFull r s' (len - chunk.length) with
      | ((bytes, e), s'') => ((chunk ++ bytes, e), s'')
termination_by (len, r.stall s)
decreasing_by
  cases chunk with
  | nil =>
    have := r.stall_lt s (Nat.pos_of_ne_zero ‹_›) (by rw [_hread]) (by rw [_hread])
    rw [_hread] at this
    exact Prod.Lex.right _ this
  | cons b chunk => exact Prod.Lex.left _ _ (by rw [List.length_cons]; omega)

@[simp] theorem readFull_zero (r : Reader σ ε) (s : σ) : r.readFull s 0 = (([], none), s) := by
  rw [readFull, if_pos rfl]

/-- However a reader splits the bytes, they are read from the first one on, and no more of them than asked for. -/
theorem readFull_delivering {r : Reader σ ε} (hr : r.Delivering) (s : σ) (len : Nat) {bytes rest : List UInt8}
    (hpending : r.pending s = bytes ++ rest) (hlen : bytes.length = len) :
    (r.readFull s len).1 = (bytes, none) ∧ r.pending (r.readFull s len).2 = rest := by
  fun_induction readFull r s len generalizing bytes with
  | case1 s =>
    obtain rfl := List.length_eq_zero_iff.1 hlen
    exact ⟨rfl, hpending⟩
  | case2 s len hne chunk e s' hread =>
    have hend := hr s len (by rw [hread]; exact Option.some_ne_none e)
    have hsplit := r.pending_read s len
    have hle := r.length_le s len
    rw [hread] at hend hsplit hle
    -- the error is the end of the stream, so that the chunk is all there is
    have hchunk : chunk = bytes ++ rest := by rw [← hpending, hsplit, hend, List.append_nil]
    have hrest : rest = [] := by
      have hlength : bytes.length + rest.length ≤ len := by rw [← List.length_append, ← hchunk]; exact hle
      exact List.length_eq_zero_iff.1 (by omega)
    subst hrest
    rw [List.append_nil] at hchunk
    subst hchunk
    exact ⟨by rw [if_pos (by omega)], hend⟩
  | case3 s len hne chunk s' hread bytes₁ e s'' hrec ih =>
    have hsplit := r.pending_read s len
    have hle := r.length_le s len
    rw [hread, hpending] at hsplit
    rw [hread] at hle
    obtain ⟨bytes', rfl⟩ : chunk <+: bytes :=
      List.prefix_of_prefix_length_le ⟨r.pending s', hsplit.symm⟩ (List.prefix_append bytes rest) (hlen ▸ hle)
    rw [List.append_assoc] at hsplit
    rw [List.length_append] at hlen
    obtain ⟨hbytes, hrest⟩ := ih (List.append_cancel_left hsplit).symm (by omega)
    rw [hrec] at hbytes hrest
    cases hbytes
    exact ⟨rfl, hrest⟩

end Reader

end ByteStream
