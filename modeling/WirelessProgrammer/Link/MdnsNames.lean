import WirelessProgrammer.Lib.DnsName
import WirelessProgrammer.Link.Mdns

/-!
# The names of an mDNS packet

`read_name` returns the name that is at an offset and where it ends, unless more than sixteen pointers lead through it
(`readName_at`); whatever the bytes, the end that it returns is behind the offset and not behind the packet
(`readName_bounds`).
-/

namespace WirelessProgrammer.Mdns

open DnsName (Label)

/-- The text of a name. -/
def nameText (name : List Label) : List Char := ['.'].intercalate (name.map fun l => Text.fromUtf8Lossy l.1)

/-- A name that the parser reads to its end, by the number of pointers that lead through it. -/
def Readable (jumps : Nat) : Prop := jumps ≤ 16

instance (jumps : Nat) : Decidable (Readable jumps) := inferInstanceAs (Decidable (jumps ≤ 16))

section Loop

variable {pkt : List UInt8} {labels : List (List Char)} {next : Option Nat} {jumps off : Nat}

theorem readNameFrom_pointer {high low : UInt8} (hhigh : pkt[off]? = some high) (hlow : pkt[off + 1]? = some low)
    (hmark : high &&& 0xc0 = 0xc0) :
    readNameFrom pkt labels next jumps off =
      if 16 < jumps + 1 then none
      else readNameFrom pkt labels (next.or (some (off + 2))) (jumps + 1)
        (256 * (high &&& 0x3f).toNat + low.toNat) := by
  have h0 : high ≠ 0 := by
    rintro rfl
    exact absurd hmark (by decide)
  rw [readNameFrom, hhigh]
  dsimp only
  rw [if_neg h0, if_pos hmark, hlow]

/-- The loop at a name. -/
theorem readNameFrom_at {name : List Label} {stop count : Nat} (h : DnsName.At pkt off name stop count)
    (hjumps : jumps ≤ 16) :
    readNameFrom pkt labels next jumps off =
      if jumps + count ≤ 16 then
        some (['.'].intercalate (labels ++ name.map fun l => Text.fromUtf8Lossy l.1), next.getD stop)
      else none := by
  -- Each byte of the name that the loop reads is one rule of the derivation.
  induction h generalizing labels next jumps with
  | root h =>
    have hle : jumps + 0 ≤ 16 := hjumps
    rw [readNameFrom_root h, if_pos hle, List.map_nil, List.append_nil]
  | @label off stop count l name hlen hbytes hrest ih =>
    have hn := DnsName.toNat_length l
    have hfits : off + 1 + (UInt8.ofNat l.1.length).toNat ≤ pkt.length := by
      have hlt := hrest.lt_stop
      have hle := hrest.stop_le
      omega
    rw [readNameFrom_label hlen (DnsName.length_ne_zero l) (DnsName.length_not_pointer l) hfits, hn, hbytes, ih hjumps]
    simp only [List.append_assoc, List.map_cons, List.cons_append, List.nil_append]
  | @pointer off stop count high low name hhigh hlow hmark hrest ih =>
    rw [readNameFrom_pointer hhigh hlow hmark]
    by_cases hmany : 16 < jumps + 1
    · have hnot : ¬ jumps + (count + 1) ≤ 16 := by omega
      rw [if_pos hmany, if_neg hnot]
    · have hle : jumps + 1 ≤ 16 := by omega
      have hiff : jumps + 1 + count ≤ 16 ↔ jumps + (count + 1) ≤ 16 := by omega
      rw [if_neg hmany, ih hle, if_congr hiff rfl rfl]
      cases next <;> rfl

/-- Where the name ends: at `next` if it is set, else behind `off`. -/
theorem readNameFrom_bounds {name : List Char} {stop : Nat}
    (h : readNameFrom pkt labels next jumps off = some (name, stop)) :
    (∀ n, next = some n → stop = n) ∧ (next = none → off < stop ∧ stop ≤ pkt.length) := by
  fun_induction readNameFrom pkt labels next jumps off with
  | case1 => cases h
  | case2 labels next jumps off hget =>
    obtain ⟨hlt, -⟩ := List.getElem?_eq_some_iff.1 hget
    cases h
    constructor
    · intro n hn
      rw [hn]
      rfl
    · intro hn
      rw [hn]
      exact ⟨Nat.lt_succ_self off, hlt⟩
  | case3 => cases h
  | case4 => cases h
  | case5 labels next jumps off len hget h0 hmark low hlow hle ih =>
    obtain ⟨hlt, -⟩ := List.getElem?_eq_some_iff.1 hlow
    obtain ⟨hset, -⟩ := ih h
    constructor
    · intro n hn
      exact hset n (by rw [hn]; rfl)
    · intro hn
      have hstop := hset (off + 2) (by rw [hn]; rfl)
      omega
  | case6 labels next jumps off len hget h0 hmark hfits ih =>
    obtain ⟨hset, hunset⟩ := ih h
    constructor
    · exact hset
    · intro hn
      have hbounds := hunset hn
      omega
  | case7 => cases h

end Loop

section Name

variable {pkt : List UInt8} {off stop : Nat}

theorem readName_at {name : List Label} {count : Nat} (h : DnsName.At pkt off name stop count) :
    readName pkt off = if Readable count then some (nameText name, stop) else none := by
  rw [readName, readNameFrom_at h (Nat.zero_le 16), Nat.zero_add]
  rfl

theorem readName_bounds {name : List Char} (h : readName pkt off = some (name, stop)) :
    off < stop ∧ stop ≤ pkt.length := (readNameFrom_bounds h).2 rfl

end Name

end WirelessProgrammer.Mdns
