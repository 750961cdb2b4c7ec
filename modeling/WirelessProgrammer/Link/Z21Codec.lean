import WirelessProgrammer.Link.Z21

/-!
# The record codec of the Z21 LAN client

`parse_records` walks a datagram by an offset.  The walk never panics and ends for every buffer, it reads back
concatenated records, and what it reads off any buffer encodes to a prefix of that buffer.
-/

namespace WirelessProgrammer.Z21

/-! ### Little-endian pairs of bytes -/

private theorem le16_toNat (a b : UInt8) : (le16 a b).toNat = a.toNat + 256 * b.toNat := by
  have ha := a.toNat_lt
  have hb := b.toNat_lt
  have hs : b.toNat <<< 8 < 2 ^ 16 := by
    rw [Nat.shiftLeft_eq]
    omega
  have h : (le16 a b).toNat = a.toNat ||| b.toNat <<< 8 % 2 ^ 16 := by
    rw [le16, UInt16.toNat_or, UInt16.toNat_shiftLeft, UInt8.toNat_toUInt16, UInt8.toNat_toUInt16]
    rfl
  rw [h, Nat.mod_eq_of_lt hs, Nat.or_comm, ← Nat.shiftLeft_add_eq_or_of_lt ha, Nat.shiftLeft_eq]
  omega

private theorem toLeBytes_le16 (a b : UInt8) : toLeBytes (le16 a b) = [a, b] := by
  have ha := a.toNat_lt
  have hb := b.toNat_lt
  have h := le16_toNat a b
  have h1 : (le16 a b).toUInt8 = a := by
    apply UInt8.toNat_inj.1
    rw [UInt16.toNat_toUInt8, h]
    omega
  have h2 : (le16 a b >>> 8).toUInt8 = b := by
    apply UInt8.toNat_inj.1
    have hshift : (le16 a b >>> 8).toNat = (le16 a b).toNat / 256 := by
      simp [Nat.shiftRight_eq_div_pow]
    rw [UInt16.toNat_toUInt8, hshift, h]
    omega
  rw [toLeBytes, h1, h2]

/-! ### The walk by offset -/

/-- A pass of the loop of `parse_records`: the record at `off` and where the next one is, or nothing once the loop is
left. -/
def recordAt (buf : List UInt8) (off : Nat) : Checked (Option (Record × Nat)) := do
  if (← usizeAdd off 4) ≤ buf.length then
    let dataLen := (le16 (← byteAt buf off) (← byteAt buf (← usizeAdd off 1))).toNat
    let header := le16 (← byteAt buf (← usizeAdd off 2)) (← byteAt buf (← usizeAdd off 3))
    if dataLen < 4 then return none
    let next ← usizeAdd off dataLen
    if buf.length < next then return none
    return some (⟨header, ← sliceRange buf (← usizeAdd off 4) next⟩, next)
  else return none

/-- Every record is at least four bytes long and lies in the buffer: the measure of the loop. -/
theorem recordAt_next {buf : List UInt8} {off next : Nat} {r : Record} (h : recordAt buf off = .ok (some (r, next))) :
    off + 4 ≤ next ∧ next ≤ buf.length := by
  unfold recordAt at h
  obtain ⟨four, h4, h⟩ := Checked.bind_eq_ok h
  split at h
  · obtain ⟨l₀, -, h⟩ := Checked.bind_eq_ok h
    obtain ⟨i₁, -, h⟩ := Checked.bind_eq_ok h
    obtain ⟨l₁, -, h⟩ := Checked.bind_eq_ok h
    obtain ⟨i₂, -, h⟩ := Checked.bind_eq_ok h
    obtain ⟨h₀, -, h⟩ := Checked.bind_eq_ok h
    obtain ⟨i₃, -, h⟩ := Checked.bind_eq_ok h
    obtain ⟨h₁, -, h⟩ := Checked.bind_eq_ok h
    dsimp only at h
    split at h
    · cases h
    · rename_i hfour
      obtain ⟨e, he, h⟩ := Checked.bind_eq_ok h
      have he := usizeAdd_ok he
      split at h
      · cases h
      · rename_i hend
        obtain ⟨i₄, -, h⟩ := Checked.bind_eq_ok h
        obtain ⟨data, -, h⟩ := Checked.bind_eq_ok h
        have hn : e = next := congrArg (fun x => x.2) (Option.some.inj (Checked.ok.inj h))
        omega
  · cases h

/-- `parse_records` from `off` on, with the records found before. -/
def walkRecords (buf : List UInt8) (off : Nat) (out : List Record) : Checked (List Record) :=
  match _h : recordAt buf off with
  | .ok (some (r, next)) => walkRecords buf next (out ++ [r])
  | .ok none => .ok out
  | .err e => .err e
  | .panic => .panic
termination_by buf.length - off
decreasing_by
  have hnext := recordAt_next ‹_›
  omega

section Walk

variable {buf : List UInt8} {off next : Nat} {out : List Record}

private theorem walkRecords_stop (h : recordAt buf off = .ok none) : walkRecords buf off out = .ok out := by
  rw [walkRecords]
  split <;> simp_all

private theorem walkRecords_step {r : Record} (h : recordAt buf off = .ok (some (r, next))) :
    walkRecords buf off out = walkRecords buf next (out ++ [r]) := by
  rw [walkRecords]
  split <;> simp_all

end Walk

/-- Fewer than four bytes are left. -/
theorem recordAt_short {buf : List UInt8} {off : Nat} (hlen : buf.length < 2 ^ 63) (hoff : off ≤ buf.length)
    (h : buf.length < off + 4) : recordAt buf off = .ok none := by
  have h4 : off + 4 < 2 ^ 64 := by omega
  have hle : ¬ off + 4 ≤ buf.length := by omega
  rw [recordAt, usizeAdd_of_lt h4, Checked.ok_bind, if_neg hle]
  rfl

/-- What the loop reads at the end of `pre`. -/
theorem recordAt_append {pre data : List UInt8} {l₀ l₁ h₀ h₁ : UInt8}
    (hlen : (pre ++ l₀ :: l₁ :: h₀ :: h₁ :: data).length < 2 ^ 63) :
    recordAt (pre ++ l₀ :: l₁ :: h₀ :: h₁ :: data) pre.length =
      .ok (if (le16 l₀ l₁).toNat < 4 ∨ data.length + 4 < (le16 l₀ l₁).toNat then none
        else some (⟨le16 h₀ h₁, data.take ((le16 l₀ l₁).toNat - 4)⟩, pre.length + (le16 l₀ l₁).toNat)) := by
  generalize hbuf : pre ++ l₀ :: l₁ :: h₀ :: h₁ :: data = buf at hlen ⊢
  have hn : buf.length = pre.length + (data.length + 4) := by
    rw [← hbuf]
    simp
  have hl := (le16 l₀ l₁).toNat_lt
  have hadd : ∀ i, i < 65536 → usizeAdd pre.length i = .ok (pre.length + i) := by
    intro i hi
    apply usizeAdd_of_lt
    omega
  have b₀ : byteAt buf pre.length = .ok l₀ := byteAt_append hbuf.symm rfl
  have b₁ : byteAt buf (pre.length + 1) = .ok l₁ := by
    apply byteAt_append (l := pre ++ [l₀]) (m := h₀ :: h₁ :: data) <;> simp [← hbuf]
  have b₂ : byteAt buf (pre.length + 2) = .ok h₀ := by
    apply byteAt_append (l := pre ++ [l₀, l₁]) (m := h₁ :: data) <;> simp [← hbuf]
  have b₃ : byteAt buf (pre.length + 3) = .ok h₁ := by
    apply byteAt_append (l := pre ++ [l₀, l₁, h₀]) (m := data) <;> simp [← hbuf]
  have hfour : pre.length + 4 ≤ buf.length := by omega
  unfold recordAt
  simp only [hadd 4 (by decide), hadd 1 (by decide), hadd 2 (by decide), hadd 3 (by decide), hadd _ hl, b₀, b₁, b₂, b₃,
    Checked.ok_bind, if_pos hfour]
  by_cases h1 : (le16 l₀ l₁).toNat < 4
  · rw [if_pos h1, if_pos (Or.inl h1)]
    rfl
  · rw [if_neg h1]
    by_cases h2 : data.length + 4 < (le16 l₀ l₁).toNat
    · have h2' : buf.length < pre.length + (le16 l₀ l₁).toNat := by omega
      rw [if_pos h2', if_pos (Or.inr h2)]
      rfl
    · have h2' : ¬ buf.length < pre.length + (le16 l₀ l₁).toNat := by omega
      have hslice : sliceRange buf (pre.length + 4) (pre.length + (le16 l₀ l₁).toNat) =
          .ok (data.take ((le16 l₀ l₁).toNat - 4)) := by
        apply sliceRange_append (l := pre ++ [l₀, l₁, h₀, h₁]) (n := data.drop ((le16 l₀ l₁).toNat - 4))
        · simp [← hbuf]
        · simp
        · rw [List.length_take]
          omega
      rw [if_neg h2', hslice, if_neg (by omega)]
      rfl

/-! ### The records of a buffer -/

private theorem parseRecords_short {buf : List UInt8} (h : buf.length < 4) : parseRecords buf = [] := by
  rcases buf with _ | ⟨a, _ | ⟨b, _ | ⟨c, _ | ⟨d, rest⟩⟩⟩⟩
  · rw [parseRecords]; simp
  · rw [parseRecords]; simp
  · rw [parseRecords]; simp
  · rw [parseRecords]; simp
  · simp only [List.length_cons] at h
    omega

private theorem parseRecords_cons (l₀ l₁ h₀ h₁ : UInt8) (data : List UInt8) :
    parseRecords (l₀ :: l₁ :: h₀ :: h₁ :: data) =
      if (le16 l₀ l₁).toNat < 4 ∨ data.length + 4 < (le16 l₀ l₁).toNat then []
      else ⟨le16 h₀ h₁, data.take ((le16 l₀ l₁).toNat - 4)⟩ ::
        parseRecords (data.drop ((le16 l₀ l₁).toNat - 4)) := by
  rw [parseRecords]

/-- A buffer holds fewer than four bytes or starts with the header of a record. -/
theorem short_or_header (buf : List UInt8) :
    buf.length < 4 ∨ ∃ l₀ l₁ h₀ h₁ data, buf = l₀ :: l₁ :: h₀ :: h₁ :: data := by
  rcases buf with _ | ⟨a, _ | ⟨b, _ | ⟨c, _ | ⟨d, rest⟩⟩⟩⟩
  · left
    decide
  · left
    simp
  · left
    simp
  · left
    simp
  · right
    exact ⟨a, b, c, d, rest, rfl⟩

/-- The walk by offset returns the records of the bytes it has not passed yet. -/
theorem walkRecords_append (pre rest : List UInt8) (out : List Record) (hlen : (pre ++ rest).length < 2 ^ 63) :
    walkRecords (pre ++ rest) pre.length out = .ok (out ++ parseRecords rest) := by
  -- Each pass moves the header and the data of one record from `rest` to `pre`.
  induction hn : rest.length using Nat.strong_induction_on generalizing pre rest out with
  | _ n ih =>
    obtain hshort | ⟨l₀, l₁, h₀, h₁, data, rfl⟩ := short_or_header rest
    · have hstop : recordAt (pre ++ rest) pre.length = .ok none := by
        apply recordAt_short hlen
        · simp
        · rw [List.length_append]
          omega
      rw [walkRecords_stop hstop, parseRecords_short hshort, List.append_nil]
    · have hat := recordAt_append hlen
      rw [parseRecords_cons]
      by_cases hbad : (le16 l₀ l₁).toNat < 4 ∨ data.length + 4 < (le16 l₀ l₁).toNat
      · rw [if_pos hbad] at hat ⊢
        rw [walkRecords_stop hat, List.append_nil]
      · rw [if_neg hbad] at hat ⊢
        rw [not_or, Nat.not_lt, Nat.not_lt] at hbad
        generalize hk : (le16 l₀ l₁).toNat = k at hat hbad ⊢
        have hsplit : pre ++ l₀ :: l₁ :: h₀ :: h₁ :: data =
            (pre ++ l₀ :: l₁ :: h₀ :: h₁ :: data.take (k - 4)) ++ data.drop (k - 4) := by
          simp
        have hpos : (pre ++ l₀ :: l₁ :: h₀ :: h₁ :: data.take (k - 4)).length = pre.length + k := by
          simp only [List.length_append, List.length_cons, List.length_take]
          omega
        have hless : (data.drop (k - 4)).length < n := by
          rw [← hn]
          simp only [List.length_drop, List.length_cons]
          omega
        rw [walkRecords_step hat, ← hpos, hsplit]
        rw [ih _ hless _ _ _ (hsplit ▸ hlen) rfl]
        simp

/-! ### The codec -/

def Record.encode (r : Record) : List UInt8 := Z21.encode r.header r.data

/-- The header of an encoded record holds its own length. -/
theorem encode_le16 (l₀ l₁ h₀ h₁ : UInt8) (data : List UInt8) (h : data.length + 4 = (le16 l₀ l₁).toNat) :
    encode (le16 h₀ h₁) data = l₀ :: l₁ :: h₀ :: h₁ :: data := by
  have hl := (le16 l₀ l₁).toNat_lt
  have hmin : min (4 + data.length) 65535 = (le16 l₀ l₁).toNat := by omega
  have hlen : UInt16.ofNat (min (4 + data.length) 65535) = le16 l₀ l₁ := by
    rw [hmin]
    exact UInt16.ofNat_toNat
  rw [encode, hlen, toLeBytes_le16, toLeBytes_le16]
  rfl

private theorem parseRecords_flatMap (records : List Record) (stray : List UInt8)
    (h : ∀ r ∈ records, r.data.length ≤ 65531) (hs : stray.length < 4) :
    parseRecords (records.flatMap Record.encode ++ stray) = records := by
  induction records with
  | nil => exact parseRecords_short hs
  | cons r records ih =>
    have hr : r.data.length + 4 < 65536 := by
      have := h r List.mem_cons_self
      omega
    have ih := ih (fun q hq => h q (List.mem_cons_of_mem r hq))
    rw [List.flatMap_cons, List.append_assoc]
    show parseRecords (encode r.header r.data ++ _) = _
    rw [parseRecords_encode r.header r.data _ hr, ih]

private theorem parseRecords_encodes (buf : List UInt8) : (parseRecords buf).flatMap Record.encode <+: buf := by
  induction hn : buf.length using Nat.strong_induction_on generalizing buf with
  | _ n ih =>
    obtain hshort | ⟨l₀, l₁, h₀, h₁, data, rfl⟩ := short_or_header buf
    · rw [parseRecords_short hshort]
      exact List.nil_prefix
    · rw [parseRecords_cons]
      split
      · exact List.nil_prefix
      · rename_i hgood
        rw [not_or, Nat.not_lt, Nat.not_lt] at hgood
        generalize hk : (le16 l₀ l₁).toNat = k at hgood ⊢
        have hless : (data.drop (k - 4)).length < n := by
          rw [← hn]
          simp only [List.length_drop, List.length_cons]
          omega
        have hhead : Record.encode ⟨le16 h₀ h₁, data.take (k - 4)⟩ = l₀ :: l₁ :: h₀ :: h₁ :: data.take (k - 4) := by
          apply encode_le16
          rw [List.length_take, hk]
          omega
        have hrest := ih _ hless _ rfl
        have hsplit : l₀ :: l₁ :: h₀ :: h₁ :: data =
            (l₀ :: l₁ :: h₀ :: h₁ :: data.take (k - 4)) ++ data.drop (k - 4) := by
          simp
        rw [List.flatMap_cons, hhead, hsplit, List.prefix_append_right_inj]
        exact hrest

/-- Concatenated records are read back whatever up to three bytes follow them; the walk over any slice ends, without a
panic, and returns records whose encodings are the front of the slice. -/
theorem record_codec :
    (∀ (records : List Record) (stray : List UInt8), (∀ r ∈ records, r.data.length ≤ 65531) → stray.length < 4 →
      parseRecords (records.flatMap Record.encode ++ stray) = records) ∧
    (∀ buf : Slice, walkRecords buf.1 0 [] = .ok (parseRecords buf.1)) ∧
    ∀ buf : List UInt8, (parseRecords buf).flatMap Record.encode <+: buf := by
  refine ⟨parseRecords_flatMap, ?_, parseRecords_encodes⟩
  intro buf
  exact walkRecords_append [] buf.1 [] buf.2

/-- The serial number request and a reply to it, and two stray bytes. -/
theorem record_codec_pair :
    parseRecords (serialNumberRequest ++ encode HEADER_GET_SERIAL_NUMBER [0xD2, 0x04, 0, 0] ++ [7, 0]) =
      [⟨HEADER_GET_SERIAL_NUMBER, []⟩, ⟨HEADER_GET_SERIAL_NUMBER, [0xD2, 0x04, 0, 0]⟩] :=
  record_codec.1 [⟨HEADER_GET_SERIAL_NUMBER, []⟩, ⟨HEADER_GET_SERIAL_NUMBER, [0xD2, 0x04, 0, 0]⟩] [7, 0] (by simp)
    (by decide)

end WirelessProgrammer.Z21
