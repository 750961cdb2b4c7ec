import WirelessProgrammer.Link.Bss

/-!
# Information elements

`ssid_from_ies` walks the elements of an access point by an offset.  The walk never panics and ends for every buffer, and
it finds the first element with id 0, also when the encoding is cut off behind it (`ssid_of_elements`).
-/

namespace WirelessProgrammer.Ies

/-! ### Elements -/

/-- An element; its length is one byte. -/
structure Element where
  id : UInt8
  data : List UInt8
  short : data.length ≤ 255

def Element.encode (e : Element) : List UInt8 := e.id :: UInt8.ofNat e.data.length :: e.data

def encode (els : List Element) : List UInt8 := els.flatMap Element.encode

/-- The SSID in an element with id 0. -/
def Element.ssid (e : Element) : Option String :=
  if e.data = [] then none else some (String.ofList (Text.fromUtf8Lossy e.data))

/-- What the first element with id 0 says. -/
def ssid (els : List Element) : Option String := (els.find? fun e => e.id = 0).bind Element.ssid

/-- The first `n` bytes of the encoding hold the first element with id 0 as a whole. -/
def Keeps (els : List Element) (n : Nat) : Prop :=
  ∀ before e after, els = before ++ e :: after → (∀ x ∈ before, x.id ≠ 0) → e.id = 0 →
    (encode (before ++ [e])).length ≤ n

section Walk

variable {e : Element} {els : List Element} {n : Nat}

private theorem encode_cons : encode (e :: els) = e.encode ++ encode els := List.flatMap_cons

private theorem length_encode_cons : (encode (e :: els)).length = e.encode.length + (encode els).length := by
  rw [encode_cons, List.length_append]

private theorem Element.toNat_length (e : Element) : (UInt8.ofNat e.data.length).toNat = e.data.length := by
  have hshort := e.short
  rw [UInt8.toNat_ofNat']
  omega

private theorem ssidFromIes_cons (id len : UInt8) (rest : List UInt8) :
    ssidFromIes (id :: len :: rest) =
      if rest.length < len.toNat then none
      else if id = 0 then
        if len = 0 then none else some (String.ofList (Text.fromUtf8Lossy (rest.take len.toNat)))
      else ssidFromIes (rest.drop len.toNat) := by
  rw [ssidFromIes]

private theorem ssidFromIes_encode_append (rest : List UInt8) :
    ssidFromIes (e.encode ++ rest) = if e.id = 0 then e.ssid else ssidFromIes rest := by
  have hlen := e.toNat_length
  have hroom : ¬ (e.data ++ rest).length < e.data.length := by
    rw [List.length_append]
    omega
  have hempty : UInt8.ofNat e.data.length = 0 ↔ e.data = [] := by
    rw [← UInt8.toNat_inj, hlen]
    exact List.length_eq_zero_iff
  show ssidFromIes (e.id :: UInt8.ofNat e.data.length :: (e.data ++ rest)) = _
  rw [ssidFromIes_cons, hlen, if_neg hroom, List.take_left, List.drop_left, Element.ssid]
  simp only [hempty]

/-- An element that is cut off ends the walk. -/
theorem ssidFromIes_cut (h : n < e.encode.length) : ssidFromIes (e.encode.take n) = none := by
  match n with
  | 0 => rw [List.take_zero, ssidFromIes]; simp
  | 1 => rw [Element.encode, List.take_succ_cons, List.take_zero, ssidFromIes]; simp
  | n + 2 =>
    have hn : n < e.data.length := by
      rw [Element.encode, List.length_cons, List.length_cons] at h
      omega
    have hcut : (e.data.take n).length < (UInt8.ofNat e.data.length).toNat := by
      rw [e.toNat_length, List.length_take]
      omega
    rw [Element.encode, List.take_succ_cons, List.take_succ_cons, ssidFromIes_cons, if_pos hcut]

private theorem ssid_cons : ssid (e :: els) = if e.id = 0 then e.ssid else ssid els := by
  unfold ssid
  rw [List.find?_cons]
  by_cases hid : e.id = 0
  · simp [hid]
  · simp [hid]

private theorem Keeps.head (h : Keeps (e :: els) n) (hid : e.id = 0) : e.encode.length ≤ n := by
  have hlen := h [] e els rfl (fun x hx => absurd hx List.not_mem_nil) hid
  rwa [List.nil_append, length_encode_cons] at hlen

/-- What the truncation keeps behind an element with another id. -/
theorem Keeps.tail (h : Keeps (e :: els) n) (hid : e.id ≠ 0) {before after : List Element} {f : Element}
    (hsplit : els = before ++ f :: after) (hbefore : ∀ x ∈ before, x.id ≠ 0) (hf : f.id = 0) :
    e.encode.length + (encode (before ++ [f])).length ≤ n := by
  have hlen := h (e :: before) f after (by rw [hsplit, List.cons_append]) (List.forall_mem_cons.2 ⟨hid, hbefore⟩) hf
  rwa [List.cons_append, length_encode_cons] at hlen

/-- A truncation in an element with another id keeps no element with id 0. -/
theorem Keeps.ssid_eq_none (h : Keeps (e :: els) n) (hcut : n < e.encode.length) : ssid (e :: els) = none := by
  have hid : e.id ≠ 0 := fun hid => absurd (h.head hid) (Nat.not_le.2 hcut)
  rw [ssid_cons, if_neg hid, ssid]
  cases hfind : els.find? (fun f => f.id = 0) with
  | none => rfl
  | some f =>
    obtain ⟨hf, before, after, hsplit, hbefore⟩ := List.find?_eq_some_iff_append.1 hfind
    have hlen := h.tail hid hsplit (by simpa using hbefore) (of_decide_eq_true hf)
    omega

/-- The walk over an encoding that is cut off somewhere. -/
theorem ssidFromIes_take (els : List Element) {n : Nat} (h : Keeps els n) :
    ssidFromIes ((encode els).take n) = ssid els := by
  induction els generalizing n with
  | nil =>
    rw [encode, List.flatMap_nil, List.take_nil, ssidFromIes]
    · rfl
    · simp
  | cons e els ih =>
    rw [encode_cons]
    by_cases hcut : n < e.encode.length
    · -- nothing with id 0 is left, here or behind
      rw [List.take_append_of_le_length (Nat.le_of_lt hcut), ssidFromIes_cut hcut, h.ssid_eq_none hcut]
    · have hsplit : (e.encode ++ encode els).take n = e.encode ++ (encode els).take (n - e.encode.length) := by
        rw [List.take_append, List.take_of_length_le (Nat.not_lt.1 hcut)]
      rw [hsplit, ssidFromIes_encode_append, ssid_cons]
      by_cases hid : e.id = 0
      · rw [if_pos hid, if_pos hid]
      · rw [if_neg hid, if_neg hid]
        apply ih
        intro before f after hsplit hbefore hf
        have hlen := h.tail hid hsplit hbefore hf
        omega

private theorem keeps_length (els : List Element) : Keeps els (encode els).length := by
  rintro before e after rfl - -
  unfold encode
  rw [List.flatMap_append, List.flatMap_append, List.flatMap_cons, List.flatMap_cons, List.flatMap_nil]
  simp only [List.length_append, List.length_nil]
  omega

private theorem ssidFromIes_encode (els : List Element) : ssidFromIes (encode els) = ssid els := by
  have htake := ssidFromIes_take els (keeps_length els)
  rwa [List.take_length] at htake

end Walk

/-! ### The walk by offset -/

/-- What a pass of the loop comes to: one more from another offset on, or a return. -/
inductive Pass
  | again (i : Nat)
  | leave (r : Option String)

/-- A pass of the loop of `ssid_from_ies`. -/
def pass (ies : List UInt8) (i : Nat) : Checked Pass := do
  if (← usizeAdd i 1) < ies.length then
    let id ← byteAt ies i
    let len := (← byteAt ies (← usizeAdd i 1)).toNat
    -- the data of the last element is cut off
    if ies.length < (← usizeAdd (← usizeAdd i 2) len) then return .leave none
    if id = 0 then
      let bytes ← sliceRange ies (← usizeAdd i 2) (← usizeAdd (← usizeAdd i 2) len)
      if bytes = [] then return .leave none
      return .leave (some (String.ofList (Text.fromUtf8Lossy bytes)))
    return .again (← usizeAdd i (← usizeAdd 2 len))
  else return .leave none

/-- Every pass but the last one moves on in the elements: the measure of the loop. -/
theorem pass_again {ies : List UInt8} {i j : Nat} (h : pass ies i = .ok (.again j)) : i < ies.length ∧ i < j := by
  unfold pass at h
  obtain ⟨next, hnext, h⟩ := Checked.bind_eq_ok h
  have hnext := usizeAdd_ok hnext
  split at h
  · rename_i hin
    obtain ⟨id, -, h⟩ := Checked.bind_eq_ok h
    obtain ⟨i₁, -, h⟩ := Checked.bind_eq_ok h
    obtain ⟨len, -, h⟩ := Checked.bind_eq_ok h
    obtain ⟨i₂, -, h⟩ := Checked.bind_eq_ok h
    obtain ⟨stop, -, h⟩ := Checked.bind_eq_ok h
    split at h
    · cases h
    · split at h
      · obtain ⟨i₃, -, h⟩ := Checked.bind_eq_ok h
        obtain ⟨i₄, -, h⟩ := Checked.bind_eq_ok h
        obtain ⟨i₅, -, h⟩ := Checked.bind_eq_ok h
        obtain ⟨bytes, -, h⟩ := Checked.bind_eq_ok h
        split at h <;> cases h
      · obtain ⟨stride, hstride, h⟩ := Checked.bind_eq_ok h
        obtain ⟨k, hk, h⟩ := Checked.bind_eq_ok h
        have hstride := usizeAdd_ok hstride
        have hk := usizeAdd_ok hk
        cases h
        omega
  · cases h

/-- `ssid_from_ies` from an offset on. -/
def walk (ies : List UInt8) (i : Nat) : Checked (Option String) :=
  match _h : pass ies i with
  | .ok (.again j) => walk ies j
  | .ok (.leave r) => .ok r
  | .err e => .err e
  | .panic => .panic
termination_by ies.length - i
decreasing_by
  have hnext := pass_again ‹_›
  omega

section Pass

variable {ies : List UInt8} {i : Nat}

private theorem walk_again {j : Nat} (h : pass ies i = .ok (.again j)) : walk ies i = walk ies j := by
  rw [walk]
  split <;> simp_all

private theorem walk_leave {r : Option String} (h : pass ies i = .ok (.leave r)) : walk ies i = .ok r := by
  rw [walk]
  split <;> simp_all

/-- At most one byte is left. -/
theorem pass_short (hi : i < 2 ^ 63) (h : ies.length ≤ i + 1) : pass ies i = .ok (.leave none) := by
  have hadd : i + 1 < 2 ^ 64 := by omega
  rw [pass, usizeAdd_of_lt hadd, Checked.ok_bind, if_neg (Nat.not_lt.2 h)]
  rfl

end Pass

/-- What the loop reads at the end of `pre`. -/
theorem pass_append {pre rest : List UInt8} {id len : UInt8} (hlen : (pre ++ id :: len :: rest).length < 2 ^ 63) :
    pass (pre ++ id :: len :: rest) pre.length =
      .ok (if rest.length < len.toNat then .leave none
        else if id = 0 then
          .leave (if len = 0 then none else some (String.ofList (Text.fromUtf8Lossy (rest.take len.toNat))))
        else .again (pre.length + (2 + len.toNat))) := by
  generalize hies : pre ++ id :: len :: rest = ies at hlen ⊢
  have hn : ies.length = pre.length + (rest.length + 2) := by
    rw [← hies]
    simp
  have hl := len.toNat_lt
  have hadd : ∀ i, i < 512 → usizeAdd pre.length i = .ok (pre.length + i) := by
    intro i hi
    apply usizeAdd_of_lt
    omega
  have hstride : usizeAdd 2 len.toNat = .ok (2 + len.toNat) := usizeAdd_of_lt (by omega)
  have hstop : usizeAdd (pre.length + 2) len.toNat = .ok (pre.length + 2 + len.toNat) := usizeAdd_of_lt (by omega)
  have b₀ : byteAt ies pre.length = .ok id := byteAt_append hies.symm rfl
  have b₁ : byteAt ies (pre.length + 1) = .ok len := by
    apply byteAt_append (l := pre ++ [id]) (m := rest) <;> simp [← hies]
  have hin : pre.length + 1 < ies.length := by omega
  unfold pass
  simp only [hadd 1 (by decide), hadd 2 (by decide), hadd (2 + len.toNat) (by omega), hstride, hstop, b₀, b₁,
    Checked.ok_bind, if_pos hin]
  by_cases hcut : rest.length < len.toNat
  · have hcut' : ies.length < pre.length + 2 + len.toNat := by omega
    rw [if_pos hcut', if_pos hcut]
    rfl
  · have hcut' : ¬ ies.length < pre.length + 2 + len.toNat := by omega
    rw [if_neg hcut', if_neg hcut]
    by_cases hid : id = 0
    · have hslice : sliceRange ies (pre.length + 2) (pre.length + 2 + len.toNat) = .ok (rest.take len.toNat) := by
        apply sliceRange_append (l := pre ++ [id, len]) (n := rest.drop len.toNat)
        · simp [← hies]
        · simp
        · rw [List.length_take]
          omega
      have hempty : rest.take len.toNat = [] ↔ len = 0 := by
        rw [← List.length_eq_zero_iff, List.length_take, Nat.min_eq_left (Nat.not_lt.1 hcut), ← UInt8.toNat_inj]
        rfl
      rw [if_pos hid, if_pos hid, hslice, Checked.ok_bind]
      simp only [hempty]
      by_cases hzero : len = 0
      · rw [if_pos hzero, if_pos hzero]
        rfl
      · rw [if_neg hzero, if_neg hzero]
        rfl
    · rw [if_neg hid, if_neg hid]
      rfl

/-- The walk by offset returns the SSID of the bytes it has not passed yet. -/
theorem walk_append (pre rest : List UInt8) (hlen : (pre ++ rest).length < 2 ^ 63) :
    walk (pre ++ rest) pre.length = .ok (ssidFromIes rest) := by
  -- Each pass moves one element from `rest` to `pre`.
  induction hn : rest.length using Nat.strong_induction_on generalizing pre rest with
  | _ n ih =>
    match rest with
    | [] | [_] =>
      have hpre : pre.length < 2 ^ 63 := Nat.lt_of_le_of_lt (by simp) hlen
      have hshort : ∀ l : List UInt8, l.length ≤ 1 → (pre ++ l).length ≤ pre.length + 1 := by
        intro l hl
        rw [List.length_append]
        omega
      rw [walk_leave (pass_short hpre (hshort _ (by simp))), ssidFromIes]
      simp
    | id :: len :: rest =>
      have hpass := pass_append hlen
      rw [ssidFromIes_cons]
      by_cases hcut : rest.length < len.toNat
      · rw [if_pos hcut] at hpass ⊢
        exact walk_leave hpass
      · rw [if_neg hcut] at hpass ⊢
        by_cases hid : id = 0
        · rw [if_pos hid] at hpass ⊢
          exact walk_leave hpass
        · rw [if_neg hid] at hpass ⊢
          have hsplit : pre ++ id :: len :: rest =
              (pre ++ id :: len :: rest.take len.toNat) ++ rest.drop len.toNat := by simp
          have hpos : (pre ++ id :: len :: rest.take len.toNat).length = pre.length + (2 + len.toNat) := by
            simp only [List.length_append, List.length_cons, List.length_take]
            omega
          have hless : (rest.drop len.toNat).length < n := by
            rw [← hn]
            simp only [List.length_drop, List.length_cons]
            omega
          rw [walk_again hpass, ← hpos, hsplit]
          exact ih _ hless _ _ (hsplit ▸ hlen) rfl

/-- The SSID of encoded elements is what the first element with id 0 says, also when the encoding is cut off behind that
element; the walk over any slice ends, without a panic. -/
theorem ssid_of_elements :
    (∀ els : List Element, ssidFromIes (encode els) = ssid els) ∧
    (∀ (els : List Element) (n : Nat), Keeps els n → ssidFromIes ((encode els).take n) = ssid els) ∧
    ∀ ies : Slice, walk ies.1 0 = .ok (ssidFromIes ies.1) := by
  refine ⟨ssidFromIes_encode, fun els n => ssidFromIes_take els, ?_⟩
  intro ies
  exact walk_append [] ies.1 ies.2

private def rates : Element := ⟨1, [130, 132], by decide⟩

private def name : Element := ⟨0, Text.utf8Bytes "Test", by decide⟩

/-- The name between two other elements, of which the last one is cut off. -/
theorem ssid_of_cut_elements : ssidFromIes ((encode [rates, name, rates]).take 12) = some "Test" := by
  have hkeeps : Keeps [rates, name, rates] 12 := by
    intro before e after hsplit hbefore he
    rcases before with _ | ⟨x, _ | ⟨y, before⟩⟩
    · obtain ⟨rfl, -⟩ := List.cons.inj hsplit
      exact absurd he (by decide)
    · obtain ⟨hx, hsplit⟩ := List.cons.inj hsplit
      obtain ⟨rfl, -⟩ := List.cons.inj hsplit
      rw [← hx]
      decide
    · obtain ⟨-, hsplit⟩ := List.cons.inj hsplit
      obtain ⟨rfl, -⟩ := List.cons.inj hsplit
      exact absurd rfl (hbefore name (by simp))
  have hssid : ssid [rates, name, rates] = some "Test" := by
    have hname : name.ssid = some "Test" := by
      rw [Element.ssid, if_neg (by decide), name, Text.fromUtf8Lossy_utf8Bytes, String.ofList_toList]
    exact hname
  rw [ssid_of_elements.2.1 _ _ hkeeps, hssid]

end WirelessProgrammer.Ies
