import WirelessProgrammer.Link.Advertisers
import WirelessProgrammer.Link.MdnsMessage

/-!
# The parser of mDNS packets on hostile input

The loops of the parser with the arithmetic on `usize` that may overflow.  A pass of `read_name` either goes forward in
the packet or follows a pointer, of which it follows at most sixteen, so that `NameLoop.remaining` bounds the passes that
are left (`passes_le`).  On every slice the parser ends without a panic, with the result of `parseOtaHosts`
(`parsePacket_eq`).
-/

namespace WirelessProgrammer.Mdns

/-! ### The loop of `read_name` -/

/-- Where the loop stands. -/
structure NameLoop where
  labels : List (List Char)
  next : Option Nat
  jumps : Nat
  off : Nat

/-- What a pass comes to: one more, or a return. -/
inductive NamePass
  | again (s : NameLoop)
  | leave (r : Option (List Char × Nat))

section Name

variable (pkt : List UInt8)

namespace NameLoop

def init (start : Nat) : NameLoop := ⟨[], none, 0, start⟩

/-- A bound on the passes to come: each pointer that may still be followed costs a walk over the packet. -/
def remaining (s : NameLoop) : Nat := (16 - s.jumps) * (pkt.length + 2) + (pkt.length + 1 - s.off)

/-- What is left to read, without the passes. -/
def result (s : NameLoop) : Option (List Char × Nat) := readNameFrom pkt s.labels s.next s.jumps s.off

/-- Where the name ends, now that a pointer is followed. -/
def nextAfter (s : NameLoop) : Checked Nat :=
  match s.next with
  | some n => .ok n
  | none => usizeAdd s.off 2

private theorem nextAfter_eq {s : NameLoop} (h : s.off + 2 < 2 ^ 64) : s.nextAfter = .ok (s.next.getD (s.off + 2)) := by
  unfold nextAfter
  cases s.next with
  | some n => rfl
  | none => exact usizeAdd_of_lt h

end NameLoop

/-- A pass of the loop of `read_name`. -/
def namePass (s : NameLoop) : Checked NamePass :=
  match pkt[s.off]? with
  | none => .ok (.leave none)
  | some len =>
    if len = 0 then do
      let off ← usizeAdd s.off 1
      return .leave (some (['.'].intercalate s.labels, s.next.getD off))
    else if len &&& 0xc0 = 0xc0 then do
      match pkt[← usizeAdd s.off 1]? with
      | none => return .leave none
      | some low =>
        let next ← s.nextAfter
        let jumps ← usizeAdd s.jumps 1
        if 16 < jumps then return .leave none
        return .again ⟨s.labels, some next, jumps, 256 * (len &&& 0x3f).toNat + low.toNat⟩
    else do
      let off ← usizeAdd s.off 1
      let stop ← usizeAdd off len.toNat
      match sliceGet pkt off stop with
      | none => return .leave none
      | some bytes => return .again ⟨s.labels ++ [Text.fromUtf8Lossy bytes], s.next, s.jumps, stop⟩

end Name

section Pass

variable {pkt : List UInt8} {s : NameLoop}

/-- Another pass follows a read inside the packet, and there are fewer to come. -/
theorem namePass_again {t : NameLoop} (h : namePass pkt s = .ok (.again t)) :
    s.off < pkt.length ∧ t.remaining pkt < s.remaining pkt := by
  unfold namePass at h
  split at h
  · cases h
  · rename_i len hget
    obtain ⟨hin, -⟩ := List.getElem?_eq_some_iff.1 hget
    refine ⟨hin, ?_⟩
    split at h
    · obtain ⟨off, -, h⟩ := Checked.bind_eq_ok h
      cases h
    · split at h
      · obtain ⟨i, -, h⟩ := Checked.bind_eq_ok h
        split at h
        · cases h
        · obtain ⟨after, -, h⟩ := Checked.bind_eq_ok h
          obtain ⟨jumps, hj, h⟩ := Checked.bind_eq_ok h
          have hj := usizeAdd_ok hj
          split at h
          · cases h
          · -- a pointer: the offset is anything, but there is one pointer less to follow
            rename_i hmany
            cases h
            have hmul : (16 - s.jumps) * (pkt.length + 2) = (16 - jumps) * (pkt.length + 2) + (pkt.length + 2) := by
              rw [← Nat.succ_mul]
              congr 1
              omega
            unfold NameLoop.remaining
            dsimp only
            omega
      · obtain ⟨off, hoff, h⟩ := Checked.bind_eq_ok h
        obtain ⟨stop, hstop, h⟩ := Checked.bind_eq_ok h
        have hoff := usizeAdd_ok hoff
        have hstop := usizeAdd_ok hstop
        split at h
        · cases h
        · cases h
          unfold NameLoop.remaining
          dsimp only
          omega

/-- A pass never panics; it goes on, or it returns what the loop returns. -/
theorem namePass_spec (hlen : pkt.length < 2 ^ 63) (hjumps : s.jumps ≤ 16) :
    (∃ t, namePass pkt s = .ok (.again t) ∧ t.jumps ≤ 16 ∧ t.result pkt = s.result pkt) ∨
      namePass pkt s = .ok (.leave (s.result pkt)) := by
  unfold namePass NameLoop.result
  cases hget : pkt[s.off]? with
  | none =>
    right
    rw [readNameFrom, hget]
  | some len =>
    obtain ⟨hin, -⟩ := List.getElem?_eq_some_iff.1 hget
    have h1 : s.off + 1 < 2 ^ 64 := by omega
    have h2 : s.off + 2 < 2 ^ 64 := by omega
    have hn := len.toNat_lt
    have h3 : s.off + 1 + len.toNat < 2 ^ 64 := by omega
    have hj : s.jumps + 1 < 2 ^ 64 := by omega
    dsimp only
    simp only [usizeAdd_of_lt h1, usizeAdd_of_lt h3, usizeAdd_of_lt hj, NameLoop.nextAfter_eq h2, Checked.ok_bind]
    by_cases h0 : len = 0
    · right
      rw [h0] at hget
      rw [if_pos h0, readNameFrom_root hget]
      rfl
    · rw [if_neg h0]
      by_cases hmark : len &&& 0xc0 = 0xc0
      · rw [if_pos hmark]
        cases hlow : pkt[s.off + 1]? with
        | none =>
          right
          rw [readNameFrom, hget]
          dsimp only
          rw [if_neg h0, if_pos hmark, hlow]
          rfl
        | some low =>
          rw [readNameFrom_pointer hget hlow hmark]
          dsimp only
          by_cases hmany : 16 < s.jumps + 1
          · right
            rw [if_pos hmany, if_pos hmany]
            rfl
          · left
            rw [if_neg hmany]
            refine ⟨_, rfl, Nat.not_lt.1 hmany, ?_⟩
            dsimp only
            rw [if_neg hmany]
            cases s.next <;> rfl
      · rw [if_neg hmark]
        by_cases hfits : s.off + 1 + len.toNat ≤ pkt.length
        · left
          have hslice : sliceGet pkt (s.off + 1) (s.off + 1 + len.toNat) =
              some ((pkt.drop (s.off + 1)).take len.toNat) := by
            rw [sliceGet, if_pos ⟨Nat.le_add_right _ _, hfits⟩, Nat.add_sub_cancel_left]
          rw [hslice]
          refine ⟨_, rfl, hjumps, ?_⟩
          exact (readNameFrom_label hget h0 hmark hfits).symm
        · right
          have hslice : sliceGet pkt (s.off + 1) (s.off + 1 + len.toNat) = none := by
            rw [sliceGet, if_neg fun h => hfits h.2]
          rw [hslice, readNameFrom, hget]
          dsimp only
          rw [if_neg h0, if_neg hmark, if_neg hfits]
          rfl

/-- Outside the packet the pass returns without a name. -/
theorem namePass_outside (h : pkt.length ≤ s.off) : namePass pkt s = .ok (.leave none) := by
  rw [namePass, List.getElem?_eq_none h]

end Pass

/-- `read_name`, from a state of its loop on. -/
def walkName (pkt : List UInt8) (s : NameLoop) : Checked (Option (List Char × Nat)) :=
  match _h : namePass pkt s with
  | .ok (.again t) => walkName pkt t
  | .ok (.leave r) => .ok r
  | .err e => .err e
  | .panic => .panic
termination_by s.remaining pkt
decreasing_by exact (namePass_again ‹_›).2

/-- The loop is in state `s` after `n` passes. -/
inductive Passes (pkt : List UInt8) (start : Nat) : Nat → NameLoop → Prop
  | init : Passes pkt start 0 (.init start)
  | pass {n : Nat} {s t : NameLoop} (h : Passes pkt start n s) (hp : namePass pkt s = .ok (.again t)) :
    Passes pkt start (n + 1) t

section Walk

variable {pkt : List UInt8}

private theorem walkName_again {s t : NameLoop} (h : namePass pkt s = .ok (.again t)) :
    walkName pkt s = walkName pkt t := by
  rw [walkName]
  split <;> simp_all

private theorem walkName_leave {s : NameLoop} {r : Option (List Char × Nat)} (h : namePass pkt s = .ok (.leave r)) :
    walkName pkt s = .ok r := by
  rw [walkName]
  split <;> simp_all

private theorem walkName_eq (hlen : pkt.length < 2 ^ 63) (s : NameLoop) (hjumps : s.jumps ≤ 16) :
    walkName pkt s = .ok (s.result pkt) := by
  induction hn : s.remaining pkt using Nat.strong_induction_on generalizing s with
  | _ n ih =>
    obtain ⟨t, hp, ht, hresult⟩ | hp := namePass_spec hlen hjumps
    · have hless := (namePass_again hp).2
      rw [walkName_again hp, ih _ (hn ▸ hless) t ht rfl, hresult]
    · exact walkName_leave hp

private theorem walkName_init (hlen : pkt.length < 2 ^ 63) (start : Nat) :
    walkName pkt (.init start) = .ok (readName pkt start) := by
  exact walkName_eq hlen (.init start) (Nat.zero_le 16)

/-- Every pass but the first has used up some of the passes that remained at the start. -/
theorem passes_le (hlen : pkt.length < 2 ^ 63) {start n : Nat} {s : NameLoop} (h : Passes pkt start n s) :
    s.jumps ≤ 16 ∧ n + s.remaining pkt ≤ (NameLoop.init start).remaining pkt := by
  induction h with
  | init =>
    rw [Nat.zero_add]
    exact ⟨Nat.zero_le 16, le_rfl⟩
  | @pass n s t _ hp ih =>
    obtain ⟨hjumps, hle⟩ := ih
    have hless := (namePass_again hp).2
    obtain ⟨t', hp', ht, -⟩ | hp' := namePass_spec hlen hjumps
    · obtain rfl : t' = t := by
        rw [hp] at hp'
        cases hp'
        rfl
      exact ⟨ht, by omega⟩
    · rw [hp] at hp'
      cases hp'

end Walk

/-! ### The parser -/

section Parser

variable (pkt : List UInt8)

def be16At (off : Nat) : Checked (Option UInt16) :=
  match pkt[off]? with
  | none => .ok none
  | some a => do
    match pkt[← usizeAdd off 1]? with
    | none => return none
    | some b => return some (a.toUInt16 <<< 8 ||| b.toUInt16)

/-- The sum that `checked_add` forms may not exist. -/
def skipQuestionsAt : Nat → Nat → Checked (Option Nat)
  | 0, off => .ok (some off)
  | n + 1, off => do
    match ← walkName pkt (.init off) with
    | none => return none
    | some (_, nend) => if nend + 4 < 2 ^ 64 then skipQuestionsAt n (nend + 4) else return none

/-- The offset behind the data saturates. -/
def recordAt (off : Nat) : Checked (Option (ResourceRecord × Nat)) := do
  match ← walkName pkt (.init off) with
  | none => return none
  | some (name, nend) =>
    match ← be16At pkt nend with
    | none => return none
    | some typ =>
      let off ← usizeAdd nend 8
      match ← be16At pkt off with
      | none => return none
      | some rdlen =>
        let rdata ← usizeAdd off 2
        return some (⟨name, typ, rdlen, rdata⟩, min (rdata + rdlen.toNat) (2 ^ 64 - 1))

def ipv4From (off : Nat) : Checked (Option Ipv4Addr) := do
  let i ← usizeAdd off 1
  let j ← usizeAdd off 2
  let k ← usizeAdd off 3
  return do
    let a ← pkt[off]?
    let b ← pkt[i]?
    let c ← pkt[j]?
    let d ← pkt[k]?
    return ⟨a, b, c, d⟩

def visitSrvAt (s : Parsed) (r : ResourceRecord) : Checked Parsed :=
  if r.typ = TYPE_SRV ∧ 6 ≤ r.rdlen then do
    let port ← be16At pkt (← usizeAdd r.rdata 4)
    return { s with port := port.getD s.port, hostname := firstLabel r.name }
  else return s

def visitAddressAt (s : Parsed) (r : ResourceRecord) : Checked Parsed :=
  if r.typ = TYPE_A ∧ r.rdlen = 4 then do
    match ← ipv4From pkt r.rdata with
    | some ipv4 =>
      return { s with out := s.out ++ [⟨if s.hostname = [] then firstLabel r.name else s.hostname, ipv4, s.port⟩] }
    | none => return s
  else return s

def visitAt (s : Parsed) (r : ResourceRecord) : Checked Parsed := do visitAddressAt pkt (← visitSrvAt pkt s r) r

def parseFromAt : Nat → Nat → Parsed → Checked Parsed
  | 0, _, s => .ok s
  | n + 1, off, s => do
    match ← recordAt pkt off with
    | none => return s
    | some (r, next) => parseFromAt n next (← visitAt pkt s r)

/-- `parse_ota_hosts`, with its arithmetic. -/
def parsePacket : Checked (List OtaHost) :=
  if pkt.length < 12 then .ok []
  else do
    let qd := (← be16At pkt 4).getD 0
    let an := (← be16At pkt 6).getD 0
    let ns := (← be16At pkt 8).getD 0
    let ar := (← be16At pkt 10).getD 0
    match ← skipQuestionsAt pkt qd.toNat 12 with
    | none => return []
    | some off => return (← parseFromAt pkt (min (min (an.toNat + ns.toNat) 65535 + ar.toNat) 65535) off .init).out

end Parser

section Equal

variable {pkt : List UInt8}

private theorem be16At_eq (hlen : pkt.length < 2 ^ 63) (off : Nat) : be16At pkt off = .ok (be16 pkt off) := by
  unfold be16At be16
  cases hget : pkt[off]? with
  | none => rfl
  | some a =>
    obtain ⟨hin, -⟩ := List.getElem?_eq_some_iff.1 hget
    have h1 : off + 1 < 2 ^ 64 := by omega
    dsimp only
    rw [usizeAdd_of_lt h1, Checked.ok_bind]
    cases pkt[off + 1]? <;> rfl

private theorem skipQuestionsAt_eq (hlen : pkt.length < 2 ^ 63) (n off : Nat) :
    skipQuestionsAt pkt n off = .ok (skipQuestions pkt n off) := by
  induction n generalizing off with
  | zero => rfl
  | succ n ih =>
    rw [skipQuestionsAt, skipQuestions, walkName_init hlen, Checked.ok_bind]
    cases hname : readName pkt off with
    | none => rfl
    | some name =>
      have hstop := (readName_bounds hname).2
      have hsum : name.2 + 4 < 2 ^ 64 := by omega
      dsimp only
      rw [if_pos hsum, ih]
      rfl

private theorem recordAt_eq (hlen : pkt.length < 2 ^ 63) (off : Nat) : recordAt pkt off = .ok (readRecord pkt off) := by
  rw [recordAt, readRecord, walkName_init hlen, Checked.ok_bind]
  cases hname : readName pkt off with
  | none => rfl
  | some name =>
    obtain ⟨name, nend⟩ := name
    have hstop := (readName_bounds hname).2
    have h8 : nend + 8 < 2 ^ 64 := by omega
    have h2 : nend + 8 + 2 < 2 ^ 64 := by omega
    dsimp only
    rw [be16At_eq hlen, Checked.ok_bind, usizeAdd_of_lt h8]
    cases htyp : be16 pkt nend with
    | none =>
      simp only [htyp, Option.bind_eq_bind, Option.bind_some, Option.bind_none]
      rfl
    | some typ =>
      dsimp only
      rw [Checked.ok_bind, be16At_eq hlen, Checked.ok_bind, usizeAdd_of_lt h2]
      cases hrd : be16 pkt (nend + 8) with
      | none =>
        simp only [htyp, hrd, Option.bind_eq_bind, Option.bind_some, Option.bind_none]
        rfl
      | some rdlen =>
        have hr := rdlen.toNat_lt
        have hmin : min (nend + 10 + rdlen.toNat) (2 ^ 64 - 1) = nend + 10 + rdlen.toNat := by omega
        simp only [htyp, hrd, Option.bind_eq_bind, Option.bind_some, Checked.ok_bind]
        show Checked.ok (some (_, min (nend + 10 + rdlen.toNat) (2 ^ 64 - 1))) = _
        rw [hmin]
        rfl

/-- The data of a record start at most ten bytes behind the end of its name. -/
theorem readRecord_rdata_le {off next : Nat} {r : ResourceRecord} (h : readRecord pkt off = some (r, next)) :
    r.rdata ≤ pkt.length + 10 := by
  unfold readRecord at h
  cases hname : readName pkt off with
  | none => simp [hname] at h
  | some name =>
    have hstop := (readName_bounds hname).2
    cases htyp : be16 pkt name.2 with
    | none => simp [hname, htyp] at h
    | some typ =>
      cases hrd : be16 pkt (name.2 + 8) with
      | none => simp [hname, htyp, hrd] at h
      | some rdlen =>
        simp [hname, htyp, hrd] at h
        obtain ⟨rfl, -⟩ := h
        dsimp only
        omega

private theorem visitAt_eq (hlen : pkt.length < 2 ^ 63) {r : ResourceRecord} (hr : r.rdata + 4 < 2 ^ 64) (s : Parsed) :
    visitAt pkt s r = .ok (s.visit pkt r) := by
  have h1 : r.rdata + 1 < 2 ^ 64 := by omega
  have h2 : r.rdata + 2 < 2 ^ 64 := by omega
  have h3 : r.rdata + 3 < 2 ^ 64 := by omega
  have hip : ipv4From pkt r.rdata = .ok (ipv4At pkt r.rdata) := by
    rw [ipv4From, usizeAdd_of_lt h1, usizeAdd_of_lt h2, usizeAdd_of_lt h3]
    rfl
  unfold visitAt visitSrvAt visitAddressAt Parsed.visit
  rw [usizeAdd_of_lt hr, Checked.ok_bind, be16At_eq hlen, Checked.ok_bind, hip]
  by_cases hsrv : r.typ = TYPE_SRV ∧ 6 ≤ r.rdlen
  · have ha : ¬ (r.typ = TYPE_A ∧ r.rdlen = 4) := fun h => absurd (hsrv.1.symm.trans h.1) (by decide)
    simp only [if_pos hsrv, if_neg ha, Checked.pure_eq, Checked.ok_bind]
  · simp only [if_neg hsrv, Checked.pure_eq, Checked.ok_bind]
    by_cases ha : r.typ = TYPE_A ∧ r.rdlen = 4
    · rw [if_pos ha, if_pos ha]
      cases ipv4At pkt r.rdata <;> rfl
    · rw [if_neg ha, if_neg ha]

private theorem parseFromAt_eq (hlen : pkt.length < 2 ^ 63) (n off : Nat) (s : Parsed) :
    parseFromAt pkt n off s = .ok (parseFrom pkt n off s) := by
  induction n generalizing off s with
  | zero => rfl
  | succ n ih =>
    rw [parseFromAt, parseFrom, recordAt_eq hlen, Checked.ok_bind]
    cases hrec : readRecord pkt off with
    | none => rfl
    | some next =>
      obtain ⟨r, next⟩ := next
      have hrdata := readRecord_rdata_le hrec
      have hr : r.rdata + 4 < 2 ^ 64 := by omega
      dsimp only
      rw [visitAt_eq hlen hr, Checked.ok_bind, ih]

private theorem parsePacket_eq (hlen : pkt.length < 2 ^ 63) : parsePacket pkt = .ok (parseOtaHosts pkt) := by
  unfold parsePacket parseOtaHosts recordsStart
  split
  · rfl
  · rw [be16At_eq hlen, be16At_eq hlen, be16At_eq hlen, be16At_eq hlen]
    simp only [Checked.ok_bind]
    rw [skipQuestionsAt_eq hlen, Checked.ok_bind]
    cases skipQuestions pkt ((be16 pkt 4).getD 0).toNat 12 with
    | none => rfl
    | some off =>
      dsimp only
      rw [parseFromAt_eq hlen]
      rfl

end Equal

/-! ### The number of hosts -/

section Count

variable (pkt : List UInt8)

private theorem length_recordsFrom_le (n off : Nat) : (recordsFrom pkt n off).length ≤ n := by
  induction n generalizing off with
  | zero => exact Nat.le_refl 0
  | succ n ih =>
    unfold recordsFrom
    cases readRecord pkt off with
    | none => exact Nat.zero_le _
    | some next => exact Nat.succ_le_succ (ih next.2)

private theorem length_records_le : (records pkt).length ≤ recordCount pkt := by
  unfold records
  cases recordsStart pkt with
  | none => exact Nat.zero_le _
  | some off => exact length_recordsFrom_le pkt _ off

/-- A record adds at most one host. -/
theorem length_foldl_visit_le (rs : List ResourceRecord) (s : Parsed) :
    (rs.foldl (Parsed.visit pkt) s).out.length ≤ s.out.length + rs.length := by
  induction rs generalizing s with
  | nil => exact Nat.le_refl _
  | cons r rs ih =>
    obtain ⟨hostname, hout⟩ := visit_out pkt s r
    have hone : (address pkt r).toList.length ≤ 1 := by cases address pkt r <;> simp
    have hlen : (s.visit pkt r).out.length ≤ s.out.length + 1 := by
      rw [hout, List.length_append, List.length_map]
      omega
    have ih := ih (s.visit pkt r)
    rw [List.foldl_cons, List.length_cons]
    omega

private theorem length_parseOtaHosts_le : (parseOtaHosts pkt).length ≤ recordCount pkt := by
  have hfold := length_foldl_visit_le pkt (records pkt) .init
  have hrecords := length_records_le pkt
  rw [parseOtaHosts_eq]
  change _ ≤ 0 + _ at hfold
  omega

end Count

/-- From any start the loop of `read_name` ends with its result, after a bounded number of passes, of which at most
sixteen follow a pointer and none goes on from outside the packet; the end that it returns is behind the start and in the
packet.  The parser ends without a panic, with no more hosts than the header counts records. -/
theorem mdns_parse_terminates (pkt : Slice) :
    (∀ start, walkName pkt.1 (.init start) = .ok (readName pkt.1 start)) ∧
    (∀ start n s, Passes pkt.1 start n s → n ≤ 17 * (pkt.1.length + 2) ∧ s.jumps ≤ 16 ∧
      (s.off < pkt.1.length ∨ namePass pkt.1 s = .ok (.leave none))) ∧
    (∀ start name stop, readName pkt.1 start = some (name, stop) → start < stop ∧ stop ≤ pkt.1.length) ∧
    parsePacket pkt.1 = .ok (parseOtaHosts pkt.1) ∧
    (parseOtaHosts pkt.1).length ≤ headerCount pkt.1 6 + headerCount pkt.1 8 + headerCount pkt.1 10 := by
  refine ⟨walkName_init pkt.2, ?_, ?_, parsePacket_eq pkt.2, ?_⟩
  · intro start n s h
    obtain ⟨hjumps, hle⟩ := passes_le pkt.2 h
    have hinit : (NameLoop.init start).remaining pkt.1 ≤ 17 * (pkt.1.length + 2) := by
      unfold NameLoop.remaining NameLoop.init
      dsimp only
      omega
    refine ⟨by omega, hjumps, ?_⟩
    by_cases hin : s.off < pkt.1.length
    · exact Or.inl hin
    · exact Or.inr (namePass_outside (Nat.not_lt.1 hin))
  · intro start name stop h
    exact readName_bounds h
  · have hcount := length_parseOtaHosts_le pkt.1
    rw [recordCount_eq] at hcount
    omega

end WirelessProgrammer.Mdns
