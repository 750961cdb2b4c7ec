import WirelessProgrammer.Lib.ByteStream

/-!
# The Go client's framing

`go/client/client.go`: a message is written as its length, in four bytes, and the bytes of its JSON, over a writer that
may take them in any pieces, and it is read from a reader that may give them in any pieces.
-/

namespace WirelessProgrammer.GoFraming

/-! ### `io` -/

inductive IoError
  | eof
  | unexpectedEOF
  | shortWrite
  | other (text : String)
  deriving DecidableEq, Repr

section

variable {σ τ M : Type}

/-- `writeFull`: the loop of the client's own. -/
def writeFull (w : ByteStream.Writer σ IoError) : σ → List UInt8 → Option IoError × σ := w.writeAll .shortWrite

/-- `io.ReadFull`. -/
def readFull (r : ByteStream.Reader τ IoError) (t : τ) (len : Nat) : Except IoError (List UInt8) × τ :=
  match r.readFull t len with
  | ((bytes, none), t') => (.ok bytes, t')
  | ((bytes, some e), t') => (.error (if bytes ≠ [] ∧ e = .eof then .unexpectedEOF else e), t')

/-! ### `binary.LittleEndian` -/

def putUint32 (n : UInt32) : List UInt8 := (List.range 4).map fun i => .ofNat (n.toNat / 256 ^ i)

def uint32 (hdr : List UInt8) : UInt32 := .ofNat (hdr.foldr (fun b n => b.toNat + 256 * n) 0)

private theorem uint32_putUint32 (n : UInt32) : uint32 (putUint32 n) = n := by
  have hn := n.toNat_lt
  have hfold : (putUint32 n).foldr (fun b n => b.toNat + 256 * n) 0 = n.toNat := by
    show (UInt8.ofNat (n.toNat / 1)).toNat + 256 * ((UInt8.ofNat (n.toNat / 256)).toNat +
      256 * ((UInt8.ofNat (n.toNat / 65536)).toNat + 256 * ((UInt8.ofNat (n.toNat / 16777216)).toNat + 256 * 0))) = _
    simp only [UInt8.toNat_ofNat']
    omega
  rw [uint32, hfold, UInt32.ofNat_toNat]

/-! ### Frames -/

def maxFrameBytes : Nat := 1024 * 1024

/-- `encoding/json` on the messages. -/
structure JsonCodec (M : Type) where
  marshal : M → Except String (List UInt8)
  unmarshal : List UInt8 → Except String M

/-- What is marshalled is unmarshalled as it was. -/
def JsonCodec.Inverse (codec : JsonCodec M) : Prop :=
  ∀ m payload, codec.marshal m = .ok payload → codec.unmarshal payload = .ok m

inductive FrameError
  | json (text : String)
  | io (e : IoError)
  | text (message : String)
  deriving DecidableEq, Repr

variable (codec : JsonCodec M)

def writeFrame (w : ByteStream.Writer σ IoError) (s : σ) (m : M) : Option FrameError × σ :=
  match codec.marshal m with
  | .error e => (some (.json e), s)
  | .ok payload =>
    if payload.length > maxFrameBytes then (some (.text "frame too large"), s)
    else
      match writeFull w s (putUint32 (.ofNat payload.length)) with
      | (some e, s') => (some (.io e), s')
      | (none, s') =>
        match writeFull w s' payload with
        | (e, s'') => (e.map .io, s'')

def readFrame (r : ByteStream.Reader τ IoError) (t : τ) : Except FrameError M × τ :=
  match readFull r t 4 with
  | (.error e, t') => (.error (.io e), t')
  | (.ok hdr, t') =>
    let n := uint32 hdr
    if n.toNat > maxFrameBytes then (.error (.text s!"frame length {n} too large"), t')
    else
      match readFull r t' n.toNat with
      | (.error e, t'') => (.error (.io e), t'')
      | (.ok buf, t'') => ((codec.unmarshal buf).mapError .json, t'')

/-- Messages, one after the other, up to the first error. -/
def writeFrames (w : ByteStream.Writer σ IoError) : σ → List M → Option FrameError × σ
  | s, [] => (none, s)
  | s, m :: ms =>
    match writeFrame codec w s m with
    | (some e, s') => (some e, s')
    | (none, s') => writeFrames w s' ms

/-- As many messages, one after the other, up to the first error. -/
def readFrames (r : ByteStream.Reader τ IoError) : τ → Nat → Except FrameError (List M) × τ
  | t, 0 => (.ok [], t)
  | t, n + 1 =>
    match readFrame codec r t with
    | (.error e, t') => (.error e, t')
    | (.ok m, t') =>
      match readFrames r t' n with
      | (ms, t'') => (ms.map (m :: ·), t'')

/-! ### One frame -/

variable {codec} {w : ByteStream.Writer σ IoError} {r : ByteStream.Reader τ IoError}

/-- The bytes of a frame. -/
def frame (payload : List UInt8) : List UInt8 := putUint32 (.ofNat payload.length) ++ payload

private theorem readFull_delivering (hr : r.Delivering) {t : τ} {bytes rest : List UInt8} {len : Nat}
    (hpending : r.pending t = bytes ++ rest) (hlen : bytes.length = len) :
    ∃ t', readFull r t len = (.ok bytes, t') ∧ r.pending t' = rest := by
  obtain ⟨hbytes, hrest⟩ := ByteStream.Reader.readFull_delivering hr t len hpending hlen
  refine ⟨_, ?_, hrest⟩
  unfold readFull
  rcases hread : r.readFull t len with ⟨⟨got, e⟩, t'⟩
  rw [hread] at hbytes
  cases hbytes
  rfl

private theorem writeFull_accepting (hw : w.Accepting) (s : σ) (p : List UInt8) :
    ∃ s', writeFull w s p = (none, s') ∧ w.written s' = w.written s ++ p := by
  obtain ⟨hnone, hwritten⟩ := ByteStream.Writer.writeAll_accepting hw .shortWrite s p
  exact ⟨_, Prod.ext hnone rfl, hwritten⟩

private theorem writeFrame_accepting (hw : w.Accepting) {m : M} {payload : List UInt8}
    (hm : codec.marshal m = .ok payload) (hle : payload.length ≤ maxFrameBytes) (s : σ) :
    ∃ s', writeFrame codec w s m = (none, s') ∧ w.written s' = w.written s ++ frame payload := by
  obtain ⟨s₁, hhdr, hwritten₁⟩ := writeFull_accepting hw s (putUint32 (.ofNat payload.length))
  obtain ⟨s₂, hpayload, hwritten₂⟩ := writeFull_accepting hw s₁ payload
  refine ⟨s₂, ?_, by rw [hwritten₂, hwritten₁, List.append_assoc, frame]⟩
  simp only [writeFrame, hm, gt_iff_lt, if_neg (Nat.not_lt.2 hle), hhdr, hpayload]
  rfl

/-- A payload that is too long is refused before anything is written, whatever the writer. -/
theorem writeFrame_tooLarge {m : M} {payload : List UInt8} (hm : codec.marshal m = .ok payload)
    (hgt : maxFrameBytes < payload.length) (s : σ) :
    writeFrame codec w s m = (some (.text "frame too large"), s) := by
  simp only [writeFrame, hm, gt_iff_lt, if_pos hgt]

private theorem length_putUint32 (n : UInt32) : (putUint32 n).length = 4 := rfl

private theorem readFrame_frame (hc : codec.Inverse) (hr : r.Delivering) {m : M} {payload rest : List UInt8}
    (hm : codec.marshal m = .ok payload) (hle : payload.length ≤ maxFrameBytes) {t : τ}
    (hpending : r.pending t = frame payload ++ rest) :
    ∃ t', readFrame codec r t = (.ok m, t') ∧ r.pending t' = rest := by
  rw [frame, List.append_assoc] at hpending
  obtain ⟨t₁, hhdr, hpending₁⟩ := readFull_delivering hr hpending (length_putUint32 _)
  have hlen : (UInt32.ofNat payload.length).toNat = payload.length := by
    have : maxFrameBytes < 2 ^ 32 := by decide
    exact UInt32.toNat_ofNat_of_lt' (Nat.lt_of_le_of_lt hle this)
  obtain ⟨t₂, hpayload, hpending₂⟩ := readFull_delivering hr hpending₁ rfl
  refine ⟨t₂, ?_, hpending₂⟩
  simp only [readFrame, hhdr, uint32_putUint32, gt_iff_lt, hlen, if_neg (Nat.not_lt.2 hle), hpayload, hc m payload hm]
  rfl

/-- A length that is too long is refused when only the four bytes of it have been read. -/
theorem readFrame_tooLarge (hr : r.Delivering) {n : UInt32} {rest : List UInt8} (hgt : maxFrameBytes < n.toNat) {t : τ}
    (hpending : r.pending t = putUint32 n ++ rest) :
    ∃ t', readFrame codec r t = (.error (.text s!"frame length {n} too large"), t') ∧ r.pending t' = rest := by
  obtain ⟨t', hhdr, hpending'⟩ := readFull_delivering hr hpending (length_putUint32 n)
  refine ⟨t', ?_, hpending'⟩
  simp only [readFrame, hhdr, uint32_putUint32, gt_iff_lt, if_pos hgt]

/-! ### All frames -/

/-- Every message is marshalled to a payload that is not too long. -/
def Fits (codec : JsonCodec M) (m : M) : Prop :=
  ∃ payload, codec.marshal m = .ok payload ∧ payload.length ≤ maxFrameBytes

/-- Messages that are written are read again, in their order, and nothing is left. -/
theorem writeFrames_readFrames (hc : codec.Inverse) (hw : w.Accepting) (hr : r.Delivering) {ms : List M}
    (hms : ∀ m ∈ ms, Fits codec m) (s : σ) :
    ∃ s' stream, writeFrames codec w s ms = (none, s') ∧ w.written s' = w.written s ++ stream ∧
      ∀ t rest, r.pending t = stream ++ rest →
        ∃ t', readFrames codec r t ms.length = (.ok ms, t') ∧ r.pending t' = rest := by
  induction ms generalizing s with
  | nil => exact ⟨s, [], rfl, (List.append_nil _).symm, fun t rest hpending => ⟨t, rfl, hpending⟩⟩
  | cons m ms ih =>
    obtain ⟨payload, hm, hle⟩ := hms m (List.mem_cons_self ..)
    obtain ⟨s₁, hframe, hwritten₁⟩ := writeFrame_accepting hw hm hle s
    obtain ⟨s', stream, hframes, hwritten, hread⟩ := ih (fun m hm => hms m (List.mem_cons_of_mem _ hm)) s₁
    refine ⟨s', frame payload ++ stream, ?_, by rw [hwritten, hwritten₁, List.append_assoc], ?_⟩
    · rw [writeFrames, hframe]
      exact hframes
    · intro t rest hpending
      rw [List.append_assoc] at hpending
      obtain ⟨t₁, hframe₁, hpending₁⟩ := readFrame_frame hc hr hm hle hpending
      obtain ⟨t', hframes', hpending'⟩ := hread t₁ rest hpending₁
      refine ⟨t', ?_, hpending'⟩
      rw [List.length_cons, readFrames, hframe₁]
      simp only [hframes']
      rfl

/-- Framing over any writer and any reader: what is written is read, in order and to the last byte, and what is too long
is refused on either side. -/
theorem framing (hc : codec.Inverse) (hw : w.Accepting) (hr : r.Delivering) :
    (∀ ms : List M, (∀ m ∈ ms, Fits codec m) → ∀ s, ∃ s' stream, writeFrames codec w s ms = (none, s') ∧
      w.written s' = w.written s ++ stream ∧ ∀ t, r.pending t = stream →
        ∃ t', readFrames codec r t ms.length = (.ok ms, t') ∧ r.pending t' = []) ∧
    (∀ (w : ByteStream.Writer σ IoError) (m : M) payload s, codec.marshal m = .ok payload →
      maxFrameBytes < payload.length → writeFrame codec w s m = (some (.text "frame too large"), s)) ∧
    ∀ (n : UInt32) rest t, maxFrameBytes < n.toNat → r.pending t = putUint32 n ++ rest →
      ∃ t', readFrame codec r t = (.error (.text s!"frame length {n} too large"), t') ∧ r.pending t' = rest := by
  refine ⟨fun ms hms s => ?_, fun w m payload s hm hgt => writeFrame_tooLarge hm hgt s, fun n rest t hgt hpending =>
    readFrame_tooLarge hr hgt hpending⟩
  obtain ⟨s', stream, hframes, hwritten, hread⟩ := writeFrames_readFrames hc hw hr hms s
  exact ⟨s', stream, hframes, hwritten, fun t hpending => hread t [] (by rw [hpending, List.append_nil])⟩

end

/-! ### Three bytes to a write, two to a read -/

private def shortWriter : ByteStream.Writer (List UInt8) IoError where
  write s p := ((min 3 p.length, none), s ++ p.take 3)
  written := id
  le_length _ p := Nat.min_le_right 3 p.length
  written_write s _ := congrArg (s ++ ·) List.take_eq_take_min

private def shortReader : ByteStream.Reader (List UInt8) IoError where
  read s len := ((s.take (min 2 len), if s.length ≤ min 2 len then some .eof else none), s.drop (min 2 len))
  pending := id
  stall _ := 0
  length_le s len := by
    rw [List.length_take]
    omega
  pending_read s len := (List.take_append_drop _ s).symm
  stall_lt s len hlen hchunk herror := by
    have hlong : ¬ s.length ≤ min 2 len := fun h => by rw [if_pos h] at herror; cases herror
    have hnone : min 2 len = 0 ∨ s = [] := List.take_eq_nil_iff.1 hchunk
    rcases hnone with hzero | rfl
    · omega
    · exact absurd (Nat.zero_le _) hlong

private def plainCodec : JsonCodec (List UInt8) := ⟨.ok, .ok⟩

theorem framing_pieces : ∃ s' stream,
    writeFrames plainCodec shortWriter [] [[0x7b, 0x7d], [], [0x6e, 0x75, 0x6c, 0x6c]] = (none, s') ∧
      shortWriter.written s' = stream ∧
      ∃ t', readFrames plainCodec shortReader stream 3 = (.ok [[0x7b, 0x7d], [], [0x6e, 0x75, 0x6c, 0x6c]], t') ∧
        shortReader.pending t' = [] := by
  have hc : plainCodec.Inverse := fun m payload h => congrArg Except.ok (Except.ok.inj h).symm
  have hw : shortWriter.Accepting := by
    intro s p hp
    have := List.length_pos_iff.2 hp
    exact ⟨by show 0 < min 3 p.length; omega, rfl⟩
  have hr : shortReader.Delivering := by
    intro s len herror
    have hshort : s.length ≤ min 2 len := by
      by_contra hlong
      exact herror (if_neg hlong)
    exact List.drop_eq_nil_iff.2 hshort
  have hfits : ∀ m ∈ ([[0x7b, 0x7d], [], [0x6e, 0x75, 0x6c, 0x6c]] : List (List UInt8)), Fits plainCodec m := by
    intro m hm
    refine ⟨m, rfl, ?_⟩
    have : m.length ≤ 4 := by
      simp only [List.mem_cons, List.not_mem_nil, or_false] at hm
      rcases hm with rfl | rfl | rfl <;> simp
    exact Nat.le_trans this (by decide)
  obtain ⟨s', stream, hframes, hwritten, hread⟩ := (framing hc hw hr).1 _ hfits []
  exact ⟨s', stream, hframes, hwritten, hread stream rfl⟩

end WirelessProgrammer.GoFraming
