import WirelessProgrammer.Drivers.WiFred
import WirelessProgrammer.Fake.WiFred

/-!
# What the fake WiFred makes of the driver's queries

The driver builds a query out of percent-encoded values and the fake takes it apart again.  `decodeQuery_queryText` says
that the fake reads exactly the arguments that went in, in order; from it follows what each request of the driver does
to the fake's configuration.
-/

namespace WirelessProgrammer

open Text

/-! ### Percent decoding -/

private theorem percentDecodeBytes_cons {c : UInt8} (h : c ≠ 37) (l : List UInt8) :
    percentDecodeBytes (c :: l) = (if c = 43 then 32 else c) :: percentDecodeBytes l := by
  match l with
  | [] => rfl
  | [_] => rfl
  | _ :: _ :: _ => rw [percentDecodeBytes, if_neg h]

private theorem fromHex_hexUpper {n : Nat} (h : n < 16) : fromHex (UInt8.ofNat (hexUpper n).toNat) = some (UInt8.ofNat n) := by
  have hall : ∀ i : Fin 16, fromHex (UInt8.ofNat (hexUpper i).toNat) = some (UInt8.ofNat i) := by decide
  exact hall ⟨n, h⟩

private theorem nibbles (b : UInt8) : UInt8.ofNat (b.toNat / 16) <<< 4 ||| UInt8.ofNat (b.toNat % 16) = b := by
  have hall : ∀ i : Fin 256, UInt8.ofNat (i / 16) <<< 4 ||| UInt8.ofNat (i % 16) = UInt8.ofNat i := by decide +kernel
  have := hall ⟨b.toNat, b.toNat_lt⟩
  simpa using this

/-- An encoded byte is decoded, whatever follows. -/
theorem percentDecodeBytes_encodeByte (b : UInt8) (l : List UInt8) :
    percentDecodeBytes ((percentEncodeByte b).map (fun c => UInt8.ofNat c.toNat) ++ l) = b :: percentDecodeBytes l := by
  have hb : b.toNat < 256 := b.toNat_lt
  rcases percentEncodeByte_cases b with ⟨hun, heq⟩ | heq
  · have hlt := isUnreserved_lt hun
    have hchar : (Char.ofNat b.toNat).toNat = b.toNat := by
      have hvalid : b.toNat.isValidChar := .inl (by omega)
      rw [Char.ofNat, dif_pos hvalid]
      rfl
    have hne : b ≠ 37 ∧ b ≠ 43 := by
      constructor
      · rintro rfl
        exact absurd hun (by decide)
      · rintro rfl
        exact absurd hun (by decide)
    rw [heq, List.map_singleton, hchar, List.singleton_append, UInt8.ofNat_toNat, percentDecodeBytes_cons hne.1, if_neg hne.2]
  · have hpercent : UInt8.ofNat '%'.toNat = 37 := rfl
    rw [heq]
    simp only [List.map_cons, List.map_nil, List.cons_append, List.nil_append, hpercent]
    rw [percentDecodeBytes, if_pos rfl, fromHex_hexUpper (by omega), fromHex_hexUpper (by omega)]
    simp only [nibbles]

/-- Decoding an encoded value gives it back. -/
theorem percentDecode_percentEncode (s : String) : percentDecode (percentEncode s).toList = s := by
  have hbytes : ∀ l : List UInt8,
      percentDecodeBytes ((l.flatMap percentEncodeByte).map fun c => UInt8.ofNat c.toNat) = l := by
    intro l
    induction l with
    | nil => rfl
    | cons b l ih => rw [List.flatMap_cons, List.map_append, percentDecodeBytes_encodeByte, ih]
  have hascii : ∀ c ∈ (percentEncode s).toList, c.toNat < 128 := by
    intro c hc
    rcases mem_percentEncode hc with h | rfl
    · exact isUnreserved_lt h
    · decide
  rw [percentDecode, flatMap_utf8EncodeChar hascii, toList_percentEncode, hbytes, fromUtf8Lossy_utf8Bytes,
    String.ofList_toList]

/-! ### Queries -/

/-- A key that stands for itself in a query. -/
def PlainKey (key : String) : Prop := key.toList ≠ [] ∧ ∀ c ∈ key.toList, isUnreserved c = true

instance (key : String) : Decidable (PlainKey key) :=
  @instDecidableAnd _ _ _ (List.decidableBAll (fun c => isUnreserved c = true) key.toList)

/-- The key of a function mapping. -/
theorem plainKey_function (index : UInt8) : PlainKey ("f" ++ toString index) := by
  have hkey : ("f" ++ toString index).toList = 'f' :: (toString index.toNat).toList := String.toList_append
  constructor
  · rw [hkey]
    exact List.cons_ne_nil _ _
  · intro c hc
    rw [hkey, List.mem_cons] at hc
    rcases hc with rfl | hc
    · rfl
    · simp [isUnreserved, Char.isAlphanum, isDigit_of_mem_toString hc]

def pairText (p : String × String) : List Char := p.1.toList ++ '=' :: (percentEncode p.2).toList

def queryText : List (String × String) → List Char
  | [] => []
  | p :: l => pairText p ++ l.flatMap fun q => '&' :: pairText q

private theorem not_mem_pairText {p : String × String} (hkey : PlainKey p.1) {c : Char} (h : c ∈ pairText p) :
    decide (c = '&') = false := by
  have hun : ∀ c : Char, isUnreserved c = true → c ≠ '&' := by
    rintro c hc rfl
    exact absurd hc (by decide)
  rw [decide_eq_false_iff_not]
  rcases List.mem_append.1 h with h | h
  · exact hun c (hkey.2 c h)
  · rcases List.mem_cons.1 h with rfl | h
    · decide
    · rcases mem_percentEncode h with h | rfl
      · exact hun c h
      · decide

/-- The pieces of a query are the arguments that it was built from. -/
theorem splitBy_queryText {p : String × String} {l : List (String × String)} (h : ∀ q ∈ p :: l, PlainKey q.1) :
    splitBy (· = '&') (queryText (p :: l)) = (p :: l).map pairText := by
  induction l generalizing p with
  | nil =>
    rw [queryText, List.flatMap_nil, List.append_nil]
    exact splitBy_eq_singleton fun c hc => not_mem_pairText (h p (by simp)) hc
  | cons q l ih =>
    have hrest : queryText (p :: q :: l) = pairText p ++ '&' :: queryText (q :: l) := by simp [queryText]
    rw [hrest, splitBy_append_cons (fun c hc => not_mem_pairText (h p (by simp)) hc) rfl,
      ih fun r hr => h r (List.mem_cons_of_mem _ hr)]
    rfl

/-- A piece of a query as the fake takes it apart; an empty one is skipped. -/
def decodePiece (piece : List Char) : Option (String × String) :=
  if piece = [] then none
  else
    let raw := (splitOnce '=' piece).getD (piece, [])
    some (percentDecode raw.1, percentDecode raw.2)

/-- The arguments of a query, decoded. -/
def decodeQuery (query : List Char) : List (String × String) := (splitBy (· = '&') query).filterMap decodePiece

/-- An argument is read as it went in. -/
theorem decodePiece_pairText {p : String × String} (hkey : PlainKey p.1) : decodePiece (pairText p) = some p := by
  have hne : pairText p ≠ [] := by simp [pairText]
  have hnot : '=' ∉ p.1.toList := fun h => absurd (hkey.2 _ h) (by decide)
  have hdecode : percentDecode p.1.toList = p.1 := by
    have := percentDecode_percentEncode p.1
    rwa [percentEncode_eq_self hkey.2] at this
  rw [decodePiece, if_neg hne]
  simp only [pairText, splitOnce_append_cons hnot, Option.getD_some, hdecode, percentDecode_percentEncode]

private theorem decodeQuery_queryText {l : List (String × String)} (h : ∀ q ∈ l, PlainKey q.1) :
    decodeQuery (queryText l) = l := by
  have hpieces : ∀ l : List (String × String), (∀ q ∈ l, PlainKey q.1) → (l.map pairText).filterMap decodePiece = l := by
    intro l hl
    induction l with
    | nil => rfl
    | cons q l ih =>
      rw [List.map_cons, List.filterMap_cons_some (decodePiece_pairText (hl q List.mem_cons_self)),
        ih fun r hr => hl r (List.mem_cons_of_mem q hr)]
  cases l with
  | nil => rfl
  | cons p l => rw [decodeQuery, splitBy_queryText h, hpieces _ h]

private theorem QueryState.applyPiece_eq (s : QueryState) (piece : List Char) :
    s.applyPiece piece = (decodePiece piece).elim s fun p => s.applyPair p.1 p.2 := by
  unfold QueryState.applyPiece decodePiece
  by_cases h : piece = []
  · rw [if_pos h, if_pos h]
    rfl
  · rw [if_neg h, if_neg h]
    rfl

/-- The fake applies the decoded arguments, in order. -/
theorem applyQuery_eq (d : WifredFake) (query : List Char) :
    d.applyQuery query = ((decodeQuery query).foldl (fun s p => s.applyPair p.1 p.2) (QueryState.init d)).finish := by
  have hfold : ∀ (pieces : List (List Char)) (s : QueryState), pieces.foldl QueryState.applyPiece s =
      (pieces.filterMap decodePiece).foldl (fun s p => s.applyPair p.1 p.2) s := by
    intro pieces
    induction pieces with
    | nil =>
      intro s
      rfl
    | cons piece pieces ih =>
      intro s
      rw [List.foldl_cons, s.applyPiece_eq, List.filterMap_cons, ih]
      cases decodePiece piece <;> rfl
  rw [WifredFake.applyQuery, hfold, decodeQuery]

theorem applyQuery_queryText (d : WifredFake) {p : String × String} {l : List (String × String)}
    (h : ∀ q ∈ p :: l, PlainKey q.1) :
    d.applyQuery (queryText (p :: l)) =
      ((p :: l).foldl (fun s q => s.applyPair q.1 q.2) (QueryState.init d)).finish := by
  rw [applyQuery_eq, decodeQuery_queryText h]

/-! ### The codec of queries -/

def isHexDigit (c : Char) : Bool := "0123456789ABCDEF".toList.contains c

/-- A text of unreserved characters and of percent signs with two hexadecimal digits each. -/
inductive Escaped : List Char → Prop
  | nil : Escaped []
  | keep {c : Char} {l : List Char} (hc : isUnreserved c = true) (hl : Escaped l) : Escaped (c :: l)
  | escape {x y : Char} {l : List Char} (hx : isHexDigit x = true) (hy : isHexDigit y = true) (hl : Escaped l) :
    Escaped ('%' :: x :: y :: l)

private theorem isHexDigit_hexUpper {n : Nat} (h : n < 16) : isHexDigit (hexUpper n) = true := by
  have hall : ∀ i : Fin 16, isHexDigit (hexUpper i) = true := by decide
  exact hall ⟨n, h⟩

private theorem escaped_percentEncode (s : String) : Escaped (percentEncode s).toList := by
  rw [toList_percentEncode]
  induction utf8Bytes s with
  | nil => exact Escaped.nil
  | cons b l ih =>
    have hb : b.toNat < 256 := b.toNat_lt
    rw [List.flatMap_cons]
    rcases percentEncodeByte_cases b with ⟨hun, heq⟩ | heq
    · rw [heq]
      exact Escaped.keep hun ih
    · have hhigh : b.toNat / 16 < 16 := by omega
      have hlow : b.toNat % 16 < 16 := by omega
      rw [heq]
      exact Escaped.escape (isHexDigit_hexUpper hhigh) (isHexDigit_hexUpper hlow) ih

/-- The keys of the driver's queries. -/
inductive QueryKey
  | throttleName
  | loco
  | address
  | mode
  | direction
  | longAddress
  | function (index : UInt8)
  | serverName
  | serverPort
  | automatic
  | remove
  | wifiSsid
  | wifiKey
  deriving DecidableEq, Repr

def QueryKey.text : QueryKey → String
  | throttleName => "throttleName"
  | loco => "loco"
  | address => "loco.address"
  | mode => "loco.mode"
  | direction => "loco.direction"
  | longAddress => "loco.longAddress"
  | function index => "f" ++ toString index
  | serverName => "loco.serverName"
  | serverPort => "loco.serverPort"
  | automatic => "loco.automatic"
  | remove => "remove"
  | wifiSsid => "wifiSSID"
  | wifiKey => "wifiKEY"

private theorem QueryKey.plainKey_text (k : QueryKey) : PlainKey k.text := by
  cases k with
  | function index => exact plainKey_function index
  | _ => decide

/-- An encoded value holds no delimiter and is decoded to itself, and the arguments of a query are read back from its
text, which is how the fake reads them. -/
theorem query_codec :
    (∀ s, Escaped (percentEncode s).toList ∧ percentDecode (percentEncode s).toList = s) ∧
    (∀ l : List (QueryKey × String),
      decodeQuery (queryText (l.map fun p => (p.1.text, p.2))) = l.map fun p => (p.1.text, p.2)) ∧
    ∀ (d : WifredFake) (query : List Char), d.applyQuery query =
      ((decodeQuery query).foldl (fun s p => s.applyPair p.1 p.2) (QueryState.init d)).finish := by
  refine ⟨?_, ?_, applyQuery_eq⟩
  · intro s
    exact ⟨escaped_percentEncode s, percentDecode_percentEncode s⟩
  · intro l
    apply decodeQuery_queryText
    intro q hq
    obtain ⟨p, -, rfl⟩ := List.mem_map.1 hq
    exact p.1.plainKey_text

/-! ### The fake's arguments -/

namespace QueryState

variable (s : QueryState) (value : String)

theorem applyPair_throttleName :
    s.applyPair "throttleName" value = s.onFake fun d => { d with cfg := { d.cfg with throttleName := some value } } := rfl

private theorem applyPair_loco_eq :
    s.applyPair "loco" value = match parseUnsigned 10 64 value.toList with
      | .ok n => if 1 ≤ n then s.onFake fun d => d.selectLoco (n - 1) else s
      | .error _ => s := rfl

theorem applyPair_loco {i : Nat} (h : i + 1 < 2 ^ 64) :
    s.applyPair "loco" (toString (i + 1)) = s.onFake fun d => d.selectLoco i := by
  rw [applyPair_loco_eq, parseUnsigned_toString h]
  simp

theorem applyPair_address {a : Int} (hlo : -2 ^ 63 ≤ a) (hhi : a < 2 ^ 63) :
    s.applyPair "loco.address" (toString a) = s.onFake fun d => d.onActive fun l => { l with address := a } := by
  show (s.onFake fun d => d.onActive fun l =>
    { l with address := (parseSigned 10 64 (toString a).toList).toOption.getD (-1) }) = _
  rw [parseSigned_toString hlo hhi]
  rfl

theorem applyPair_mode :
    s.applyPair "loco.mode" value = s.onFake fun d => d.onActive fun l => { l with mode := some value } := rfl

theorem applyPair_direction (dir : UInt8) :
    s.applyPair "loco.direction" (toString dir) =
      s.onFake fun d => d.onActive fun l => { l with direction := some dir } := by
  show (s.onFake fun d => d.onActive fun l =>
    { l with direction := (parseUnsigned 10 8 (toString dir.toNat).toList).toOption.map UInt8.ofNat }) = _
  rw [parseUnsigned_toString dir.toNat_lt]
  simp [Except.toOption]

theorem applyPair_longAddress :
    s.applyPair "loco.longAddress" "on" = s.onFake fun d => d.onActive fun l => { l with longAddress := some true } := rfl

theorem applyPair_serverName :
    s.applyPair "loco.serverName" value = s.onFake fun d => d.onServer fun v => { v with name := value } := rfl

theorem applyPair_serverPort (port : UInt16) :
    s.applyPair "loco.serverPort" (toString port) = s.onFake fun d => d.onServer fun v => { v with port := port } := by
  show (s.onFake fun d => d.onServer fun v =>
    { v with port := UInt16.ofNat ((parseUnsigned 10 16 (toString port.toNat).toList).toOption.getD 0) }) = _
  rw [parseUnsigned_toString port.toNat_lt]
  simp [Except.toOption]

theorem applyPair_automatic :
    s.applyPair "loco.automatic" "on" = s.onFake fun d => d.onServer fun v => { v with automatic := true } := rfl

theorem applyPair_remove :
    s.applyPair "remove" value = s.onFake fun d =>
      { d with cfg := { d.cfg with networks := d.cfg.networks.filter (·.ssid ≠ value) } } := rfl

theorem applyPair_ssid : s.applyPair "wifiSSID" value = { s with pendingSsid := some value } := rfl

theorem applyPair_key : s.applyPair "wifiKEY" value = { s with pendingKey := some value } := rfl

/-- No other key starts with an `f`. -/
theorem applyPair_function (fm : FunctionMapping) :
    s.applyPair ("f" ++ toString fm.index) (toString fm.value) =
      s.onFake fun d => d.onActive fun l => { l with functions := upsertFunction fm.index fm.value l.functions } := by
  have hkey : ("f" ++ toString fm.index).toList = 'f' :: (toString fm.index.toNat).toList := String.toList_append
  have hfun : isFunctionKey ("f" ++ toString fm.index).toList = true := by
    rw [hkey, isFunctionKey, toList_toString_nat]
    simp [Nat.toDigits_ne_nil]
    exact fun c hc => Nat.isDigit_of_mem_toDigits (by decide) (by decide) hc
  have happly : s.applyFunction ("f" ++ toString fm.index) (toString fm.value) =
      s.onFake fun d => d.onActive fun l => { l with functions := upsertFunction fm.index fm.value l.functions } := by
    have hvalue : UInt8.ofNat ((parseUnsigned 10 8 (toString fm.value).toList).toOption.getD 0) = fm.value := by
      show UInt8.ofNat ((parseUnsigned 10 8 (toString fm.value.toNat).toList).toOption.getD 0) = _
      rw [parseUnsigned_toString fm.value.toNat_lt]
      simp [Except.toOption]
    have hindex : UInt8.ofNat ((parseUnsigned 10 8 (toString fm.index.toNat).toList).toOption.getD 0) = fm.index := by
      rw [parseUnsigned_toString fm.index.toNat_lt]
      simp [Except.toOption]
    unfold applyFunction
    simp only [hkey, List.drop_one, List.tail_cons, hvalue, hindex]
  rw [← happly]
  generalize "f" ++ toString fm.index = key at hkey hfun
  unfold applyPair
  split
  case h_13 => exact if_pos hfun
  all_goals exact absurd hfun (by decide)

end QueryState

end WirelessProgrammer
