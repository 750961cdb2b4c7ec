import WirelessProgrammer.Lib.Cell
import WirelessProgrammer.Daemon.Dispatch

/-!
# Entries that a caller has named

The calls that write the candidate cache, in any order and with any results: the scans, and the calls that remember a
target which a caller has named.  A remembered target is in the cache after a later scan of its mode if and only if the
last call that has stored under its key is of that mode, and no Z21 scan has followed when that call is itself a Z21 scan
(`manual_survives_iff`).
-/

namespace WirelessProgrammer

open Effect

/-! ### One write -/

namespace CacheWrite

/-- What a write stores under a key. -/
def givenAt (k : String × String) (w : CacheWrite) : Option CachedCandidate :=
  (w.stored.filter fun c => (c.driver, c.key) = k).getLast?

/-- The entries that a write leaves in the cache, under a key it does not store. -/
def keeps : CacheWrite → CachedCandidate → Bool
  | scanned mode _, c => !clears mode c
  | manual _, _ => true

private theorem lookup_insert (cache : Cache) (c : CachedCandidate) (k : String × String) :
    (insert cache c).lookup k = if (c.driver, c.key) = k then some c else cache.lookup k := by
  split
  · rename_i h
    rw [← h]
    exact AList.lookup_insert _
  · rename_i h
    exact AList.lookup_insert_ne (Ne.symm h)

theorem lookup_foldl_insert (found : List CachedCandidate) (cache : Cache) (k : String × String) :
    (found.foldl insert cache).lookup k =
      (found.filter fun c => (c.driver, c.key) = k).getLast?.or (cache.lookup k) := by
  induction found using List.reverseRecOn with
  | nil => rfl
  | append_singleton found c ih =>
    rw [List.foldl_append, List.foldl_cons, List.foldl_nil, lookup_insert, ih, List.filter_append]
    by_cases hk : (c.driver, c.key) = k
    · rw [if_pos hk, List.filter_cons_of_pos (by simpa using hk), List.filter_nil, List.getLast?_concat]
      rfl
    · rw [if_neg hk, List.filter_cons_of_neg (by simpa using hk), List.filter_nil, List.append_nil]

private theorem lookup_retain (keep : CachedCandidate → Bool) (cache : Cache) (k : String × String) :
    (retain keep cache).lookup k = (cache.lookup k).filter keep := by
  ext c
  rw [Option.filter_eq_some_iff]
  exact mem_lookup_retain

/-- A write is a write to the cell of each key. -/
theorem lookup_apply (w : CacheWrite) (cache : Cache) (k : String × String) :
    (w.apply cache).lookup k = Cell.write (givenAt k) keeps (cache.lookup k) w := by
  cases w with
  | scanned mode found =>
    show (found.foldl insert (retain (fun v => !clears mode v) cache)).lookup k = _
    rw [lookup_foldl_insert, lookup_retain]
    rfl
  | manual c =>
    show (([c] : List CachedCandidate).foldl insert cache).lookup k = _
    rw [lookup_foldl_insert]
    have hkeep : (cache.lookup k).filter (keeps (manual c)) = cache.lookup k := by cases cache.lookup k <;> rfl
    rw [Cell.write, hkeep]
    rfl

end CacheWrite

/-! ### Calls -/

/-- A call that writes the candidate cache. -/
inductive CacheCall
  | scan (mode : ReachMode)
  | z21Host (key : String) (label : Option String)
  | usbPort (port : String) (label : Option String)
  | lanHost (host : String) (label : Option String)

namespace CacheCall

def code : CacheCall → DaemonM Unit
  | scan mode => do let _ ← scanMode mode
  | z21Host key label => cacheZ21Host key label
  | usbPort port label => cacheUsbPort port label
  | lanHost host label => cacheLanHost host label

def mode : CacheCall → ReachMode
  | scan mode => mode
  | z21Host .. => .z21
  | usbPort .. => .usb
  | lanHost .. => .lan

/-- The driver and the key that a call remembers for its caller. -/
def remembers : CacheCall → Option (String × String)
  | scan _ => none
  | z21Host key _ => some (Driver.fred.idStr, key)
  | usbPort port _ => some (Driver.longFred.idStr, port)
  | lanHost host _ => some (Driver.longFred.idStr, host)

end CacheCall

/-- The cache writes of a run. -/
def cacheWrites (tr : List (Event Op Op.Res)) : List CacheWrite :=
  tr.filterMap fun e => match e.1 with
    | .store w => some w
    | _ => none

/-- A call with one of its runs. -/
structure CacheCallRun where
  call : CacheCall
  trace : List (Event Op Op.Res)
  run : Prog.Run call.code trace ()

namespace CacheCallRun

/-- What the call has done to the cache. -/
def apply (cache : Cache) (x : CacheCallRun) : Cache := (cacheWrites x.trace).foldl (fun cache w => w.apply cache) cache

/-- The call has stored an entry under the key. -/
def Stores (k : String × String) (x : CacheCallRun) : Prop :=
  ∃ w ∈ cacheWrites x.trace, ∃ c ∈ w.stored, (c.driver, c.key) = k

/-- The call is a Z21 scan that has not failed. -/
def RescansZ21 (x : CacheCallRun) : Prop := x.call = .scan .z21 ∧ cacheWrites x.trace ≠ []

end CacheCallRun

/-- The cache after calls. -/
def cacheAfter (cache : Cache) (calls : List CacheCallRun) : Cache := calls.foldl CacheCallRun.apply cache

/-- A remembered target is there, with its mode, after every later scan of that mode. -/
def ManualSurvives (cache : Cache) (calls : List CacheCallRun) : Prop :=
  ∀ before x between y after k, calls = before ++ x :: (between ++ y :: after) → x.call.remembers = some k →
    y.call = .scan x.call.mode →
      ∃ c ∈ (cacheAfter cache (before ++ x :: (between ++ [y]))).lookup k, c.mode = x.call.mode

/-- The last call that has stored under the key is of the given mode; if it is a Z21 scan, no Z21 scan has followed. -/
def LastStored (mode : ReachMode) (k : String × String) (calls : List CacheCallRun) : Prop :=
  ∃ before x after, calls = before ++ x :: after ∧ x.Stores k ∧ (∀ y ∈ after, ¬ y.Stores k) ∧ x.call.mode = mode ∧
    (x.call = .scan .z21 → ∀ y ∈ after, ¬ y.RescansZ21)

/-- From the call that remembers a target to each later scan of its mode, that mode is stored last. -/
def ManualUndisturbed (calls : List CacheCallRun) : Prop :=
  ∀ before x between y after k, calls = before ++ x :: (between ++ y :: after) → x.call.remembers = some k →
    y.call = .scan x.call.mode → LastStored x.call.mode k (x :: (between ++ [y]))

/-! ### What a call writes -/

private theorem cacheWrites_append (t₁ t₂ : List (Event Op Op.Res)) :
    cacheWrites (t₁ ++ t₂) = cacheWrites t₁ ++ cacheWrites t₂ := List.filterMap_append

/-- What scans of a mode store. -/
def ScanWrites (mode : ReachMode) (ws : List CacheWrite) : Prop :=
  ws = [] ∨ ∃ found, ws = [.scanned mode found] ∧ ∀ c ∈ found, c.mode = mode ∧ c.manual = false

private theorem storeScanned_writes {mode : ReachMode} {found : List CachedCandidate} {tr : List (Event Op Op.Res)}
    {r : Except DriverError (List CachedCandidate)} (hfound : ∀ c ∈ found, c.mode = mode ∧ c.manual = false)
    (h : Prog.Run (storeScanned mode found) tr r) : ScanWrites mode (cacheWrites tr) := by
  cases h with
  | op h =>
    cases h
    exact .inr ⟨found, rfl, hfound⟩

private theorem scanWired_writes {α : Type} {name : String} {mode : ReachMode} {driver : Driver}
    {key label : α → String} {discovered : Except String (List α)} {tr : List (Event Op Op.Res)}
    {r : Except DriverError (List CachedCandidate)}
    (h : Prog.Run (scanWired name mode (fun a => wiredCandidate driver mode false (key a) (label a)) discovered) tr r) :
    ScanWrites mode (cacheWrites tr) := by
  cases discovered with
  | error e =>
    cases h
    exact .inl rfl
  | ok hosts =>
    refine storeScanned_writes (fun c hc => ?_) h
    obtain ⟨a, -, rfl⟩ := List.mem_map.1 hc
    exact ⟨rfl, rfl⟩

private theorem scan_writes {tr : List (Event Op Op.Res)} {r : Except DriverError (List CachedCandidate)}
    (h : Prog.Run scan tr r) : ScanWrites .ap (cacheWrites tr) := by
  obtain ⟨t₁, t₂, res, rfl, h₁, h₂⟩ := Prog.run_bind.1 h
  have hradio : cacheWrites t₁ = [] := by
    cases h₁ with | op h₁ => cases h₁ with | op h₁ => cases h₁ with | op h₁ => cases h₁; rfl
  rw [cacheWrites_append, hradio, List.nil_append]
  cases res with
  | error e =>
    cases h₂
    exact .inl rfl
  | ok results =>
    refine storeScanned_writes (fun c hc => ?_) h₂
    obtain ⟨s, -, hs⟩ := List.mem_filterMap.1 hc
    obtain ⟨d, -, rfl⟩ := Option.map_eq_some_iff.1 hs
    exact ⟨rfl, rfl⟩

private theorem scanMode_writes {mode : ReachMode} {tr : List (Event Op Op.Res)}
    {r : Except DriverError (List CachedCandidate)} (h : Prog.Run (scanMode mode) tr r) :
    ScanWrites mode (cacheWrites tr) := by
  cases mode with
  | ap => exact scan_writes h
  | lan =>
    cases h with
    | op h =>
      have hwired := scanWired_writes h
      exact hwired
  | usb =>
    cases h with
    | op h =>
      have hwired := scanWired_writes h
      exact hwired
  | z21 =>
    cases h with
    | op h =>
      have hwired := scanWired_writes h
      exact hwired

namespace CacheCallRun

variable {x y : CacheCallRun} {k : String × String} {c : CachedCandidate}

/-- What a call stores under a key. -/
def givenAt (k : String × String) (x : CacheCallRun) : Option CachedCandidate :=
  ((cacheWrites x.trace).flatMap CacheWrite.stored |>.filter fun c => (c.driver, c.key) = k).getLast?

/-- The entries that a call leaves in the cache, under a key it does not store. -/
def keeps (x : CacheCallRun) (c : CachedCandidate) : Bool := (cacheWrites x.trace).all fun w => w.keeps c

/-- A scan writes once or not at all; a call that remembers a target stores it. -/
theorem writes (x : CacheCallRun) : (∃ mode, x.call = .scan mode ∧ ScanWrites mode (cacheWrites x.trace)) ∨
    ∃ k c, x.call.remembers = some k ∧ cacheWrites x.trace = [.manual c] ∧ (c.driver, c.key) = k ∧
      c.mode = x.call.mode ∧ c.manual = true := by
  obtain ⟨call, tr, h⟩ := x
  cases call with
  | scan mode =>
    obtain ⟨t₁, t₂, res, rfl, h₁, h₂⟩ := Prog.run_bind.1 h
    cases h₂
    refine .inl ⟨mode, rfl, ?_⟩
    show ScanWrites mode (cacheWrites (t₁ ++ []))
    rw [List.append_nil]
    exact scanMode_writes h₁
  | z21Host key label =>
    cases h with | op h => cases h; exact .inr ⟨_, _, rfl, rfl, rfl, rfl, rfl⟩
  | usbPort port label =>
    cases h with | op h => cases h; exact .inr ⟨_, _, rfl, rfl, rfl, rfl, rfl⟩
  | lanHost host label =>
    cases h with | op h => cases h; exact .inr ⟨_, _, rfl, rfl, rfl, rfl, rfl⟩

private theorem one_write (x : CacheCallRun) : cacheWrites x.trace = [] ∨ ∃ w, cacheWrites x.trace = [w] := by
  rcases x.writes with ⟨mode, -, hnone | ⟨found, hfound, -⟩⟩ | ⟨k, c, -, hc, -⟩
  · exact .inl hnone
  · exact .inr ⟨_, hfound⟩
  · exact .inr ⟨_, hc⟩

/-- A call is a write to the cell of each key. -/
theorem lookup_apply (cache : Cache) (x : CacheCallRun) (k : String × String) :
    (x.apply cache).lookup k = Cell.write (givenAt k) keeps (cache.lookup k) x := by
  unfold apply Cell.write givenAt keeps
  rcases x.one_write with h | ⟨w, h⟩
  · rw [h]
    show cache.lookup k = (none : Option CachedCandidate).or ((cache.lookup k).filter fun _ => true)
    cases cache.lookup k <;> rfl
  · rw [h]
    show (w.apply cache).lookup k = _
    rw [CacheWrite.lookup_apply, Cell.write, CacheWrite.givenAt]
    simp

private theorem givenAt_eq_none_iff : givenAt k x = none ↔ ¬ x.Stores k := by
  unfold givenAt Stores
  rw [List.getLast?_eq_none_iff, List.filter_eq_nil_iff]
  constructor
  · rintro h ⟨w, hw, c, hc, hk⟩
    exact h c (List.mem_flatMap.2 ⟨w, hw, hc⟩) (decide_eq_true hk)
  · rintro h c hc hk
    obtain ⟨w, hw, hc⟩ := List.mem_flatMap.1 hc
    exact h ⟨w, hw, c, hc, of_decide_eq_true hk⟩

private theorem mem_of_givenAt (h : givenAt k x = some c) : ∃ w ∈ cacheWrites x.trace, c ∈ w.stored := by
  have hc := (List.mem_filter.1 (List.mem_of_getLast? h)).1
  exact List.mem_flatMap.1 hc

/-- The entries that a call stores have its mode, and are manual unless the call is a scan. -/
theorem givenAt_spec (h : givenAt k x = some c) :
    c.mode = x.call.mode ∧ (c.manual = false ↔ ∃ mode, x.call = .scan mode) := by
  obtain ⟨w, hw, hc⟩ := mem_of_givenAt h
  rcases x.writes with ⟨mode, hcall, hnone | ⟨found, hfound, hall⟩⟩ | ⟨k, c', hk, hwrites, -, hmode, hmanual⟩
  · rw [hnone] at hw
    exact absurd hw List.not_mem_nil
  · rw [hfound, List.mem_singleton] at hw
    subst hw
    rw [hcall]
    exact ⟨(hall c hc).1, by simp [(hall c hc).2]⟩
  · rw [hwrites, List.mem_singleton] at hw
    subst hw
    obtain rfl : c = c' := List.mem_singleton.1 hc
    refine ⟨hmode, fun hfalse => absurd (hmanual.symm.trans hfalse) nofun, ?_⟩
    rintro ⟨mode, hscan⟩
    rw [hscan] at hk
    cases hk

/-- Only a radio scan clears an entry of its own mode, and a Z21 scan one that is not manual. -/
theorem keeps_iff (hc : c.mode ≠ .ap) : x.keeps c = true ↔ (c.mode = .z21 → c.manual = false → ¬ x.RescansZ21) := by
  unfold keeps RescansZ21
  rcases x.writes with ⟨mode, hcall, hnone | ⟨found, hfound, -⟩⟩ | ⟨k, c', hk, hwrites, -⟩
  · simp [hnone]
  · rw [hfound, hcall]
    cases mode <;> cases hm : c.mode <;> cases hmanual : c.manual <;>
      simp_all [CacheWrite.keeps, CacheWrite.clears]
  · rw [hwrites]
    have hscan : x.call ≠ .scan .z21 := by
      rintro hscan
      rw [hscan] at hk
      cases hk
    simp [CacheWrite.keeps, hscan]

end CacheCallRun

private theorem lookup_cacheAfter (cache : Cache) (calls : List CacheCallRun) (k : String × String) :
    (cacheAfter cache calls).lookup k =
      calls.foldl (Cell.write (CacheCallRun.givenAt k) CacheCallRun.keeps) (cache.lookup k) := by
  induction calls generalizing cache with
  | nil => rfl
  | cons x calls ih => rw [cacheAfter, List.foldl_cons, List.foldl_cons, ← CacheCallRun.lookup_apply, ← ih]; rfl

private theorem cacheAfter_append (cache : Cache) (xs ys : List CacheCallRun) :
    cacheAfter cache (xs ++ ys) = cacheAfter (cacheAfter cache xs) ys := List.foldl_append

/-- From the call that remembers a target on, the entry under its key is of the mode of the target if and only if that
mode is stored last. -/
theorem lookup_mode_iff {cache : Cache} {x : CacheCallRun} {calls : List CacheCallRun} {k : String × String}
    (hx : x.call.remembers = some k) :
    (∃ c ∈ (cacheAfter cache (x :: calls)).lookup k, c.mode = x.call.mode) ↔
      LastStored x.call.mode k (x :: calls) := by
  have hap : x.call.mode ≠ .ap := by
    cases hcall : x.call with
    | scan mode => rw [hcall] at hx; cases hx
    | z21Host key label => exact nofun
    | usbPort port label => exact nofun
    | lanHost host label => exact nofun
  have hstores : x.Stores k := by
    rcases x.writes with ⟨mode, hcall, -⟩ | ⟨k', c, hk, hwrites, hc, -⟩
    · rw [hcall] at hx
      cases hx
    · obtain rfl : k' = k := Option.some.inj (hk.symm.trans hx)
      exact ⟨_, by rw [hwrites]; exact List.mem_singleton_self _, c, List.mem_singleton_self _, hc⟩
  constructor
  · rintro ⟨c, hc, hmode⟩
    rw [Option.mem_def, lookup_cacheAfter, Cell.foldl_eq_some_iff] at hc
    rcases hc with ⟨xs, z, ys, heq, hz, hspared⟩ | ⟨-, hspared⟩
    · obtain ⟨hzmode, hzmanual⟩ := CacheCallRun.givenAt_spec hz
      refine ⟨xs, z, ys, heq, ?_, fun y hy => ?_, hzmode.symm.trans hmode, fun hscan y hy => ?_⟩
      · by_contra hno
        rw [← CacheCallRun.givenAt_eq_none_iff, hz] at hno
        cases hno
      · exact CacheCallRun.givenAt_eq_none_iff.1 (hspared y hy).1
      · have hmanual : c.manual = false := hzmanual.2 ⟨_, hscan⟩
        have hz21 : c.mode = .z21 := by rw [hzmode, hscan]; rfl
        exact (CacheCallRun.keeps_iff (hmode ▸ hap)).1 (hspared y hy).2 hz21 hmanual
    · exact absurd hstores (CacheCallRun.givenAt_eq_none_iff.1 (hspared x (List.mem_cons_self ..)).1)
  · rintro ⟨xs, z, ys, heq, hz, hys, hmode, hrescan⟩
    obtain ⟨c, hc⟩ := Option.ne_none_iff_exists'.1 fun h => CacheCallRun.givenAt_eq_none_iff.1 h hz
    obtain ⟨hcmode, hmanual⟩ := CacheCallRun.givenAt_spec hc
    refine ⟨c, ?_, hcmode.trans hmode⟩
    rw [Option.mem_def, lookup_cacheAfter, Cell.foldl_eq_some_iff]
    refine .inl ⟨xs, z, ys, heq, hc, fun y hy => ⟨CacheCallRun.givenAt_eq_none_iff.2 (hys y hy), ?_⟩⟩
    refine (CacheCallRun.keeps_iff (hcmode.trans hmode ▸ hap)).2 fun hz21 hfalse => ?_
    -- an entry of mode `z21` that is not manual comes from a Z21 scan
    obtain ⟨mode, hcall⟩ := hmanual.1 hfalse
    have hscan : mode = .z21 := by
      rw [← hz21, hcmode, hcall]
      rfl
    exact hrescan (hscan ▸ hcall) y hy

/-- In every sequence of calls, what callers have named survives the scans of its mode if and only if that mode is what
is stored last under the key, and not by a Z21 scan before another one. -/
theorem manual_survives_iff (cache : Cache) (calls : List CacheCallRun) :
    ManualSurvives cache calls ↔ ManualUndisturbed calls := by
  constructor
  · rintro h before x between y after k hcalls hx hy
    have hc := h before x between y after k hcalls hx hy
    rw [cacheAfter_append] at hc
    exact (lookup_mode_iff hx).1 hc
  · rintro h before x between y after k hcalls hx hy
    rw [cacheAfter_append]
    exact (lookup_mode_iff hx).2 (h before x between y after k hcalls hx hy)

/-! ### A Z21 that answers one scan of two -/

private def layout : Z21Host := ⟨"", "192.168.0.111", 21105, none⟩

private def named : CacheCallRun := ⟨.z21Host layout.key none, _, .op (.ret _)⟩

private def rescan (hosts : List Z21Host) : CacheCallRun :=
  ⟨.scan .z21, [⟨.world .discoverZ21, .ok hosts⟩,
    ⟨.store (.scanned .z21 (hosts.map fun h : Z21Host => wiredCandidate .fred .z21 false h.key h.label)), ()⟩],
    .op (.op (.ret _))⟩

/-- A scan that reports the remembered Z21 and a scan that does not: it is gone. -/
theorem manual_entry_lost : ¬ ∀ cache calls, ManualSurvives cache calls := by
  intro h
  obtain ⟨c, hc, -⟩ := h ∅ [named, rescan [layout], rescan []] [] named [rescan [layout]] (rescan []) [] _ rfl rfl rfl
  have hgiven : CacheCallRun.givenAt (Driver.fred.idStr, layout.key) (rescan [layout]) =
      some (wiredCandidate .fred .z21 false layout.key layout.label) := by
    simp [CacheCallRun.givenAt, rescan, cacheWrites, CacheWrite.stored, wiredCandidate]
  rw [Option.mem_def, lookup_cacheAfter] at hc
  rw [List.nil_append, List.singleton_append, List.foldl_cons, List.foldl_cons, List.foldl_cons, List.foldl_nil,
    Cell.write_of_given hgiven] at hc
  cases hc

end WirelessProgrammer
