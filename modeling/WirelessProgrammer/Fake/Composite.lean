import WirelessProgrammer.Drivers.Registry
import WirelessProgrammer.Fake.WiFred
import WirelessProgrammer.Fake.LongFred
import Mathlib.Data.List.Perm.Basic

/-!
# The composite of all fakes

`wp-fake/src/composite.rs` and `rb23xx.rs`: fake mode serves one device that asks its fakes one after the other and takes
the first answer that is not a 404.  A fake that does not know a request is not changed by it, and no request is known to
two kinds of fakes; so the composite is each of its fakes to the driver of that fake, whatever their order.
-/

namespace WirelessProgrammer

open Text

/-! ### RailBOX RB23xx -/

/-- Fake RB23xx file browser. -/
structure Rb23xxFake where
  /-- The size of the last upload that was taken. -/
  lastUploadBytes : Option Nat
  deriving DecidableEq, Repr

namespace Rb23xxFake

def new : Rb23xxFake := ⟨none⟩

/-- The path and the query of a request. -/
def splitQuery (path : List Char) : List Char × List Char := (splitOnce '?' path).getD (path, [])

/-- Handle one HTTP request. -/
def handle (d : Rb23xxFake) (req : FakeRequest) : FakeResponse × Rb23xxFake :=
  let (path, query) := splitQuery req.path.toList
  if req.method = "GET" ∧ path = "/".toList then
    if "p=/".toList.isPrefixOf query then (okXml (utf8Bytes "<html>files</html>"), d) else (notFound, d)
  else if req.method = "POST" ∧ path = "/upload".toList then
    let n := (req.body.getD []).length
    if n = 0 then (⟨400, "text/plain", utf8Bytes "empty", false⟩, d)
    else (⟨200, "text/plain", [], true⟩, { d with lastUploadBytes := some n })
  else (notFound, d)

end Rb23xxFake

/-! ### The composite -/

/-- The responses to requests that are made one after the other, and the device after them. -/
def handleAll {σ : Type} (handle : σ → FakeRequest → FakeResponse × σ) (d : σ) :
    List FakeRequest → List FakeResponse × σ
  | [] => ([], d)
  | req :: reqs =>
    let (response, d') := handle d req
    let (responses, d'') := handleAll handle d' reqs
    (response :: responses, d'')

private theorem handleAll_cons {σ : Type} (handle : σ → FakeRequest → FakeResponse × σ) (d : σ) (req : FakeRequest)
    (reqs : List FakeRequest) :
    handleAll handle d (req :: reqs) = ((handle d req).1 :: (handleAll handle (handle d req).2 reqs).1,
      (handleAll handle (handle d req).2 reqs).2) := rfl

section Composite

variable {δ : Type} (handle : δ → FakeRequest → FakeResponse × δ)

/-- Handle one HTTP request: the first response that is not a 404. -/
def compositeHandle : List δ → FakeRequest → FakeResponse × List δ
  | [], _ => (notFound, [])
  | d :: devices, req =>
    let (response, d') := handle d req
    if response.status ≠ 404 then (response, d' :: devices)
    else
      let (response, devices') := compositeHandle devices req
      (response, d' :: devices')

/-- The device knows the request. -/
def Knows (d : δ) (req : FakeRequest) : Prop := (handle d req).1.status ≠ 404

/-- A request that is not known is refused without a trace. -/
def RefusesQuietly : Prop := ∀ d req, ¬ Knows handle d req → handle d req = (notFound, d)

variable {handle} {req : FakeRequest}

private theorem compositeHandle_unknown (hquiet : RefusesQuietly handle) {devices : List δ}
    (h : ∀ d ∈ devices, ¬ Knows handle d req) : compositeHandle handle devices req = (notFound, devices) := by
  induction devices with
  | nil => rfl
  | cons d devices ih =>
    obtain ⟨hd, hrest⟩ := List.forall_mem_cons.1 h
    rw [compositeHandle, hquiet d req hd, ih hrest]
    exact if_neg (by decide)

/-- The first fake that knows a request answers it, and no other fake is changed. -/
theorem compositeHandle_known (hquiet : RefusesQuietly handle) {before after : List δ} {d : δ}
    (hbefore : ∀ d ∈ before, ¬ Knows handle d req) (hd : Knows handle d req) :
    compositeHandle handle (before ++ d :: after) req = ((handle d req).1, before ++ (handle d req).2 :: after) := by
  induction before with
  | nil => exact if_pos hd
  | cons d' before ih =>
    obtain ⟨hd', hrest⟩ := List.forall_mem_cons.1 hbefore
    rw [List.cons_append, compositeHandle, hquiet d' req hd', ih hrest]
    exact if_neg (by decide)

/-- No request is known to two of the fakes. -/
def Apart (handle : δ → FakeRequest → FakeResponse × δ) (devices : List δ) : Prop :=
  ∀ req, devices.Pairwise fun d d' => Knows handle d req → ¬ Knows handle d' req

/-- Every fake is after a request as if it alone had been asked. -/
theorem compositeHandle_state (hquiet : RefusesQuietly handle) {devices : List δ} (h : Apart handle devices) :
    (compositeHandle handle devices req).2 = devices.map fun d => (handle d req).2 := by
  have hunknown : ∀ {l : List δ}, (∀ d ∈ l, ¬ Knows handle d req) → l.map (fun d => (handle d req).2) = l := by
    intro l hl
    refine (List.map_congr_left fun d hd => ?_).trans l.map_id
    rw [hquiet d req (hl d hd)]
    rfl
  by_cases hany : ∃ d ∈ devices, Knows handle d req
  · obtain ⟨d, hmem, hd⟩ := hany
    obtain ⟨before, after, rfl⟩ := List.append_of_mem hmem
    obtain ⟨-, hlater, hcross⟩ := List.pairwise_append.1 (h req)
    have hbefore : ∀ d' ∈ before, ¬ Knows handle d' req := fun d' hd' hknows => hcross d' hd' d (by simp) hknows hd
    have hafter : ∀ d' ∈ after, ¬ Knows handle d' req := fun d' hd' => (List.pairwise_cons.1 hlater).1 d' hd' hd
    rw [compositeHandle_known hquiet hbefore hd, List.map_append, List.map_cons, hunknown hbefore, hunknown hafter]
  · have hnone : ∀ d ∈ devices, ¬ Knows handle d req := fun d hd hknows => hany ⟨d, hd, hknows⟩
    rw [compositeHandle_unknown hquiet hnone, hunknown hnone]

/-- The fake that knows a request answers it, wherever it stands. -/
theorem compositeHandle_response (hquiet : RefusesQuietly handle) {devices : List δ} (h : Apart handle devices) {d : δ}
    (hmem : d ∈ devices) (hd : Knows handle d req) : (compositeHandle handle devices req).1 = (handle d req).1 := by
  obtain ⟨before, after, rfl⟩ := List.append_of_mem hmem
  obtain ⟨-, -, hcross⟩ := List.pairwise_append.1 (h req)
  rw [compositeHandle_known hquiet (fun d' hd' hknows => hcross d' hd' d (by simp) hknows hd) hd]

end Composite

/-! ### What a fake serves -/

/-- The part of a request path before its query. -/
def beforeQuery (path : List Char) : List Char := ((splitOnce '?' path).map (·.1)).getD path

/-- A prefix without a query is one of the part before the query. -/
theorem prefix_beforeQuery {p path : List Char} (hp : '?' ∉ p) (h : p <+: path) : p <+: beforeQuery path := by
  induction p generalizing path with
  | nil => exact List.nil_prefix
  | cons a p ih =>
    obtain ⟨l, rfl⟩ := h
    have ha : a ≠ '?' := fun heq => hp (by simp [heq])
    have hrest := ih (fun hmem => hp (List.mem_cons_of_mem a hmem)) (List.prefix_append p l)
    have hbefore : beforeQuery (a :: p ++ l) = a :: beforeQuery (p ++ l) := by
      unfold beforeQuery
      rw [List.cons_append, splitOnce, if_neg ha]
      cases splitOnce '?' (p ++ l) <;> rfl
    rw [hbefore]
    exact List.cons_prefix_cons.2 ⟨rfl, hrest⟩

namespace WifredFake

def pages : List String := ["/api/getConfigXML", "/restart.html", "/flashred.html", "/index.html"]

def Serves (req : FakeRequest) : Prop := req.method = "GET" ∧ ∃ page ∈ pages, page.toList <+: req.path.toList

private theorem status_of_serves {req : FakeRequest} (h : Serves req) (d : WifredFake) :
    (d.handle req).1.status = 200 := by
  obtain ⟨hget, page, hpage, hpre⟩ := h
  have hmatch := List.isPrefixOf_iff_prefix.2 hpre
  unfold handle
  rw [if_neg (not_not.2 hget)]
  split_ifs with h₁ h₂ h₃ h₄
  · rfl
  · rfl
  · rfl
  · rfl
  · simp only [pages, List.mem_cons, List.not_mem_nil, or_false] at hpage
    rcases hpage with rfl | rfl | rfl | rfl
    · exact absurd hmatch h₁
    · exact absurd hmatch h₂
    · exact absurd hmatch h₃
    · exact absurd hmatch h₄

theorem handle_of_not_serves {req : FakeRequest} (h : ¬ Serves req) (d : WifredFake) : d.handle req = (notFound, d) := by
  have hpage : ∀ page ∈ pages, ¬ req.method ≠ "GET" → ¬ page.toList.isPrefixOf req.path.toList = true :=
    fun page hpage hget hmatch => h ⟨not_not.1 hget, page, hpage, List.isPrefixOf_iff_prefix.1 hmatch⟩
  unfold handle
  dsimp only
  split_ifs with hget h₁ h₂ h₃ h₄
  · rfl
  · exact absurd h₁ (hpage _ (by simp [pages]) hget)
  · exact absurd h₂ (hpage _ (by simp [pages]) hget)
  · exact absurd h₃ (hpage _ (by simp [pages]) hget)
  · exact absurd h₄ (hpage _ (by simp [pages]) hget)
  · rfl

end WifredFake

namespace LongFred.LongFredFake

def routes : List (String × String) :=
  [("GET", SETTINGS_PATH), ("PUT", SETTINGS_PATH), ("POST", PROGRAMMING_MODE_OFF_PATH), ("POST", FIRMWARE_PATH)]

def Serves (req : FakeRequest) : Prop := (req.method, String.ofList (beforeQuery req.path.toList)) ∈ routes

variable {readJson : List UInt8 → Except String Json} {writeJson : Json → List UInt8} {req : FakeRequest}

/-- What a request that is served comes to: it has a body, or the device says what is wrong with it. -/
theorem handle_cases (req : FakeRequest) (d : LongFredFake) :
    Serves req ∧ ((d.handle readJson writeJson req).1.status = 200 ∨ (d.handle readJson writeJson req).1.status = 400) ∨
      ¬ Serves req ∧ d.handle readJson writeJson req = (notFound, d) := by
  have hroutes : Serves req ↔ (req.method = "GET" ∧ String.ofList (beforeQuery req.path.toList) = SETTINGS_PATH ∨
      req.method = "PUT" ∧ String.ofList (beforeQuery req.path.toList) = SETTINGS_PATH ∨
      req.method = "POST" ∧ String.ofList (beforeQuery req.path.toList) = PROGRAMMING_MODE_OFF_PATH ∨
      req.method = "POST" ∧ String.ofList (beforeQuery req.path.toList) = FIRMWARE_PATH) := by
    simp [Serves, routes]
  rw [hroutes]
  unfold handle
  dsimp only
  rw [← beforeQuery]
  split_ifs with h₁ h₂ h₃ h₄ h₅
  · exact .inl ⟨.inl h₁, .inl rfl⟩
  · refine .inl ⟨.inr (.inl h₂), ?_⟩
    cases readJson (req.body.getD (utf8Bytes "{}")) with
    | ok body => exact .inl rfl
    | error e => exact .inr rfl
  · exact .inl ⟨.inr (.inr (.inl h₃)), .inl rfl⟩
  · exact .inl ⟨.inr (.inr (.inr h₄)), .inr rfl⟩
  · exact .inl ⟨.inr (.inr (.inr h₄)), .inl rfl⟩
  · exact .inr ⟨by simp only [h₁, h₂, h₃, h₄, or_self, not_false_eq_true], rfl⟩

end LongFred.LongFredFake

namespace Rb23xxFake

def Serves (req : FakeRequest) : Prop :=
  req.method = "GET" ∧ beforeQuery req.path.toList = "/".toList ∧ "p=/".toList <+: (splitQuery req.path.toList).2 ∨
    req.method = "POST" ∧ beforeQuery req.path.toList = "/upload".toList

theorem splitQuery_fst (path : List Char) : (splitQuery path).1 = beforeQuery path := by
  unfold splitQuery beforeQuery
  cases splitOnce '?' path <;> rfl

private theorem handle_cases (req : FakeRequest) (d : Rb23xxFake) :
    Serves req ∧ ((d.handle req).1.status = 200 ∨ (d.handle req).1.status = 400) ∨
      ¬ Serves req ∧ d.handle req = (notFound, d) := by
  unfold Serves handle
  rw [← splitQuery_fst]
  dsimp only
  split_ifs with h₁ h₂ h₃ h₄
  · exact .inl ⟨.inl ⟨h₁.1, h₁.2, List.isPrefixOf_iff_prefix.1 h₂⟩, .inl rfl⟩
  · refine .inr ⟨?_, rfl⟩
    rintro (⟨-, -, hquery⟩ | ⟨hpost, -⟩)
    · exact h₂ (List.isPrefixOf_iff_prefix.2 hquery)
    · exact absurd (h₁.1.symm.trans hpost) (by decide)
  · exact .inl ⟨.inr h₃, .inr rfl⟩
  · exact .inl ⟨.inr h₃, .inl rfl⟩
  · refine .inr ⟨?_, rfl⟩
    rintro (⟨hget, hroot, -⟩ | hupload)
    · exact h₁ ⟨hget, hroot⟩
    · exact h₃ hupload

end Rb23xxFake

/-! ### The fakes -/

/-- A fake device of fake mode. -/
inductive AnyFake
  | wifred (d : WifredFake)
  | longfred (d : LongFred.LongFredFake)
  | rb23xx (d : Rb23xxFake)

namespace AnyFake

/-- `driver_id`. -/
def driverId : AnyFake → String
  | wifred _ => "wifred"
  | longfred _ => "longfred"
  | rb23xx _ => "rb23xx"

/-- `CompositeFakeDevice::all`. -/
def all : List AnyFake := [wifred .new, longfred .new, rb23xx .new]

def Serves (req : FakeRequest) : AnyFake → Prop
  | wifred _ => WifredFake.Serves req
  | longfred _ => LongFred.LongFredFake.Serves req
  | rb23xx _ => Rb23xxFake.Serves req

private theorem not_wifred_serves {req : FakeRequest} {path : List Char} (h : beforeQuery req.path.toList = path)
    (hpath : ∀ page ∈ WifredFake.pages, ¬ page.toList <+: path) : ¬ WifredFake.Serves req := by
  rintro ⟨-, page, hpage, hpre⟩
  have hquery : '?' ∉ page.toList := (show ∀ page ∈ WifredFake.pages, '?' ∉ page.toList by decide) page hpage
  exact hpath page hpage (h ▸ prefix_beforeQuery hquery hpre)

private theorem not_wifred_longfred {req : FakeRequest} (hw : WifredFake.Serves req) :
    ¬ LongFred.LongFredFake.Serves req := by
  intro hl
  unfold LongFred.LongFredFake.Serves at hl
  simp only [LongFred.LongFredFake.routes, List.mem_cons, List.not_mem_nil, or_false, Prod.mk.injEq, hw.1] at hl
  have hpath : beforeQuery req.path.toList = LongFred.SETTINGS_PATH.toList := by
    rcases hl with ⟨-, h⟩ | ⟨h, -⟩ | ⟨h, -⟩ | ⟨h, -⟩
    · rw [← h, String.toList_ofList]
    all_goals exact absurd h (by decide)
  exact not_wifred_serves hpath (by decide) hw

private theorem not_wifred_rb23xx {req : FakeRequest} (hw : WifredFake.Serves req) : ¬ Rb23xxFake.Serves req := by
  rintro (⟨-, hroot, -⟩ | ⟨hpost, -⟩)
  · exact not_wifred_serves hroot (by decide) hw
  · exact absurd (hw.1.symm.trans hpost) (by decide)

private theorem not_longfred_rb23xx {req : FakeRequest} (hl : LongFred.LongFredFake.Serves req) :
    ¬ Rb23xxFake.Serves req := by
  intro hr
  have hpath : beforeQuery req.path.toList = "/".toList ∨ beforeQuery req.path.toList = "/upload".toList :=
    hr.imp (·.2.1) (·.2)
  have hroute : ∀ route ∈ LongFred.LongFredFake.routes, route.2 ≠ String.ofList "/".toList ∧
      route.2 ≠ String.ofList "/upload".toList := by
    simp only [String.ofList_toList]
    decide
  unfold LongFred.LongFredFake.Serves at hl
  rcases hpath with h | h <;> rw [h] at hl
  · exact (hroute _ hl).1 rfl
  · exact (hroute _ hl).2 rfl

/-- Fakes that serve the same request are of one kind. -/
theorem driverId_eq_of_serves {d d' : AnyFake} {req : FakeRequest} (h : d.Serves req) (h' : d'.Serves req) :
    d.driverId = d'.driverId := by
  cases d with
  | wifred d =>
    cases d' with
    | wifred d' => rfl
    | longfred d' => exact absurd h' (not_wifred_longfred h)
    | rb23xx d' => exact absurd h' (not_wifred_rb23xx h)
  | longfred d =>
    cases d' with
    | wifred d' => exact absurd h (not_wifred_longfred h')
    | longfred d' => rfl
    | rb23xx d' => exact absurd h' (not_longfred_rb23xx h)
  | rb23xx d =>
    cases d' with
    | wifred d' => exact absurd h (not_wifred_rb23xx h')
    | longfred d' => exact absurd h (not_longfred_rb23xx h')
    | rb23xx d' => rfl

section Handle

variable (readJson : List UInt8 → Except String Json) (writeJson : Json → List UInt8)

def handle : AnyFake → FakeRequest → FakeResponse × AnyFake
  | wifred d, req => ((d.handle req).1, wifred (d.handle req).2)
  | longfred d, req => ((d.handle readJson writeJson req).1, longfred (d.handle readJson writeJson req).2)
  | rb23xx d, req => ((d.handle req).1, rb23xx (d.handle req).2)

variable {readJson writeJson}

private theorem driverId_handle (d : AnyFake) (req : FakeRequest) :
    (d.handle readJson writeJson req).2.driverId = d.driverId := by
  cases d <;> rfl

private theorem handle_cases (d : AnyFake) (req : FakeRequest) :
    d.Serves req ∧ Knows (handle readJson writeJson) d req ∨
      ¬ d.Serves req ∧ d.handle readJson writeJson req = (notFound, d) := by
  have hfound : ∀ {status : UInt16}, status = 200 ∨ status = 400 → status ≠ 404 := by
    rintro status (rfl | rfl) <;> decide
  cases d with
  | wifred d =>
    by_cases h : WifredFake.Serves req
    · exact .inl ⟨h, hfound (.inl (WifredFake.status_of_serves h d))⟩
    · exact .inr ⟨h, by rw [handle, WifredFake.handle_of_not_serves h]⟩
  | longfred d =>
    rcases d.handle_cases req with ⟨h, hstatus⟩ | ⟨h, heq⟩
    · exact .inl ⟨h, hfound hstatus⟩
    · exact .inr ⟨h, by rw [handle, heq]⟩
  | rb23xx d =>
    rcases d.handle_cases req with ⟨h, hstatus⟩ | ⟨h, heq⟩
    · exact .inl ⟨h, hfound hstatus⟩
    · exact .inr ⟨h, by rw [handle, heq]⟩

theorem knows_iff {d : AnyFake} {req : FakeRequest} : Knows (handle readJson writeJson) d req ↔ d.Serves req := by
  rcases d.handle_cases req with ⟨h, hknows⟩ | ⟨h, heq⟩
  · exact iff_of_true hknows h
  · refine iff_of_false (fun hknows => hknows ?_) h
    rw [heq]
    rfl

theorem refusesQuietly_handle : RefusesQuietly (handle readJson writeJson) := by
  intro d req hunknown
  rcases d.handle_cases req with ⟨-, hknows⟩ | ⟨-, heq⟩
  · exact absurd hknows hunknown
  · exact heq

/-- Fakes of different kinds. -/
theorem apart_of_nodup {devices : List AnyFake} (h : (devices.map driverId).Nodup) :
    Apart (handle readJson writeJson) devices := by
  intro req
  refine (List.pairwise_map.1 h).imp fun hne hknows hknows' => ?_
  exact hne (driverId_eq_of_serves (knows_iff.1 hknows) (knows_iff.1 hknows'))

/-- The other fakes do not know what a fake serves. -/
theorem not_knows_before {before after : List AnyFake} {d : AnyFake} {req : FakeRequest}
    (hkinds : ((before ++ d :: after).map driverId).Nodup) (hserves : d.Serves req) :
    ∀ d' ∈ before, ¬ Knows (handle readJson writeJson) d' req := by
  intro d' hd' hknows
  have hsame := driverId_eq_of_serves (knows_iff.1 hknows) hserves
  rw [List.map_append, List.map_cons, List.nodup_append] at hkinds
  exact hkinds.2.2 _ (List.mem_map_of_mem hd') _ List.mem_cons_self hsame

/-! ### Runs -/

private theorem map_driverId_handle (devices : List AnyFake) (req : FakeRequest) :
    (devices.map fun d => (d.handle readJson writeJson req).2).map driverId = devices.map driverId := by
  rw [List.map_map]
  exact List.map_congr_left fun d _ => driverId_handle d req

private theorem serves_handle (d : AnyFake) (req req' : FakeRequest) :
    (d.handle readJson writeJson req).2.Serves req' ↔ d.Serves req' := by
  cases d <;> exact Iff.rfl

/-- Fakes of different kinds do not disturb one another.  After any requests every fake of the composite is as if it alone
had been asked; each request is answered by the fake that serves it, as it alone would answer, and by a 404 if there is
none. -/
theorem composite_handleAll (devices : List AnyFake) (h : (devices.map driverId).Nodup) (reqs : List FakeRequest) :
    (handleAll (compositeHandle (handle readJson writeJson)) devices reqs).2 =
        (devices.map fun d => (handleAll (handle readJson writeJson) d reqs).2) ∧
      ∀ (i : Nat) (req : FakeRequest), reqs[i]? = some req →
        (∀ d ∈ devices, d.Serves req →
          (handleAll (compositeHandle (handle readJson writeJson)) devices reqs).1[i]? =
            (handleAll (handle readJson writeJson) d reqs).1[i]?) ∧
        ((∀ d ∈ devices, ¬ d.Serves req) →
          (handleAll (compositeHandle (handle readJson writeJson)) devices reqs).1[i]? = some notFound) := by
  induction reqs generalizing devices with
  | nil => simp [handleAll]
  | cons req reqs ih =>
    have happart : Apart (handle readJson writeJson) devices := apart_of_nodup h
    have hstate : (compositeHandle (handle readJson writeJson) devices req).2 = _ :=
      compositeHandle_state refusesQuietly_handle happart
    have hrest := ih (devices.map fun d => (d.handle readJson writeJson req).2) (by rwa [map_driverId_handle])
    rw [handleAll_cons, hstate]
    refine ⟨?_, fun i req' hi => ?_⟩
    · rw [hrest.1, List.map_map]
      rfl
    · cases i with
      | zero =>
        obtain rfl := Option.some.inj hi
        refine ⟨fun d hd hserves => ?_, fun hnone => ?_⟩
        · exact congrArg some (compositeHandle_response refusesQuietly_handle happart hd (knows_iff.2 hserves))
        · have hunknown : ∀ d ∈ devices, ¬ Knows (handle readJson writeJson) d req :=
            fun d hd hknows => hnone d hd (knows_iff.1 hknows)
          exact congrArg (fun p => some p.1) (compositeHandle_unknown refusesQuietly_handle hunknown)
      | succ i =>
        obtain ⟨hserved, hnone⟩ := hrest.2 i req' hi
        refine ⟨fun d hd hserves => ?_, fun hall => hnone ?_⟩
        · exact hserved _ (List.mem_map_of_mem hd) ((serves_handle d req req').2 hserves)
        · intro d' hd'
          obtain ⟨d, hd, rfl⟩ := List.mem_map.1 hd'
          exact fun hserves => hall d hd ((serves_handle d req req').1 hserves)

/-- A restart of the fake WiFred and an upload to the fake RailBOX. -/
theorem composite_handleAll_all :
    (all.map driverId).Nodup ∧
      (handleAll (compositeHandle (handle (fun _ => .error "no JSON") fun _ => [])) all
          [⟨"GET", "/restart.html", none⟩, ⟨"POST", "/upload?p=/image.bin", some [233]⟩]).2 =
        all.map fun d => (handleAll (handle (fun _ => .error "no JSON") fun _ => []) d
          [⟨"GET", "/restart.html", none⟩, ⟨"POST", "/upload?p=/image.bin", some [233]⟩]).2 :=
  ⟨by decide, (composite_handleAll all (by decide) _).1⟩

end Handle

end AnyFake

end WirelessProgrammer
