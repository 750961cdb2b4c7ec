import WirelessProgrammer.Lib.Serve
import WirelessProgrammer.Fake.Composite
import WirelessProgrammer.Fake.Attempts

/-!
# Driver code over sockets

Driver code whose requests go over connections, with the attempts the client makes for each, one after the other: it behaves
as it does when every request is handed to the device.  Over connections that can fail this holds of every run whose
requests all end with a response, for a device to which repeated and cut requests make no difference
(`overSockets_refines`); over connections that do not fail it holds of every run with requests that can be repeated
(`overSockets_exact`).
A driver that stops at the first failed request (`Strict`) has only runs of the first kind that end well; one whose fake is
part of a composite programs this fake and leaves the others alone (`overSockets_part`).
-/

namespace WirelessProgrammer

open Effect

/-! ### Driver code that stops at a failed request -/

/-- Whatever the device answers, the driver code ends well only if every request got a response. -/
def Strict {α : Type} (x : DriverM α) : Prop :=
  ∀ tr a, Prog.Run x.run tr (.ok a) → ∀ r answer, ⟨.request r, answer⟩ ∈ tr → ∃ body, answer = .ok body

namespace Strict

variable {α β : Type}

theorem pure (a : α) : Strict (pure a) := by
  intro tr b h r answer hmem
  obtain ⟨rfl, -⟩ := Prog.run_ret.1 h
  simp at hmem

theorem throw (e : DriverError) : Strict (throw e : DriverM α) := by
  intro tr b h
  cases (Prog.run_ret.1 h).2

theorem bind {x : DriverM α} {f : α → DriverM β} (hx : Strict x) (hf : ∀ a, Strict (f a)) : Strict (x >>= f) := by
  intro tr b h r answer hmem
  rcases Prog.run_except_bind.1 h with ⟨e, -, heq⟩ | ⟨t₁, t₂, a, rfl, h₁, h₂⟩
  · cases heq
  · rcases List.mem_append.1 hmem with hmem | hmem
    · exact hx _ _ h₁ r answer hmem
    · exact hf a _ _ h₂ r answer hmem

theorem liftExcept (x : Except DriverError α) : Strict (DriverM.liftExcept x) := by
  intro tr a h r answer hmem
  obtain ⟨rfl, -⟩ := Prog.run_ret.1 h
  simp at hmem

theorem step (s : String) : Strict (DriverM.step s) := by
  intro tr a h r answer hmem
  obtain ⟨u, tr, rfl, hret⟩ := Prog.run_op.1 h
  obtain ⟨rfl, -⟩ := Prog.run_ret.1 hret
  simp at hmem

theorem request (onError : IoError → DriverError) (q : HttpRequest) : Strict (DriverM.request onError q) := by
  intro tr a h r answer hmem
  obtain ⟨answer', tr, rfl, hret⟩ := Prog.run_op.1 h
  obtain ⟨rfl, heq⟩ := Prog.run_ret.1 hret
  obtain ⟨hq, hanswer⟩ := Sigma.mk.inj (List.mem_singleton.1 hmem)
  obtain rfl := DriverOp.request.inj hq
  obtain rfl := eq_of_heq hanswer
  cases answer with
  | ok body => exact ⟨body, rfl⟩
  | error e => cases heq

theorem get (path : String) : Strict (DriverM.get path) := request _ _

theorem httpClient (name : String) (t : Transport) : Strict (DriverM.httpClient name t) := by
  cases t with
  | http => exact pure ()
  | bytes => exact throw _

theorem ite {p : Prop} [Decidable p] {x y : DriverM α} (hx : Strict x) (hy : Strict y) : Strict (if p then x else y) := by
  split
  · exact hx
  · exact hy

theorem forM {l : List β} {f : β → DriverM PUnit} (h : ∀ b, Strict (f b)) : Strict (l.forM f) := by
  induction l with
  | nil => exact pure _
  | cons b l ih =>
    show Strict (f b >>= fun _ => l.forM f)
    exact (h b).bind fun _ => ih

end Strict

section OverSockets

variable {σ : Type} {handle : σ → FakeRequest → FakeResponse × σ} {c : BoundedHttpClient} {r : HttpRequest} {d d' : σ}
  {net : Nat → Attempt}

/-! ### Driver code over sockets -/

/-- Driver code whose requests are answered in the way. -/
def overRequests (Q : HttpRequest → Except IoError (List UInt8) → σ → σ → Prop) (d : σ) :
    (o : DriverOp) → o.Res → σ → Prop
  | .request r, result, d' => Q r result d d'
  | .step _, _, d' => d' = d
  | .progress _, _, d' => d' = d
  | .detail _, _, d' => d' = d

/-- A request is made with the client's number of attempts, each of them a connection of the kind. -/
def requestOver (c : BoundedHttpClient) (C : HttpRequest → Attempt → σ → σ → Prop) (r : HttpRequest)
    (result : Except IoError (List UInt8)) (d d' : σ) : Prop :=
  ∃ net, Attempts c r net (C r) (c.retries + 1) 0 d d' ∧ (c.request r net).1 = .ofExcept result

/-- Driver code over sockets. -/
def overSockets (c : BoundedHttpClient) (C : HttpRequest → Attempt → σ → σ → Prop) (d : σ) :
    (o : DriverOp) → o.Res → σ → Prop :=
  overRequests (requestOver c C) d

variable (handle c) in
/-- What is asked of a request, and of the device in every state with the invariant. -/
structure Served (I : σ → Prop) (r : HttpRequest) : Prop where
  sendable : c.Sendable r
  body : ∀ b ∈ r.body, b.2 ≠ []
  writable : ∀ s, I s → (handle s (.ofHttp r)).1.Writable
  repeatable : ∀ s, I s → Repeatable handle r s
  keeps : ∀ s, I s → I (handle s (.ofHttp r)).2

/-- A response, and not the empty one that a client makes of a restart. -/
def IsResponse (c : BoundedHttpClient) (answer : Except IoError (List UInt8)) : Prop :=
  ∃ body, answer = .ok body ∧ (c.successOnResetAfterWrite = true → body ≠ [])

/-- Other clients have no empty response of that kind. -/
theorem IsResponse.of_ok (hflag : c.successOnResetAfterWrite = false) {answer : Except IoError (List UInt8)}
    (h : ∃ body, answer = .ok body) : IsResponse c answer := by
  obtain ⟨body, rfl⟩ := h
  exact ⟨body, rfl, fun htrue => absurd (hflag.symm.trans htrue) Bool.false_ne_true⟩

private theorem mem_requestsOf {tr : List (Event DriverOp DriverOp.Res)} {r : HttpRequest}
    {result : Except IoError (List UInt8)} (h : ⟨.request r, result⟩ ∈ tr) : r ∈ requestsOf tr :=
  List.mem_filterMap.2 ⟨_, h, rfl⟩

private theorem ofExcept_injective {x y : Except IoError (List UInt8)} (h : Io.ofExcept x = Io.ofExcept y) : x = y := by
  cases x <;> cases y <;> cases h <;> rfl

/-- A device that the client asks directly. -/
def clientAnswer {τ : Type} (handle : τ → FakeRequest → FakeResponse × τ) (c : BoundedHttpClient) (d : τ) :
    (o : DriverOp) → o.Res × τ
  | .request r => ((handle d (.ofHttp r)).1.resultFor c, (handle d (.ofHttp r)).2)
  | .step _ => ((), d)
  | .progress _ => ((), d)
  | .detail _ => ((), d)

theorem clientAnswer_eq {τ : Type} (h : c.successOnResetAfterWrite = false)
    (handle : τ → FakeRequest → FakeResponse × τ) : clientAnswer handle c = deviceAnswer handle := by
  funext d o
  cases o with
  | request r => exact congrArg (·, _) (FakeResponse.resultFor_eq h _)
  | step m => rfl
  | progress p => rfl
  | detail m => rfl

theorem serve_request (handle : σ → FakeRequest → FakeResponse × σ) (c : BoundedHttpClient)
    (onError : IoError → DriverError) (r : HttpRequest) (d : σ) :
    (DriverM.request onError r).run.serve (clientAnswer handle c) d =
      (Except.mapError onError ((handle d (.ofHttp r)).1.resultFor c), (handle d (.ofHttp r)).2) := rfl

theorem serve_step (handle : σ → FakeRequest → FakeResponse × σ) (c : BoundedHttpClient) (s : String) (d : σ) :
    (DriverM.step s).run.serve (clientAnswer handle c) d = (.ok (), d) := rfl

theorem serve_detail (handle : σ → FakeRequest → FakeResponse × σ) (c : BoundedHttpClient) (s : String) (d : σ) :
    (DriverM.detail s).run.serve (clientAnswer handle c) d = (.ok (), d) := rfl

/-- A run over sockets whose requests are answered as by a device in a related state. -/
theorem overSockets_simulates {τ α : Type} (direct : τ → FakeRequest → FakeResponse × τ) {x : DriverM α}
    {C : HttpRequest → Attempt → σ → σ → Prop} {A : σ → τ → Prop} {tr : List (Event DriverOp DriverOp.Res)}
    {result : Except DriverError α} {t : τ} (hA : A d t) (hrun : Prog.Run x.run tr result)
    (hserved : Prog.ServedBy (overSockets c C) d tr d')
    (hstep : ∀ r answer, ⟨.request r, answer⟩ ∈ tr → ∀ s s' t net, A s t →
      Attempts c r net (C r) (c.retries + 1) 0 s s' → (c.request r net).1 = .ofExcept answer →
        (direct t (.ofHttp r)).1.resultFor c = answer ∧ A s' (direct t (.ofHttp r)).2) :
    (x.run.serve (clientAnswer direct c) t).1 = result ∧ A d' (x.run.serve (clientAnswer direct c) t).2 := by
  refine Prog.serve_of_simulates hrun hserved hA fun e he s s' t hA h => ?_
  obtain ⟨o, answer⟩ := e
  cases o with
  | request r =>
    obtain ⟨net, hnet, hrequest⟩ := h
    exact hstep r answer he s s' t net hA hnet hrequest
  | step m =>
    obtain rfl := h
    exact ⟨rfl, hA⟩
  | progress p =>
    obtain rfl := h
    exact ⟨rfl, hA⟩
  | detail m =>
    obtain rfl := h
    exact ⟨rfl, hA⟩

variable {I : σ → Prop}

/-- A request that sets what it sets, with the same response the second time. -/
theorem Served.of_handle {response : σ → FakeResponse} {f : σ → σ} (hsend : c.Sendable r) (hbody : ∀ b ∈ r.body, b.2 ≠ [])
    (hhandle : ∀ d, I d → handle d (.ofHttp r) = (response d, f d)) (hwrite : ∀ d, I d → (response d).Writable)
    (hkeeps : ∀ d, I d → I (f d)) (htwice : ∀ d, I d → response (f d) = response d ∧ f (f d) = f d) :
    Served handle c I r where
  sendable := hsend
  body := hbody
  writable d hd := by
    rw [hhandle d hd]
    exact hwrite d hd
  repeatable d hd := by
    obtain ⟨hsame, hstate⟩ := htwice d hd
    unfold Repeatable
    rw [FakeRequest.ofSent_eq hbody, hhandle d hd, hhandle _ (hkeeps d hd), hsame, hstate]
  keeps d hd := by
    rw [hhandle d hd]
    exact hkeeps d hd

private theorem Served.steady {I : σ → Prop} (hserved : Served handle c I r) (hcut : SurvivesCut handle r I) :
    Steady handle c r I where
  sendable := hserved.sendable
  writable := by
    rw [FakeRequest.ofSent_eq hserved.body]
    exact hserved.writable
  repeatable := hserved.repeatable
  keeps := by
    rw [FakeRequest.ofSent_eq hserved.body]
    exact hserved.keeps
  cut := hcut

/-- A request that gets a response has been handled by the device, as by a direct call. -/
theorem Served.contact (hserved : Served handle c I r) (hcut : SurvivesCut handle r I) (hI : I d)
    (hnet : Attempts c r net (Contact handle c r) (c.retries + 1) 0 d d') {answer : Except IoError (List UInt8)}
    (hanswer : (c.request r net).1 = .ofExcept answer) (hreal : IsResponse c answer) :
    (handle d (.ofHttp r)).1.resultFor c = answer ∧ d' = (handle d (.ofHttp r)).2 := by
  obtain ⟨body, rfl, hbody⟩ := hreal
  rw [← FakeRequest.ofSent_eq hserved.body]
  unfold BoundedHttpClient.request at hanswer
  split at hanswer
  · exact hnet.ok (hserved.steady hcut) hI rfl hanswer hbody
  · cases hanswer

/-- Over connections that do not fail, a request whose response is within the client's limit comes to what a direct call
comes to. -/
theorem Served.answered (hserved : Served handle c I r) (hI : I d)
    (hsize : (handle d (.ofHttp r)).1.written.length ≤ c.maxBody)
    (hnet : Attempts c r net (Answered handle c r) (c.retries + 1) 0 d d') {answer : Except IoError (List UInt8)}
    (hanswer : (c.request r net).1 = .ofExcept answer) :
    (handle d (.ofHttp r)).1.resultFor c = answer ∧ d' = (handle d (.ofHttp r)).2 := by
  have hsent := FakeRequest.ofSent_eq hserved.body
  have hwrite := hserved.writable d hI
  rw [← hsent] at hwrite hsize ⊢
  unfold BoundedHttpClient.request at hanswer
  split at hanswer
  · obtain ⟨hresult, hd⟩ := hnet.exact (Nat.succ_pos _) hserved.sendable hwrite (hserved.repeatable d hI) rfl _
    rw [hresult, FakeResponse.reply, if_neg (Nat.not_lt.2 hsize)] at hanswer
    exact ⟨ofExcept_injective hanswer, hd⟩
  · cases answer <;> cases hanswer

/-! ### Runs there are -/

theorem FakeResponse.resultFor_of_result {response : FakeResponse} {body : List UInt8} (h : response.result = .ok body)
    (c : BoundedHttpClient) : response.resultFor c = .ok body := by
  have hreply : response.dropWithoutReply ≠ true := by
    intro hdrop
    rw [result, if_pos hdrop] at h
    cases h
  rw [resultFor, if_neg fun hboth => hreply hboth.1, h]

variable (handle c) in
/-- A request that is answered on the fourth attempt: the first connection is refused, the second breaks off behind the
head, and the third is reset before the response. -/
def fourthTry (r : HttpRequest) (result : Except IoError (List UInt8)) (d d' : σ) : Prop :=
  ∃ net, FourthTry c r net ∧ Attempts c r net (Contact handle c r) (c.retries + 1) 0 d d' ∧
    (c.request r net).1 = .ofExcept result

/-- There is a run whose requests are answered in the way. -/
def Completes {α : Type} (Q : HttpRequest → Except IoError (List UInt8) → σ → σ → Prop) (x : DriverM α) (d : σ)
    (result : Except DriverError α) (d' : σ) : Prop :=
  ∃ tr, Prog.Run x.run tr result ∧ Prog.ServedBy (overRequests Q) d tr d'

private theorem overRequests_mono {Q Q' : HttpRequest → Except IoError (List UInt8) → σ → σ → Prop}
    (h : ∀ r result s s', Q r result s s' → Q' r result s s') {tr : List (Event DriverOp DriverOp.Res)}
    (hserved : Prog.ServedBy (overRequests Q) d tr d') : Prog.ServedBy (overRequests Q') d tr d' := by
  induction hserved with
  | nil s => exact .nil s
  | @cons s s₁ s₂ o answer tr hstep _ ih =>
    refine .cons ?_ ih
    cases o with
    | request r => exact h _ _ _ _ hstep
    | step m => exact hstep
    | progress p => exact hstep
    | detail m => exact hstep

/-- Connections of which three in four fail are connections that can fail. -/
theorem overSockets_fourthTry {tr : List (Event DriverOp DriverOp.Res)}
    (hserved : Prog.ServedBy (overRequests (fourthTry handle c)) d tr d') :
    Prog.ServedBy (overSockets c fun r => Contact handle c r) d tr d' :=
  overRequests_mono (fun _ _ _ _ ⟨net, _, hnet, hrequest⟩ => ⟨net, hnet, hrequest⟩) hserved

namespace Completes

variable {α β : Type} {d₁ d₂ : σ} {Q : HttpRequest → Except IoError (List UInt8) → σ → σ → Prop}

theorem pure (a : α) (d : σ) : Completes Q (pure a) d (.ok a) d := ⟨[], .ret _, .nil d⟩

theorem bind {x : DriverM α} {f : α → DriverM β} {a : α} {result : Except DriverError β}
    (hx : Completes Q x d (.ok a) d₁) (hf : Completes Q (f a) d₁ result d₂) : Completes Q (x >>= f) d result d₂ := by
  obtain ⟨t₁, hrun₁, hserved₁⟩ := hx
  obtain ⟨t₂, hrun₂, hserved₂⟩ := hf
  exact ⟨t₁ ++ t₂, Prog.run_except_bind.2 (.inr ⟨t₁, t₂, a, rfl, hrun₁, hrun₂⟩), hserved₁.append hserved₂⟩

theorem step (s : String) (d : σ) : Completes Q (DriverM.step s) d (.ok ()) d :=
  ⟨[⟨.step s, ()⟩], .op (.ret _), .cons rfl (.nil d)⟩

theorem detail (s : String) (d : σ) : Completes Q (DriverM.detail s) d (.ok ()) d :=
  ⟨[⟨.detail s, ()⟩], .op (.ret _), .cons rfl (.nil d)⟩

theorem liftExcept {x result : Except DriverError α} (h : x = result) (d : σ) :
    Completes Q (DriverM.liftExcept x) d result d := by
  subst h
  exact ⟨[], .ret _, .nil d⟩

theorem forM {τ : Type} (k : τ → σ) {l : List β} {f : β → DriverM PUnit} {g : τ → β → τ}
    (h : ∀ b ∈ l, ∀ t, Completes Q (f b) (k t) (.ok ()) (k (g t b))) (t : τ) :
    Completes Q (l.forM f) (k t) (.ok ()) (k (l.foldl g t)) := by
  induction l generalizing t with
  | nil => exact pure () (k t)
  | cons b l ih =>
    show Completes Q (f b >>= fun _ => l.forM f) (k t) (.ok ()) _
    exact (h b (by simp) t).bind (ih (fun b hb => h b (by simp [hb])) _)

theorem request {onError : IoError → DriverError} {answer : Except IoError (List UInt8)} (h : Q r answer d d') :
    Completes Q (DriverM.request onError r) d (answer.mapError onError) d' :=
  ⟨[⟨.request r, answer⟩], .op (.ret _), .cons h (.nil _)⟩

end Completes

section

variable {response : FakeResponse} (hserved : Served handle c I r) (hI : I d) (hshort : (c.requestBytes r).length ≤ 512)
  (hhandle : handle d (.ofHttp r) = (response, d')) (hsize : response.written.length ≤ c.maxBody)

include hserved hI hshort hhandle hsize

/-- A short request with a response within the client's limit comes to the response, whatever it is. -/
theorem Served.requested (hretries : c.retries + 1 < 2 ^ 32) :
    requestOver c (fun r => Answered handle c r) r (response.resultFor c) d d' := by
  have hwrite := hserved.writable d hI
  have hrepeat := hserved.repeatable d hI
  have hnet := attempts_answered hserved.sendable hshort hrepeat c.retries 0 rfl
  rw [← FakeRequest.ofSent_eq hserved.body] at hwrite hhandle
  rw [hhandle] at hnet
  refine ⟨_, hnet, ?_⟩
  obtain ⟨hresult, -⟩ := hnet.exact (Nat.succ_pos _) hserved.sendable hwrite hrepeat rfl ⟨.other, "no attempt made"⟩
  rw [BoundedHttpClient.request, if_pos hretries, hresult, hhandle, FakeResponse.reply, if_neg (Nat.not_lt.2 hsize)]

/-- A short request comes to its response on the fourth attempt. -/
theorem Served.retried (hcut : SurvivesCut handle r I) (hflag : c.successOnResetAfterWrite = false)
    (hretries : c.retries = 3) {body : List UInt8} (hbody : response.resultFor c = .ok body) :
    fourthTry handle c r (.ok body) d d' := by
  rw [← FakeRequest.ofSent_eq hserved.body] at hhandle
  have hsome := exists_fourthTry (hserved.steady hcut) hI hflag hretries hshort
  rw [hhandle] at hsome
  exact hsome hsize hbody

end

/-! ### Refinement -/

open LongFred in
/-- An image for the device. -/
private def image : HttpRequest := ⟨"POST", FIRMWARE_PATH, some (FIRMWARE_CONTENT_TYPE, [0xE9])⟩

open LongFred in
private def leave : HttpRequest := ⟨"POST", PROGRAMMING_MODE_OFF_PATH, none⟩

/-- A new device after that. -/
private def left : LongFred.LongFredFake :=
  ⟨LongFred.LongFredFake.new.settings.insert "programming_mode" (.bool false), false⟩

/-- A page that the device does not have. -/
private def missing : HttpRequest := ⟨"GET", "/nowhere", none⟩

private def fakeClient : BoundedHttpClient := .new "192.168.4.1" 80

private def fakeHandle : LongFred.LongFredFake → FakeRequest → FakeResponse × LongFred.LongFredFake :=
  LongFred.LongFredFake.handle (fun _ => .error "no JSON") fun _ => []

private def uploadAndLeave : DriverM (List UInt8) := do
  let _ ← DriverM.request DriverM.httpError image
  DriverM.request DriverM.httpError leave

private theorem requests_short : (fakeClient.requestBytes image).length ≤ 512 ∧
    (fakeClient.requestBytes leave).length ≤ 512 ∧ (fakeClient.requestBytes missing).length ≤ 512 := by
  simp only [BoundedHttpClient.length_requestBytes]
  decide +kernel

private theorem pages_size : (okJson (Text.utf8Bytes "\x7b\"ok\":true\x7d")).written.length ≤ fakeClient.maxBody ∧
    (okText "ok").written.length ≤ fakeClient.maxBody ∧ notFound.written.length ≤ fakeClient.maxBody := by
  rw [FakeResponse.length_written _ rfl, FakeResponse.length_written _ rfl, FakeResponse.length_written _ rfl]
  decide +kernel

private def leaveAndMiss : DriverM (List UInt8) := do
  let _ ← DriverM.request DriverM.httpError leave
  DriverM.request DriverM.httpError missing

private theorem handle_image (d : LongFred.LongFredFake) :
    fakeHandle d (.ofHttp image) = (okJson (Text.utf8Bytes "\x7b\"ok\":true\x7d"), d) := by
  have hpath := LongFred.matched_of_noQuery (by decide : '?' ∉ LongFred.FIRMWARE_PATH.toList)
  simp only [fakeHandle, LongFred.LongFredFake.handle, image, FakeRequest.ofHttp, hpath]
  rfl

private theorem handle_leave (d : LongFred.LongFredFake) : fakeHandle d (.ofHttp leave) =
    (okText "ok", ⟨d.settings.insert "programming_mode" (.bool false), false⟩) := LongFred.handle_off d

private theorem handle_missing (d : LongFred.LongFredFake) : fakeHandle d (.ofHttp missing) = (notFound, d) := by
  have hpath := LongFred.matched_of_noQuery (by decide : '?' ∉ "/nowhere".toList)
  simp only [fakeHandle, LongFred.LongFredFake.handle, missing, FakeRequest.ofHttp, hpath]
  rfl

private theorem served_image : Served fakeHandle fakeClient (fun d => d.settings.IsObject) image := by
  have hwords : IsWord "POST" ∧ IsWord LongFred.FIRMWARE_PATH := ⟨by decide, by decide⟩
  have hhost : '\r' ∉ fakeClient.host.toList := by decide
  have hbody : ∀ b ∈ image.body, '\r' ∉ b.1.toList ∧ b.2.length < 2 ^ 63 ∧ b.2 ≠ [] := by
    intro b hb
    obtain rfl := Option.some.inj hb
    exact ⟨by decide, by decide, by decide⟩
  exact .of_handle ⟨hwords.1, hwords.2, hhost, fun b hb => (hbody b hb).1, fun b hb => (hbody b hb).2.1⟩
    (fun b hb => (hbody b hb).2.2) (fun d _ => handle_image d) (fun _ _ => FakeResponse.writable_okJson _)
    (fun _ hd => hd) fun _ _ => ⟨rfl, rfl⟩

private theorem served_leave : Served fakeHandle fakeClient (fun d => d.settings.IsObject) leave := by
  have hwords : IsWord "POST" ∧ IsWord LongFred.PROGRAMMING_MODE_OFF_PATH := ⟨by decide, by decide⟩
  have hhost : '\r' ∉ fakeClient.host.toList := by decide
  exact .of_handle ⟨hwords.1, hwords.2, hhost, nofun, nofun⟩ nofun (fun d _ => handle_leave d)
    (fun _ _ => FakeResponse.writable_okText _) (fun _ hd => hd.insert)
    fun _ hd => ⟨rfl, by rw [Json.insert_eq_self (Json.get?_insert_self hd)]⟩

private theorem served_missing : Served fakeHandle fakeClient (fun d => d.settings.IsObject) missing := by
  have hwords : IsWord "GET" ∧ IsWord "/nowhere" := ⟨by decide, by decide⟩
  have hhost : '\r' ∉ fakeClient.host.toList := by decide
  refine .of_handle ⟨hwords.1, hwords.2, hhost, nofun, nofun⟩ nofun (fun d _ => handle_missing d)
    (fun _ _ => ?_) (fun _ hd => hd) fun _ _ => ⟨rfl, rfl⟩
  show '\r' ∉ "text/plain".toList
  decide

/-- A part of the image is no change to the device, nor is none of it. -/
private theorem survivesCut_image : SurvivesCut fakeHandle image fun d => d.settings.IsObject := by
  refine .of_unchanged fun d req hcut => ?_
  obtain ⟨b, -, j, -, rfl⟩ := hcut
  have hpath := LongFred.matched_of_noQuery (by decide : '?' ∉ LongFred.FIRMWARE_PATH.toList)
  simp only [fakeHandle, LongFred.LongFredFake.handle, image, hpath]
  rfl

/-- Driver code over sockets that can fail.  If every request of a run ends with a response, the run and the device after
it are those of direct calls: a request that had to be repeated counts once. -/
theorem overSockets_refines {α : Type} {x : DriverM α} {tr : List (Event DriverOp DriverOp.Res)}
    {result : Except DriverError α} (hI : I d) (hrun : Prog.Run x.run tr result)
    (hserved : Prog.ServedBy (overSockets c fun r => Contact handle c r) d tr d')
    (hreq : ∀ r ∈ requestsOf tr, Served handle c I r ∧ SurvivesCut handle r I)
    (hok : ∀ r answer, ⟨.request r, answer⟩ ∈ tr → IsResponse c answer) :
    x.run.serve (clientAnswer handle c) d = (result, d') := by
  obtain ⟨hvalue, hstate, -⟩ := overSockets_simulates handle (A := fun s t => t = s ∧ I s) ⟨rfl, hI⟩ hrun hserved <| by
    rintro r answer hmem s s' t net ⟨rfl, hI⟩ hnet hrequest
    obtain ⟨hserved, hcut⟩ := hreq r (mem_requestsOf hmem)
    obtain ⟨hresult, rfl⟩ := hserved.contact hcut hI hnet hrequest (hok r answer hmem)
    exact ⟨hresult, rfl, hserved.keeps t hI⟩
  exact Prod.ext hvalue hstate

/-- A new LongFred is sent an image and told to leave programming, and each of the requests needs four attempts. -/
theorem overSockets_refines_fourthTry : ∃ tr,
    Prog.ServedBy (overRequests (fourthTry fakeHandle fakeClient)) .new tr left ∧
      uploadAndLeave.run.serve (clientAnswer fakeHandle fakeClient) .new =
        (.ok (Text.utf8Bytes "ok"), left) := by
  have hnew : LongFred.LongFredFake.new.settings.IsObject := ⟨_, rfl⟩
  have hsent : fourthTry fakeHandle fakeClient image (.ok (Text.utf8Bytes "\x7b\"ok\":true\x7d")) .new .new :=
    served_image.retried hnew requests_short.1 (handle_image _) pages_size.1 survivesCut_image rfl rfl rfl
  have hleft : fourthTry fakeHandle fakeClient leave (.ok (Text.utf8Bytes "ok")) .new _ :=
    served_leave.retried hnew requests_short.2.1 (handle_leave _) pages_size.2.1 (.of_none rfl) rfl rfl rfl
  obtain ⟨tr, hrun, hserved⟩ : Completes (fourthTry fakeHandle fakeClient) uploadAndLeave .new _ _ :=
    (Completes.request hsent).bind (Completes.request hleft)
  have hissued : requestsOf tr = [image, leave] :=
    (((Issues.request _ image).bind fun _ => Issues.request _ leave) _ _ hrun).2 _ rfl
  have hstrict : Strict uploadAndLeave := (Strict.request _ _).bind fun _ => .request _ _
  refine ⟨tr, hserved, overSockets_refines (I := fun d => d.settings.IsObject) hnew hrun (overSockets_fourthTry hserved) ?_
    fun r answer hmem => .of_ok rfl (hstrict _ _ hrun r answer hmem)⟩
  rw [hissued]
  exact List.forall_mem_cons.2
    ⟨⟨served_image, survivesCut_image⟩, List.forall_mem_singleton.2 ⟨served_leave, .of_none rfl⟩⟩

/-- Driver code over sockets that do not fail, with responses within the client's limit: every run, with its errors and
its retries, and the device after it are those of direct calls. -/
theorem overSockets_exact {α : Type} {x : DriverM α} {tr : List (Event DriverOp DriverOp.Res)}
    {result : Except DriverError α} (hI : I d) (hrun : Prog.Run x.run tr result)
    (hserved : Prog.ServedBy (overSockets c fun r => Answered handle c r) d tr d')
    (hreq : ∀ r ∈ requestsOf tr, Served handle c I r)
    (hsize : ∀ r ∈ requestsOf tr, ∀ s, I s → (handle s (.ofHttp r)).1.written.length ≤ c.maxBody) :
    x.run.serve (clientAnswer handle c) d = (result, d') := by
  obtain ⟨hvalue, hstate, -⟩ := overSockets_simulates handle (A := fun s t => t = s ∧ I s) ⟨rfl, hI⟩ hrun hserved <| by
    rintro r answer hmem s s' t net ⟨rfl, hI⟩ hnet hrequest
    have hserved := hreq r (mem_requestsOf hmem)
    obtain ⟨hresult, rfl⟩ := hserved.answered hI (hsize r (mem_requestsOf hmem) t hI) hnet hrequest
    exact ⟨hresult, rfl, hserved.keeps t hI⟩
  exact Prod.ext hvalue hstate

/-- A new LongFred is told to leave programming and asked for a page that it does not have, four times. -/
theorem overSockets_exact_missing : ∃ tr,
    Prog.ServedBy (overSockets fakeClient fun r => Answered fakeHandle fakeClient r) .new tr left ∧
      leaveAndMiss.run.serve (clientAnswer fakeHandle fakeClient) .new =
        (.error (.http "unexpected HTTP status 404"), left) := by
  have hnew : LongFred.LongFredFake.new.settings.IsObject := ⟨_, rfl⟩
  have hleft : requestOver fakeClient (fun r => Answered fakeHandle fakeClient r) leave (.ok (Text.utf8Bytes "ok")) .new _ :=
    served_leave.requested hnew requests_short.2.1 (handle_leave _) pages_size.2.1 (by decide)
  have hmissed : requestOver fakeClient (fun r => Answered fakeHandle fakeClient r) missing _ left _ :=
    served_missing.requested hnew.insert requests_short.2.2 (handle_missing _) pages_size.2.2 (by decide)
  obtain ⟨tr, hrun, hserved⟩ : Completes (requestOver fakeClient fun r => Answered fakeHandle fakeClient r) leaveAndMiss
      .new _ _ := (Completes.request hleft).bind (Completes.request hmissed)
  have hissued : requestsOf tr <+: [leave, missing] :=
    (((Issues.request _ leave).bind fun _ => Issues.request _ missing) _ _ hrun).1
  have hserve := overSockets_exact (I := fun d => d.settings.IsObject) hnew hrun hserved ?_ ?_
  · exact ⟨tr, hserved, hserve⟩
  · intro r hr
    have hmem := hissued.subset hr
    simp only [List.mem_cons, List.not_mem_nil, or_false] at hmem
    rcases hmem with rfl | rfl
    · exact served_leave
    · exact served_missing
  · intro r hr d _
    have hmem := hissued.subset hr
    simp only [List.mem_cons, List.not_mem_nil, or_false] at hmem
    rcases hmem with rfl | rfl
    · rw [handle_leave]
      exact pages_size.2.1
    · rw [handle_missing]
      exact pages_size.2.2

/-! ### A part of a composite -/

variable {φ : Type} {part : φ → FakeRequest → FakeResponse × φ} {embed : φ → σ} {before after : List σ} {J : φ → Prop}

variable (handle part embed) in
/-- A fake of the composite is a device of its own. -/
def Embeds : Prop := ∀ s req, handle (embed s) req = ((part s req).1, embed (part s req).2)

variable (handle part) in
/-- A request gets to the fake, since it knows the request and none of those before it does. -/
def GetsTo (before : List σ) (J : φ → Prop) (req : FakeRequest) : Prop :=
  (∀ d ∈ before, ¬ Knows handle d req) ∧ ∀ s, J s → Knows part s req

private theorem compositeHandle_part (after : List σ) (hembeds : Embeds handle part embed)
    (hquiet : RefusesQuietly handle) {req : FakeRequest} (hgets : GetsTo handle part before J req) {s : φ} (hs : J s) :
    compositeHandle handle (before ++ embed s :: after) req =
      ((part s req).1, before ++ embed (part s req).2 :: after) := by
  have hknows : Knows handle (embed s) req := by
    unfold Knows
    rw [hembeds]
    exact hgets.2 s hs
  rw [compositeHandle_known hquiet hgets.1 hknows, hembeds]

private theorem Served.composite (hserved : Served part c J r) (after : List σ) (hembeds : Embeds handle part embed)
    (hquiet : RefusesQuietly handle) (hgets : GetsTo handle part before J (.ofHttp r)) :
    Served (compositeHandle handle) c (fun t => ∃ s, J s ∧ t = before ++ embed s :: after) r := by
  have hsent := FakeRequest.ofSent_eq hserved.body
  refine ⟨hserved.sendable, hserved.body, ?_, ?_, ?_⟩
  · rintro t ⟨s, hs, rfl⟩
    rw [compositeHandle_part after hembeds hquiet hgets hs]
    exact hserved.writable s hs
  · rintro t ⟨s, hs, rfl⟩
    have hrepeat := hserved.repeatable s hs
    unfold Repeatable at hrepeat ⊢
    rw [hsent] at hrepeat ⊢
    rw [compositeHandle_part after hembeds hquiet hgets hs,
      compositeHandle_part after hembeds hquiet hgets (hserved.keeps s hs), hrepeat]
  · rintro t ⟨s, hs, rfl⟩
    rw [compositeHandle_part after hembeds hquiet hgets hs]
    exact ⟨_, hserved.keeps s hs, rfl⟩

private theorem SurvivesCut.composite (hcut : SurvivesCut part r J) (after : List σ)
    (hembeds : Embeds handle part embed) (hquiet : RefusesQuietly handle)
    (hgets : GetsTo handle part before J (.ofSent r))
    (hgetsCut : ∀ req, CutOff r req → GetsTo handle part before J req) :
    SurvivesCut (compositeHandle handle) r fun t => ∃ s, J s ∧ t = before ++ embed s :: after := by
  rintro t ⟨s, hs, rfl⟩ req hreq
  obtain ⟨hkeeps, hsame⟩ := hcut s hs req hreq
  rw [compositeHandle_part after hembeds hquiet (hgetsCut req hreq) hs]
  refine ⟨⟨_, hkeeps, rfl⟩, ?_⟩
  rw [compositeHandle_part after hembeds hquiet hgets hkeeps, compositeHandle_part after hembeds hquiet hgets hs, hsame]

variable (handle part c) in
/-- What is asked of a request to a fake of a composite over sockets that can fail. -/
structure PartServed (before : List σ) (J : φ → Prop) (r : HttpRequest) : Prop where
  served : Served part c J r
  cut : SurvivesCut part r J
  gets : GetsTo handle part before J (.ofHttp r)
  getsCut : ∀ req, CutOff r req → GetsTo handle part before J req

theorem PartServed.of_none (hserved : Served part c J r) (hgets : GetsTo handle part before J (.ofHttp r))
    (hbody : r.body = none) : PartServed handle c part before J r where
  served := hserved
  cut := .of_none hbody
  gets := hgets
  getsCut := by
    rintro req ⟨b, hb, -⟩
    rw [hbody] at hb
    cases hb

private theorem PartServed.survivesCut (hpart : PartServed handle c part before J r) (after : List σ)
    (hembeds : Embeds handle part embed) (hquiet : RefusesQuietly handle) :
    SurvivesCut (compositeHandle handle) r fun t => ∃ s, J s ∧ t = before ++ embed s :: after := by
  refine hpart.cut.composite after hembeds hquiet ?_ hpart.getsCut
  rw [FakeRequest.ofSent_eq hpart.served.body]
  exact hpart.gets

section

variable {s s' : φ} {response : FakeResponse} (after : List σ) (hembeds : Embeds handle part embed)
  (hquiet : RefusesQuietly handle) (hs : J s) (hshort : (c.requestBytes r).length ≤ 512)
  (hhandle : part s (.ofHttp r) = (response, s')) (hsize : response.written.length ≤ c.maxBody)

include hembeds hquiet hs hshort hhandle hsize

/-- A short request to a fake of the composite comes to its response. -/
theorem Served.requested_part (hserved : Served part c J r) (hgets : GetsTo handle part before J (.ofHttp r))
    (hretries : c.retries + 1 < 2 ^ 32) :
    requestOver c (fun r => Answered (compositeHandle handle) c r) r (response.resultFor c)
      (before ++ embed s :: after) (before ++ embed s' :: after) := by
  have hpart := compositeHandle_part after hembeds hquiet hgets hs
  rw [hhandle] at hpart
  exact (hserved.composite after hembeds hquiet hgets).requested ⟨s, hs, rfl⟩ hshort hpart hsize hretries

/-- It does so on the fourth attempt. -/
theorem PartServed.retried (hserved : PartServed handle c part before J r) (hflag : c.successOnResetAfterWrite = false)
    (hretries : c.retries = 3) {body : List UInt8} (hbody : response.resultFor c = .ok body) :
    fourthTry (compositeHandle handle) c r (.ok body) (before ++ embed s :: after) (before ++ embed s' :: after) := by
  have hpart := compositeHandle_part after hembeds hquiet hserved.gets hs
  rw [hhandle] at hpart
  exact (hserved.served.composite after hembeds hquiet hserved.gets).retried ⟨s, hs, rfl⟩ hshort hpart hsize
    (hserved.survivesCut after hembeds hquiet) hflag hretries hbody

end

/-- Driver code that reaches one fake of a composite over sockets that can fail. -/
theorem overSockets_part {α : Type} {x : DriverM α} {tr : List (Event DriverOp DriverOp.Res)}
    {result : Except DriverError α} {s : φ} {devices : List σ} (hembeds : Embeds handle part embed)
    (hquiet : RefusesQuietly handle) (hs : J s) (hrun : Prog.Run x.run tr result)
    (hserved : Prog.ServedBy (overSockets c fun r => Contact (compositeHandle handle) c r) (before ++ embed s :: after) tr
      devices)
    (hreq : ∀ r ∈ requestsOf tr, PartServed handle c part before J r)
    (hok : ∀ r answer, ⟨.request r, answer⟩ ∈ tr → IsResponse c answer) :
    (x.run.serve (clientAnswer part c) s).1 = result ∧
      devices = before ++ embed (x.run.serve (clientAnswer part c) s).2 :: after := by
  have hsim := overSockets_simulates part (A := fun t s => J s ∧ t = before ++ embed s :: after) ⟨hs, rfl⟩
    hrun hserved <| by
    rintro r answer hmem t t' s net ⟨hs, rfl⟩ hnet hrequest
    have hpart := hreq r (mem_requestsOf hmem)
    have hcontact := (hpart.served.composite after hembeds hquiet hpart.gets).contact
      (hpart.survivesCut after hembeds hquiet) ⟨s, hs, rfl⟩ hnet hrequest (hok r answer hmem)
    rw [compositeHandle_part after hembeds hquiet hpart.gets hs] at hcontact
    exact ⟨hcontact.1, hpart.served.keeps s hs, hcontact.2⟩
  exact ⟨hsim.1, hsim.2.2⟩

/-- Driver code that reaches one fake of a composite over sockets that do not fail. -/
theorem overSockets_part_exact {α : Type} {x : DriverM α} {tr : List (Event DriverOp DriverOp.Res)}
    {result : Except DriverError α} {s : φ} {devices : List σ} (hembeds : Embeds handle part embed)
    (hquiet : RefusesQuietly handle) (hs : J s) (hrun : Prog.Run x.run tr result)
    (hserved : Prog.ServedBy (overSockets c fun r => Answered (compositeHandle handle) c r) (before ++ embed s :: after) tr
      devices)
    (hreq : ∀ r ∈ requestsOf tr, Served part c J r ∧ GetsTo handle part before J (.ofHttp r))
    (hsize : ∀ r ∈ requestsOf tr, ∀ s, J s → (part s (.ofHttp r)).1.written.length ≤ c.maxBody) :
    (x.run.serve (clientAnswer part c) s).1 = result ∧
      devices = before ++ embed (x.run.serve (clientAnswer part c) s).2 :: after := by
  have hsim := overSockets_simulates part (A := fun t s => J s ∧ t = before ++ embed s :: after) ⟨hs, rfl⟩
    hrun hserved <| by
    rintro r answer hmem t t' s net ⟨hs, rfl⟩ hnet hrequest
    obtain ⟨hpart, hgets⟩ := hreq r (mem_requestsOf hmem)
    have hhandle := compositeHandle_part after hembeds hquiet hgets hs
    have hanswered := (hpart.composite after hembeds hquiet hgets).answered ⟨s, hs, rfl⟩
      (by rw [hhandle]; exact hsize r (mem_requestsOf hmem) s hs) hnet hrequest
    rw [hhandle] at hanswered
    exact ⟨hanswered.1, hpart.keeps s hs, hanswered.2⟩
  exact ⟨hsim.1, hsim.2.2⟩

end OverSockets

end WirelessProgrammer
