import WirelessProgrammer.Drivers.Contract
import WirelessProgrammer.Http.Message

/-!
# Fake devices

`wp-fake/src/device.rs`: what a fake device is asked and answers, and driver code that is run against one.  The HTTP
client in between hands every request to the device.
-/

namespace WirelessProgrammer

open Effect

structure FakeRequest where
  method : String
  path : String
  body : Option (List UInt8)
  deriving DecidableEq, Repr

structure FakeResponse where
  status : UInt16
  contentType : String
  body : List UInt8
  /-- Close the socket without writing a reply. -/
  dropWithoutReply : Bool
  deriving DecidableEq, Repr

def okText (body : String) : FakeResponse := ⟨200, "text/plain", Text.utf8Bytes body, false⟩

def okXml (body : List UInt8) : FakeResponse := ⟨200, "text/html", body, false⟩

def okJson (body : List UInt8) : FakeResponse := ⟨200, "application/json", body, false⟩

def notFound : FakeResponse := ⟨404, "text/plain", Text.utf8Bytes "not found", false⟩

/-- What the HTTP client makes of a response. -/
def FakeResponse.result (r : FakeResponse) : Except IoError (List UInt8) :=
  if r.dropWithoutReply then .error (invalidData "no header/body separator")
  else if 200 ≤ r.status.toNat ∧ r.status.toNat < 300 then .ok r.body
  else .error ⟨.unexpectedEof, s!"unexpected HTTP status {r.status}"⟩

theorem okText_result (body : String) : (okText body).result = .ok (Text.utf8Bytes body) := rfl

theorem okXml_result (body : List UInt8) : (okXml body).result = .ok body := rfl

def FakeRequest.ofHttp (r : HttpRequest) : FakeRequest := ⟨r.method, r.path, r.body.map (·.2)⟩

/-! ### Driver code against a fake device -/

section Served

variable {σ : Type} (handle : σ → FakeRequest → FakeResponse × σ)

/-- The device answers requests; a progress report does not reach it. -/
def deviceAnswer (d : σ) : (o : DriverOp) → o.Res × σ
  | .request r => ((handle d (.ofHttp r)).1.result, (handle d (.ofHttp r)).2)
  | .step _ => ((), d)
  | .progress _ => ((), d)
  | .detail _ => ((), d)

/-- The result of driver code that is run against the device, and the device after it. -/
def runAgainst {α : Type} (x : DriverM α) (d : σ) : Except DriverError α × σ := x.run.serve (deviceAnswer handle) d

variable {handle} {α β : Type}

theorem runAgainst_bind {x : DriverM α} {f : α → DriverM β} {d d' : σ} {a : α}
    (hx : runAgainst handle x d = (.ok a, d')) : runAgainst handle (x >>= f) d = runAgainst handle (f a) d' := by
  unfold runAgainst at hx ⊢
  rw [ExceptT.run_bind, Prog.serve_bind, hx]

theorem runAgainst_step (s : String) (d : σ) : runAgainst handle (DriverM.step s) d = (.ok (), d) := rfl

theorem runAgainst_request {onError : IoError → DriverError} {r : HttpRequest} {d d' : σ} {response : FakeResponse}
    {body : List UInt8} (h : handle d (.ofHttp r) = (response, d')) (hbody : response.result = .ok body) :
    runAgainst handle (DriverM.request onError r) d = (.ok body, d') := by
  show (Except.mapError _ (handle d (.ofHttp r)).1.result, (handle d (.ofHttp r)).2) = _
  rw [h, hbody]
  rfl

theorem runAgainst_get {path : String} {d : σ} {body : List UInt8}
    (h : (handle d ⟨"GET", path, none⟩).1.result = .ok body) :
    runAgainst handle (DriverM.get path) d = (.ok body, (handle d ⟨"GET", path, none⟩).2) := by
  show (Except.mapError _ (handle d ⟨"GET", path, none⟩).1.result, _) = _
  rw [h]
  rfl

theorem runAgainst_liftExcept {x : Except DriverError α} {a : α} (h : x = .ok a) (d : σ) :
    runAgainst handle (DriverM.liftExcept x) d = (.ok a, d) := by
  subst h
  rfl

/-- A loop of passes that go well takes the device through their states in turn. -/
theorem runAgainst_forM {l : List β} {f : β → DriverM PUnit} {g : σ → β → σ}
    (h : ∀ b ∈ l, ∀ d, runAgainst handle (f b) d = (.ok (), g d b)) (d : σ) :
    runAgainst handle (l.forM f) d = (.ok (), l.foldl g d) := by
  induction l generalizing d with
  | nil => rfl
  | cons b l ih =>
    show runAgainst handle (f b >>= fun _ => l.forM f) d = _
    rw [runAgainst_bind (h b (by simp) d), ih fun b hb => h b (by simp [hb])]
    rfl

end Served

end WirelessProgrammer
