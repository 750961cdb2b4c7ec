import WirelessProgrammer.Http.Retry
import WirelessProgrammer.Fake.Exchange

/-!
# Attempts on a network that can fail

A connection can fail at any point and in either direction: the server gets a part of the request, and the client a part of
the response or nothing (`Contact`).  From a part of a request the server makes something only when the stream ends in the
body, and then the device handles a request with a shorter body (`Contact.device`); a client that gets a response has got
the whole of it (`Contact.answer`).  For a device to which neither a repeated request nor a cut one makes a difference, a
client that has its response after some attempts has made the request once (`Attempts.ok`).
-/

namespace WirelessProgrammer

open Text Effect

/-! ### Connections that fail -/

section Contact

variable {σ : Type} (handle : σ → FakeRequest → FakeResponse × σ) (c : BoundedHttpClient) (r : HttpRequest)

/-- What has been written to a connection when it is closed. -/
def Io.written : Io (List UInt8) → List UInt8
  | .ok bytes => bytes
  | _ => []

/-- The server reads a part of the request, in some pieces.  When a part is missing, nothing more of it comes, and the
stream ends in order only if the client has not sent all of it. -/
structure Arrives (a : Attempt) (up : List (List UInt8)) (tail : List SocketRead) : Prop where
  pieces : ∀ piece ∈ up, IsRead piece
  part : up.flatten <+: c.requestBytes r
  missing : up.flatten ≠ c.requestBytes r → ∀ data later, tail = .ok data :: later → data = []
  unsent : up.flatten ≠ c.requestBytes r → (∃ later, tail = .ok [] :: later) → c.sendRequest r a ≠ .ok ()

/-- The client reads what is written to its connection: a read gives the next part of it, the stream ends behind the whole
of it, and a read can fail at any time.  What would come after the last pass is left open. -/
inductive Hears (armed : Bool) : List UInt8 → List ReadPoll → Prop
  | pending {reply : List UInt8} : Hears armed reply []
  | data {p : ReadPoll} {data rest : List UInt8} {polls : List ReadPoll} (hcall : p.call = .ok data) (hdata : data ≠ [])
      (h : Hears armed rest polls) : Hears armed (data ++ rest) (p :: polls)
  | closed {p : ReadPoll} {polls : List ReadPoll} (hcall : p.call = .ok []) : Hears armed [] (p :: polls)
  | fails {reply : List UInt8} {p : ReadPoll} {e : IoError} {polls : List ReadPoll} (hcall : p.call = .error e)
      (h : e.isTimeout = true → Hears armed reply polls) : Hears armed reply (p :: polls)
  | stops {reply : List UInt8} {p : ReadPoll} {polls : List ReadPoll} (h : ¬ p.Quiet armed) : Hears armed reply (p :: polls)

/-- One connection on a network that can fail: the server does what it does with the part of the request that arrives, and
the client with the part of the response that arrives. -/
inductive Contact (a : Attempt) (d : σ) : σ → Prop
  | intro {d' : σ} {up : List (List UInt8)} {tail : List SocketRead} {out : Io (List UInt8)}
      (harrives : Arrives c r a up tail) (hserved : handleConnection handle (readsOfPieces up tail) d = (out, d'))
      (hheard : c.sendRequest r a = .ok () → Hears c.cancel out.written a.reads) : Contact a d d'

end Contact

/-! ### What the client has read -/

section Client

variable {c : BoundedHttpClient} {p : ReadPoll} {polls : List ReadPoll} {buf reply got : List UInt8}

/-- A pass without an error ends with a response that is there, or comes to its read. -/
private theorem readLoop_pass {x : ReadEnd} (h : c.readLoop (p :: polls) buf = .ok x) :
    buf.length ≤ c.maxBody ∧
      (httpMessageComplete buf = .ok true ∧ x = .response buf ∨ httpMessageComplete buf = .ok false ∧ p.Quiet c.cancel) := by
  rw [BoundedHttpClient.readLoop] at h
  split at h
  · cases h
  rename_i hlive
  split at h
  · cases h
  rename_i hsize
  refine ⟨Nat.not_lt.1 hsize, ?_⟩
  split at h
  · cases h
  · cases h
  · exact .inl ⟨‹_›, (Io.ok.inj h).symm⟩
  · refine .inr ⟨‹_›, ?_⟩
    split at h
    · cases h
    rename_i hexpired
    split at h
    · cases h
    · exact ⟨Bool.eq_false_iff.2 hlive, Bool.eq_false_iff.2 hexpired, ‹_›⟩

/-- The end of the stream with an unfinished response. -/
private theorem closed_open (hopen : httpMessageComplete buf = .ok false) (e : Option IoError) :
    c.closed buf e =
      if c.successOnResetAfterWrite then .ok .reboot
      else match e with
        | none => .ok (.response buf)
        | some e => .err (e.within "read") := by
  simp only [BoundedHttpClient.closed, hopen, Io.ofChecked, Io.ok_bind, Bool.false_eq_true, if_false]
  split <;> rfl

/-- What the client looks at as a response is complete, or it is all there is. -/
private theorem readLoop_heard (h : Hears c.cancel reply polls) (hloop : c.readLoop polls buf = .ok (.response got)) :
    got.length ≤ c.maxBody ∧ got <+: buf ++ reply ∧ (httpMessageComplete got = .ok true ∨ got = buf ++ reply) := by
  induction h generalizing buf with
  | pending => cases hloop
  | @data p data rest polls hcall hdata h ih =>
    obtain ⟨hsize, ⟨hcomplete, heq⟩ | ⟨hopen, hquiet⟩⟩ := readLoop_pass hloop
    · obtain rfl := ReadEnd.response.inj heq
      exact ⟨hsize, List.prefix_append .., .inl hcomplete⟩
    · obtain ⟨b, data, rfl⟩ := List.exists_cons_of_ne_nil hdata
      rw [c.readLoop_reads hquiet hsize hopen, hcall] at hloop
      rw [← List.append_assoc]
      exact ih hloop
  | @closed p polls hcall =>
    obtain ⟨hsize, ⟨hcomplete, heq⟩ | ⟨hopen, hquiet⟩⟩ := readLoop_pass hloop
    · obtain rfl := ReadEnd.response.inj heq
      exact ⟨hsize, List.prefix_append .., .inl hcomplete⟩
    · rw [c.readLoop_reads hquiet hsize hopen, hcall] at hloop
      dsimp only at hloop
      rw [closed_open hopen] at hloop
      split at hloop
      · cases hloop
      · obtain rfl := ReadEnd.response.inj (Io.ok.inj hloop)
        rw [List.append_nil]
        exact ⟨hsize, List.prefix_rfl, .inr rfl⟩
  | @fails reply p e polls hcall h ih =>
    obtain ⟨hsize, ⟨hcomplete, heq⟩ | ⟨hopen, hquiet⟩⟩ := readLoop_pass hloop
    · obtain rfl := ReadEnd.response.inj heq
      exact ⟨hsize, List.prefix_append .., .inl hcomplete⟩
    · rw [c.readLoop_reads hquiet hsize hopen, hcall] at hloop
      dsimp only at hloop
      rw [closed_open hopen] at hloop
      split at hloop
      · rename_i hwaits
        simp only [Bool.and_eq_true] at hwaits
        exact ih hwaits.1.1 hloop
      split at hloop
      · cases hloop
      split at hloop
      · split at hloop <;> cases hloop
      · cases hloop
  | @stops reply p polls h =>
    obtain ⟨hsize, ⟨hcomplete, heq⟩ | ⟨-, hquiet⟩⟩ := readLoop_pass hloop
    · obtain rfl := ReadEnd.response.inj heq
      exact ⟨hsize, List.prefix_append .., .inl hcomplete⟩
    · exact absurd hquiet h

/-- Only a client that waits for a restart takes the end of a connection for one. -/
private theorem readLoop_reboot (hloop : c.readLoop polls buf = .ok .reboot) : c.successOnResetAfterWrite = true := by
  induction polls generalizing buf with
  | nil => cases hloop
  | cons p polls ih =>
    obtain ⟨hsize, ⟨-, heq⟩ | ⟨hopen, hquiet⟩⟩ := readLoop_pass hloop
    · cases heq
    · rw [c.readLoop_reads hquiet hsize hopen] at hloop
      simp only [closed_open hopen] at hloop
      by_contra hflag
      rw [Bool.not_eq_true] at hflag
      simp only [hflag, Bool.false_eq_true, if_false] at hloop
      repeat' split at hloop
      all_goals first
        | cases hloop
        | exact absurd (ih hloop) (by simp [hflag])

end Client

/-! ### What a connection has come to -/

section Outcome

variable {σ : Type} {handle : σ → FakeRequest → FakeResponse × σ} {c : BoundedHttpClient} {r : HttpRequest} {a : Attempt}
  {d d' : σ} {up : List (List UInt8)} {tail : List SocketRead} {out : Io (List UInt8)}

/-- A connection that brings the device no request. -/
private theorem handleConnection_unasked {reads : List SocketRead} (h : ∀ req, receive reads ≠ .ok (some req))
    (hserved : handleConnection handle reads d = (out, d')) : out.written = [] ∧ d' = d := by
  unfold handleConnection at hserved
  cases hreceive : receive reads with
  | ok req =>
    cases req with
    | some req => exact absurd hreceive (h req)
    | none =>
      rw [hreceive] at hserved
      cases hserved
      exact ⟨rfl, rfl⟩
  | _ =>
    rw [hreceive] at hserved
    cases hserved
    exact ⟨rfl, rfl⟩

/-- What the server makes of a connection: it answers the whole request, or one that has been cut off by a client that has
not sent it all, or nothing. -/
private theorem Arrives.served (h : Arrives c r a up tail) (hsend : c.Sendable r)
    (hserved : handleConnection handle (readsOfPieces up tail) d = (out, d')) :
    out.written = (handle d (.ofSent r)).1.written ∧ d' = (handle d (.ofSent r)).2 ∨
      (c.sendRequest r a ≠ .ok () ∧ ∃ req, CutOff r req ∧ d' = (handle d req).2) ∨ out.written = [] ∧ d' = d := by
  by_cases hall : up.flatten = c.requestBytes r
  · rcases hsend.received h.pieces hall tail with hreceive | ⟨-, hreceive⟩
    · rw [handleConnection, hreceive] at hserved
      cases hserved
      exact .inl ⟨rfl, rfl⟩
    · exact .inr (.inr (handleConnection_unasked (fun req heq => by cases hreceive.symm.trans heq) hserved))
  by_cases hreq : ∃ req, receive (readsOfPieces up tail) = .ok (some req)
  · obtain ⟨req, hreceive⟩ := hreq
    obtain ⟨hend, hcut⟩ := hsend.cut h.pieces h.part hall (h.missing hall) hreceive
    rw [handleConnection, hreceive] at hserved
    cases hserved
    exact .inr (.inl ⟨h.unsent hall hend, req, hcut, rfl⟩)
  · exact .inr (.inr (handleConnection_unasked (not_exists.1 hreq) hserved))

/-- The device after a connection. -/
theorem Contact.device (h : Contact handle c r a d d') (hsend : c.Sendable r) :
    d' = (handle d (.ofSent r)).2 ∨ (∃ req, CutOff r req ∧ d' = (handle d req).2) ∨ d' = d := by
  cases h with
  | intro harrives hserved hheard =>
    rcases harrives.served hsend hserved with ⟨-, hd⟩ | ⟨-, hcut⟩ | ⟨-, hd⟩
    · exact .inl hd
    · exact .inr (.inl hcut)
    · exact .inr (.inr hd)

/-- The client has read the whole of a response that it makes something of. -/
private theorem responseBody_heard {response : FakeResponse} (hwrite : response.Writable) {got body : List UInt8}
    (hsize : got.length ≤ c.maxBody) (hpart : got <+: response.written)
    (hall : httpMessageComplete got = .ok true ∨ got = response.written)
    (hbody : Io.ofChecked (c.responseBody got) = .ok body) : response.resultFor c = .ok body := by
  cases hdrop : response.dropWithoutReply with
  | true =>
    have hnil : response.written = [] := if_pos hdrop
    rw [hnil, List.prefix_nil] at hpart
    subst hpart
    cases hbody
  | false =>
    have hwhole : got = response.written := by
      rcases hall with hcomplete | hall
      · rw [hwrite.complete hpart (Nat.lt_of_le_of_lt hsize c.maxBody_lt)] at hcomplete
        have hneed : response.need = response.written.length := if_neg (by simp [hdrop])
        rw [hneed] at hcomplete
        exact hpart.eq_of_length_le (of_decide_eq_true (Checked.ok.inj hcomplete))
      · exact hall
    subst hwhole
    rw [hwrite.responseBody hsize hdrop] at hbody
    cases hresult : response.resultFor c with
    | ok b =>
      rw [hresult] at hbody
      exact congrArg _ (Io.ok.inj hbody)
    | error e =>
      rw [hresult] at hbody
      cases hbody

/-- A client that gets a response over a connection, other than the empty one that some clients make of a restart, has got
the device's response to the whole request. -/
theorem Contact.answer (h : Contact handle c r a d d') (hsend : c.Sendable r) (hwrite : (handle d (.ofSent r)).1.Writable)
    {body : List UInt8} (hbody : c.requestOnce r a = .ok body) (hreal : c.successOnResetAfterWrite = true → body ≠ []) :
    (handle d (.ofSent r)).1.resultFor c = .ok body ∧ d' = (handle d (.ofSent r)).2 := by
  cases h with
  | intro harrives hserved hheard =>
    obtain ⟨u, hsent, hbody⟩ := Io.bind_eq_ok hbody
    obtain ⟨last, hloop, hbody⟩ := Io.bind_eq_ok hbody
    cases last with
    | reboot => exact absurd (Io.ok.inj hbody).symm (hreal (readLoop_reboot hloop))
    | response got =>
      obtain ⟨hsize, hpart, hall⟩ := readLoop_heard (hheard hsent) hloop
      rw [List.nil_append] at hpart hall
      rcases harrives.served hsend hserved with ⟨hwritten, hd⟩ | ⟨hfailed, -⟩ | ⟨hnil, -⟩
      · rw [hwritten] at hpart hall
        exact ⟨responseBody_heard hwrite hsize hpart hall hbody, hd⟩
      · exact absurd hsent hfailed
      · rw [hnil, List.prefix_nil] at hpart
        subst hpart
        cases hbody

end Outcome

/-! ### Attempts -/

section Attempts

variable {σ : Type} (handle : σ → FakeRequest → FakeResponse × σ) (c : BoundedHttpClient) (r : HttpRequest)

/-- The attempts of a request from number `i` on, `n` at most, each of them a connection of the kind.  They are made one
after the other: what the server still does with a connection that the client has given up, it does before the next
attempt. -/
inductive Attempts (net : Nat → Attempt) (C : Attempt → σ → σ → Prop) : Nat → Nat → σ → σ → Prop
  | spent (i : Nat) (d : σ) : Attempts net C 0 i d d
  | last {n i : Nat} {d d' : σ} (h : C (net i) d d') (hlast : ¬ c.Retried r (net i)) : Attempts net C (n + 1) i d d'
  | again {n i : Nat} {d d₁ d' : σ} (h : C (net i) d d₁) (hretried : c.Retried r (net i))
      (rest : Attempts net C n (i + 1) d₁ d') : Attempts net C (n + 1) i d d'

/-- For the device, the request made a second time is the request made once. -/
def Repeatable (d : σ) : Prop := handle (handle d (.ofSent r)).2 (.ofSent r) = handle d (.ofSent r)

/-- In the states with the invariant a request that has been cut off keeps it, and the whole request stays what it was. -/
def SurvivesCut (I : σ → Prop) : Prop :=
  ∀ d, I d → ∀ req, CutOff r req → I (handle d req).2 ∧ handle (handle d req).2 (.ofSent r) = handle d (.ofSent r)

variable {handle c r} {net : Nat → Attempt} {n i : Nat} {a : Attempt} {d d' s s' : σ} {I : σ → Prop}

/-- A request without a body is safe. -/
theorem SurvivesCut.of_none (h : r.body = none) : SurvivesCut handle r I := by
  rintro d - req ⟨b, hb, -⟩
  rw [h] at hb
  cases hb

/-- So is one that the device does not act on when it has been cut off. -/
theorem SurvivesCut.of_unchanged (h : ∀ d req, CutOff r req → (handle d req).2 = d) : SurvivesCut handle r I := by
  intro d hd req hcut
  rw [h d req hcut]
  exact ⟨hd, rfl⟩

/-- What is asked of a request and a device so that it does not matter how often the request is made. -/
structure Steady (handle : σ → FakeRequest → FakeResponse × σ) (c : BoundedHttpClient) (r : HttpRequest) (I : σ → Prop) :
    Prop where
  sendable : c.Sendable r
  writable : ∀ s, I s → (handle s (.ofSent r)).1.Writable
  repeatable : ∀ s, I s → Repeatable handle r s
  keeps : ∀ s, I s → I (handle s (.ofSent r)).2
  cut : SurvivesCut handle r I

/-- The request stays what it is over a connection. -/
theorem Contact.keeps (h : Contact handle c r a s s') (hsteady : Steady handle c r I) (hI : I s) :
    I s' ∧ handle s' (.ofSent r) = handle s (.ofSent r) := by
  rcases h.device hsteady.sendable with rfl | ⟨req, hcut, rfl⟩ | rfl
  · exact ⟨hsteady.keeps s hI, hsteady.repeatable s hI⟩
  · exact hsteady.cut s hI req hcut
  · exact ⟨hI, rfl⟩

/-- On a network that can fail: when the client has a response, it is the device's response to the request made once, and
the device is as it is after that. -/
theorem Attempts.ok (h : Attempts c r net (Contact handle c r) n i s d') (hsteady : Steady handle c r I) (hI : I s)
    (hs : handle s (.ofSent r) = handle d (.ofSent r)) {last : IoError} {body : List UInt8}
    (hbody : (c.requestFrom r net n i last).1 = .ok body) (hreal : c.successOnResetAfterWrite = true → body ≠ []) :
    (handle d (.ofSent r)).1.resultFor c = .ok body ∧ d' = (handle d (.ofSent r)).2 := by
  induction h generalizing last with
  | spent i d => cases hbody
  | @last n i s d' h hlast =>
    rw [c.requestFrom_last hlast] at hbody
    rw [← hs]
    exact h.answer hsteady.sendable (hsteady.writable s hI) hbody hreal
  | @again n i s d₁ d' h hretried rest ih =>
    obtain ⟨e, honce, he⟩ := hretried
    rw [c.requestFrom_retried honce he] at hbody
    obtain ⟨hI', hkeeps⟩ := h.keeps hsteady hI
    exact ih hI' (hkeeps.trans hs) hbody

/-! ### Connections that do not fail -/

/-- What the client comes to. -/
def FakeResponse.reply (c : BoundedHttpClient) (r : FakeResponse) : Io (List UInt8) :=
  if c.maxBody < r.written.length then .err tooLarge else .ofExcept (r.resultFor c)

/-- On a network that does not fail the client comes to what the device answers to the request made once, an error
included, however often it has tried. -/
theorem Attempts.exact (h : Attempts c r net (Answered handle c r) n i s d') (hn : 0 < n) (hsend : c.Sendable r)
    (hwrite : (handle d (.ofSent r)).1.Writable) (hrepeat : Repeatable handle r d)
    (hs : handle s (.ofSent r) = handle d (.ofSent r)) (last : IoError) :
    (c.requestFrom r net n i last).1 = (handle d (.ofSent r)).1.reply c ∧ d' = (handle d (.ofSent r)).2 := by
  have honce : ∀ {a : Attempt} {s s' : σ}, Answered handle c r a s s' → handle s (.ofSent r) = handle d (.ofSent r) →
      s' = (handle d (.ofSent r)).2 ∧ c.requestOnce r a = (handle d (.ofSent r)).1.reply c := by
    intro a s s' h hs
    have := h.once hsend (by rwa [hs])
    rwa [hs] at this
  induction h generalizing last with
  | spent i d => exact absurd hn (Nat.lt_irrefl 0)
  | @last n i s d' h hlast =>
    obtain ⟨hd, hreply⟩ := honce h hs
    rw [c.requestFrom_last hlast]
    exact ⟨hreply, hd⟩
  | @again n i s d₁ d' h hretried rest ih =>
    obtain ⟨hd, hreply⟩ := honce h hs
    obtain ⟨e, he, hkind⟩ := hretried
    rw [c.requestFrom_retried he hkind]
    cases n with
    | zero =>
      -- the last attempt that is allowed
      cases rest
      exact ⟨he.symm.trans hreply, hd⟩
    | succ n => exact ih (Nat.succ_pos n) (by rw [hd]; exact hrepeat) e

/-! ### Attempts there are -/

/-- A connection over which everything arrives is one of those that can fail. -/
theorem Answered.contact (h : Answered handle c r a d d') : Contact handle c r a d d' := by
  cases h with
  | @intro up down waiting reply polls rest p hsent hup hrequest hserved hdown hreply hquiet hclosed hreads =>
    refine .intro ⟨hup, hrequest ▸ List.prefix_rfl, fun h => absurd hrequest h, fun h => absurd hrequest h⟩ hserved fun _ => ?_
    rw [hreads]
    show Hears c.cancel reply _
    rw [← hreply]
    clear hreads hserved hreply hsent hrequest
    induction hdown with
    | nil => exact .closed hclosed
    | @piece p data polls pieces hp hcall hdata h ih =>
      rw [List.flatten_cons]
      exact .data hcall hdata ih
    | @wait p e polls pieces hp hcall he harmed hafter h ih => exact .fails hcall fun _ => ih

/-- A short request whose attempts are all answered, whatever the client makes of the answer. -/
theorem attempts_answered (hsend : c.Sendable r) (hshort : (c.requestBytes r).length ≤ 512)
    (hrepeat : Repeatable handle r d) (n i : Nat) (hs : handle s (.ofSent r) = handle d (.ofSent r)) :
    Attempts c r (fun _ => c.answered r (handle d (.ofSent r)).1.written) (Answered handle c r) (n + 1) i s
      (handle d (.ofSent r)).2 := by
  have hnet : Answered handle c r _ s _ := answered_short hsend hshort s
  rw [hs] at hnet
  by_cases hretried : c.Retried r (c.answered r (handle d (.ofSent r)).1.written)
  · induction n generalizing i s with
    | zero => exact .again hnet hretried (.spent _ _)
    | succ n ih =>
      have hnext : Answered handle c r _ (handle d (.ofSent r)).2 _ := answered_short hsend hshort _
      rw [hrepeat] at hnext
      exact .again hnet hretried (ih (i + 1) hrepeat hnext)
  · exact .last hnet hretried

end Attempts

/-! ### Attempts that fail -/

namespace BoundedHttpClient

variable (c : BoundedHttpClient) (r : HttpRequest)

def resetByPeer : IoError := ⟨.connectionReset, "connection reset by peer"⟩

/-- The connection is refused. -/
def refused : Attempt :=
  { c.smooth r [] with
    connect := { (c.smooth r []).connect with connect := .error ⟨.connectionRefused, "connection refused"⟩ } }

/-- The connection breaks off behind the head. -/
def brokenOff : Attempt :=
  { c.smooth r [] with
    body := [⟨false, false, .ok (), .error resetByPeer⟩]
    flush := [⟨false, false, .ok (), .error resetByPeer⟩] }

/-- The request is taken, and the connection reset before the response. -/
def unanswered : Attempt := c.smooth r [readPass (.error resetByPeer)]

variable {c r}

private theorem sendRequest_refused : ∃ e, c.sendRequest r (c.refused r) = .err e ∧ e.kind ≠ .interrupted := by
  have hconnect : ∃ e, c.connectSocket (c.refused r).connect = .error e ∧ e.kind ≠ .interrupted := by
    unfold connectSocket refused smooth
    cases c.device <;> cases c.source <;> exact ⟨_, rfl, by simp [IoError.within]⟩
  obtain ⟨e, he, hkind⟩ := hconnect
  exact ⟨e, by rw [sendRequest, sendHead, he]; rfl, hkind⟩

private theorem sendRequest_brokenOff : ∃ e, c.sendRequest r (c.brokenOff r) = .err e ∧ e.kind ≠ .interrupted := by
  have hhead : c.sendHead r (c.brokenOff r) = .ok () := c.sendHead_smooth r []
  have hflush : flushInterruptible c.cancel (c.brokenOff r).flush = .err resetByPeer := by
    rw [brokenOff, flushInterruptible, ready_smooth]
    rfl
  rw [sendRequest, hhead, Io.ok_bind, hflush]
  rcases r.body with _ | ⟨contentType, _ | ⟨b, bytes⟩⟩
  · exact ⟨_, rfl, by decide⟩
  · exact ⟨_, rfl, by decide⟩
  · have hwrite : (writeAllInterruptible c.cancel (c.brokenOff r).body (b :: bytes)).1 = .err resetByPeer := by
      rw [brokenOff, writeAllInterruptible, ready_smooth]
      rfl
    simp only [hwrite]
    exact ⟨_, rfl, by decide⟩

private theorem requestOnce_unanswered (hflag : c.successOnResetAfterWrite = false) :
    ∃ e, c.requestOnce r (c.unanswered r) = .err e ∧ e.kind ≠ .interrupted := by
  have hreset : c.readLoop [readPass (.error resetByPeer)] [] = .err (resetByPeer.within "read") := by
    rw [c.readLoop_reads (quiet_readPass ..) (Nat.zero_le _) httpMessageComplete_nil]
    show (if (false && c.cancel && _) = true then _ else c.closed [] (some resetByPeer)) = _
    rw [closed_open httpMessageComplete_nil, hflag]
    rfl
  rw [requestOnce, unanswered, sendRequest_smooth, Io.ok_bind, smooth, hreset]
  exact ⟨_, rfl, by decide⟩

/-- A request that is not sent is not answered. -/
theorem requestOnce_of_unsent {a : Attempt} {e : IoError} (h : c.sendRequest r a = .err e) : c.requestOnce r a = .err e := by
  rw [requestOnce, h]
  rfl

end BoundedHttpClient

section FourthTry

variable {σ : Type} {handle : σ → FakeRequest → FakeResponse × σ} {c : BoundedHttpClient} {r : HttpRequest} {d : σ}
  {I : σ → Prop}

private theorem contact_refused (d : σ) : Contact handle c r (c.refused r) d d := by
  obtain ⟨e, he, -⟩ := BoundedHttpClient.sendRequest_refused (c := c) (r := r)
  have harrives : Arrives c r (c.refused r) [] [] := by
    refine ⟨?_, List.nil_prefix, ?_, ?_⟩
    · exact fun piece h => absurd h List.not_mem_nil
    · exact fun _ _ _ h => nomatch h
    · exact fun _ ⟨_, h⟩ => nomatch h
  refine .intro harrives rfl fun hsent => ?_
  rw [he] at hsent
  cases hsent

/-- Behind the head the server gets the end of the stream. -/
theorem exists_contact_brokenOff (hshort : (c.requestBytes r).length ≤ 512) (d : σ) :
    ∃ d', Contact handle c r (c.brokenOff r) d d' := by
  obtain ⟨e, he, -⟩ := BoundedHttpClient.sendRequest_brokenOff (c := c) (r := r)
  have hunsent : c.sendRequest r (c.brokenOff r) ≠ .ok () := by
    rw [he]
    exact nofun
  have harrives : Arrives c r (c.brokenOff r) [utf8Bytes (c.requestHead r)] [.ok []] := by
    refine ⟨List.forall_mem_singleton.2 (isRead_short hshort).1, ?_, ?_, fun _ _ => hunsent⟩
    · rw [List.flatten_singleton]
      exact List.prefix_append ..
    · rintro - data later ⟨⟩
      rfl
  exact ⟨_, .intro harrives (Prod.eta _).symm fun hsent => absurd hsent hunsent⟩

private theorem contact_unanswered (hsend : c.Sendable r) (hshort : (c.requestBytes r).length ≤ 512) (d : σ) :
    Contact handle c r (c.unanswered r) d (handle d (.ofSent r)).2 := by
  have hflatten : [c.requestBytes r].flatten = c.requestBytes r := List.flatten_singleton ..
  have harrives : Arrives c r (c.unanswered r) [c.requestBytes r] [] :=
    ⟨List.forall_mem_singleton.2 (isRead_short hshort).2, by rw [hflatten], fun h => absurd hflatten h,
      fun h => absurd hflatten h⟩
  exact .intro harrives (handleConnection_short hsend hshort d) fun _ => .fails rfl nofun

/-- The first connection of a request is refused, the second breaks off behind the head, and the third is reset before the
response. -/
structure FourthTry (c : BoundedHttpClient) (r : HttpRequest) (net : Nat → Attempt) : Prop where
  refused : net 0 = c.refused r
  brokenOff : net 1 = c.brokenOff r
  unanswered : net 2 = c.unanswered r

/-- A short request that is answered on the fourth attempt, to a device to which the failed ones make no difference. -/
theorem exists_fourthTry (hsteady : Steady handle c r I) (hI : I d) (hflag : c.successOnResetAfterWrite = false)
    (hretries : c.retries = 3) (hshort : (c.requestBytes r).length ≤ 512)
    (hsize : (handle d (.ofSent r)).1.written.length ≤ c.maxBody) {body : List UInt8}
    (hresult : (handle d (.ofSent r)).1.resultFor c = .ok body) :
    ∃ net, FourthTry c r net ∧ Attempts c r net (Contact handle c r) (c.retries + 1) 0 d (handle d (.ofSent r)).2 ∧
      (c.request r net).1 = .ok body := by
  let net : Nat → Attempt
    | 0 => c.refused r
    | 1 => c.brokenOff r
    | 2 => c.unanswered r
    | _ => c.answered r (handle d (.ofSent r)).1.written
  obtain ⟨e₀, hrefused, hkind₀⟩ := BoundedHttpClient.sendRequest_refused (c := c) (r := r)
  obtain ⟨e₁, hbroken, hkind₁⟩ := BoundedHttpClient.sendRequest_brokenOff (c := c) (r := r)
  obtain ⟨e₂, hunanswered, hkind₂⟩ := BoundedHttpClient.requestOnce_unanswered (r := r) hflag
  have honce₀ : c.requestOnce r (net 0) = .err e₀ := BoundedHttpClient.requestOnce_of_unsent hrefused
  have honce₁ : c.requestOnce r (net 1) = .err e₁ := BoundedHttpClient.requestOnce_of_unsent hbroken
  have honce₂ : c.requestOnce r (net 2) = .err e₂ := hunanswered
  -- the device after each of the connections answers the request as before
  have hfirst : Contact handle c r (net 0) d d := contact_refused d
  obtain ⟨d₁, hsecond⟩ : ∃ d₁, Contact handle c r (net 1) d d₁ := exists_contact_brokenOff hshort d
  obtain ⟨hI₁, hd₁⟩ := hsecond.keeps hsteady hI
  have hthird : Contact handle c r (net 2) d₁ (handle d (.ofSent r)).2 := hd₁ ▸ contact_unanswered hsteady.sendable hshort d₁
  have hlast : Answered handle c r (net 3) (handle d (.ofSent r)).2 (handle d (.ofSent r)).2 := by
    have hagain : Answered handle c r _ (handle d (.ofSent r)).2 _ := answered_short hsteady.sendable hshort _
    rwa [hsteady.repeatable d hI] at hagain
  have honce₃ : c.requestOnce r (net 3) = .ok body := by
    have hwrite := hsteady.writable _ (hsteady.keeps d hI)
    rw [(hlast.once hsteady.sendable hwrite).2, hsteady.repeatable d hI, if_neg (Nat.not_lt.2 hsize), hresult]
    rfl
  have hdone : ¬ c.Retried r (net 3) := by
    rintro ⟨e, he, -⟩
    exact nomatch honce₃.symm.trans he
  refine ⟨net, ⟨rfl, rfl, rfl⟩, ?_, ?_⟩
  · rw [hretries]
    exact .again hfirst ⟨e₀, honce₀, hkind₀⟩ (.again hsecond ⟨e₁, honce₁, hkind₁⟩
      (.again hthird ⟨e₂, honce₂, hkind₂⟩ (.last hlast.contact hdone)))
  · have htry₀ (last : IoError) : (c.requestFrom r net 4 0 last).1 = (c.requestFrom r net 3 1 e₀).1 := by
      rw [c.requestFrom_retried (n := 3) honce₀ hkind₀]
    have htry₁ : (c.requestFrom r net 3 1 e₀).1 = (c.requestFrom r net 2 2 e₁).1 := by
      rw [c.requestFrom_retried (n := 2) honce₁ hkind₁]
    have htry₂ : (c.requestFrom r net 2 2 e₁).1 = (c.requestFrom r net 1 3 e₂).1 := by
      rw [c.requestFrom_retried (n := 1) honce₂ hkind₂]
    have htry₃ : (c.requestFrom r net 1 3 e₂).1 = .ok body := by
      rw [c.requestFrom_last (n := 0) hdone, honce₃]
    rw [BoundedHttpClient.request, if_pos (by rw [hretries]; decide), hretries, htry₀, htry₁, htry₂, htry₃]

end FourthTry

end WirelessProgrammer
